import PropertyTesting.Config.Basic
import PropertyTesting.Json.Run
import PropertyTesting.Json.Writer
import PropertyTesting.Run.Executor

/-!
# Where events go

The places that events can be told to, and what they hold afterwards. A file gets one line for each
event, at its end: the compact JSON form of the event.
-/

namespace PropertyTesting

/-- The line of a log file for an event. -/
def TimedEvent.line (t : TimedEvent) : String :=
  t.toJson.compact ++ "\n"

/-- The content of a log file after an event. -/
def appendEvent (content : ByteArray) (t : TimedEvent) : ByteArray :=
  content ++ t.line.toUTF8

/-- What the places for events hold. -/
structure Outlets where
  /-- The time, in milliseconds. -/
  clock : Nat
  /-- The events kept in memory. -/
  kept : List RunEvent
  /-- The lines written for the user to see. -/
  shown : List String
  storage : Storage

/-- A place for events. -/
inductive EventTarget where
  | nowhere
  | memory
  | user
  /-- The file at a place of the storage. -/
  | file (place : List FileName)
  deriving DecidableEq, Repr

/-- The sink that tells events to a place. -/
def EventTarget.sink : EventTarget → RunSink Outlets
  | nowhere => .silent
  | memory => ⟨fun event outlets => { outlets with kept := outlets.kept ++ [event] }⟩
  | user => ⟨fun event outlets =>
      { outlets with shown := outlets.shown ++ [TimedEvent.line ⟨outlets.clock, event⟩] }⟩
  | file place => ⟨fun event outlets =>
      { outlets with
        storage := outlets.storage.append place (TimedEvent.line ⟨outlets.clock, event⟩).toUTF8 }⟩

/-! ## Opening -/

/-- How files are opened for writing at their end: the place that a path leads to, and the storage
after that; nothing for a path that cannot be opened. -/
abbrev FileOpening := Path → Option (List FileName × Storage)

namespace EventTarget

/-- Opens a file for events, in a way that may fail for any path. -/
def openFileBy (opening : FileOpening) (path : Path) : Except ConfigError (EventTarget × Storage) :=
  match opening path with
  | none => .error .io
  | some (place, storage) => .ok (.file place, storage)

/-- Opens a file for events. -/
def openFile (storage : Storage) (path : Path) : Except ConfigError (EventTarget × Storage) :=
  openFileBy storage.openToAppend? path

end EventTarget

namespace LogConfig

/-- Opens the place that a configuration sets for events, whether the configuration is valid or not.
Files are opened by `opening`. -/
def openSinkBy (opening : FileOpening) (c : LogConfig) (storage : Storage) :
    Except ConfigError (EventTarget × Storage) :=
  match c.sink, c.path with
  | .none, _ => .ok (.nowhere, storage)
  | .stderr, _ => .ok (.user, storage)
  | .file, some path => EventTarget.openFileBy opening path
  | .file, none => .error (.invalid .missingPath)

/-- Opens the place that a configuration sets for events in a storage. -/
def openSink (c : LogConfig) (storage : Storage) : Except ConfigError (EventTarget × Storage) :=
  c.openSinkBy storage.openToAppend? storage

end LogConfig

namespace Executor

variable {σ I : Type}

/-- An executor that follows a configuration, with the storage after its sink was opened. Files are
opened by `opening`. -/
def ofConfigBy (opening : FileOpening) (test : Test σ I) (c : HarnessConfig) (storage : Storage) :
    Except ConfigError (Executor σ I Outlets × Storage) :=
  match c.log.openSinkBy opening storage with
  | .error error => .error error
  | .ok (target, storage) =>
    .ok (⟨test, c.run.samplesOverride.getD test.samples, target.sink⟩, storage)

/-- An executor that follows a configuration in a storage. -/
def ofConfig (test : Test σ I) (c : HarnessConfig) (storage : Storage) :
    Except ConfigError (Executor σ I Outlets × Storage) :=
  ofConfigBy storage.openToAppend? test c storage

end Executor

end PropertyTesting
