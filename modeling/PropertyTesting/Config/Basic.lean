import PropertyTesting.Storage
import PropertyTesting.Text.Blank
import PropertyTesting.Text.Layout
import PropertyTesting.Text.Quoted

/-!
# Configurations

What can be set for all runs: how many samples they draw, and where their events go. A valid
configuration sets the number of samples to at least one and at most `maxSamples`, and gives a path
for the events exactly when they go to a file.
-/

namespace PropertyTesting

/-- The places that the events of runs can go to. -/
inductive LogSinkKind where
  | none
  | stderr
  | file
  deriving DecidableEq, Repr

namespace LogSinkKind

/-- The name of a place for events. -/
def name : LogSinkKind → String
  | none => "none"
  | stderr => "stderr"
  | file => "file"

def ofName? : String → Option LogSinkKind
  | "none" => some none
  | "stderr" => some stderr
  | "file" => some file
  | _ => Option.none

end LogSinkKind

structure RunConfig where
  /-- The number of samples of every run, if it is not the one that the test says. -/
  samplesOverride : Option Nat
  deriving DecidableEq, Repr

structure LogConfig where
  sink : LogSinkKind
  /-- The file for the events. -/
  path : Option Path
  deriving DecidableEq, Repr

structure HarnessConfig where
  run : RunConfig
  log : LogConfig
  deriving DecidableEq, Repr

/-- What makes a configuration, or the place of one, invalid. -/
inductive ConfigFault where
  | zeroSamples
  | tooManySamples
  | missingPath
  | uselessPath
  | blankPath
  | longPath
  | largeFile
  | notUtf8
  deriving DecidableEq, Repr

/-- Why there is no configuration. -/
inductive ConfigError where
  /-- A file cannot be read or opened. -/
  | io
  /-- A text does not spell a configuration. -/
  | parse
  | invalid (fault : ConfigFault)
  deriving DecidableEq, Repr

/-- The name of the file that holds the configuration if no other is named. -/
def defaultConfigName : String := "prop-harness.toml"

/-- The environment variable that names the file of the configuration. -/
def configVariable : String := "PROP_HARNESS_CONFIG"

/-- The greatest number of bytes of the file of a configuration. -/
def maxConfigFileSize : Nat := 64 * 1024

/-- The greatest number of bytes of the text of a path. -/
def maxTotalPathLength : Nat := 4096

/-- The greatest number of samples that a configuration can set. -/
def maxSamples : Nat := 1000000

namespace ConfigFault

/-- What is wrong, in words. -/
def reason : ConfigFault → String
  | zeroSamples => "run.samples_override must be greater than zero"
  | tooManySamples => "run.samples_override must not exceed " ++ toString maxSamples
  | missingPath => "log.path is required for the file sink"
  | uselessPath => "log.path is only valid for the file sink"
  | blankPath => "config path must be non-empty"
  | longPath => "config path exceeds max length"
  | largeFile => "config file exceeds size limit"
  | notUtf8 => "config file must be utf-8"

def message (f : ConfigFault) : String :=
  "invalid config: " ++ f.reason

end ConfigFault

/-- Accepts a path whose text is neither blank nor too long. -/
def Path.validate (p : Path) : Except ConfigError Unit :=
  if Text.isBlank p.text then .error (.invalid .blankPath)
  else if maxTotalPathLength < p.text.utf8ByteSize then .error (.invalid .longPath)
  else .ok ()

/-- Accepts a number of samples that a run can have. -/
def RunConfig.validate (c : RunConfig) : Except ConfigError Unit :=
  match c.samplesOverride with
  | none => .ok ()
  | some n =>
    if n = 0 then .error (.invalid .zeroSamples)
    else if maxSamples < n then .error (.invalid .tooManySamples)
    else .ok ()

/-- Accepts a valid path for a file, and no path for any other place. -/
def LogConfig.validate (c : LogConfig) : Except ConfigError Unit :=
  match c.sink, c.path with
  | .file, none => .error (.invalid .missingPath)
  | .file, some path => path.validate
  | _, some _ => .error (.invalid .uselessPath)
  | _, none => .ok ()

namespace HarnessConfig

/-- The configuration that sets nothing. -/
def unset : HarnessConfig :=
  ⟨⟨none⟩, ⟨.none, none⟩⟩

/-- Accepts a configuration that runs can follow. -/
def validate (c : HarnessConfig) : Except ConfigError Unit :=
  match c.run.validate with
  | .error error => .error error
  | .ok _ => c.log.validate

end HarnessConfig

/-! ## Texts -/

/-- A language for configurations: the configuration that a text spells, valid or not, if it spells
one. -/
abbrev ConfigDecoder :=
  String → Option HarnessConfig

/-- The valid configuration that a text spells in some language. -/
def HarnessConfig.ofText (decoder : ConfigDecoder) (text : String) :
    Except ConfigError HarnessConfig :=
  match decoder text with
  | none => .error .parse
  | some c =>
    match c.validate with
    | .error error => .error error
    | .ok _ => .ok c

/-! ## Shown configurations -/

def LogSinkKind.render : LogSinkKind → String
  | .none => "None"
  | .stderr => "Stderr"
  | .file => "File"

open Text in
def RunConfig.render (c : RunConfig) : String :=
  record "RunConfig" [("samples_override", optional toString c.samplesOverride)]

open Text in
def LogConfig.render (c : LogConfig) : String :=
  record "LogConfig"
    [("sink", c.sink.render), ("path", optional (fun p => quote p.text) c.path)]

open Text in
def HarnessConfig.render (c : HarnessConfig) : String :=
  record "HarnessConfig" [("run", c.run.render), ("log", c.log.render)]

end PropertyTesting
