import Mathlib.Data.List.Forall2
import PropertyTesting.Proofs.Json.Text
import PropertyTesting.Proofs.Storage.Append
import PropertyTesting.Proofs.Text.Lines
import PropertyTesting.Run.Sink

/-!
# What a log file holds

Sinks for a log file are opened one after another, and events are told to any of those that were
opened. The file keeps what it held, and after it come the lines of the events in the order in which
they were told (`log_file_holds_lines`), whichever sink took them. A line is read as an object of
what the event holds (`TimedEvent.ToldBy`), and as nothing else: no text in an event can end its
line or break into another field.

One more sink leaves the file as it is (`LogSession.Writes.openSink`), and each of the sinks adds an
event at its end (`LogSession.Writes.tell`); what a run of steps leaves there follows by induction.
-/

namespace PropertyTesting

open Json Text

/-! ## The line of an event -/

/-- The names that the fields of an event can have, in their order. -/
def TimedEvent.fieldNames : List String :=
  ["event", "timestamp_ms", "test", "samples", "sample_index", "property", "sample", "detail",
    "summary"]

/-- The fields of an object tell an event: each of them is there if and only if it is set, with the
value that it has there. -/
structure TimedEvent.ToldBy (t : TimedEvent) (fields : List (String × Json)) : Prop where
  event : field? "event" fields = some (.string t.event.event)
  timestamp : field? "timestamp_ms" fields = some (.integer t.timestamp)
  test : field? "test" fields = some (.string t.event.test)
  samples : field? "samples" fields = t.event.samples.map fun n => .integer n
  sampleIndex : field? "sample_index" fields = t.event.sampleIndex.map fun n => .integer n
  property : field? "property" fields = t.event.property.map .string
  sample : field? "sample" fields = t.event.sample.map .string
  detail : field? "detail" fields = t.event.detail.map .string
  summary : field? "summary" fields = t.event.summary.map fun s =>
    .object [("test", .string s.test), ("samples", .integer s.samples),
      ("checks_passed", .integer s.checksPassed), ("checks_skipped", .integer s.checksSkipped)]
  others : ∀ name ∈ fields.map Prod.fst, name ∈ fieldNames

/-- Bytes are a line that tells an event. -/
def TimedEvent.WrittenAs (t : TimedEvent) (line : List UInt8) : Prop :=
  newline ∉ line ∧ ∃ text fields, decode? line = some text ∧
    Json.read? text = some (.object fields) ∧ t.ToldBy fields

section Fields

variable {α : Type} {name other : String} {form : α → Json}

theorem field?_append (fields later : List (String × Json)) :
    field? name (fields ++ later) = (field? name fields).or (field? name later) := by
  induction fields with
  | nil => rfl
  | cons entry rest ih =>
    obtain ⟨key, value⟩ := entry
    by_cases same : key = name
    · simp [field?, same]
    · simp [field?, same, ih]

theorem field?_presentField_same (a? : Option α) :
    field? name (presentField name form a?) = a?.map form := by
  cases a? with
  | none => rfl
  | some a => simp [presentField, field?]

theorem field?_presentField_of_ne (distinct : other ≠ name) (a? : Option α) :
    field? name (presentField other form a?) = none := by
  cases a? with
  | none => rfl
  | some a => simp [presentField, field?, distinct]

theorem names_presentField (name : String) (form : α → Json) (a? : Option α) :
    ((presentField name form a?).map Prod.fst).Sublist [name] := by
  cases a? with
  | none => exact List.nil_sublist _
  | some a => exact List.Sublist.refl _

theorem plain_presentField (name : String) (plain : ∀ a, Plain (form a)) (a? : Option α) :
    ∀ field ∈ presentField name form a?, Plain field.2 := by
  cases a? with
  | none => simp [presentField]
  | some a => simpa [presentField] using plain a

end Fields

theorem plain_ofCount (n : Nat) : Plain (ofCount n) :=
  .integer n

theorem RunSummary.plain_toJson (s : RunSummary) : Plain s.toJson := by
  refine .object (by simp) fun field member => ?_
  simp only [List.mem_cons, List.not_mem_nil, or_false] at member
  rcases member with rfl | rfl | rfl | rfl
  · exact .string _
  all_goals exact plain_ofCount _

namespace TimedEvent

/-- The fields of the JSON form of an event. -/
def fields (t : TimedEvent) : List (String × Json) :=
  let e := t.event
  [("event", .string e.event), ("timestamp_ms", ofCount t.timestamp), ("test", .string e.test)]
    ++ presentField "samples" ofCount e.samples
    ++ presentField "sample_index" ofCount e.sampleIndex
    ++ presentField "property" .string e.property
    ++ presentField "sample" .string e.sample
    ++ presentField "detail" .string e.detail
    ++ presentField "summary" RunSummary.toJson e.summary

theorem names_sublist (t : TimedEvent) : (t.fields.map Prod.fst).Sublist fieldNames := by
  simp only [fields, List.map_append]
  exact List.Sublist.refl _
    |>.append (names_presentField _ _ _)
    |>.append (names_presentField _ _ _)
    |>.append (names_presentField _ _ _)
    |>.append (names_presentField _ _ _)
    |>.append (names_presentField _ _ _)
    |>.append (names_presentField _ _ _)

theorem plain_toJson (t : TimedEvent) : Plain t.toJson := by
  have always : ∀ field ∈ [("event", string t.event.event), ("timestamp_ms", ofCount t.timestamp),
      ("test", string t.event.test)], Plain field.2 :=
    List.forall_mem_cons.mpr ⟨.string _,
      List.forall_mem_cons.mpr ⟨plain_ofCount _, by simpa using Plain.string _⟩⟩
  have count (name : String) (n? : Option Nat) :
      ∀ field ∈ presentField name ofCount n?, Plain field.2 :=
    plain_presentField name plain_ofCount n?
  have text (name : String) (s? : Option String) :
      ∀ field ∈ presentField name .string s?, Plain field.2 :=
    plain_presentField name .string s?
  refine .object (t.names_sublist.nodup (by decide)) ?_
  simp only [List.forall_mem_append]
  exact ⟨⟨⟨⟨⟨⟨always, count _ _⟩, count _ _⟩, text _ _⟩, text _ _⟩, text _ _⟩,
    plain_presentField _ RunSummary.plain_toJson _⟩

theorem toldBy_fields (t : TimedEvent) : t.ToldBy t.fields := by
  constructor
  case others => exact fun name member => t.names_sublist.subset member
  all_goals simp [fields, field?_append, field?, field?_presentField_same,
    field?_presentField_of_ne]
  case timestamp | samples | sampleIndex | summary => rfl

/-- The bytes of the line of an event, without its newline. -/
def lineBytes (t : TimedEvent) : List UInt8 :=
  encode t.toJson.compact

theorem writtenAs_lineBytes (t : TimedEvent) : t.WrittenAs t.lineBytes := by
  refine ⟨fun broken => ?_, _, t.fields, decode?_eq_some_iff.mpr rfl, read?_compact t.plain_toJson,
    t.toldBy_fields⟩
  have member := newline_mem_encode broken
  rw [compact, String.toList_ofList] at member
  exact absurd (t.plain_toJson.printable '\n' member) (by decide)

theorem toList_appendEvent (content : ByteArray) (t : TimedEvent) :
    (appendEvent content t).data.toList = content.data.toList ++ (t.lineBytes ++ [newline]) := by
  have bytes : t.line.toUTF8.data.toList = encode t.line := toUTF8_eq_iff.mp rfl
  rw [appendEvent, ByteArray.toList_data_append, bytes, line, encode_append]
  rfl

/-- Events that are written one after another leave one line each, in their order. -/
theorem toList_foldl_appendEvent (events : List TimedEvent) (content : ByteArray) :
    (events.foldl appendEvent content).data.toList =
      content.data.toList ++ (events.map lineBytes).flatMap fun line => line ++ [newline] := by
  induction events generalizing content with
  | nil => simp
  | cons t events ih =>
    rw [List.foldl_cons, ih, toList_appendEvent, List.map_cons, List.flatMap_cons,
      List.append_assoc]

end TimedEvent

/-! ## Writing -/

/-- Something that is done with a log file. -/
inductive LogStep where
  /-- A sink for the file is opened. -/
  | openSink
  /-- One of the opened sinks, by the order in which they were opened, is told an event at a
  time. -/
  | tell (sink : Nat) (t : TimedEvent)

/-- The sinks that were opened, and what the places for events hold. -/
structure LogSession where
  sinks : List EventTarget
  outlets : Outlets

namespace LogStep

def event? : LogStep → Option TimedEvent
  | openSink => none
  | tell _ t => some t

/-- Does a step with the log file that a path leads to. Fails if the file cannot be opened, or if
there is no such sink. -/
def perform? (path : Path) (session : LogSession) : LogStep → Option LogSession
  | openSink =>
    match EventTarget.openFile session.outlets.storage path with
    | .error _ => none
    | .ok (target, storage) => some ⟨session.sinks ++ [target], { session.outlets with storage }⟩
  | tell sink t => do
    let target ← session.sinks[sink]?
    return { session with
      outlets := target.sink.record t.event { session.outlets with clock := t.timestamp } }

/-- The events that are told in a number of steps, in their order. -/
def events (steps : List LogStep) : List TimedEvent :=
  steps.filterMap event?

/-- After a number of sinks were opened, steps tell events to opened sinks only. -/
def ToOpened : Nat → List LogStep → Prop
  | _, [] => True
  | opened, openSink :: rest => ToOpened (opened + 1) rest
  | opened, tell sink _ :: rest => sink < opened ∧ ToOpened opened rest

variable {path : Path} {session : LogSession} {place : List FileName}

theorem perform?_openSink {storage : Storage}
    (opened : session.outlets.storage.openToAppend? path = some (place, storage)) :
    openSink.perform? path session =
      some ⟨session.sinks ++ [.file place], { session.outlets with storage }⟩ := by
  rw [perform?, EventTarget.openFile, EventTarget.openFileBy, opened]

theorem perform?_tell {sink : Nat} (opened : session.sinks[sink]? = some (.file place))
    (t : TimedEvent) :
    (tell sink t).perform? path session =
      some ⟨session.sinks, { session.outlets with
        clock := t.timestamp
        storage := session.outlets.storage.append place t.line.toUTF8 }⟩ := by
  rw [perform?, opened]
  rfl

theorem foldlM_cons {next later : LogSession} {step : LogStep} {rest : List LogStep}
    (performed : step.perform? path session = some next)
    (reached : rest.foldlM (perform? path) next = some later) :
    (step :: rest).foldlM (perform? path) session = some later := by
  rw [List.foldlM_cons, performed]
  exact reached

end LogStep

/-- The path leads to a file with a content, and all sinks that were opened write there. -/
structure LogSession.Writes (session : LogSession) (path : Path) (place : List FileName)
    (content : ByteArray) : Prop where
  file : session.outlets.storage.HasFile path place content
  sinks : ∀ target ∈ session.sinks, target = .file place

namespace LogSession.Writes

variable {session : LogSession} {path : Path} {place : List FileName} {content : ByteArray}
  {steps : List LogStep}

/-- The first sink that is opened makes the file if it is missing. -/
theorem first {outlets : Outlets} {storage : Storage}
    (opened : outlets.storage.openToAppend? path = some (place, storage)) :
    Writes ⟨[.file place], { outlets with storage }⟩ path place
      ((outlets.storage.read? path).getD ByteArray.empty) where
  file := Storage.hasFile_of_openToAppend? opened
  sinks := by simp

/-- One more sink writes to the same file, which stays as it was. -/
theorem openSink (writes : session.Writes path place content) :
    ∃ later, LogStep.openSink.perform? path session = some later ∧ later.Writes path place content ∧
      later.sinks.length = session.sinks.length + 1 := by
  refine ⟨_, LogStep.perform?_openSink writes.file.openToAppend?, ⟨writes.file, ?_⟩,
    List.length_append⟩
  exact List.forall_mem_append.mpr ⟨writes.sinks, by simp⟩

/-- Whichever sink is told an event, the event is added to the file. -/
theorem tell (writes : session.Writes path place content) {sink : Nat}
    (opened : sink < session.sinks.length) (t : TimedEvent) :
    ∃ later, (LogStep.tell sink t).perform? path session = some later ∧
      later.Writes path place (appendEvent content t) ∧ later.sinks = session.sinks := by
  have target : session.sinks[sink]? = some (.file place) := by
    rw [List.getElem?_eq_getElem opened, writes.sinks _ (List.getElem_mem opened)]
  exact ⟨_, LogStep.perform?_tell target t, ⟨writes.file.append t.line.toUTF8, writes.sinks⟩, rfl⟩

/-- Steps add the events that are told in them, one after another. -/
theorem run (writes : session.Writes path place content)
    (toOpened : LogStep.ToOpened session.sinks.length steps) :
    ∃ later, steps.foldlM (LogStep.perform? path) session = some later ∧
      later.Writes path place ((LogStep.events steps).foldl appendEvent content) := by
  induction steps generalizing session content with
  | nil => exact ⟨session, rfl, writes⟩
  | cons step rest ih =>
    cases step with
    | openSink =>
      obtain ⟨next, performed, writes, more⟩ := writes.openSink
      obtain ⟨later, reached, writes⟩ := ih writes (more ▸ toOpened)
      exact ⟨later, LogStep.foldlM_cons performed reached, writes⟩
    | tell sink t =>
      obtain ⟨next, performed, writes, same⟩ := writes.tell toOpened.1 t
      obtain ⟨later, reached, writes⟩ := ih writes (same ▸ toOpened.2)
      exact ⟨later, LogStep.foldlM_cons performed reached, writes⟩

end LogSession.Writes

/-- The bytes of the file that a path leads to; none if it is missing. -/
def Storage.bytesAt (s : Storage) (path : Path) : List UInt8 :=
  ((s.read? path).getD ByteArray.empty).data.toList

/-- What a file holds that is missing, empty or ends with a newline stays at its start, and each
event that is told to a sink for it adds one line, in the order of telling, that is read as the
event. -/
theorem log_file_holds_lines {path : Path} {outlets : Outlets} {steps : List LogStep}
    (opens : (outlets.storage.openToAppend? path).isSome)
    (ended : EndsLine (outlets.storage.bytesAt path)) (toOpened : LogStep.ToOpened 0 steps) :
    ∃ session lines, steps.foldlM (LogStep.perform? path) ⟨[], outlets⟩ = some session ∧
      session.outlets.storage.bytesAt path =
        outlets.storage.bytesAt path ++ lines.flatMap (fun line => line ++ [newline]) ∧
      splitLines (session.outlets.storage.bytesAt path) =
        splitLines (outlets.storage.bytesAt path) ++ lines ∧
      List.Forall₂ TimedEvent.WrittenAs (LogStep.events steps) lines := by
  obtain ⟨⟨place, storage⟩, opened⟩ := Option.isSome_iff_exists.mp opens
  obtain ⟨session, reached, content⟩ : ∃ session,
      steps.foldlM (LogStep.perform? path) ⟨[], outlets⟩ = some session ∧
      session.outlets.storage.bytesAt path = outlets.storage.bytesAt path ++
        ((LogStep.events steps).map TimedEvent.lineBytes).flatMap
          fun line => line ++ [newline] := by
    match steps, toOpened with
    | [], _ => exact ⟨_, rfl, (List.append_nil _).symm⟩
    | .openSink :: rest, toOpened =>
      obtain ⟨session, reached, writes⟩ := (LogSession.Writes.first opened).run toOpened
      refine ⟨session, LogStep.foldlM_cons (LogStep.perform?_openSink opened) reached, ?_⟩
      rw [Storage.bytesAt, writes.file.read?, Option.getD_some, TimedEvent.toList_foldl_appendEvent]
      rfl
  have single : ∀ line ∈ (LogStep.events steps).map TimedEvent.lineBytes, newline ∉ line :=
    List.forall_mem_map.mpr fun t _ => t.writtenAs_lineBytes.1
  refine ⟨session, _, reached, content, ?_, ?_⟩
  · rw [content, splitLines_append ended, splitLines_lines single]
  · exact List.forall₂_map_right_iff.mpr (List.forall₂_same.mpr fun t _ => t.writtenAs_lineBytes)

/-- The path `log`. -/
def exLogPath : Path :=
  ⟨[0x6C, 0x6F, 0x67]⟩

/-- A log file that holds one line. -/
def exLogged : Outlets :=
  ⟨0, [], [], Storage.empty.put [exLogPath.bytes] (.file ⟨#[0x7B, 0x7D, newline]⟩)⟩

/-- A run of a test whose name has a newline in it. -/
def exLogEvents : List TimedEvent :=
  [⟨7, .runStarted "quoted \"é\"\n" 1⟩, ⟨8, .propertySkipped "quoted \"é\"\n" "\tsmall" 0⟩,
    ⟨9, .runFinished ⟨"quoted \"é\"\n", 1, 0, 1⟩⟩]

/-- Two sinks take the events of a run in turn. -/
def exLogSteps : List LogStep :=
  .openSink :: .openSink :: exLogEvents.mapIdx fun i t => .tell (i % 2) t

theorem log_file_holds_lines_exLogged :
    (exLogged.storage.openToAppend? exLogPath).isSome ∧
      EndsLine (exLogged.storage.bytesAt exLogPath) ∧
      LogStep.ToOpened 0 exLogSteps ∧
    ∃ session lines, exLogSteps.foldlM (LogStep.perform? exLogPath) ⟨[], exLogged⟩ = some session ∧
      session.outlets.storage.bytesAt exLogPath =
        [0x7B, 0x7D, newline] ++ lines.flatMap (fun line => line ++ [newline]) ∧
      splitLines (session.outlets.storage.bytesAt exLogPath) = [[0x7B, 0x7D]] ++ lines ∧
      List.Forall₂ TimedEvent.WrittenAs exLogEvents lines := by
  have opens : (exLogged.storage.openToAppend? exLogPath).isSome := by decide
  have ended : EndsLine (exLogged.storage.bytesAt exLogPath) := by decide
  have toOpened : LogStep.ToOpened 0 exLogSteps := by
    simp [exLogSteps, exLogEvents, LogStep.ToOpened]
  exact ⟨opens, ended, toOpened, log_file_holds_lines opens ended toOpened⟩

end PropertyTesting
