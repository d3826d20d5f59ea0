import PropertyTesting.Config.Toml
import PropertyTesting.Proofs.Text.Utf8
import PropertyTesting.Run.Sink

/-!
# Valid configurations

A configuration passes validation if and only if it is valid (`HarnessConfig.Valid`), and one that
does not is refused for the first rule that it breaks (`HarnessConfig.Breaks`). Each part of a
configuration has its own rules, and its check decides them (`Checks`): paths, then runs, then logs,
then the whole.

A valid configuration can be followed (`HarnessConfig.Followable`): opening its place for events and
making an executor from it can fail only where a file cannot be opened, whatever the ways in which
files fail to open. Validation and opening go through the same combinations of places and paths,
each on its own; the one that opening refuses is not valid. So whatever a text spells, once it is
accepted it can be followed (`accepted_can_be_followed`).
-/

namespace PropertyTesting

/-- The outcome of a check: what is valid is accepted, and what is not is refused for a rule that it
breaks. -/
inductive Checks (valid : Prop) (breaks : ConfigFault → Prop) : Except ConfigError Unit → Prop
  | accepts : valid → Checks valid breaks (.ok ())
  | rejects {fault : ConfigFault} :
      ¬ valid → breaks fault → Checks valid breaks (.error (.invalid fault))

namespace Checks

variable {valid : Prop} {breaks : ConfigFault → Prop} {outcome : Except ConfigError Unit}

theorem eq_ok_iff (checks : Checks valid breaks outcome) : outcome = .ok () ↔ valid := by
  cases checks with
  | accepts holds => simp [holds]
  | rejects fails broken => simp [fails]

theorem eq_error (checks : Checks valid breaks outcome) (invalid : ¬ valid) :
    ∃ fault, outcome = .error (.invalid fault) ∧ breaks fault := by
  cases checks with
  | accepts holds => exact absurd holds invalid
  | rejects _ broken => exact ⟨_, rfl, broken⟩

end Checks

/-! ## Paths -/

namespace Path

/-- A path whose text has something other than white space, and at most 4096 bytes in UTF-8. -/
structure Valid (p : Path) : Prop where
  full : Text.trimmed p.text ≠ []
  short : p.text.utf8ByteSize ≤ 4096

/-- The first rule for paths that a path breaks. -/
inductive Breaks (p : Path) : ConfigFault → Prop
  | blank : Text.trimmed p.text = [] → Breaks p .blankPath
  | long : Text.trimmed p.text ≠ [] → 4096 < p.text.utf8ByteSize → Breaks p .longPath

theorem checks_validate (p : Path) : Checks p.Valid p.Breaks p.validate := by
  have limit : maxTotalPathLength = 4096 := rfl
  rw [validate, limit]
  split
  · next blank =>
    have empty := (Text.isBlank_iff_trim_eq_nil p.text).mp blank
    exact .rejects (fun valid => valid.full empty) (.blank empty)
  · next notBlank =>
    have full : Text.trimmed p.text ≠ [] := mt (Text.isBlank_iff_trim_eq_nil p.text).mpr notBlank
    split
    · next long => exact .rejects (fun valid => Nat.not_lt.mpr valid.short long) (.long full long)
    · next short => exact .accepts ⟨full, Nat.not_lt.mp short⟩

end Path

/-! ## Runs -/

namespace RunConfig

/-- At least one sample and at most a million, if their number is set. -/
def Valid (c : RunConfig) : Prop :=
  ∀ n, c.samplesOverride = some n → 1 ≤ n ∧ n ≤ 1000000

/-- The rule for runs that a configuration breaks. -/
inductive Breaks (c : RunConfig) : ConfigFault → Prop
  | zero : c.samplesOverride = some 0 → Breaks c .zeroSamples
  | many {n : Nat} : c.samplesOverride = some n → 1000000 < n → Breaks c .tooManySamples

theorem checks_validate (c : RunConfig) : Checks c.Valid c.Breaks c.validate := by
  have limit : maxSamples = 1000000 := rfl
  rw [validate, limit]
  split
  · next unset => exact .accepts fun n set => nomatch unset.symm.trans set
  · next n set =>
    split
    · next zero =>
      subst zero
      exact .rejects (fun valid => absurd (valid 0 set).1 (by decide)) (.zero set)
    · next positive =>
      split
      · next many =>
        exact .rejects (fun valid => Nat.not_lt.mpr (valid n set).2 many) (.many set many)
      · next few =>
        refine .accepts fun m set' => ?_
        obtain rfl := Option.some.inj (set.symm.trans set')
        omega

end RunConfig

/-! ## Logs -/

namespace LogConfig

/-- The events go to a file if and only if there is a path, which is valid. -/
structure Valid (c : LogConfig) : Prop where
  file_iff : c.sink = .file ↔ ∃ path, c.path = some path
  path : ∀ path, c.path = some path → path.Valid

/-- The rule for logs that a configuration breaks. -/
inductive Breaks (c : LogConfig) : ConfigFault → Prop
  | missing : c.sink = .file → c.path = none → Breaks c .missingPath
  | useless {path : Path} : c.sink ≠ .file → c.path = some path → Breaks c .uselessPath
  | path {path : Path} {fault : ConfigFault} :
      c.sink = .file → c.path = some path → path.Breaks fault → Breaks c fault

theorem checks_validate (c : LogConfig) : Checks c.Valid c.Breaks c.validate := by
  rw [validate]
  split
  · next file missing =>
    refine .rejects (fun valid => ?_) (.missing file missing)
    obtain ⟨path, set⟩ := valid.file_iff.mp file
    exact nomatch missing.symm.trans set
  · next path file set =>
    have checks := path.checks_validate
    generalize path.validate = outcome at checks
    cases checks with
    | accepts valid =>
      refine .accepts ⟨⟨fun _ => ⟨path, set⟩, fun _ => file⟩, fun other set' => ?_⟩
      obtain rfl := Option.some.inj (set.symm.trans set')
      exact valid
    | rejects invalid broken =>
      exact .rejects (fun valid => invalid (valid.path path set)) (.path file set broken)
  · next set notFile =>
    exact .rejects (fun valid => notFile (valid.file_iff.mpr ⟨_, set⟩)) (.useless notFile set)
  · next unset notFile =>
    have noPath : ∀ path, c.path ≠ some path := fun path set => nomatch unset.symm.trans set
    exact .accepts ⟨⟨fun file => absurd file notFile, fun ⟨path, set⟩ => absurd set (noPath path)⟩,
      fun path set => absurd set (noPath path)⟩

/-- The path, if there is one, is the bytes of a text. -/
def Textual (c : LogConfig) : Prop :=
  ∀ path, c.path = some path → path = .ofString path.text

/-- The place for events is opened, or it is a file that cannot be opened. -/
inductive Opens (c : LogConfig) (opening : FileOpening) :
    Except ConfigError (EventTarget × Storage) → Prop
  | opened {target : EventTarget} {storage : Storage} : Opens c opening (.ok (target, storage))
  | failed {path : Path} :
      c.sink = .file → c.path = some path → opening path = none → Opens c opening (.error .io)

theorem Valid.opens {c : LogConfig} (valid : c.Valid) (opening : FileOpening) (storage : Storage) :
    c.Opens opening (c.openSinkBy opening storage) := by
  rw [openSinkBy]
  split
  · exact .opened
  · exact .opened
  · next path file set =>
    rw [EventTarget.openFileBy]
    split
    · next unopened => exact .failed file set unopened
    · exact .opened
  · next file missing =>
    obtain ⟨path, set⟩ := valid.file_iff.mp file
    exact nomatch missing.symm.trans set

end LogConfig

/-! ## Configurations -/

namespace HarnessConfig

structure Valid (c : HarnessConfig) : Prop where
  run : c.run.Valid
  log : c.log.Valid

/-- The first rule that a configuration breaks; the rules for runs come before those for logs. -/
inductive Breaks (c : HarnessConfig) : ConfigFault → Prop
  | run {fault : ConfigFault} : c.run.Breaks fault → Breaks c fault
  | log {fault : ConfigFault} : c.run.Valid → c.log.Breaks fault → Breaks c fault

theorem checks_validate (c : HarnessConfig) : Checks c.Valid c.Breaks c.validate := by
  have run := c.run.checks_validate
  have log := c.log.checks_validate
  rw [validate]
  generalize c.run.validate = runOutcome at run
  generalize c.log.validate = logOutcome at log
  cases run with
  | rejects invalid broken => exact .rejects (fun valid => invalid valid.run) (.run broken)
  | accepts validRun =>
    cases log with
    | rejects invalid broken =>
      exact .rejects (fun valid => invalid valid.log) (.log validRun broken)
    | accepts validLog => exact .accepts ⟨validRun, validLog⟩

/-- An executor that runs a test as a configuration says is made, or there is a file that cannot be
opened. -/
inductive Makes {σ I : Type} (c : HarnessConfig) (opening : FileOpening) (test : Test σ I) :
    Except ConfigError (Executor σ I Outlets × Storage) → Prop
  | made {executor : Executor σ I Outlets} {storage : Storage} : executor.test = test →
      (∀ n, c.run.samplesOverride = some n → executor.samples = n) →
      (c.run.samplesOverride = none → executor.samples = test.samples) →
      Makes c opening test (.ok (executor, storage))
  | failed {path : Path} : c.log.sink = .file → c.log.path = some path → opening path = none →
      Makes c opening test (.error .io)

/-- Runs can be made as a configuration says, unless they need a file that cannot be opened. Files
may be opened in any way, of which that of a storage (`LogConfig.openSink`, `Executor.ofConfig`) is
one. -/
structure Followable (c : HarnessConfig) : Prop where
  opens : ∀ opening storage, c.log.Opens opening (c.log.openSinkBy opening storage)
  makes : ∀ {σ I : Type} (test : Test σ I) (opening : FileOpening) (storage : Storage),
    c.Makes opening test (Executor.ofConfigBy opening test c storage)

theorem Valid.followable {c : HarnessConfig} (valid : c.Valid) : c.Followable where
  opens := valid.log.opens
  makes test opening storage := by
    have opens := valid.log.opens opening storage
    rw [Executor.ofConfigBy]
    generalize c.log.openSinkBy opening storage = outcome at opens
    cases opens with
    | opened => exact .made rfl (fun n set => by simp [set]) (fun unset => by simp [unset])
    | failed file set unopened => exact .failed file set unopened

end HarnessConfig

/-! ## Texts -/

theorem Toml.readOr_eq_some_iff {α : Type} {read? : Toml → Option α} {otherwise a : α}
    {field : Option Toml} :
    readOr read? otherwise field = some a ↔
      field = none ∧ a = otherwise ∨ ∃ t, field = some t ∧ read? t = some a := by
  cases field <;> simp [readOr, eq_comm]

theorem Path.textual_of_ofToml? {t : Toml} {path : Path} (read : ofToml? t = some path) :
    path = .ofString path.text := by
  cases t with
  | string s =>
    obtain rfl := Option.some.inj read
    exact congrArg ofString (Text.decodeLossy_encode s).symm
  | _ => cases read

theorem LogConfig.textual_of_ofToml? {t : Toml} {c : LogConfig} (read : ofToml? t = some c) :
    c.Textual := by
  simp only [ofToml?, Option.bind_eq_bind, Option.bind_eq_some_iff] at read
  obtain ⟨fields, -, read⟩ := read
  split at read
  · simp only [Option.bind_eq_some_iff, Toml.readOr_eq_some_iff, Option.map_eq_some_iff] at read
    obtain ⟨sink, -, path?, read, made⟩ := read
    obtain rfl := Option.some.inj made
    rintro path rfl
    rcases read with ⟨-, missing⟩ | ⟨value, -, other, read, same⟩
    · cases missing
    · obtain rfl := Option.some.inj same
      exact Path.textual_of_ofToml? read
  · cases read

namespace HarnessConfig

theorem textual_of_decode? {text : String} {c : HarnessConfig} (spelled : decode? text = some c) :
    c.log.Textual := by
  simp only [decode?, ofTable?, Option.bind_eq_bind, Option.bind_eq_some_iff] at spelled
  obtain ⟨table, -, fields, -, read⟩ := spelled
  split at read
  · simp only [Option.bind_eq_some_iff, Toml.readOr_eq_some_iff] at read
    obtain ⟨run, -, log, read, made⟩ := read
    obtain rfl := Option.some.inj made
    rcases read with ⟨-, rfl⟩ | ⟨value, -, read⟩
    · exact fun path set => nomatch set
    · exact LogConfig.textual_of_ofToml? read
  · cases read

theorem ofText_eq_ok_iff {decoder : ConfigDecoder} {text : String} {c : HarnessConfig} :
    ofText decoder text = .ok c ↔ decoder text = some c ∧ c.Valid := by
  rw [ofText]
  cases decoder text with
  | none => simp
  | some d =>
    have checks := d.checks_validate
    simp only [Option.some.injEq]
    generalize d.validate = outcome at checks
    cases checks with
    | accepts valid =>
      constructor
      · rintro ⟨⟩
        exact ⟨rfl, valid⟩
      · rintro ⟨rfl, -⟩
        rfl
    | rejects invalid _ =>
      constructor
      · rintro ⟨⟩
      · rintro ⟨rfl, valid⟩
        exact absurd valid invalid

/-- Whatever configuration a text spells, in any language, once it is accepted it is valid and can
be followed; in TOML its path is a text. Validation accepts the valid configurations, all of which
can be followed, and refuses the others for a rule that they break. -/
theorem accepted_can_be_followed :
    (∀ decoder text c, ofText decoder text = .ok c →
      decoder text = some c ∧ c.Valid ∧ c.Followable) ∧
    (∀ text c, ofToml text = .ok c → c.Valid ∧ c.log.Textual ∧ c.Followable) ∧
    (∀ c : HarnessConfig, c.Valid → c.validate = .ok () ∧ c.Followable) ∧
    (∀ c : HarnessConfig, ¬ c.Valid →
      ∃ fault, c.validate = .error (.invalid fault) ∧ c.Breaks fault) := by
  refine ⟨fun decoder text c accepted => ?_, fun text c accepted => ?_, fun c valid => ?_,
    fun c invalid => ?_⟩
  · obtain ⟨spelled, valid⟩ := ofText_eq_ok_iff.mp accepted
    exact ⟨spelled, valid, valid.followable⟩
  · obtain ⟨spelled, valid⟩ := ofText_eq_ok_iff.mp accepted
    exact ⟨valid, textual_of_decode? spelled, valid.followable⟩
  · exact ⟨c.checks_validate.eq_ok_iff.mpr valid, valid.followable⟩
  · exact c.checks_validate.eq_error invalid

/-- The most samples that can be set, and a file for the events. -/
def exSpelled : String :=
  "log = \x7bsink = 'file', path = \"é\"\x7d\nrun.samples_override = 1_000_000"

/-- The configuration that the text spells. -/
def exLogging : HarnessConfig :=
  ⟨⟨some 1000000⟩, ⟨.file, some (.ofString "é")⟩⟩

/-- The same with a path that is an ideographic space. -/
def exBlank : HarnessConfig :=
  ⟨⟨some 1000000⟩, ⟨.file, some (.ofString "\u3000")⟩⟩

theorem accepted_can_be_followed_exLogging :
    ofToml exSpelled = .ok exLogging ∧
    (decode? exSpelled = some exLogging ∧ exLogging.Valid ∧ exLogging.Followable) ∧
    exLogging.log.Textual ∧ (exLogging.validate = .ok () ∧ exLogging.Followable) ∧
    ¬ exBlank.Valid ∧
    ∃ fault, exBlank.validate = .error (.invalid fault) ∧ exBlank.Breaks fault := by
  have spelled : decode? exSpelled = some exLogging := by decide +kernel
  have valid : exLogging.Valid := by
    refine ⟨fun n set => ?_, ⟨⟨fun _ => ⟨_, rfl⟩, fun _ => rfl⟩, fun path set => ?_⟩⟩
    · obtain rfl := Option.some.inj set
      decide
    · obtain rfl := Option.some.inj set
      exact ⟨by decide +kernel, by decide +kernel⟩
  have accepted : ofToml exSpelled = .ok exLogging := ofText_eq_ok_iff.mpr ⟨spelled, valid⟩
  have invalid : ¬ exBlank.Valid := by
    intro valid
    exact (valid.log.path _ rfl).full (by decide +kernel)
  obtain ⟨ofAny, ofTable, ofValid, ofInvalid⟩ := accepted_can_be_followed
  obtain ⟨-, textual, -⟩ := ofTable exSpelled exLogging accepted
  exact ⟨accepted, ofAny decode? exSpelled exLogging accepted, textual, ofValid exLogging valid,
    invalid, ofInvalid exBlank invalid⟩

end HarnessConfig

end PropertyTesting
