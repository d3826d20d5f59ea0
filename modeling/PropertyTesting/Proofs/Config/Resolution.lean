import Mathlib.Logic.ExistsUnique
import PropertyTesting.Config.Load
import PropertyTesting.Proofs.Text.Utf8

/-!
# Where the configuration comes from

One source decides on the configuration: the path that the caller names, else the path in the
environment, else the file with the usual name, else none at all (`ConfigSource.Decides`). What a
source yields is said by rules of its own (`ConfigSource.Yields`), which are those of the search
(`yields_named_iff`, `yields_standard_iff`), whatever the language in which configurations are
spelled.

So the search fails closed (`FailsClosed`): a path that is named is never passed over, whether it
can be used or not. There is one exception, which `find_fails_closed` states beside the rule: an
environment variable whose value is no text is passed over, and the next source decides
(`load_passes_over_variable`).
-/

namespace PropertyTesting

/-- Where a configuration can come from. -/
inductive ConfigSource where
  /-- The file at a path that the caller or the environment names. -/
  | named (path : Path)
  /-- The file with the usual name. -/
  | standard
  | nowhere

namespace ConfigSource

/-- The source that decides: the first that is there. -/
inductive Decides (files : FileView) : Option (List UInt8) → Option Path → ConfigSource → Prop
  | explicit {environment : Option (List UInt8)} {path : Path} :
      Decides files environment (some path) (named path)
  | environment {bytes : List UInt8} : Decides files (some bytes) none (named ⟨bytes⟩)
  | standard : files.isFile (.ofString "prop-harness.toml") = true →
    Decides files none none standard
  | nowhere : files.isFile (.ofString "prop-harness.toml") = false → Decides files none none nowhere

section Language

variable (decoder : ConfigDecoder) (files : FileView)

/-- What the content of a file spells. -/
inductive Spells (content : ByteArray) : Except ConfigError HarnessConfig → Prop
  | large : 65536 < content.size → Spells content (.error (.invalid .largeFile))
  | noText : content.size ≤ 65536 → (∀ text : String, content ≠ text.toUTF8) →
      Spells content (.error (.invalid .notUtf8))
  | text {text : String} : content.size ≤ 65536 → content = text.toUTF8 →
      Spells content (HarnessConfig.ofText decoder text)

/-- What the file at a path holds. -/
inductive Holds (path : Path) : Except ConfigError HarnessConfig → Prop
  | unreadable : files.read? path = none → Holds path (.error .io)
  | readable {content : ByteArray} {outcome : Except ConfigError HarnessConfig} :
      files.read? path = some content → Spells decoder content outcome → Holds path outcome

/-- What a source yields. A path that is named must not be blank, and have at most 4096 bytes. -/
inductive Yields : ConfigSource → Except ConfigError HarnessConfig → Prop
  | blank {path : Path} : Text.trimmed path.text = [] →
      Yields (named path) (.error (.invalid .blankPath))
  | long {path : Path} : Text.trimmed path.text ≠ [] → 4096 < path.text.utf8ByteSize →
      Yields (named path) (.error (.invalid .longPath))
  | named {path : Path} {outcome : Except ConfigError HarnessConfig} :
      Text.trimmed path.text ≠ [] → path.text.utf8ByteSize ≤ 4096 →
      Holds decoder files path outcome → Yields (named path) outcome
  | standard {outcome : Except ConfigError HarnessConfig} :
      Holds decoder files (.ofString "prop-harness.toml") outcome → Yields standard outcome
  | nowhere : Yields nowhere (.ok .unset)

/-- The configuration in the file at a path, if the path is valid. -/
def readNamed (path : Path) : Except ConfigError HarnessConfig :=
  match path.validate with
  | .error error => .error error
  | .ok _ => HarnessConfig.read decoder files path

end Language

variable {decoder : ConfigDecoder} {files : FileView} {path : Path}
variable {outcome : Except ConfigError HarnessConfig}

theorem spells_iff {content : ByteArray} :
    Spells decoder content outcome ↔ outcome = HarnessConfig.ofContent decoder content := by
  have limit : maxConfigFileSize = 65536 := rfl
  rw [HarnessConfig.ofContent, limit]
  constructor
  · rintro (large | ⟨small, noText⟩ | ⟨small, spelled⟩)
    · rw [if_pos large]
    · have unread : Text.decode? content.data.toList = none :=
        Text.decode?_eq_none_iff.mpr fun text same => noText text (Text.toUTF8_eq_iff.mpr same)
      rw [if_neg (Nat.not_lt.mpr small), unread]
    · rw [if_neg (Nat.not_lt.mpr small), Text.decode?_eq_some_iff.mpr
        (Text.toUTF8_eq_iff.mp spelled)]
  · rintro rfl
    split
    · next large => exact .large large
    · next small =>
      have small := Nat.not_lt.mp small
      split
      · next unread =>
        exact .noText small fun text same =>
          Text.decode?_eq_none_iff.mp unread text (Text.toUTF8_eq_iff.mp same)
      · next text read =>
        exact .text small (Text.toUTF8_eq_iff.mpr (Text.decode?_eq_some_iff.mp read))

theorem holds_iff :
    Holds decoder files path outcome ↔ outcome = HarnessConfig.read decoder files path := by
  rw [HarnessConfig.read]
  constructor
  · rintro (unreadable | ⟨readable, spelled⟩)
    · rw [unreadable]
    · rw [readable]
      exact spells_iff.mp spelled
  · rintro rfl
    split
    · next unreadable => exact .unreadable unreadable
    · next content readable => exact .readable readable (spells_iff.mpr rfl)

theorem yields_named_iff :
    Yields decoder files (.named path) outcome ↔ outcome = readNamed decoder files path := by
  have limit : maxTotalPathLength = 4096 := rfl
  rw [readNamed, Path.validate, limit]
  by_cases blank : Text.isBlank path.text = true
  · have empty := (Text.isBlank_iff_trim_eq_nil path.text).mp blank
    rw [if_pos blank]
    constructor
    · rintro (_ | ⟨full, _⟩ | ⟨full, _, _⟩)
      · rfl
      all_goals exact absurd empty full
    · rintro rfl
      exact .blank empty
  · have full : Text.trimmed path.text ≠ [] := mt (Text.isBlank_iff_trim_eq_nil path.text).mpr blank
    rw [if_neg blank]
    by_cases long : 4096 < path.text.utf8ByteSize
    · rw [if_pos long]
      constructor
      · rintro (empty | _ | ⟨_, short, _⟩)
        · exact absurd empty full
        · rfl
        · exact absurd long (Nat.not_lt.mpr short)
      · rintro rfl
        exact .long full long
    · rw [if_neg long]
      constructor
      · rintro (empty | ⟨_, long'⟩ | ⟨_, _, held⟩)
        · exact absurd empty full
        · exact absurd long' long
        · exact holds_iff.mp held
      · rintro rfl
        exact .named full (Nat.not_lt.mp long) (holds_iff.mpr rfl)

theorem yields_standard_iff :
    Yields decoder files .standard outcome ↔
      outcome = HarnessConfig.read decoder files (.ofString "prop-harness.toml") := by
  constructor
  · intro yields
    cases yields with
    | standard held => exact holds_iff.mp held
  · rintro rfl
    exact .standard (holds_iff.mpr rfl)

theorem yields_nowhere_iff : Yields decoder files .nowhere outcome ↔ outcome = .ok .unset := by
  constructor
  · rintro ⟨⟩
    rfl
  · rintro rfl
    exact .nowhere

theorem exists_decides (files : FileView) (environment : Option (List UInt8))
    (explicit : Option Path) : ∃! source, Decides files environment explicit source := by
  cases explicit with
  | some path => exact ⟨_, .explicit, fun other decides => by cases decides; rfl⟩
  | none =>
    cases environment with
    | some bytes => exact ⟨_, .environment, fun other decides => by cases decides; rfl⟩
    | none =>
      cases there : files.isFile (.ofString "prop-harness.toml") with
      | true =>
        refine ⟨_, .standard there, fun other decides => ?_⟩
        cases decides with
        | standard => rfl
        | nowhere missing => cases there.symm.trans missing
      | false =>
        refine ⟨_, .nowhere there, fun other decides => ?_⟩
        cases decides with
        | standard present => cases there.symm.trans present
        | nowhere => rfl

end ConfigSource

open ConfigSource

namespace HarnessConfig

/-! ## The search -/

/-- The environment variable is not set, or holds a text. -/
def Legible (environment : Option (List UInt8)) : Prop :=
  ∀ bytes, environment = some bytes → ∃ text, bytes = Text.encode text

/-- The search keeps to the source that decides. -/
structure FailsClosed (decoder : ConfigDecoder) (files : FileView)
    (environment : Option (List UInt8)) (explicit : Option Path) : Prop where
  one : ∃! source, Decides files environment explicit source
  /-- The outcome is what the source yields. -/
  outcome : ∀ source, Decides files environment explicit source →
    ∀ outcome, Yields decoder files source outcome ↔
      outcome = find decoder files environment explicit
  /-- No more than the content of the file at a path that is named matters: neither other files nor,
  if the caller names the path, the environment. -/
  alone : ∀ path, Decides files environment explicit (.named path) →
    ∀ files' environment', Decides files' environment' explicit (.named path) →
      files'.read? path = files.read? path →
        find decoder files' environment' explicit = find decoder files environment explicit
  /-- A configuration is what the file at a path that is named spells. -/
  used : ∀ path, Decides files environment explicit (.named path) →
    ∀ c, find decoder files environment explicit = .ok c →
      ∃ text : String, files.read? path = some text.toUTF8 ∧ ofText decoder text = .ok c

variable {decoder : ConfigDecoder} {files : FileView} {environment : Option (List UInt8)}
variable {explicit : Option Path} {path : Path}

theorem find_explicit (environment : Option (List UInt8)) (path : Path) :
    find decoder files environment (some path) = readNamed decoder files path := by
  rw [find, resolve, readNamed]
  cases path.validate <;> rfl

theorem find_environment (text : String) :
    find decoder files (some (Text.encode text)) none =
      readNamed decoder files (.ofString text) := by
  have read : Text.decode? (Text.encode text) = some text := Text.decode?_eq_some_iff.mpr rfl
  simp only [find, resolve, Option.bind_some, read, readNamed]
  cases (Path.ofString text).validate <;> rfl

theorem find_named (legible : explicit = none → Legible environment)
    (decides : Decides files environment explicit (.named path)) :
    find decoder files environment explicit = readNamed decoder files path := by
  cases decides with
  | explicit => exact find_explicit environment path
  | environment =>
    obtain ⟨text, rfl⟩ := legible rfl _ rfl
    exact find_environment text

theorem find_yields (legible : explicit = none → Legible environment) {source : ConfigSource}
    (decides : Decides files environment explicit source)
    (outcome : Except ConfigError HarnessConfig) :
    Yields decoder files source outcome ↔
      outcome = find decoder files environment explicit := by
  cases source with
  | named path => rw [yields_named_iff, find_named legible decides]
  | standard =>
    cases decides with
    | standard present =>
      simp [yields_standard_iff, find, resolve, defaultConfigName, present]
  | nowhere =>
    cases decides with
    | nowhere missing =>
      simp [yields_nowhere_iff, find, resolve, defaultConfigName, missing]

theorem readNamed_congr {files' : FileView} (same : files'.read? path = files.read? path) :
    readNamed decoder files' path = readNamed decoder files path := by
  rw [readNamed, readNamed, read, read, same]

theorem text_of_readNamed {c : HarnessConfig} (found : readNamed decoder files path = .ok c) :
    ∃ text : String, files.read? path = some text.toUTF8 ∧ ofText decoder text = .ok c := by
  obtain ⟨outcome, same⟩ : ∃ outcome, outcome = Except.ok c := ⟨_, rfl⟩
  have yields : Yields decoder files (.named path) outcome :=
    yields_named_iff.mpr (same.trans found.symm)
  cases yields with
  | blank => cases same
  | long => cases same
  | named _ _ held =>
    cases held with
    | unreadable => cases same
    | readable readable spelled =>
      cases spelled with
      | large => cases same
      | noText => cases same
      | text _ spelled =>
        subst spelled
        exact ⟨_, readable, same⟩

theorem find_of_not_legible (illegible : ¬ Legible environment) :
    find decoder files environment none = find decoder files none none := by
  cases environment with
  | none => rfl
  | some bytes =>
    have unread : Text.decode? bytes = none := by
      refine Text.decode?_eq_none_iff.mpr fun text same => illegible ?_
      rintro _ ⟨⟩
      exact ⟨text, same⟩
    rw [find, find, resolve, resolve, Option.bind_some, unread, Option.bind_none]

/-- The search for a configuration fails closed, except for an environment variable that is no text:
this counts as one that is not set. -/
theorem find_fails_closed (decoder : ConfigDecoder) (files : FileView)
    (environment : Option (List UInt8)) (explicit : Option Path) :
    ((explicit = none → Legible environment) →
      FailsClosed decoder files environment explicit) ∧
    (¬ Legible environment →
      find decoder files environment none = find decoder files none none) := by
  constructor
  · intro legible
    have one := exists_decides files environment explicit
    refine ⟨one, fun source => find_yields legible, ?_, ?_⟩
    · intro path decides files' environment' decides' same
      have legible' : explicit = none → Legible environment' := by
        rintro rfl
        cases decides
        cases decides'
        exact legible rfl
      rw [find_named legible decides, find_named legible' decides', readNamed_congr same]
    · intro path decides c found
      rw [find_named legible decides] at found
      exact text_of_readNamed found
  · exact find_of_not_legible

/-- Files that are there but cannot be read. -/
def exLocked : FileView :=
  ⟨fun _ => true, fun _ => none⟩

/-- Three bytes that no text has. -/
def exBroken : List UInt8 :=
  [0xFF, 0xFF, 0xFF]

theorem not_legible_exBroken : ¬ Legible (some exBroken) := by
  intro legible
  obtain ⟨text, same⟩ := legible exBroken rfl
  have unread : Text.decode? exBroken = none := by decide +kernel
  exact Text.decode?_eq_none_iff.mp unread text same

theorem find_fails_closed_exLocked :
    Legible (some (Text.encode "none.toml")) ∧
    FailsClosed decode? exLocked (some (Text.encode "none.toml")) none ∧
    ¬ Legible (some exBroken) ∧
    find decode? exLocked (some exBroken) none = find decode? exLocked none none := by
  have legible : Legible (some (Text.encode "none.toml")) := by
    rintro _ ⟨⟩
    exact ⟨"none.toml", rfl⟩
  exact ⟨legible, (find_fails_closed decode? exLocked _ none).1 fun _ => legible,
    not_legible_exBroken,
    (find_fails_closed decode? exLocked (some exBroken) none).2 not_legible_exBroken⟩

/-- The environment names a path that leads nowhere, and yet there is a configuration: the one that
sets nothing. -/
theorem load_passes_over_variable :
    Storage.empty.read? ⟨exBroken⟩ = none ∧ load Storage.empty (some exBroken) none = .ok unset ∧
    ¬ FailsClosed decode? Storage.empty.view (some exBroken) none := by
  have missing : Storage.empty.read? ⟨exBroken⟩ = none := by decide +kernel
  have found : load Storage.empty (some exBroken) none = .ok unset :=
    find_of_not_legible not_legible_exBroken
  refine ⟨missing, found, fun closed => ?_⟩
  obtain ⟨text, readable, -⟩ := closed.used ⟨exBroken⟩ .environment unset found
  cases missing.symm.trans readable

end HarnessConfig

end PropertyTesting
