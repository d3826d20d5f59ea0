import PropertyTesting.Json.Config
import PropertyTesting.Json.Run
import PropertyTesting.Proofs.Text.Utf8

/-!
# Reading JSON forms back

What is written in JSON is read back as what it was: shapes and diagnostics of any depth, summaries,
failures and configurations (`forms_round_trip`). So two shapes, or two diagnostics, that have one
form are equal.

The order in which the fields of an object stand is not part of a value. Forms are therefore read
back in every order of their fields (`Json.Reordered`): a reader looks for its fields by their
names, and each of them is found with a value that differs in the order of fields alone
(`SameFields.find`).
-/

namespace PropertyTesting

namespace Json

/-! ## The order of fields -/

/-- Two values are the same but for the order of the fields of their objects. -/
inductive Reordered : Json → Json → Prop
  | refl (value : Json) : Reordered value value
  | array {items items' : List Json} : items.length = items'.length →
      (∀ (i : Nat) (v v' : Json), items[i]? = some v → items'[i]? = some v' → Reordered v v') →
      Reordered (array items) (array items')
  | object {fields fields' : List (String × Json)} :
      (fields.map Prod.fst).Perm (fields'.map Prod.fst) →
      (∀ (name : String) (v v' : Json), field? name fields = some v →
        field? name fields' = some v' → Reordered v v') →
      Reordered (object fields) (object fields')

/-- Two lists of fields are the same but for their order and that within the fields. -/
structure SameFields (fields fields' : List (String × Json)) : Prop where
  names : (fields.map Prod.fst).Perm (fields'.map Prod.fst)
  find : ∀ (name : String) {value : Json}, field? name fields = some value →
    ∃ value', field? name fields' = some value' ∧ Reordered value value'

variable {fields fields' : List (String × Json)} {name : String} {value value' : Json}

theorem isSome_field?_iff : (field? name fields).isSome = true ↔ name ∈ fields.map Prod.fst := by
  induction fields with
  | nil => simp [field?]
  | cons entry rest ih =>
    obtain ⟨key, value⟩ := entry
    by_cases same : key = name
    · simp [field?, same]
    · simp [field?, same, Ne.symm same, ih]

/-- A field is found among fields that are read one by one as it is among the fields. -/
theorem lookup_map {β : Type} (read : Json → β) (name : String) (fields : List (String × Json)) :
    (fields.map fun field => (field.1, read field.2)).lookup name =
      (field? name fields).map read := by
  induction fields with
  | nil => rfl
  | cons entry rest ih =>
    obtain ⟨key, value⟩ := entry
    by_cases same : key = name
    · simp [field?, same]
    · have other : (name == key) = false := beq_false_of_ne (Ne.symm same)
      simp [field?, same, ih, List.lookup_cons, other]

theorem Reordered.object_left (same : Reordered (.object fields) value) :
    ∃ fields', value = .object fields' ∧ SameFields fields fields' := by
  cases same with
  | refl => exact ⟨fields, rfl, .refl _, fun _ _ found => ⟨_, found, .refl _⟩⟩
  | @object _ fields' names values =>
    refine ⟨fields', rfl, names, fun name value found => ?_⟩
    have present : name ∈ fields'.map Prod.fst :=
      names.mem_iff.mp (isSome_field?_iff.mp (Option.isSome_of_mem found))
    obtain ⟨value', found'⟩ := Option.isSome_iff_exists.mp (isSome_field?_iff.mpr present)
    exact ⟨value', found', values name value value' found found'⟩

/-- Values without parts. -/
def isAtom : Json → Bool
  | array _ => false
  | object _ => false
  | _ => true

theorem Reordered.eq_of_isAtom (same : Reordered value value') (atom : value.isAtom = true) :
    value' = value := by
  cases same with
  | refl => rfl
  | array => cases atom
  | object => cases atom

theorem count?_ofCount {n : Nat} (fits : n < UInt64.size) : (ofCount n).count? = some n := by
  have bounds : (0 : Int) ≤ n ∧ (n : Int) < UInt64.size :=
    ⟨Int.natCast_nonneg n, Int.ofNat_lt.mpr fits⟩
  rw [ofCount, count?, if_pos bounds, Int.toNat_natCast]

namespace SameFields

/-- A field without parts is found as it is. -/
theorem find_atom (same : SameFields fields fields') (name : String)
    (found : field? name fields = some value) (atom : value.isAtom = true) :
    field? name fields' = some value := by
  obtain ⟨value', found', reordered⟩ := same.find name found
  rw [found', reordered.eq_of_isAtom atom]

/-- An object with one field has no other order. -/
theorem of_singleton (same : SameFields [(name, value)] fields') :
    ∃ value', fields' = [(name, value')] ∧ Reordered value value' := by
  obtain ⟨value', found, reordered⟩ := same.find name (if_pos rfl)
  have names : fields'.map Prod.fst = [name] := (List.singleton_perm.mp same.names).symm
  obtain ⟨entry, rfl, named⟩ := List.map_eq_singleton_iff.mp names
  obtain ⟨key, content⟩ := entry
  obtain rfl : key = name := named
  obtain rfl : content = value' := by simpa [field?] using found
  exact ⟨content, rfl, reordered⟩

/-- A field that holds a count is found and read. -/
theorem find_count {n : Nat} (same : SameFields fields fields') (name : String)
    (found : field? name fields = some (ofCount n)) (fits : n < UInt64.size) :
    ∃ value', field? name fields' = some value' ∧ value'.count? = some n :=
  ⟨ofCount n, same.find_atom name found rfl, count?_ofCount fits⟩

/-- An optional value that is written without parts is found and read. -/
theorem find_optional {α : Type} {form : α → Json} {a? : Option α} (read? : Json → Option α)
    (same : SameFields fields fields') (name : String)
    (found : field? name fields = some (ofOption form a?))
    (content : ∀ a, a? = some a →
      (form a).isAtom = true ∧ isNull (form a) = false ∧ read? (form a) = some a) :
    ∃ value', field? name fields' = some value' ∧ optional? read? value' = some a? := by
  cases a? with
  | none => exact ⟨.null, same.find_atom name found rfl, rfl⟩
  | some a =>
    obtain ⟨atom, notNull, read⟩ := content a rfl
    refine ⟨form a, same.find_atom name found atom, ?_⟩
    rw [optional?, read]
    · rfl
    · intro null
      rw [null] at notNull
      cases notNull

end SameFields

end Json

open Json

/-! ## Names -/

@[simp]
theorem OrderOp.ofJson?_toJson (op : OrderOp) : ofJson? op.toJson = some op := by
  cases op <;> rfl

@[simp]
theorem OrderOp.ofInnerJson?_toJson (op : OrderOp) : ofInnerJson? op.toJson = some op := by
  cases op <;> rfl

@[simp]
theorem BooleanOp.ofInnerJson?_toJson (op : BooleanOp) : ofInnerJson? op.toJson = some op := by
  cases op <;> rfl

@[simp]
theorem LogSinkKind.ofJson?_toJson (kind : LogSinkKind) : ofJson? kind.toJson = some kind := by
  cases kind <;> rfl

namespace ComparisonShape

/-! ## Shapes -/

@[simp]
theorem Kind.ofJson?_leaf (isInner : Bool) (kind : LeafKind) :
    Kind.ofJson? isInner kind.toJson = some (.leaf kind) := by
  cases kind <;> rfl

@[simp]
theorem Kind.ofJson?_block (isInner : Bool) :
    Kind.ofJson? isInner (.string "block") = some .block :=
  rfl

theorem readFields_eq (fields : List (String × Json)) :
    readFields fields = fields.map fun field => (field.1, field.2, read? true field.2) := by
  induction fields with
  | nil => rfl
  | cons entry rest ih => rw [readFields, ih, List.map_cons]

@[simp]
theorem lookup_readFields (name : String) (fields : List (String × Json)) :
    (readFields fields).lookup name =
      (field? name fields).map fun value => (value, read? true value) := by
  rw [readFields_eq]
  exact lookup_map (fun value => (value, read? true value)) name fields

theorem read?_of_reordered (isInner : Bool) {shape : ComparisonShape} {form : Json}
    (reordered : Reordered shape.toJson form) : read? isInner form = some shape := by
  induction shape generalizing isInner form with
  | literalEquality expected checkEqual =>
    obtain ⟨fields, rfl, same⟩ := reordered.object_left
    have kind := same.find_atom "kind" rfl rfl
    have literal := same.find_atom "expected" rfl rfl
    have flag := same.find_atom "check_equal" rfl rfl
    simp [read?, kind, fieldNames, literal, flag, ofFields?, string?, boolean?]
  | functionEquality checkEqual =>
    obtain ⟨fields, rfl, same⟩ := reordered.object_left
    have kind := same.find_atom "kind" rfl rfl
    have flag := same.find_atom "check_equal" rfl rfl
    simp [read?, kind, fieldNames, flag, ofFields?, boolean?]
  | literalOrder expected op =>
    obtain ⟨fields, rfl, same⟩ := reordered.object_left
    have kind := same.find_atom "kind" rfl rfl
    have literal := same.find_atom "expected" rfl rfl
    have relation := same.find_atom "op" rfl rfl
    simp [read?, kind, fieldNames, literal, relation, ofFields?, string?]
  | functionOrder op =>
    obtain ⟨fields, rfl, same⟩ := reordered.object_left
    have kind := same.find_atom "kind" rfl rfl
    have relation := same.find_atom "op" rfl rfl
    simp [read?, kind, fieldNames, relation, ofFields?]
  | block op left right ihl ihr =>
    obtain ⟨fields, rfl, same⟩ := reordered.object_left
    have kind := same.find_atom "kind" rfl rfl
    have connective := same.find_atom "op" rfl rfl
    obtain ⟨formLeft, foundLeft, reorderedLeft⟩ := same.find "left" rfl
    obtain ⟨formRight, foundRight, reorderedRight⟩ := same.find "right" rfl
    simp [read?, kind, fieldNames, connective, foundLeft, foundRight, ofFields?,
      ihl true reorderedLeft, ihr true reorderedRight]

end ComparisonShape

namespace Diagnostic

/-! ## Diagnostics -/

theorem readFields_eq (fields : List (String × Json)) :
    readFields fields = fields.map fun field => (field.1, ofJson? field.2) := by
  induction fields with
  | nil => rfl
  | cons entry rest ih => rw [readFields, ih, List.map_cons]

@[simp]
theorem lookup_readFields (name : String) (fields : List (String × Json)) :
    (readFields fields).lookup name = (field? name fields).map ofJson? := by
  rw [readFields_eq]
  exact lookup_map ofJson? name fields

/-- A form is an object whose only field holds the fields of the diagnostic. -/
theorem object_of_tagged {tag : String} {fields : List (String × Json)} {form : Json}
    (reordered : Reordered (.object [(tag, .object fields)]) form) :
    ∃ fields', form = .object [(tag, .object fields')] ∧ SameFields fields fields' := by
  obtain ⟨_, rfl, outer⟩ := reordered.object_left
  obtain ⟨_, rfl, inner⟩ := outer.of_singleton
  obtain ⟨fields', rfl, same⟩ := inner.object_left
  exact ⟨fields', rfl, same⟩

theorem ofJson?_of_reordered {reason : Diagnostic} {form : Json}
    (reordered : Reordered reason.toJson form) : ofJson? form = some reason := by
  induction reason generalizing form with
  | equalityMismatch expected observed checkEqual =>
    obtain ⟨fields, rfl, same⟩ := object_of_tagged reordered
    have wanted := same.find_atom "expected" rfl rfl
    have seen := same.find_atom "observed" rfl rfl
    have flag := same.find_atom "check_equal" rfl rfl
    simp [ofJson?, wanted, seen, flag, string?, boolean?]
  | orderMismatch expected observed op =>
    obtain ⟨fields, rfl, same⟩ := object_of_tagged reordered
    have wanted := same.find_atom "expected" rfl rfl
    have seen := same.find_atom "observed" rfl rfl
    have relation := same.find_atom "op" rfl rfl
    simp [ofJson?, wanted, seen, relation, string?]
  | incomparable expected observed =>
    obtain ⟨fields, rfl, same⟩ := object_of_tagged reordered
    have wanted := same.find_atom "expected" rfl rfl
    have seen := same.find_atom "observed" rfl rfl
    simp [ofJson?, wanted, seen, string?]
  | allAlternativesFailed left right ihl ihr =>
    obtain ⟨fields, rfl, same⟩ := object_of_tagged reordered
    obtain ⟨formLeft, foundLeft, reorderedLeft⟩ := same.find "left" rfl
    obtain ⟨formRight, foundRight, reorderedRight⟩ := same.find "right" rfl
    simp [ofJson?, foundLeft, foundRight, ihl reorderedLeft, ihr reorderedRight]

end Diagnostic

/-! ## Summaries and failures -/

/-- The numbers of a summary are counts. -/
def RunSummary.Counted (s : RunSummary) : Prop :=
  s.samples < UInt64.size ∧ s.checksPassed < UInt64.size ∧ s.checksSkipped < UInt64.size

theorem RunSummary.ofJson?_of_reordered {s : RunSummary} (counted : s.Counted) {form : Json}
    (reordered : Reordered s.toJson form) : ofJson? form = some s := by
  obtain ⟨samplesFit, passedFit, skippedFit⟩ := counted
  obtain ⟨fields, rfl, same⟩ := reordered.object_left
  have test := same.find_atom "test" rfl rfl
  obtain ⟨_, samples, readSamples⟩ := same.find_count "samples" rfl samplesFit
  obtain ⟨_, passed, readPassed⟩ := same.find_count "checks_passed" rfl passedFit
  obtain ⟨_, skipped, readSkipped⟩ := same.find_count "checks_skipped" rfl skippedFit
  simp [ofJson?, recordFields?, test, samples, passed, skipped, string?, readSamples, readPassed,
    readSkipped]

theorem PropertyFailure.ofJson?_of_reordered {f : PropertyFailure}
    (fits : f.sampleIndex < UInt64.size) {form : Json} (reordered : Reordered f.toJson form) :
    ofJson? form = some f := by
  obtain ⟨fields, rfl, same⟩ := reordered.object_left
  have test := same.find_atom "test" rfl rfl
  have property := same.find_atom "property" rfl rfl
  obtain ⟨_, index, readIndex⟩ := same.find_count "sample_index" rfl fits
  have sample := same.find_atom "sample" rfl rfl
  obtain ⟨form, found, reordered⟩ := same.find "diagnostic" rfl
  simp [ofJson?, recordFields?, test, property, index, sample, found, string?, readIndex,
    Diagnostic.ofJson?_of_reordered reordered]

/-! ## Configurations -/

theorem Json.strictFields?_object {names : List String} {fields : List (String × Json)}
    (known : names.Perm (fields.map Prod.fst)) :
    strictFields? names (.object fields) = some (names.map fun name => field? name fields) := by
  refine if_pos (List.all_eq_true.mpr fun field member => ?_)
  rw [List.contains_iff_mem]
  exact known.mem_iff.mpr (List.mem_map_of_mem member)

theorem RunConfig.ofJson?_of_reordered {c : RunConfig}
    (counted : ∀ n, c.samplesOverride = some n → n < UInt64.size) {form : Json}
    (reordered : Reordered c.toJson form) : ofJson? form = some c := by
  obtain ⟨fields, rfl, same⟩ := reordered.object_left
  have known := strictFields?_object same.names
  obtain ⟨_, samples, readSamples⟩ := same.find_optional count? "samples_override" rfl
    fun n set => ⟨rfl, rfl, count?_ofCount (counted n set)⟩
  simp only [List.map_cons, List.map_nil, samples] at known
  simp [ofJson?, known, readOr, readSamples]

@[simp]
theorem Path.text_ofString (text : String) : (Path.ofString text).text = text :=
  Text.decodeLossy_encode text

theorem Path.ofJson?_toJson (text : String) :
    ofJson? (Path.ofString text).toJson = some (Path.ofString text) := by
  rw [toJson, text_ofString]
  rfl

theorem LogConfig.ofJson?_of_reordered {c : LogConfig}
    (valid : ∀ p, c.path = some p → ∃ text, p = Path.ofString text) {form : Json}
    (reordered : Reordered c.toJson form) : ofJson? form = some c := by
  obtain ⟨fields, rfl, same⟩ := reordered.object_left
  have known := strictFields?_object same.names
  have sink := same.find_atom "sink" rfl rfl
  obtain ⟨_, path, readPath⟩ := same.find_optional Path.ofJson? "path" rfl fun p set => by
      obtain ⟨text, rfl⟩ := valid p set
      exact ⟨rfl, rfl, Path.ofJson?_toJson text⟩
  simp only [List.map_cons, List.map_nil, sink, path] at known
  simp [ofJson?, known, readOr, readPath]

/-- A configuration as it can be written: its number of samples is a count, and its path is a
text. -/
structure HarnessConfig.Writable (c : HarnessConfig) : Prop where
  samples : ∀ n, c.run.samplesOverride = some n → n < UInt64.size
  path : ∀ p, c.log.path = some p → ∃ text, p = Path.ofString text

theorem HarnessConfig.ofJson?_of_reordered {c : HarnessConfig} (writable : c.Writable) {form : Json}
    (reordered : Reordered c.toJson form) : ofJson? form = some c := by
  obtain ⟨fields, rfl, same⟩ := reordered.object_left
  have known := strictFields?_object same.names
  obtain ⟨_, foundRun, reorderedRun⟩ := same.find "run" rfl
  obtain ⟨_, foundLog, reorderedLog⟩ := same.find "log" rfl
  simp only [List.map_cons, List.map_nil, foundRun, foundLog] at known
  simp [ofJson?, known, readOr, RunConfig.ofJson?_of_reordered writable.samples reorderedRun,
    LogConfig.ofJson?_of_reordered writable.path reorderedLog]

/-! ## All forms -/

/-- Everything written is read back, in every order of the fields of its form. Two shapes, or two
diagnostics, with one form are therefore equal. -/
theorem forms_round_trip :
    (∀ (shape : ComparisonShape) (form : Json), Reordered shape.toJson form →
      ComparisonShape.ofJson? form = some shape) ∧
    (∀ (reason : Diagnostic) (form : Json), Reordered reason.toJson form →
      Diagnostic.ofJson? form = some reason) ∧
    (∀ s : RunSummary, s.Counted → ∀ form, Reordered s.toJson form →
      RunSummary.ofJson? form = some s) ∧
    (∀ f : PropertyFailure, f.sampleIndex < UInt64.size → ∀ form, Reordered f.toJson form →
      PropertyFailure.ofJson? form = some f) ∧
    (∀ c : HarnessConfig, c.Writable → ∀ form, Reordered c.toJson form →
      HarnessConfig.ofJson? form = some c) ∧
    (∀ (shape shape' : ComparisonShape) (form : Json), Reordered shape.toJson form →
      Reordered shape'.toJson form → shape = shape') ∧
    (∀ (reason reason' : Diagnostic) (form : Json), Reordered reason.toJson form →
      Reordered reason'.toJson form → reason = reason') := by
  refine ⟨fun _ _ => ComparisonShape.read?_of_reordered false,
    fun _ _ => Diagnostic.ofJson?_of_reordered,
    fun _ counted _ => RunSummary.ofJson?_of_reordered counted,
    fun _ fits _ => PropertyFailure.ofJson?_of_reordered fits,
    fun _ writable _ => HarnessConfig.ofJson?_of_reordered writable, ?shapes, ?diagnostics⟩
  case shapes =>
    intro shape shape' form left right
    exact Option.some.inj ((ComparisonShape.read?_of_reordered false left).symm.trans
      (ComparisonShape.read?_of_reordered false right))
  case diagnostics =>
    intro reason reason' form left right
    exact Option.some.inj ((Diagnostic.ofJson?_of_reordered left).symm.trans
      (Diagnostic.ofJson?_of_reordered right))

/-- An alternative read with its fields the other way round, a failure at the greatest index, and a
configuration whose path is no plain name. -/
theorem forms_round_trip_exReversed :
    ComparisonShape.ofJson? (.object [("right", (ComparisonShape.literalOrder "null" .less).toJson),
      ("left", (ComparisonShape.literalOrder "null" .greater).toJson), ("op", BooleanOp.or.toJson),
      ("kind", .string "block")]) =
        some (.block .or (.literalOrder "null" .greater) (.literalOrder "null" .less)) ∧
    Diagnostic.ofJson?
        (Diagnostic.allAlternativesFailed (.incomparable "" "\"") (.incomparable "\"" "")).toJson =
      some (.allAlternativesFailed (.incomparable "" "\"") (.incomparable "\"" "")) ∧
    RunSummary.ofJson? (RunSummary.toJson ⟨"t", 0, UInt64.size - 1, 7⟩) =
      some ⟨"t", 0, UInt64.size - 1, 7⟩ ∧
    PropertyFailure.ofJson?
        (PropertyFailure.toJson ⟨"t", "p", UInt64.size - 1, "s", .orderMismatch "1" "2" .less⟩) =
      some ⟨"t", "p", UInt64.size - 1, "s", .orderMismatch "1" "2" .less⟩ ∧
    HarnessConfig.ofJson? (HarnessConfig.toJson ⟨⟨some 5⟩, ⟨.file, some (Path.ofString "é/\n")⟩⟩) =
        some ⟨⟨some 5⟩, ⟨.file, some (Path.ofString "é/\n")⟩⟩ := by
  obtain ⟨shapes, reasons, summaries, failures, configs, -, -⟩ := forms_round_trip
  refine ⟨shapes _ _ ?reversed, reasons _ _ (.refl _), summaries _ ?counted _ (.refl _),
    failures _ ?fits _ (.refl _), configs _ ?writable _ (.refl _)⟩
  case reversed =>
    refine .object (by decide) fun name value value' found found' => ?_
    obtain rfl : value' = value := by grind [field?]
    exact .refl value'
  case counted => exact ⟨by decide, by decide, by decide⟩
  case fits => exact show UInt64.size - 1 < UInt64.size by decide
  case writable =>
    constructor
    · rintro _ ⟨⟩
      decide
    · rintro _ ⟨⟩
      exact ⟨_, rfl⟩

end PropertyTesting
