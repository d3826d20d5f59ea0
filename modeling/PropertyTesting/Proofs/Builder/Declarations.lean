import PropertyTesting.Builder.Basic
import PropertyTesting.Proofs.Assembly.Run
import PropertyTesting.Value.Shown

/-!
# What a script declares

A script defines a test with a sequence of calls, each of them one that the builder at hand has. It
can be read as a list of declarations: what is said of each property, between its description and
the next one or the end of the script. The test that a script builds is given by these declarations,
each taken for itself (`build_script`): its calls are made on an assembly of its own, and the first
mistake in the first declaration that has one is the result.

A mistake that a builder has kept is the result, whatever calls follow (`run_latched`). Until there
is one, a builder of each kind holds what the script has declared so far: checks of the finished
properties, and of the one at hand its description, its preconditions, its function and the assembly
that its calls lead to (`run_clean`).
-/

namespace PropertyTesting

variable {σ I : Type}

/-! ## Scripts -/

mutual

/-- Calls on a builder that awaits the next property. -/
inductive InputScript (I : Type) : Type 1 where
  | build
  | samples (n : Nat) (rest : InputScript I)
  | property (description : String) (rest : PropertyScript I)

/-- Calls on a builder with a property that awaits its function. -/
inductive PropertyScript (I : Type) : Type 1 where
  | build
  | given (condition : I → Bool) (rest : PropertyScript I)
  | thenApply {O : Type} [Output O] (function : I → O) (rest : ComparisonScript I O)
  | thenSatisfies {O : Type} [Output O] (function : I → O) (compose : Composer I O → Comparison I O)
      (rest : InputScript I)

/-- Calls on a builder with a property that awaits the rest of its comparison. -/
inductive ComparisonScript (I : Type) : Type → Type 1 where
  | build {O : Type} : ComparisonScript I O
  | call {O : Type} (call : ChainCall I O) (rest : ComparisonScript I O) : ComparisonScript I O
  | property {O : Type} (description : String) (rest : PropertyScript I) : ComparisonScript I O

end

mutual

/-- Makes the calls of a script, the last of which builds the test. -/
def InputScript.run (b : InputTestBuilder σ I) : InputScript I → Except BuilderError (Test σ I)
  | .build => b.build
  | .samples n rest => rest.run (b.withSamples n)
  | .property description rest => rest.run (b.property description)

def PropertyScript.run (b : PropertyBuilder σ I) : PropertyScript I → Except BuilderError (Test σ I)
  | .build => b.build
  | .given condition rest => rest.run (b.given condition)
  | @PropertyScript.thenApply _ _ _ function rest => rest.run (b.thenApply function)
  | @PropertyScript.thenSatisfies _ _ _ function compose rest =>
    rest.run (b.thenSatisfies function compose)

def ComparisonScript.run {O : Type} [Output O] (b : ComparisonBuilder σ I O) :
    ComparisonScript I O → Except BuilderError (Test σ I)
  | .build => b.build
  | .call call rest => rest.run (b.call call)
  | .property description rest => rest.run (b.property description)

end

/-! ## Declarations -/

/-- What is said of a property after its preconditions. -/
inductive DeclaredBody (I : Type) : Type 1 where
  /-- Nothing. -/
  | missing
  /-- Its function, and the calls that assemble its comparison. -/
  | chain {O : Type} [Output O] (function : I → O) (calls : List (ChainCall I O))
  /-- Its function and its comparison. -/
  | tree {O : Type} [Output O] (function : I → O) (comparison : Comparison I O)

/-- What a script says of a property. -/
structure Declaration (I : Type) : Type 1 where
  description : String
  preconditions : List (I → Bool)
  body : DeclaredBody I

mutual

/-- The declarations of a script in their order. -/
def InputScript.declarations : InputScript I → List (Declaration I)
  | .build => []
  | .samples _ rest => rest.declarations
  | .property description rest => rest.declarations description []

/-- The declarations of a script after the description and some of the preconditions of the
first. -/
def PropertyScript.declarations (description : String) (preconditions : List (I → Bool)) :
    PropertyScript I → List (Declaration I)
  | .build => [⟨description, preconditions, .missing⟩]
  | .given condition rest => rest.declarations description (preconditions ++ [condition])
  | @PropertyScript.thenApply _ _ _ function rest =>
    rest.declarations description preconditions function []
  | @PropertyScript.thenSatisfies _ _ _ function compose rest =>
    ⟨description, preconditions, .tree function (compose .new)⟩ :: rest.declarations

/-- The declarations of a script after the beginning of the first up to some of its calls. -/
def ComparisonScript.declarations {O : Type} [Output O] (description : String)
    (preconditions : List (I → Bool)) (function : I → O) (calls : List (ChainCall I O)) :
    ComparisonScript I O → List (Declaration I)
  | .build => [⟨description, preconditions, .chain function calls⟩]
  | .call call rest => rest.declarations description preconditions function (calls ++ [call])
  | .property next rest =>
    ⟨description, preconditions, .chain function calls⟩ :: rest.declarations next []

end

mutual

/-- The number of samples that a script sets last, or else the number that it starts with. -/
def InputScript.samplesFrom (n : Nat) : InputScript I → Nat
  | .build => n
  | .samples m rest => rest.samplesFrom m
  | .property _ rest => rest.samplesFrom n

def PropertyScript.samplesFrom (n : Nat) : PropertyScript I → Nat
  | .build => n
  | .given _ rest => rest.samplesFrom n
  | @PropertyScript.thenApply _ _ _ _ rest => rest.samplesFrom n
  | @PropertyScript.thenSatisfies _ _ _ _ _ rest => rest.samplesFrom n

def ComparisonScript.samplesFrom {O : Type} (n : Nat) : ComparisonScript I O → Nat
  | .build => n
  | .call _ rest => rest.samplesFrom n
  | .property _ rest => rest.samplesFrom n

end

/-- Something under a description, which must not be blank. -/
def described {α : Type} (description : String) (result : Except BuilderError α) :
    Except BuilderError α :=
  if Text.isBlank description then .error .missingDescription else result

/-- The check of a declared property, or the first mistake in the declaration: that of the first
call that fails, or a missing description, or that the comparison is not finished. -/
def Declaration.check (d : Declaration I) : Except BuilderError (Check I) :=
  match d.body with
  | .missing => described d.description (.error .missingFunction)
  | @DeclaredBody.chain _ _ _ function calls =>
    (Assembly.empty.run calls).bind fun assembly =>
      (described d.description assembly.finish.1).map fun comparison =>
        Property.toCheck ⟨d.description, d.preconditions, function, comparison⟩
  | @DeclaredBody.tree _ _ _ function comparison =>
    described d.description
      (.ok (Property.toCheck ⟨d.description, d.preconditions, function, comparison⟩))

/-! ## After a mistake -/

theorem commit_latched {O : Type} [Output O] {t : TestDraft σ I} {error : BuilderError}
    (latched : t.error = some error) (draft : PropertyDraft I O) :
    ComparisonBuilder.commit ⟨t, draft⟩ = t := by
  simp [ComparisonBuilder.commit, latched]

theorem call_latched {O : Type} {t : TestDraft σ I} {error : BuilderError}
    (latched : t.error = some error) (draft : PropertyDraft I O) (call : ChainCall I O) :
    ComparisonBuilder.call ⟨t, draft⟩ call = ⟨t, draft⟩ := by
  simp [ComparisonBuilder.call, latched]

mutual

theorem InputScript.run_latched (script : InputScript I) {t : TestDraft σ I} {error : BuilderError}
    (latched : t.error = some error) : script.run ⟨t⟩ = .error error := by
  cases script with
  | build => rw [InputScript.run, InputTestBuilder.build, TestDraft.finish, latched]
  | samples n rest => exact rest.run_latched latched
  | property description rest => exact rest.run_latched latched _ _

theorem PropertyScript.run_latched (script : PropertyScript I) {t : TestDraft σ I}
    {error : BuilderError} (latched : t.error = some error) (description : String)
    (preconditions : List (I → Bool)) :
    script.run ⟨t, description, preconditions⟩ = .error error := by
  cases script with
  | build => rw [PropertyScript.run, PropertyBuilder.build, latched]
  | given condition rest => exact rest.run_latched latched _ _
  | thenApply function rest => exact rest.run_latched latched _
  | thenSatisfies function compose rest =>
    rw [PropertyScript.run, PropertyBuilder.thenSatisfies, PropertyBuilder.thenApply,
      ComparisonBuilder.leaf, call_latched latched, commit_latched latched]
    exact rest.run_latched latched

/-- A mistake that was made is the result, whatever calls follow. -/
theorem ComparisonScript.run_latched {O : Type} [Output O] (script : ComparisonScript I O)
    {t : TestDraft σ I} {error : BuilderError} (latched : t.error = some error)
    (draft : PropertyDraft I O) : script.run ⟨t, draft⟩ = .error error := by
  cases script with
  | build =>
    rw [ComparisonScript.run, ComparisonBuilder.build, commit_latched latched, TestDraft.finish,
      latched]
  | call call rest =>
    rw [ComparisonScript.run, call_latched latched]
    exact rest.run_latched latched draft
  | property description rest =>
    rw [ComparisonScript.run, ComparisonBuilder.property, commit_latched latched]
    exact rest.run_latched latched _ _

end

/-! ## Before a mistake -/

/-- A test in the making after a declaration: with the check of the property, or with the first
mistake. -/
def TestDraft.add (t : TestDraft σ I) : Except BuilderError (Check I) → TestDraft σ I
  | .ok check => { t with properties := t.properties ++ [check] }
  | .error error => { t with error := some error }

/-- The test in the making with declared properties after those that it has, or the first mistake in
these declarations. -/
def TestDraft.declare (t : TestDraft σ I) (samples : Nat) (declarations : List (Declaration I)) :
    Except BuilderError (Test σ I) :=
  (declarations.mapM Declaration.check).map fun checks =>
    ⟨t.name, samples, t.generator, t.properties ++ checks⟩

theorem declare_nil (t : TestDraft σ I) (samples : Nat) :
    t.declare samples [] = .ok ⟨t.name, samples, t.generator, t.properties⟩ := by
  simp [TestDraft.declare, pure, Except.pure, Except.map]

theorem declare_cons (t : TestDraft σ I) (samples : Nat) (d : Declaration I)
    (declarations : List (Declaration I)) :
    t.declare samples (d :: declarations) =
      match d.check with
      | .ok check => (t.add (.ok check)).declare samples declarations
      | .error error => .error error := by
  rw [TestDraft.declare, List.mapM_cons]
  cases d.check with
  | error error => rfl
  | ok check =>
    cases checked : declarations.mapM Declaration.check <;>
      simp [TestDraft.declare, TestDraft.add, checked, bind, Except.bind, pure, Except.pure,
        Except.map]

theorem add_clean {t : TestDraft σ I} (clean : t.error = none) (check : Check I) :
    (t.add (.ok check)).error = none :=
  clean

/-- To go on after a declaration is to go on with its check, or to end with the mistake in it. -/
theorem go_on {t : TestDraft σ I} {samples : Nat} {declarations : List (Declaration I)}
    (run : TestDraft σ I → Except BuilderError (Test σ I)) (d : Declaration I)
    (afterMistake : ∀ error, run (t.add (.error error)) = .error error)
    (afterCheck : ∀ check,
      run (t.add (.ok check)) = (t.add (.ok check)).declare samples declarations) :
    run (t.add d.check) = t.declare samples (d :: declarations) := by
  rw [declare_cons]
  cases d.check with
  | error error => exact afterMistake error
  | ok check => exact afterCheck check

theorem complete_eq {O : Type} (description : String) (preconditions : List (I → Bool))
    (function : I → O) (a : Assembly I O) :
    (PropertyDraft.complete ⟨some description, preconditions, some function, a⟩).1 =
      (described description a.finish.1).map fun comparison =>
        ⟨description, preconditions, function, comparison⟩ := by
  cases blank : Text.isBlank description with
  | true => simp [PropertyDraft.complete, Option.filter, described, blank, Except.map]
  | false =>
    cases finished : a.finish with
    | mk result after =>
      cases result <;>
        simp [PropertyDraft.complete, Option.filter, described, blank, finished, Except.map]

theorem call_clean {O : Type} {t : TestDraft σ I} (clean : t.error = none)
    (draft : PropertyDraft I O) (call : ChainCall I O) :
    ComparisonBuilder.call ⟨t, draft⟩ call =
      ⟨t.latch (draft.assembly.call call).1,
        { draft with assembly := (draft.assembly.call call).2 }⟩ := by
  simp [ComparisonBuilder.call, clean]

/-- To commit a property is to add its check, or the mistake in its declaration. -/
theorem commit_eq {O : Type} [Output O] {t : TestDraft σ I} (clean : t.error = none)
    (description : String) (preconditions : List (I → Bool)) (function : I → O)
    {calls : List (ChainCall I O)} {a : Assembly I O} (ran : Assembly.empty.run calls = .ok a) :
    ComparisonBuilder.commit ⟨t, ⟨some description, preconditions, some function, a⟩⟩ =
      t.add (Declaration.check ⟨description, preconditions, .chain function calls⟩) := by
  simp only [ComparisonBuilder.commit, complete_eq, Declaration.check, ran, Except.bind]
  cases described description a.finish.1 <;>
    simp [Except.map, TestDraft.latch, TestDraft.add, clean]

/-- A comparison is declared as a tree as it is by the call that adds it. -/
theorem check_leaf {O : Type} [Output O] (description : String) (preconditions : List (I → Bool))
    (function : I → O) (comparison : Comparison I O) :
    Declaration.check ⟨description, preconditions, .chain function [.leaf comparison]⟩ =
      Declaration.check ⟨description, preconditions, .tree function comparison⟩ := by
  simp only [Declaration.check, described]
  cases Text.isBlank description <;> rfl

/-- A call that fails is the mistake in the declaration that it belongs to. -/
theorem check_of_failed {O : Type} [Output O] {a : Assembly I O} {calls : List (ChainCall I O)}
    {call : ChainCall I O} {error : BuilderError} (ran : Assembly.empty.run calls = .ok a)
    (failed : (a.call call).1 = .error error) (description : String)
    (preconditions : List (I → Bool)) (function : I → O) (more : List (ChainCall I O)) :
    Declaration.check ⟨description, preconditions, .chain function (calls ++ [call] ++ more)⟩ =
      .error error := by
  have stops : Assembly.empty.run (calls ++ [call] ++ more) = .error error := by
    rw [List.append_assoc, Assembly.run_append, ran]
    cases called : a.call call with
    | mk result after =>
      rw [called] at failed
      obtain rfl : result = .error error := failed
      simp [Except.bind, Assembly.run, called]
  simp only [Declaration.check, stops, Except.bind]

/-- The declarations after some calls of a chain begin with that of the property at hand. -/
theorem ComparisonScript.declarations_begin {O : Type} [Output O] (description : String)
    (preconditions : List (I → Bool)) (function : I → O) (calls : List (ChainCall I O)) :
    (script : ComparisonScript I O) → ∃ more others,
      script.declarations description preconditions function calls =
        ⟨description, preconditions, .chain function (calls ++ more)⟩ :: others
  | .build => ⟨[], [], by rw [List.append_nil, declarations]⟩
  | .call next rest => by
    obtain ⟨more, others, begun⟩ :=
      rest.declarations_begin description preconditions function (calls ++ [next])
    exact ⟨next :: more, others, by rw [declarations, begun, List.append_assoc]; rfl⟩
  | .property next rest =>
    ⟨[], rest.declarations next [], by rw [List.append_nil, declarations]⟩

mutual

theorem InputScript.run_clean (script : InputScript I) {t : TestDraft σ I}
    (clean : t.error = none) :
    script.run ⟨t⟩ = t.declare (script.samplesFrom t.samples) script.declarations := by
  cases script with
  | build =>
    rw [InputScript.run, InputScript.declarations, declare_nil, InputTestBuilder.build,
      TestDraft.finish, clean]
    rfl
  | samples n rest => exact rest.run_clean clean
  | property description rest => exact rest.run_clean clean description []

theorem PropertyScript.run_clean (script : PropertyScript I) {t : TestDraft σ I}
    (clean : t.error = none) (description : String) (preconditions : List (I → Bool)) :
    script.run ⟨t, description, preconditions⟩ =
      t.declare (script.samplesFrom t.samples) (script.declarations description preconditions) := by
  cases script with
  | build =>
    rw [PropertyScript.run, PropertyScript.declarations, declare_cons, PropertyBuilder.build, clean,
      Declaration.check, described]
    cases Text.isBlank description <;> rfl
  | given condition rest => exact rest.run_clean clean description (preconditions ++ [condition])
  | @thenApply O _ function rest =>
    have begun : Assembly.empty.run ([] : List (ChainCall I O)) = .ok .empty := rfl
    exact rest.run_clean clean description preconditions function begun
  | @thenSatisfies O _ function compose rest =>
    have added : Assembly.empty.run [ChainCall.leaf (compose .new)] =
        .ok ⟨[compose .new], [], [], false⟩ := rfl
    have committed := commit_eq clean description preconditions function added
    rw [check_leaf] at committed
    rw [PropertyScript.run, PropertyBuilder.thenSatisfies, PropertyBuilder.thenApply,
      ComparisonBuilder.leaf, call_clean clean]
    refine Eq.trans (congrArg (fun t => rest.run ⟨t⟩) committed) ?_
    exact go_on (fun t => rest.run ⟨t⟩) _ (fun error => rest.run_latched rfl)
      fun check => rest.run_clean (add_clean clean check)

/-- As long as no mistake was made, a builder holds what its calls so far declare. -/
theorem ComparisonScript.run_clean {O : Type} [Output O] (script : ComparisonScript I O)
    {t : TestDraft σ I} (clean : t.error = none) (description : String)
    (preconditions : List (I → Bool)) (function : I → O) {calls : List (ChainCall I O)}
    {a : Assembly I O} (ran : Assembly.empty.run calls = .ok a) :
    script.run ⟨t, ⟨some description, preconditions, some function, a⟩⟩ =
      t.declare (script.samplesFrom t.samples)
        (script.declarations description preconditions function calls) := by
  have committed := commit_eq clean description preconditions function ran
  cases script with
  | build =>
    rw [ComparisonScript.run, ComparisonBuilder.build, committed]
    refine go_on TestDraft.finish _ (fun error => rfl) fun check => ?_
    rw [declare_nil, TestDraft.finish, TestDraft.add, clean]
    rfl
  | call call rest =>
    rw [ComparisonScript.run, call_clean clean]
    cases called : a.call call with
    | mk result after =>
      cases result with
      | ok done =>
        have ranOn : Assembly.empty.run (calls ++ [call]) = .ok after :=
          Assembly.run_append_ok.mpr ⟨a, ran, Assembly.run_cons_ok.mpr ⟨after, called, rfl⟩⟩
        exact rest.run_clean clean description preconditions function ranOn
      | error error =>
        obtain ⟨more, others, begun⟩ :=
          rest.declarations_begin description preconditions function (calls ++ [call])
        have mistake :=
          check_of_failed ran (congrArg Prod.fst called) description preconditions function
          more
        rw [ComparisonScript.declarations, begun, declare_cons, mistake]
        refine rest.run_latched ?_ _
        simp [TestDraft.latch, clean]
  | property next rest =>
    rw [ComparisonScript.run, ComparisonBuilder.property, committed]
    exact go_on (fun t => rest.run ⟨t, next, []⟩) _ (fun error => rest.run_latched rfl next [])
      fun check => rest.run_clean (add_clean clean check) next []

end

/-- A script builds the test whose properties are those that it declares, in their order, or ends
with the first mistake in the first declaration that has one. Once a mistake was made, no call
changes the result. -/
theorem build_script (header : TestBuilder) (generator : Generator σ I) (script : InputScript I) :
    script.run (header.drawingFrom generator) =
        ((script.declarations.mapM Declaration.check).map fun checks =>
          ⟨header.name, script.samplesFrom header.samples, generator, checks⟩) ∧
      ∀ (t : TestDraft σ I) (error : BuilderError),
        (∀ rest : InputScript I, rest.run ⟨{ t with error := some error }⟩ = .error error) ∧
        (∀ (description : String) (preconditions : List (I → Bool)) (rest : PropertyScript I),
          rest.run ⟨{ t with error := some error }, description, preconditions⟩ = .error error) ∧
        ∀ (O : Type) [Output O] (draft : PropertyDraft I O) (rest : ComparisonScript I O),
          rest.run ⟨{ t with error := some error }, draft⟩ = .error error := by
  refine ⟨script.run_clean rfl, fun t error => ⟨fun rest => rest.run_latched rfl, ?_, ?_⟩⟩
  · exact fun description preconditions rest => rest.run_latched rfl description preconditions
  · exact fun O _ draft rest => rest.run_latched rfl draft

/-- A group is closed that was not opened, and then there is a property without description and
function. -/
def exUnbalanced : InputScript Bool :=
  .samples 5 (.property "is true" (.given id (.thenApply Value.boolean
    (.call (.leaf (.equals (.boolean true))) (.call .closeGroup (.property "" .build))))))

example (generator : Generator σ Bool) :
    exUnbalanced.run ((TestBuilder.named "booleans").drawingFrom generator) =
      .error .unbalancedGroup :=
  rfl

end PropertyTesting
