import PropertyTesting.Builder.Basic
import PropertyTesting.Proofs.Assembly.Chain
import PropertyTesting.Value.Shown

/-!
# What a fluent chain means

A chain that is written with the methods of a comparison builder builds a test with one property,
and that property accepts a sample exactly if the chain, read from left to right, is true of it
(`build_chain`).

The way there: each method makes one call of the assembly (`Chain.write_eq_foldl`), calls that
succeed on the assembly succeed on the builder (`foldl_call`), those of a chain assemble its tree
(`run_chain`), and the verdict of the tree is the reading of the chain (`passed_tree`).
-/

namespace PropertyTesting

/-! ## Writing a chain -/

/-- The methods of a comparison builder that add a leaf. -/
inductive LeafMethod (I O : Type) where
  | leaf (comparison : Comparison I O)
  | equals (expected : O)
  | notEquals (expected : O)
  | equalsOf (expected : I → O)
  | notEqualsOf (expected : I → O)
  | compareTo (expected : O) (op : OrderOp)
  | compareToOf (expected : I → O) (op : OrderOp)
  | greaterThan (expected : O)
  | greaterThanOf (expected : I → O)
  | lessThan (expected : O)
  | lessThanOf (expected : I → O)
  | equalOrder (expected : O)
  | equalOrderOf (expected : I → O)

variable {σ I O : Type}

/-- The leaf that a method adds. -/
def LeafMethod.comparison [Output O] : LeafMethod I O → Comparison I O
  | leaf comparison => comparison
  | equals expected => .equals expected
  | notEquals expected => .notEquals expected
  | equalsOf expected => .equalsOf expected
  | notEqualsOf expected => .notEqualsOf expected
  | compareTo expected op => .ordered expected op
  | compareToOf expected op => .orderedOf expected op
  | greaterThan expected => .ordered expected .greater
  | greaterThanOf expected => .orderedOf expected .greater
  | lessThan expected => .ordered expected .less
  | lessThanOf expected => .orderedOf expected .less
  | equalOrder expected => .ordered expected .equal
  | equalOrderOf expected => .orderedOf expected .equal

namespace ComparisonBuilder

/-- Makes use of a method that adds a leaf. -/
def add [Output O] (b : ComparisonBuilder σ I O) : LeafMethod I O → ComparisonBuilder σ I O
  | .leaf comparison => b.leaf comparison
  | .equals expected => b.equals expected
  | .notEquals expected => b.notEquals expected
  | .equalsOf expected => b.equalsOf expected
  | .notEqualsOf expected => b.notEqualsOf expected
  | .compareTo expected op => b.compareTo expected op
  | .compareToOf expected op => b.compareToOf expected op
  | .greaterThan expected => b.greaterThan expected
  | .greaterThanOf expected => b.greaterThanOf expected
  | .lessThan expected => b.lessThan expected
  | .lessThanOf expected => b.lessThanOf expected
  | .equalOrder expected => b.equalOrder expected
  | .equalOrderOf expected => b.equalOrderOf expected

/-- Goes on with a connective. -/
def connect (b : ComparisonBuilder σ I O) : BooleanOp → ComparisonBuilder σ I O
  | .and => b.and
  | .or => b.or

theorem add_eq_call [Output O] (b : ComparisonBuilder σ I O) (method : LeafMethod I O) :
    b.add method = b.call (.leaf method.comparison) := by
  cases method <;> rfl

theorem connect_eq_call (b : ComparisonBuilder σ I O) (op : BooleanOp) :
    b.connect op = b.call (.operator op) := by
  cases op <;> rfl

end ComparisonBuilder

mutual

/-- Writes an operand with the methods of a builder. -/
def Operand.write [Output O] (b : ComparisonBuilder σ I O) :
    Operand (LeafMethod I O) → ComparisonBuilder σ I O
  | .leaf method => b.add method
  | .group chain => (chain.write b.openGroup).closeGroup

/-- Writes a chain with the methods of a builder, from left to right. -/
def Chain.write [Output O] (b : ComparisonBuilder σ I O) :
    Chain (LeafMethod I O) → ComparisonBuilder σ I O
  | .one operand => operand.write b
  | .join chain op operand => operand.write ((chain.write b).connect op)

end

mutual

/-- An operand with other leaves. -/
def Operand.map {L M : Type} (f : L → M) : Operand L → Operand M
  | .leaf leaf => .leaf (f leaf)
  | .group chain => .group (chain.map f)

/-- A chain with other leaves. -/
def Chain.map {L M : Type} (f : L → M) : Chain L → Chain M
  | .one operand => .one (operand.map f)
  | .join chain op operand => .join (chain.map f) op (operand.map f)

end

mutual

theorem Operand.write_eq_foldl [Output O] (operand : Operand (LeafMethod I O))
    (b : ComparisonBuilder σ I O) :
    operand.write b = (operand.map LeafMethod.comparison).calls.foldl ComparisonBuilder.call b := by
  cases operand with
  | leaf method => exact b.add_eq_call method
  | group chain =>
    rw [Operand.write, chain.write_eq_foldl, Operand.map, Operand.calls, List.cons_append,
      List.foldl_cons, List.foldl_append]
    rfl

/-- Writing a chain makes its calls. -/
theorem Chain.write_eq_foldl [Output O] (chain : Chain (LeafMethod I O))
    (b : ComparisonBuilder σ I O) :
    chain.write b = (chain.map LeafMethod.comparison).calls.foldl ComparisonBuilder.call b := by
  cases chain with
  | one operand => exact operand.write_eq_foldl b
  | join chain op operand =>
    rw [Chain.write, operand.write_eq_foldl, chain.write_eq_foldl, Chain.map, Chain.calls,
      List.foldl_append, List.foldl_cons, ComparisonBuilder.connect_eq_call]

end

/-- Without a mistake before, a builder's calls do what they do on its assembly. -/
theorem foldl_call {b : ComparisonBuilder σ I O} {a : Assembly I O} {calls : List (ChainCall I O)}
    (clean : b.test.error = none) (ran : b.draft.assembly.run calls = .ok a) :
    calls.foldl ComparisonBuilder.call b = ⟨b.test, { b.draft with assembly := a }⟩ := by
  induction calls generalizing b with
  | nil =>
    obtain rfl := Except.ok.inj ran
    rfl
  | cons call rest ih =>
    obtain ⟨m, done, ran⟩ := Assembly.run_cons_ok.mp ran
    have called : b.call call = ⟨b.test, { b.draft with assembly := m }⟩ := by
      simp [ComparisonBuilder.call, clean, done, TestDraft.latch]
    rw [List.foldl_cons, called]
    exact ih clean ran

/-! ## Reading a chain -/

mutual

/-- The truth of an operand. -/
def Operand.reading {L : Type} (accepts : L → Bool) : Operand L → Bool
  | .leaf leaf => accepts leaf
  | .group chain => chain.reading accepts

/-- The truth of a chain that is read from left to right, each connective taking all that stands
before it as its left side. -/
def Chain.reading {L : Type} (accepts : L → Bool) : Chain L → Bool
  | .one operand => operand.reading accepts
  | .join chain op operand => op.apply (chain.reading accepts) (operand.reading accepts)

end

section Verdicts

variable {L : Type} [Output O] (leaf : L → Comparison I O) (sample : I) (output : O)

mutual

theorem Operand.passed_tree (operand : Operand L) :
    ((operand.map leaf).tree.evaluate sample output).passed =
      operand.reading fun l => ((leaf l).evaluate sample output).passed := by
  cases operand with
  | leaf l => rfl
  | group chain => exact chain.passed_tree

/-- The verdict of a chain's tree is what the chain reads as, each leaf standing for its own
verdict. -/
theorem Chain.passed_tree (chain : Chain L) :
    ((chain.map leaf).tree.evaluate sample output).passed =
      chain.reading fun l => ((leaf l).evaluate sample output).passed := by
  cases chain with
  | one operand => exact operand.passed_tree
  | join chain op operand =>
    rw [Chain.map, Chain.tree, Comparison.evaluate_block, BooleanOp.passed_combine,
      chain.passed_tree, operand.passed_tree, Chain.reading]

end

end Verdicts

/-! ## The test -/

/-- A draft with a description, a function and a finished comparison is complete. -/
theorem complete_finished {description : String} (named : Text.isBlank description = false)
    (preconditions : List (I → Bool)) (function : I → O) (root : Comparison I O) (pushNext : Bool) :
    PropertyDraft.complete
        ⟨some description, preconditions, some function, ⟨[root], [], [], pushNext⟩⟩ =
      (.ok ⟨description, preconditions, function, root⟩, .empty) := by
  simp [PropertyDraft.complete, Option.filter, named, Assembly.finish, PropertyDraft.empty]

/-- A fluent chain builds a test with one property, which accepts a sample exactly if the chain,
read from left to right, is true where each leaf stands for its own verdict on the result of the
function. -/
theorem build_chain [Output O] (header : TestBuilder) (generator : Generator σ I)
    {description : String} (named : Text.isBlank description = false) (function : I → O)
    (chain : Chain (LeafMethod I O)) :
    ∃ check : Check I,
      (chain.write
        (((header.drawingFrom generator).property description).thenApply function)).build =
        .ok ⟨header.name, header.samples, generator, [check]⟩ ∧
      ∀ sample, check.verdict sample = .ok () ↔
        chain.reading (fun method =>
          (method.comparison.evaluate sample (function sample)).passed) = true := by
  let root := (chain.map LeafMethod.comparison).tree
  have written :
      chain.write (((header.drawingFrom generator).property description).thenApply function) =
      ⟨⟨header.name, header.samples, generator, [], none⟩,
        ⟨some description, [], some function, ⟨[root], [], [], false⟩⟩⟩ := by
    rw [chain.write_eq_foldl]
    exact foldl_call rfl (Assembly.run_chain _)
  refine ⟨(⟨description, [], function, root⟩ : Property I O).toCheck, ?_, fun sample => ?_⟩
  · rw [written, ComparisonBuilder.build, ComparisonBuilder.commit]
    simp [complete_finished named, TestDraft.finish]
  · rw [← Verdict.passed_iff, ← chain.passed_tree]
    rfl

/-- Less than 10, or both greater than 20 and different from 30. -/
def exRange : Chain (LeafMethod Nat Value) :=
  .join (.one (.leaf (.lessThan (.integer 10)))) .or
    (.group (.join (.one (.leaf (.greaterThan (.integer 20)))) .and
      (.leaf (.notEquals (.integer 30)))))

example (b : ComparisonBuilder σ Nat Value) :
    exRange.write b =
      (((b.lessThan (.integer 10)).or.openGroup.greaterThan (.integer 20)).and.notEquals
        (.integer 30)).closeGroup :=
  rfl

/-- The natural numbers in their order. -/
def exNaturals : Generator Nat Nat :=
  ⟨"naturals", fun n => (n, n + 1), 0⟩

/-- The leaf of a method on a natural number as a whole number of 64 bits. -/
def exAccepts (sample : Nat) (method : LeafMethod Nat Value) : Bool :=
  (method.comparison.evaluate sample (.integer (.ofNat sample))).passed

theorem build_exRange :
    Text.isBlank "in range" = false ∧
    ∃ check : Check Nat,
      (exRange.write ((((TestBuilder.named "numbers").drawingFrom exNaturals).property
        "in range").thenApply fun sample => .integer (.ofNat sample))).build =
        .ok ⟨"numbers", 100, exNaturals, [check]⟩ ∧
      ∀ sample, check.verdict sample = .ok () ↔
        (exAccepts sample (.lessThan (.integer 10)) ||
          (exAccepts sample (.greaterThan (.integer 20)) &&
            exAccepts sample (.notEquals (.integer 30)))) = true := by
  have named : Text.isBlank "in range" = false := by decide
  exact ⟨named, build_chain (.named "numbers") exNaturals named _ exRange⟩

end PropertyTesting
