import PropertyTesting.Builder.Basic

/-!
# Scripts

The definition of a test as a list of calls. Each call fits some kinds of builders only.
-/

namespace PropertyTesting

/-- A builder of any kind. -/
inductive BuilderStage (σ I O : Type) where
  | input (b : InputTestBuilder σ I)
  | property (b : PropertyBuilder σ I)
  | comparison (b : ComparisonBuilder σ I O)

/-- A call of a builder. -/
inductive ScriptCall (I O : Type) where
  | samples (n : Nat)
  | property (description : String)
  | given (precondition : I → Bool)
  | thenApply (function : I → O)
  | thenSatisfies (function : I → O) (compose : Composer I O → Comparison I O)
  | chain (call : ChainCall I O)

namespace BuilderStage

variable {σ I O : Type} [Output O]

/-- The builder after a call; none if the builder has no such call. -/
def call? : BuilderStage σ I O → ScriptCall I O → Option (BuilderStage σ I O)
  | input b, .samples n => some (input (b.withSamples n))
  | input b, .property description => some (property (b.property description))
  | property b, .given precondition => some (property (b.given precondition))
  | property b, .thenApply function => some (comparison (b.thenApply function))
  | property b, .thenSatisfies function compose => some (input (b.thenSatisfies function compose))
  | comparison b, .chain call => some (comparison (b.call call))
  | comparison b, .property description => some (property (b.property description))
  | _, _ => none

/-- The builders before the first call of a script and after each of its calls. -/
def stages? (b : BuilderStage σ I O) : List (ScriptCall I O) → Option (List (BuilderStage σ I O))
  | [] => some [b]
  | call :: rest => do
    let after ← (← b.call? call).stages? rest
    pure (b :: after)

/-- The builder after all calls of a script. -/
def run? (b : BuilderStage σ I O) (script : List (ScriptCall I O)) : Option (BuilderStage σ I O) :=
  script.foldlM call? b

/-- The test, or the first mistake. -/
def build : BuilderStage σ I O → Except BuilderError (Test σ I)
  | input b => b.build
  | property b => b.build
  | comparison b => b.build

def render : BuilderStage σ I O → String
  | input b => b.render
  | property b => b.render
  | comparison b => b.render

end BuilderStage

end PropertyTesting
