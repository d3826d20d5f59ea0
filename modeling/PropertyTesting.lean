import PropertyTesting.Assembly
import PropertyTesting.Builder.Basic
import PropertyTesting.Builder.Composer
import PropertyTesting.Builder.Error
import PropertyTesting.Builder.Script
import PropertyTesting.Comparison.Basic
import PropertyTesting.Comparison.Operator
import PropertyTesting.Comparison.Output
import PropertyTesting.Comparison.Shape
import PropertyTesting.Config.Basic
import PropertyTesting.Config.Load
import PropertyTesting.Config.Toml
import PropertyTesting.Decimal.Floating
import PropertyTesting.Decimal.Shortest
import PropertyTesting.Decimal.Written
import PropertyTesting.Diagnostic
import PropertyTesting.Draft
import PropertyTesting.Equivalence
import PropertyTesting.Evaluation
import PropertyTesting.Generator
import PropertyTesting.Json.Basic
import PropertyTesting.Json.Comparison
import PropertyTesting.Json.Config
import PropertyTesting.Json.Reader
import PropertyTesting.Json.Record
import PropertyTesting.Json.Run
import PropertyTesting.Json.Writer
import PropertyTesting.Proofs.Assembly.Chain
import PropertyTesting.Proofs.Assembly.Enclosure
import PropertyTesting.Proofs.Assembly.Frames
import PropertyTesting.Proofs.Assembly.Group
import PropertyTesting.Proofs.Assembly.History
import PropertyTesting.Proofs.Assembly.Order
import PropertyTesting.Proofs.Assembly.Refusal
import PropertyTesting.Proofs.Assembly.Run
import PropertyTesting.Proofs.Assembly.Substitution
import PropertyTesting.Proofs.Builder.Declarations
import PropertyTesting.Proofs.Builder.Reading
import PropertyTesting.Proofs.Builder.Styles
import PropertyTesting.Proofs.Config.Resolution
import PropertyTesting.Proofs.Config.Validity
import PropertyTesting.Proofs.Draft.History
import PropertyTesting.Proofs.Equivalence.FirstDifference
import PropertyTesting.Proofs.Equivalence.Run
import PropertyTesting.Proofs.Evaluation.Absence
import PropertyTesting.Proofs.Evaluation.Leaves
import PropertyTesting.Proofs.Evaluation.Message
import PropertyTesting.Proofs.Evaluation.Reason
import PropertyTesting.Proofs.Evaluation.Trace
import PropertyTesting.Proofs.Generator.Composition
import PropertyTesting.Proofs.Json.RoundTrip
import PropertyTesting.Proofs.Json.Text
import PropertyTesting.Proofs.Run.Concatenation
import PropertyTesting.Proofs.Run.Events
import PropertyTesting.Proofs.Run.FailingSample
import PropertyTesting.Proofs.Run.FirstFailure
import PropertyTesting.Proofs.Run.LogFile
import PropertyTesting.Proofs.Storage.Append
import PropertyTesting.Proofs.Text.Lines
import PropertyTesting.Proofs.Text.Printable
import PropertyTesting.Proofs.Text.Utf8
import PropertyTesting.Proofs.Value.Shown
import PropertyTesting.Property
import PropertyTesting.Random.Keystream
import PropertyTesting.Random.Primitive
import PropertyTesting.Random.Range
import PropertyTesting.Run.Event
import PropertyTesting.Run.Executor
import PropertyTesting.Run.Sink
import PropertyTesting.Sampler
import PropertyTesting.Storage
import PropertyTesting.Test
import PropertyTesting.Text.Blank
import PropertyTesting.Text.Layout
import PropertyTesting.Text.Quoted
import PropertyTesting.Text.Unprintable
import PropertyTesting.Text.Utf8
import PropertyTesting.Toml.Basic
import PropertyTesting.Toml.Quoted
import PropertyTesting.Toml.Reader
import PropertyTesting.Toml.Scalar
import PropertyTesting.Value.Basic
import PropertyTesting.Value.Measure
import PropertyTesting.Value.Shown
