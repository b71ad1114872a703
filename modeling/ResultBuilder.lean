import ResultBuilder.Files.Tree
import ResultBuilder.Main
import ResultBuilder.Proofs.Synthesis.Meaning
import ResultBuilder.Proofs.Body.Nesting
import ResultBuilder.Proofs.Synthesis.Verdict
import ResultBuilder.Proofs.Builder.Cache
import ResultBuilder.Proofs.Compile.Visits
import ResultBuilder.Proofs.Compile.Scoping
import ResultBuilder.Proofs.Builder.Recorded
import ResultBuilder.Proofs.Synthesis.Asking
import ResultBuilder.Proofs.Synthesis.Growth
import ResultBuilder.Proofs.Synthesis.Calls
import ResultBuilder.Proofs.Syntax.Lexemes
import ResultBuilder.Proofs.Syntax.Pieces
import ResultBuilder.Proofs.Syntax.Layout
import ResultBuilder.Proofs.Syntax.Nodes
import ResultBuilder.Proofs.Syntax.Legible
import ResultBuilder.Proofs.Syntax.Reading.Steps
import ResultBuilder.Proofs.Syntax.Reading.Type
import ResultBuilder.Proofs.Syntax.Reading.Expression
import ResultBuilder.Proofs.Syntax.Reading.Pattern
import ResultBuilder.Proofs.Syntax.Reading.Declaration
import ResultBuilder.Proofs.Syntax.Reading.Statement
import ResultBuilder.Proofs.Syntax.Bare
import ResultBuilder.Proofs.Diagnostic.Usable
import ResultBuilder.Proofs.Diagnostic.About
import ResultBuilder.Proofs.Body.Found
import ResultBuilder.Proofs.Synthesis.Reports
import ResultBuilder.Proofs.Host.Answers
import ResultBuilder.Proofs.Syntax.Refusals.Lexing
import ResultBuilder.Proofs.Syntax.Refusals.Parsing
import ResultBuilder.Proofs.Compile.Nodes
import ResultBuilder.Proofs.Compile.Reports
import ResultBuilder.Proofs.Syntax.Tiling
import ResultBuilder.Proofs.Syntax.Printing.Cursors
import ResultBuilder.Proofs.Syntax.Printing.Type
import ResultBuilder.Proofs.Syntax.Printing.Expression
import ResultBuilder.Proofs.Syntax.Printing.Block
import ResultBuilder.Proofs.Syntax.Printing.Statement
import ResultBuilder.Proofs.Syntax.Printing.Pattern
import ResultBuilder.Proofs.Syntax.Printing.Switch
import ResultBuilder.Proofs.Syntax.Printing.Program
import ResultBuilder.Proofs.Compile.Choosing
import ResultBuilder.Proofs.Compile.Counting
import ResultBuilder.Proofs.Compile.Outcomes
import ResultBuilder.Proofs.Compile.Directives
import ResultBuilder.Proofs.Compile.Bodies
import ResultBuilder.Proofs.Synthesis.Origins
import ResultBuilder.Proofs.Syntax.Revising
import ResultBuilder.Proofs.Syntax.Reread
import ResultBuilder.Proofs.Body.Revised
import ResultBuilder.Proofs.Host.Revised
import ResultBuilder.Proofs.Synthesis.Revised
import ResultBuilder.Proofs.Host.Codes
import ResultBuilder.Proofs.Synthesis.Relaxed
import ResultBuilder.Proofs.Compile.Relaxed
import ResultBuilder.Proofs.Compile.Verbatim
import ResultBuilder.Proofs.Synthesis.Paths
import ResultBuilder.Proofs.Synthesis.Shapes
import ResultBuilder.Proofs.Synthesis.Checks
import ResultBuilder.Proofs.Host.Exhaustive
import ResultBuilder.Proofs.Host.Known
import ResultBuilder.Proofs.Host.Results
import ResultBuilder.Proofs.Host.Suggestions
import ResultBuilder.Proofs.Syntax.Lines.Nesting
import ResultBuilder.Proofs.Syntax.Lines.Parsing
import ResultBuilder.Proofs.Syntax.Depth.Agreement
import ResultBuilder.Proofs.Syntax.Depth.Parsing
import ResultBuilder.Proofs.Syntax.Climbing.Tree
import ResultBuilder.Proofs.Syntax.Climbing.Parsing
import ResultBuilder.Proofs.Syntax.Climbing.Program
import ResultBuilder.Proofs.Syntax.Returns.Without
import ResultBuilder.Proofs.Syntax.Recasting
import ResultBuilder.Proofs.Body.Recast
import ResultBuilder.Proofs.Synthesis.Recast
import ResultBuilder.Proofs.Host.Places
import ResultBuilder.Proofs.Synthesis.Undirected
import ResultBuilder.Proofs.Synthesis.Chained
import ResultBuilder.Proofs.Shape.Substitution
import ResultBuilder.Proofs.Shape.Order
import ResultBuilder.Proofs.Synthesis.Merging
import ResultBuilder.Proofs.Builder.Eligible
import ResultBuilder.Proofs.Builder.Generics
import ResultBuilder.Proofs.Compile.Ground
import ResultBuilder.Proofs.Shape.Text
import ResultBuilder.Proofs.Synthesis.Removals
import ResultBuilder.Proofs.Fixture.Assignment
import ResultBuilder.Proofs.Fixture.Comparing
import ResultBuilder.Proofs.Source.Position
import ResultBuilder.Proofs.Synthesis.Arities
import ResultBuilder.Proofs.Fixture.Stopping
import ResultBuilder.Proofs.Fixture.Written
import ResultBuilder.Proofs.Fixture.Reading
import ResultBuilder.Proofs.Syntax.Refutability
import ResultBuilder.Proofs.Diagnostic.Clamping
import ResultBuilder.Proofs.Syntax.Returns.Remaining
