import ModuleBundler.Chunk
import ModuleBundler.CommandLine
import ModuleBundler.Compile
import ModuleBundler.Compiler
import ModuleBundler.Config
import ModuleBundler.Config.File
import ModuleBundler.Config.Merge
import ModuleBundler.Config.Reader
import ModuleBundler.Decimal.Binary
import ModuleBundler.Decimal.Shortest
import ModuleBundler.Edit
import ModuleBundler.Error
import ModuleBundler.FileSystem
import ModuleBundler.FileSystem.Disk
import ModuleBundler.FileSystem.Memory
import ModuleBundler.Graph
import ModuleBundler.Graph.Build
import ModuleBundler.Hooks
import ModuleBundler.Hooks.Stats
import ModuleBundler.Json.Basic
import ModuleBundler.Json.Fault
import ModuleBundler.Json.Reader
import ModuleBundler.Json.Typed
import ModuleBundler.Keyed
import ModuleBundler.Log
import ModuleBundler.Main
import ModuleBundler.Path
import ModuleBundler.Pattern
import ModuleBundler.Pattern.Expression
import ModuleBundler.Pattern.Reader
import ModuleBundler.Proofs.Build.Access
import ModuleBundler.Proofs.Build.Descent
import ModuleBundler.Proofs.Build.Draft
import ModuleBundler.Proofs.Build.Failure
import ModuleBundler.Proofs.Build.Frame
import ModuleBundler.Proofs.Build.History
import ModuleBundler.Proofs.Build.Needed
import ModuleBundler.Proofs.Build.Outcome
import ModuleBundler.Proofs.Build.Ownership
import ModuleBundler.Proofs.Build.Parallel
import ModuleBundler.Proofs.Build.Record
import ModuleBundler.Proofs.Build.Recursion
import ModuleBundler.Proofs.Build.Success
import ModuleBundler.Proofs.Chunk.Frame
import ModuleBundler.Proofs.Chunk.Heading
import ModuleBundler.Proofs.Chunk.Script
import ModuleBundler.Proofs.Compile.Access
import ModuleBundler.Proofs.Compile.Assets
import ModuleBundler.Proofs.Compile.Banner
import ModuleBundler.Proofs.Compile.Closure
import ModuleBundler.Proofs.Compile.Entries
import ModuleBundler.Proofs.Compile.Failure
import ModuleBundler.Proofs.Compile.FileNames
import ModuleBundler.Proofs.Compile.Identity
import ModuleBundler.Proofs.Compile.Leaves
import ModuleBundler.Proofs.Compile.Ownership
import ModuleBundler.Proofs.Compile.Preorder
import ModuleBundler.Proofs.Compile.Record
import ModuleBundler.Proofs.Compile.Shared
import ModuleBundler.Proofs.Compile.Success
import ModuleBundler.Proofs.Compile.Termination
import ModuleBundler.Proofs.Config.RoundTrip
import ModuleBundler.Proofs.Decimal.Text
import ModuleBundler.Proofs.Edit.ReadBack
import ModuleBundler.Proofs.Edit.Scanned
import ModuleBundler.Proofs.Edit.Substitution
import ModuleBundler.Proofs.Edit.Walk
import ModuleBundler.Proofs.FileSystem.Memory
import ModuleBundler.Proofs.Graph.Agreement
import ModuleBundler.Proofs.Graph.Bare
import ModuleBundler.Proofs.Graph.Claim
import ModuleBundler.Proofs.Graph.Preorder
import ModuleBundler.Proofs.Graph.Reach
import ModuleBundler.Proofs.Graph.Region
import ModuleBundler.Proofs.Json.Codec
import ModuleBundler.Proofs.Json.Literal
import ModuleBundler.Proofs.Json.Range
import ModuleBundler.Proofs.Json.Record
import ModuleBundler.Proofs.Json.Settled
import ModuleBundler.Proofs.Json.Step
import ModuleBundler.Proofs.Json.Value
import ModuleBundler.Proofs.Json.Written
import ModuleBundler.Proofs.Path.Canonical
import ModuleBundler.Proofs.Path.FirstMatch
import ModuleBundler.Proofs.Path.Joining
import ModuleBundler.Proofs.Path.Name
import ModuleBundler.Proofs.Path.Normal
import ModuleBundler.Proofs.Path.Place
import ModuleBundler.Proofs.Path.Resolve
import ModuleBundler.Proofs.Path.Way
import ModuleBundler.Proofs.Report.ReadBack
import ModuleBundler.Proofs.Run.Atomic
import ModuleBundler.Proofs.Run.Outcome
import ModuleBundler.Proofs.Run.Registered
import ModuleBundler.Proofs.Run.Stored
import ModuleBundler.Proofs.Runtime.Execution
import ModuleBundler.Proofs.Runtime.Loader
import ModuleBundler.Proofs.Runtime.Machine
import ModuleBundler.Proofs.Runtime.Safety
import ModuleBundler.Proofs.Runtime.Script
import ModuleBundler.Proofs.Script.Again
import ModuleBundler.Proofs.Script.Code
import ModuleBundler.Proofs.Script.Exports
import ModuleBundler.Proofs.Script.Extent
import ModuleBundler.Proofs.Script.Front
import ModuleBundler.Proofs.Script.Literal
import ModuleBundler.Proofs.Script.Manner
import ModuleBundler.Proofs.Script.NameCalls
import ModuleBundler.Proofs.Script.Opening
import ModuleBundler.Proofs.Script.Operand
import ModuleBundler.Proofs.Script.Passage
import ModuleBundler.Proofs.Script.Phrase
import ModuleBundler.Proofs.Script.Place
import ModuleBundler.Proofs.Script.Respelling
import ModuleBundler.Proofs.Script.Row
import ModuleBundler.Proofs.Script.Spelling
import ModuleBundler.Proofs.Script.Statement
import ModuleBundler.Proofs.Script.Step
import ModuleBundler.Proofs.Script.Token
import ModuleBundler.Proofs.Script.Value
import ModuleBundler.Proofs.Script.Wording
import ModuleBundler.Proofs.Text.Literal
import ModuleBundler.Proofs.Text.Replacement
import ModuleBundler.Proofs.Text.Utf8
import ModuleBundler.Proofs.Transform.JsonModule
import ModuleBundler.Proofs.Transform.JsonText
import ModuleBundler.Proofs.Transform.Order
import ModuleBundler.Report
import ModuleBundler.Resolve
import ModuleBundler.Script.Character
import ModuleBundler.Script.Dependency
import ModuleBundler.Script.Dialect
import ModuleBundler.Script.Fault
import ModuleBundler.Script.Keyword
import ModuleBundler.Script.Lexer
import ModuleBundler.Script.Lexer.Escape
import ModuleBundler.Script.Lexer.Literal
import ModuleBundler.Script.Lexer.Number
import ModuleBundler.Script.Node
import ModuleBundler.Script.Parser.Declaration
import ModuleBundler.Script.Parser.Expression
import ModuleBundler.Script.Parser.Function
import ModuleBundler.Script.Parser.Grammar
import ModuleBundler.Script.Parser.Markup
import ModuleBundler.Script.Parser.Member
import ModuleBundler.Script.Parser.Module
import ModuleBundler.Script.Parser.Parameter
import ModuleBundler.Script.Parser.Pattern
import ModuleBundler.Script.Parser.Primary
import ModuleBundler.Script.Parser.Program
import ModuleBundler.Script.Parser.State
import ModuleBundler.Script.Parser.Statement
import ModuleBundler.Script.Parser.Type
import ModuleBundler.Script.Span
import ModuleBundler.Script.Token
import ModuleBundler.Text.Quoted
import ModuleBundler.Text.Utf8
import ModuleBundler.Transform
import ModuleBundler.Unicode.Age
import ModuleBundler.Unicode.Casing
import ModuleBundler.Unicode.Category
import ModuleBundler.Unicode.Fold
import ModuleBundler.Unicode.Lookup
import ModuleBundler.Unicode.Membership
import ModuleBundler.Unicode.Name
import ModuleBundler.Unicode.Property
import ModuleBundler.Unicode.Segment
import ModuleBundler.Unicode.WritingSystem
import ModuleBundler.Unicode.WritingSystem.Written
