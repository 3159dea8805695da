import ScriptedTemplate.Bindings
import ScriptedTemplate.CommandLine.Arguments
import ScriptedTemplate.CommandLine.FileTree
import ScriptedTemplate.CommandLine.Files
import ScriptedTemplate.CommandLine.Log
import ScriptedTemplate.CommandLine.Model
import ScriptedTemplate.CommandLine.Run
import ScriptedTemplate.CommandLine.Usage
import ScriptedTemplate.Compile
import ScriptedTemplate.Decimal.Arithmetic
import ScriptedTemplate.Decimal.Binary
import ScriptedTemplate.Decimal.Layout
import ScriptedTemplate.Decimal.Places
import ScriptedTemplate.Decimal.Power
import ScriptedTemplate.Decimal.Reader
import ScriptedTemplate.Decimal.Shortest
import ScriptedTemplate.Evaluator
import ScriptedTemplate.Failure
import ScriptedTemplate.Generator
import ScriptedTemplate.Json.Basic
import ScriptedTemplate.Json.Data
import ScriptedTemplate.Json.Number
import ScriptedTemplate.Json.Printer
import ScriptedTemplate.Json.Reader
import ScriptedTemplate.Main
import ScriptedTemplate.Marker.Basic
import ScriptedTemplate.Marker.Detector
import ScriptedTemplate.Marker.Trie
import ScriptedTemplate.Options.Basic
import ScriptedTemplate.Options.Printer
import ScriptedTemplate.Options.Reader
import ScriptedTemplate.Output.Buffers
import ScriptedTemplate.Output.Use
import ScriptedTemplate.Program
import ScriptedTemplate.Proofs.CommandLine.FileTree
import ScriptedTemplate.Proofs.CommandLine.Files
import ScriptedTemplate.Proofs.CommandLine.Layering
import ScriptedTemplate.Proofs.CommandLine.Stages
import ScriptedTemplate.Proofs.Generator.Data
import ScriptedTemplate.Proofs.Generator.Failing
import ScriptedTemplate.Proofs.Generator.History
import ScriptedTemplate.Proofs.Generator.Isolation
import ScriptedTemplate.Proofs.Generator.LineEnds
import ScriptedTemplate.Proofs.Generator.Looping
import ScriptedTemplate.Proofs.Generator.Outcomes
import ScriptedTemplate.Proofs.Generator.Splicing
import ScriptedTemplate.Proofs.Generator.Trimming
import ScriptedTemplate.Proofs.Marker.Arena
import ScriptedTemplate.Proofs.Marker.Detector
import ScriptedTemplate.Proofs.Marker.Division
import ScriptedTemplate.Proofs.Marker.Flaws
import ScriptedTemplate.Proofs.Marker.Reading
import ScriptedTemplate.Proofs.Marker.Search
import ScriptedTemplate.Proofs.Marker.Trie
import ScriptedTemplate.Proofs.Marker.Words
import ScriptedTemplate.Proofs.Options.Reader
import ScriptedTemplate.Proofs.Output.Use
import ScriptedTemplate.Proofs.Program.Assembly
import ScriptedTemplate.Proofs.Program.Lines
import ScriptedTemplate.Proofs.Script.Agreeing
import ScriptedTemplate.Proofs.Script.Blocks
import ScriptedTemplate.Proofs.Script.Expressions
import ScriptedTemplate.Proofs.Script.Failing
import ScriptedTemplate.Proofs.Script.Lexing
import ScriptedTemplate.Proofs.Script.Locality
import ScriptedTemplate.Proofs.Script.Looping
import ScriptedTemplate.Proofs.Script.Parsing
import ScriptedTemplate.Proofs.Script.Quotations
import ScriptedTemplate.Proofs.Script.Running
import ScriptedTemplate.Proofs.Script.Taking
import ScriptedTemplate.Proofs.Slice.Escape
import ScriptedTemplate.Proofs.Slice.Indent
import ScriptedTemplate.Proofs.Slice.Joining
import ScriptedTemplate.Proofs.Slice.Layout
import ScriptedTemplate.Proofs.Slice.Offsets
import ScriptedTemplate.Proofs.Slice.Payload
import ScriptedTemplate.Proofs.Slice.Verdict
import ScriptedTemplate.Proofs.Text.Octets
import ScriptedTemplate.Proofs.Text.Offsets
import ScriptedTemplate.Proofs.Text.Replacement
import ScriptedTemplate.Proofs.Value.Data
import ScriptedTemplate.Script.Arguments
import ScriptedTemplate.Script.Call
import ScriptedTemplate.Script.Constant
import ScriptedTemplate.Script.Evaluate
import ScriptedTemplate.Script.Fault
import ScriptedTemplate.Script.Filter
import ScriptedTemplate.Script.Format
import ScriptedTemplate.Script.Grammar
import ScriptedTemplate.Script.Host
import ScriptedTemplate.Script.Lexer
import ScriptedTemplate.Script.Literal
import ScriptedTemplate.Script.Machine
import ScriptedTemplate.Script.Operation
import ScriptedTemplate.Script.Operator
import ScriptedTemplate.Script.Phrase
import ScriptedTemplate.Script.Reader
import ScriptedTemplate.Script.Scope
import ScriptedTemplate.Script.Test
import ScriptedTemplate.Script.Token
import ScriptedTemplate.Script.Tree
import ScriptedTemplate.Slice.Basic
import ScriptedTemplate.Slice.Mode
import ScriptedTemplate.Slice.Offsets
import ScriptedTemplate.Slice.Slicer
import ScriptedTemplate.Text.Basic
import ScriptedTemplate.Text.Blank
import ScriptedTemplate.Text.Case
import ScriptedTemplate.Text.Digits
import ScriptedTemplate.Text.Edit
import ScriptedTemplate.Text.Letter
import ScriptedTemplate.Text.Octets
import ScriptedTemplate.Text.Quoted
import ScriptedTemplate.Text.Shapeless
import ScriptedTemplate.Value.Basic
import ScriptedTemplate.Value.Display
import ScriptedTemplate.Value.Identity
import ScriptedTemplate.Value.Order
import ScriptedTemplate.Yaml.Data
import ScriptedTemplate.Yaml.Extract
import ScriptedTemplate.Yaml.Fault
import ScriptedTemplate.Yaml.Lexer
import ScriptedTemplate.Yaml.Mark
import ScriptedTemplate.Yaml.Node
import ScriptedTemplate.Yaml.Printer
import ScriptedTemplate.Yaml.Reader
import ScriptedTemplate.Yaml.Scalar.Block
import ScriptedTemplate.Yaml.Scalar.Gap
import ScriptedTemplate.Yaml.Scalar.Plain
import ScriptedTemplate.Yaml.Scalar.Quoted
import ScriptedTemplate.Yaml.Schema
import ScriptedTemplate.Yaml.Tag
import ScriptedTemplate.Yaml.Token
