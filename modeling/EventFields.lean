import EventFields.Accessor
import EventFields.Analysis
import EventFields.Analysis.Tasks
import EventFields.Catalog
import EventFields.Catalog.Json
import EventFields.Command
import EventFields.CommandLine.Argument
import EventFields.CommandLine.Help
import EventFields.CommandLine.Invocation
import EventFields.CommandLine.Parser
import EventFields.Diagnostic
import EventFields.FieldList
import EventFields.FieldMapping
import EventFields.Inference
import EventFields.Interface.Annotation
import EventFields.Interface.Basic
import EventFields.Interface.Json
import EventFields.Json.Basic
import EventFields.Json.Draft
import EventFields.Json.Reader
import EventFields.Json.Token
import EventFields.Json.Writer
import EventFields.Main
import EventFields.Name
import EventFields.Number.Decimal
import EventFields.Number.Double
import EventFields.Pattern.Basic
import EventFields.Pattern.ByteRange
import EventFields.Pattern.CharacterSet
import EventFields.Pattern.Expression
import EventFields.Pattern.Extent
import EventFields.Pattern.Meaning
import EventFields.Pattern.Parser
import EventFields.Pattern.Property
import EventFields.Pattern.Search
import EventFields.Program
import EventFields.Proofs.FieldList
import EventFields.Proofs.FieldMapping.FirstOccurrence
import EventFields.Proofs.FieldMapping.Writes
import EventFields.Proofs.Inference.Meaning
import EventFields.Proofs.Inference.Steps
import EventFields.Proofs.Inference.Trace
import EventFields.Proofs.Registry.History
import EventFields.Proofs.SortedMap
import EventFields.Proofs.Text.Trimming
import EventFields.Proofs.TypeRef.Grammar
import EventFields.Proofs.TypeRef.RoundTrip
import EventFields.Report
import EventFields.Selection
import EventFields.Settings.Basic
import EventFields.Settings.Environment
import EventFields.Settings.Load
import EventFields.Settings.Value
import EventFields.SortedMap
import EventFields.Text.Alphanumeric
import EventFields.Text.Blank
import EventFields.Text.Folding
import EventFields.Text.Hexadecimal
import EventFields.Text.Join
import EventFields.Text.Lowercase
import EventFields.Text.Printable
import EventFields.Text.Quoted
import EventFields.Text.Ranges
import EventFields.Toml.Basic
import EventFields.Toml.Document
import EventFields.Toml.Number
import EventFields.Toml.Parser
import EventFields.Toml.Text
import EventFields.TypeRef.Basic
import EventFields.TypeRef.Parser
import EventFields.TypeRef.Printer
import EventFields.Unicode.Age
import EventFields.Unicode.Category
import EventFields.Unicode.Script
import EventFields.Unicode.ScriptExtension
import EventFields.Unicode.Segmentation
import EventFields.Unicode.Table
import EventFields.Unicode.Trait
import EventFields.Proofs.Analysis.Tasks
import EventFields.Proofs.Inference.Failure
import EventFields.Proofs.Analysis.InOrder
import EventFields.Proofs.Analysis.SideBySide
import EventFields.Proofs.Inference.BadLists
import EventFields.Proofs.Inference.Warnings
import EventFields.Proofs.Text.Encoding
import EventFields.Proofs.Catalog.Search
import EventFields.Proofs.Registry.Catalog
import EventFields.Proofs.Command.Agreement
import EventFields.Proofs.FieldList.Entries
import EventFields.Proofs.FieldList.Rendering
import EventFields.Proofs.Interface.WellFormed
import EventFields.Proofs.Interface.RoundTrip
import EventFields.Proofs.Json.Scanning
import EventFields.Proofs.Json.Spelling
import EventFields.Proofs.FieldMapping.WellFormed
import EventFields.Proofs.Catalog.RoundTrip
import EventFields.Proofs.Inference.WellFormed
import EventFields.Proofs.Analysis.WellFormed
import EventFields.Proofs.Inference.MethodOrder
import EventFields.Proofs.Inference.Inputs
import EventFields.Proofs.TypeRef.Canonical
import EventFields.Proofs.TypeRef.Offence
import EventFields.Proofs.FieldMapping.Operations
import EventFields.Proofs.FieldMapping.Merge
import EventFields.Proofs.Accessor
import EventFields.Proofs.Selection
import EventFields.Proofs.Analysis.Narrowing
import EventFields.Proofs.Catalog.Lookup
import EventFields.Proofs.Interface.Signature
import EventFields.Proofs.TypeRef.Position
import EventFields.TypeRef.Position
import EventFields.Proofs.Command.Report
import EventFields.Proofs.Report
