import CMakeGrammar.Text.WordChar
import CMakeGrammar.Text.Quoted
import CMakeGrammar.Text.Runs
import CMakeGrammar.Text.Split
import CMakeGrammar.Text.Utf8
import CMakeGrammar.Language
import CMakeGrammar.Vocabulary
import CMakeGrammar.Alternation
import CMakeGrammar.Help.Signature
import CMakeGrammar.Help.GeneratorExpression
import CMakeGrammar.Help.Directive
import CMakeGrammar.Help.Version
import CMakeGrammar.Help.Listing
import CMakeGrammar.Number.Notation
import CMakeGrammar.Json.Printer
import CMakeGrammar.Json.Reader
import CMakeGrammar.Recorded
import CMakeGrammar.Log
import CMakeGrammar.LogFilter
import CMakeGrammar.Template.Value
import CMakeGrammar.Template.Frame
import CMakeGrammar.Template.Helper
import CMakeGrammar.Grammar
import CMakeGrammar.Error
import CMakeGrammar.Query
import CMakeGrammar.Client
import CMakeGrammar.Extraction
import CMakeGrammar.Gather
import CMakeGrammar.Shape
import CMakeGrammar.Toml.Value
import CMakeGrammar.Toml.Build
import CMakeGrammar.Toml.Text
import CMakeGrammar.Toml.Number
import CMakeGrammar.Toml.Reader
import CMakeGrammar.Toml.Decode
import CMakeGrammar.Config
import CMakeGrammar.CommandLine
import CMakeGrammar.FileSystem
import CMakeGrammar.Loading
import CMakeGrammar.Program
import CMakeGrammar.Reply
import CMakeGrammar.Shell.Script
import CMakeGrammar.Shell.Printing
import CMakeGrammar.Shell.Run
import CMakeGrammar.Shell.System
import CMakeGrammar.Main
import CMakeGrammar.Proofs.Text.Utf8
import CMakeGrammar.Proofs.Text.Entry
import CMakeGrammar.Proofs.Help.Shape
import CMakeGrammar.Proofs.Json.Literal
import CMakeGrammar.Proofs.Json.Spelling
import CMakeGrammar.Proofs.Json.Spread
import CMakeGrammar.Proofs.Json.Pretty
import CMakeGrammar.Proofs.Json.Content
import CMakeGrammar.Proofs.Vocabulary.Dump
import CMakeGrammar.Proofs.Template.Comparison
import CMakeGrammar.Proofs.Template.Showing
import CMakeGrammar.Proofs.Template.Lines
import CMakeGrammar.Proofs.Template.Overflow
import CMakeGrammar.Proofs.Grammar.Document
import CMakeGrammar.Proofs.Grammar.Nodes
import CMakeGrammar.Proofs.Grammar.Source
import CMakeGrammar.Proofs.Grammar.Rendering
import CMakeGrammar.Proofs.Grammar.Description
import CMakeGrammar.Proofs.Grammar.References
import CMakeGrammar.Proofs.Regex.Expression
import CMakeGrammar.Proofs.Regex.Alternatives
import CMakeGrammar.Proofs.Grammar.Opening
import CMakeGrammar.Proofs.Gather.Following
import CMakeGrammar.Proofs.Gather.Plan
import CMakeGrammar.Proofs.Gather.WellFormed
import CMakeGrammar.Proofs.FileSystem.Writing
import CMakeGrammar.Proofs.Program.Delivery
import CMakeGrammar.Proofs.Text.Places
import CMakeGrammar.Proofs.Regex.Search
import CMakeGrammar.Proofs.Regex.Language
import CMakeGrammar.Proofs.Regex.Words
import CMakeGrammar.Proofs.Grammar.WordRules
import CMakeGrammar.Proofs.Gather.Answers
import CMakeGrammar.Proofs.Help.Listing
import CMakeGrammar.Proofs.Gather.Comparison
import CMakeGrammar.Proofs.Gather.Relisting
import CMakeGrammar.Proofs.Gather.Stoplist
import CMakeGrammar.Proofs.Gather.Exclusion
import CMakeGrammar.Proofs.Gather.Provenance
import CMakeGrammar.Proofs.Help.Segments
import CMakeGrammar.Proofs.Gather.Clients
import CMakeGrammar.Proofs.Alternation.Pieces
import CMakeGrammar.Proofs.Alternation.Recovery
import CMakeGrammar.Proofs.Grammar.Alternatives
import CMakeGrammar.Proofs.Program.Stages
import CMakeGrammar.Proofs.Toml.Decoding
import CMakeGrammar.Proofs.Toml.Keys
import CMakeGrammar.Proofs.Config.Template
import CMakeGrammar.Proofs.Config.Settings
import CMakeGrammar.Proofs.Config.Loading
import CMakeGrammar.Proofs.FileSystem.Resemblance
import CMakeGrammar.Proofs.Program.Independence
import CMakeGrammar.Proofs.Text.Collapsing
import CMakeGrammar.Proofs.Help.Division
import CMakeGrammar.Proofs.Help.Declarations
import CMakeGrammar.Proofs.Help.Occurrences
import CMakeGrammar.Proofs.Text.Tightening
import CMakeGrammar.Proofs.Help.Spacing
import CMakeGrammar.Proofs.Help.Keywords
import CMakeGrammar.Proofs.Help.Sections
import CMakeGrammar.Proofs.Gather.Failures
import CMakeGrammar.Proofs.Help.Directives
import CMakeGrammar.Proofs.Help.Versions
import CMakeGrammar.Proofs.Regex.Preference
import CMakeGrammar.Proofs.Regex.Captures
import CMakeGrammar.Proofs.Text.Wrapping
import CMakeGrammar.Proofs.Help.Expressions
import CMakeGrammar.Proofs.Help.Substitution
