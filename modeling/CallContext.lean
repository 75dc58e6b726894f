import CallContext.Analysis.Calls
import CallContext.Analysis.Definitions
import CallContext.Analysis.Imports
import CallContext.CommandLine.Arguments
import CallContext.CommandLine.Run
import CallContext.Files.FileSystem
import CallContext.Files.Path
import CallContext.Grammar.Automaton
import CallContext.Grammar.Automaton.GotosA
import CallContext.Grammar.Automaton.GotosB
import CallContext.Grammar.Automaton.RowsA
import CallContext.Grammar.Automaton.RowsB
import CallContext.Grammar.Automaton.RowsC
import CallContext.Grammar.Automaton.RowsD
import CallContext.Grammar.Automaton.RowsE
import CallContext.Grammar.Lexeme
import CallContext.Grammar.Reduction
import CallContext.Grammar.Symbol
import CallContext.Main
import CallContext.Model.CalleeSet
import CallContext.Model.Catalog
import CallContext.Model.Element
import CallContext.Model.ElementId
import CallContext.Model.Error
import CallContext.Model.Import
import CallContext.Model.Sorted
import CallContext.Parsing.Layout
import CallContext.Parsing.Machine
import CallContext.Parsing.Recovery
import CallContext.Parsing.Run
import CallContext.Parsing.Stack
import CallContext.Parsing.Subtree
import CallContext.Parsing.Token
import CallContext.Parsing.Version
import CallContext.Project.Analysis
import CallContext.Project.Basic
import CallContext.Project.Config
import CallContext.Project.Imports
import CallContext.Project.Modules
import CallContext.Project.Settings
import CallContext.Report.Context
import CallContext.Report.Json
import CallContext.Report.Record
import CallContext.Syntax.Module
import CallContext.Syntax.Node
import CallContext.Proofs.Syntax.Form
import CallContext.Syntax.Tag
import CallContext.Syntax.Walk
import CallContext.Text.Blank
import CallContext.Text.Cursor
import CallContext.Text.Identifier
import CallContext.Toml.Item
import CallContext.Toml.Reader
import CallContext.Proofs.Parsing.Order
import CallContext.Proofs.Parsing.Height
import CallContext.Proofs.Parsing.Stack
import CallContext.Proofs.Parsing.Machine
import CallContext.Proofs.Parsing.Recovery
import CallContext.Proofs.Parsing.Run
import CallContext.Proofs.Syntax.Nesting
import CallContext.Proofs.Analysis.Definitions
import CallContext.Proofs.Files.Path
import CallContext.Proofs.Analysis.Calls
import CallContext.Proofs.Project.Scan
import CallContext.Proofs.Project.SourceFiles
import CallContext.Proofs.Project.Callers
import CallContext.Proofs.Syntax.Alike
import CallContext.Proofs.Analysis.Excerpts
import CallContext.Proofs.Project.Symmetry
import CallContext.Proofs.Files.FileSystem
import CallContext.Proofs.Project.Location
import CallContext.Proofs.Project.Analysis
import CallContext.Proofs.Analysis.Imports
import CallContext.Proofs.Files.Spelling
import CallContext.Proofs.Project.Imports
import CallContext.Proofs.Files.Identifier
import CallContext.Proofs.Project.SearchOrder
import CallContext.Proofs.Project.Relocation
import CallContext.Proofs.Project.SizeLimit
import CallContext.Proofs.Report.Grammar
import CallContext.Proofs.Report.Json
import CallContext.Proofs.Report.Record
import CallContext.Proofs.Model.Refinement
import CallContext.Proofs.Analysis.Redefinitions
import CallContext.Proofs.Project.Selection
import CallContext.Proofs.Project.Containment
import CallContext.Proofs.Project.Submodules
import CallContext.Proofs.Analysis.Targets
import CallContext.Proofs.Analysis.Docstrings
import CallContext.Proofs.Syntax.Spacing
import CallContext.Proofs.Syntax.Tokens
import CallContext.Proofs.Analysis.Tokens
import CallContext.Proofs.Analysis.Records
import CallContext.Proofs.Report.Context
import CallContext.Proofs.Toml.Reading
import CallContext.Proofs.Toml.Document
import CallContext.Proofs.Toml.Members
import CallContext.Proofs.Toml.Spelling
import CallContext.Proofs.Project.Config
import CallContext.Proofs.Grammar.Rows
import CallContext.Proofs.Grammar.Past
import CallContext.Proofs.Grammar.Levels
import CallContext.Proofs.Parsing.Conformity
import CallContext.Proofs.Parsing.Links
import CallContext.Proofs.Parsing.LawfulSteps
import CallContext.Proofs.Parsing.LawfulRecovery
import CallContext.Proofs.Parsing.Spelling
import CallContext.Proofs.Parsing.LawfulRun
import CallContext.Proofs.Parsing.Termination
import CallContext.Proofs.Syntax.Display
import CallContext.Proofs.Syntax.ImportShape
import CallContext.Proofs.Syntax.Shape
import CallContext.Proofs.Syntax.Shapely
import CallContext.Proofs.Syntax.Faults
