import SolanaBlocks.Arena.Basic
import SolanaBlocks.Arena.Procedures
import SolanaBlocks.BlockTree.Basic
import SolanaBlocks.BlockTree.Export
import SolanaBlocks.BlockTree.Import
import SolanaBlocks.BlockTree.Json
import SolanaBlocks.BlockTree.Outline
import SolanaBlocks.BlockTree.Prompt
import SolanaBlocks.BlockTree.Reader
import SolanaBlocks.BlockType
import SolanaBlocks.CommandLine.Command
import SolanaBlocks.CommandLine.Duration
import SolanaBlocks.CommandLine.Files
import SolanaBlocks.CommandLine.Help
import SolanaBlocks.CommandLine.Invocation
import SolanaBlocks.CommandLine.Run
import SolanaBlocks.Decimal.Binary
import SolanaBlocks.Decimal.Layout
import SolanaBlocks.Decimal.Reading
import SolanaBlocks.Decimal.Shortest
import SolanaBlocks.Emission.Accounts
import SolanaBlocks.Emission.Control
import SolanaBlocks.Emission.Document
import SolanaBlocks.Emission.Emitter
import SolanaBlocks.Emission.Error
import SolanaBlocks.Emission.Expressions
import SolanaBlocks.Emission.Fragment
import SolanaBlocks.Emission.Programs
import SolanaBlocks.Emission.Rendering
import SolanaBlocks.Emission.Site
import SolanaBlocks.FieldValue
import SolanaBlocks.Generation
import SolanaBlocks.Journal
import SolanaBlocks.Json.Reader
import SolanaBlocks.Json.Value
import SolanaBlocks.Main
import SolanaBlocks.Palette.Basic
import SolanaBlocks.Palette.Index
import SolanaBlocks.Palette.Json
import SolanaBlocks.Palette.Listing
import SolanaBlocks.Palette.Standard
import SolanaBlocks.Proofs.Arena.Atomicity
import SolanaBlocks.Proofs.Arena.Steps
import SolanaBlocks.Proofs.Arena.View
import SolanaBlocks.Proofs.Decimal.Encoding
import SolanaBlocks.Proofs.Decimal.Integers
import SolanaBlocks.Proofs.Decimal.Magnitude
import SolanaBlocks.Proofs.Decimal.Numerals
import SolanaBlocks.Proofs.Decimal.ReadBack
import SolanaBlocks.Proofs.Decimal.Rounding
import SolanaBlocks.Proofs.Emission.Acceptance
import SolanaBlocks.Proofs.Emission.Blame
import SolanaBlocks.Proofs.Emission.Chains
import SolanaBlocks.Proofs.Emission.Checks
import SolanaBlocks.Proofs.Emission.Demands
import SolanaBlocks.Proofs.Emission.Invocations
import SolanaBlocks.Proofs.Emission.Locality
import SolanaBlocks.Proofs.Emission.LoopDirection
import SolanaBlocks.Proofs.Emission.Nesting
import SolanaBlocks.Proofs.Emission.NumberLiterals
import SolanaBlocks.Proofs.Emission.Passing
import SolanaBlocks.Proofs.Emission.Renaming
import SolanaBlocks.Proofs.Emission.Renderers
import SolanaBlocks.Proofs.Emission.Seeds
import SolanaBlocks.Proofs.Emission.Steps
import SolanaBlocks.Proofs.Emission.TextLiterals
import SolanaBlocks.Proofs.Emission.Visits
import SolanaBlocks.Proofs.Forest.BackLink
import SolanaBlocks.Proofs.Forest.Chain
import SolanaBlocks.Proofs.Forest.Connected
import SolanaBlocks.Proofs.Forest.Contents
import SolanaBlocks.Proofs.Forest.Creation
import SolanaBlocks.Proofs.Forest.Descent
import SolanaBlocks.Proofs.Forest.Detach
import SolanaBlocks.Proofs.Forest.Elsewhere
import SolanaBlocks.Proofs.Forest.Forest
import SolanaBlocks.Proofs.Forest.Kinds
import SolanaBlocks.Proofs.Forest.Lasso
import SolanaBlocks.Proofs.Forest.Layout
import SolanaBlocks.Proofs.Forest.LineMoves
import SolanaBlocks.Proofs.Forest.LineRemoval
import SolanaBlocks.Proofs.Forest.Lines
import SolanaBlocks.Proofs.Forest.Moves
import SolanaBlocks.Proofs.Forest.Orderly
import SolanaBlocks.Proofs.Forest.Outcomes
import SolanaBlocks.Proofs.Forest.Ownership
import SolanaBlocks.Proofs.Forest.Rebinding
import SolanaBlocks.Proofs.Forest.References
import SolanaBlocks.Proofs.Forest.Release
import SolanaBlocks.Proofs.Forest.Removal
import SolanaBlocks.Proofs.Forest.Revisions
import SolanaBlocks.Proofs.Forest.Seating
import SolanaBlocks.Proofs.Forest.Splice
import SolanaBlocks.Proofs.Forest.Statements
import SolanaBlocks.Proofs.Forest.Subtrees
import SolanaBlocks.Proofs.Forest.Succession
import SolanaBlocks.Proofs.Forest.Tables
import SolanaBlocks.Proofs.Forest.Walks
import SolanaBlocks.Proofs.Generation.Accounting
import SolanaBlocks.Proofs.Generation.Batches
import SolanaBlocks.Proofs.Generation.Levels
import SolanaBlocks.Proofs.Generation.Queue
import SolanaBlocks.Proofs.Grammar.Basic
import SolanaBlocks.Proofs.Grammar.Escapes
import SolanaBlocks.Proofs.Grammar.Literals
import SolanaBlocks.Proofs.Grammar.Parentheses
import SolanaBlocks.Proofs.Grammar.Reading
import SolanaBlocks.Proofs.Grammar.Tokens
import SolanaBlocks.Proofs.Grammar.Unambiguous
import SolanaBlocks.Proofs.Json.Numbers
import SolanaBlocks.Proofs.Json.Pages
import SolanaBlocks.Proofs.Json.Strings
import SolanaBlocks.Proofs.Palette.Registration
import SolanaBlocks.Proofs.Precedence.Embedding
import SolanaBlocks.Proofs.Precedence.Expressions
import SolanaBlocks.Proofs.Precedence.Parentheses
import SolanaBlocks.Proofs.Precedence.SignOperand
import SolanaBlocks.Proofs.Precedence.Trees
import SolanaBlocks.Proofs.Session.Debounce
import SolanaBlocks.Proofs.Session.Display
import SolanaBlocks.Proofs.Session.Honesty
import SolanaBlocks.Proofs.Session.Interleaving
import SolanaBlocks.Proofs.Session.Lateness
import SolanaBlocks.Proofs.Session.Requests
import SolanaBlocks.Proofs.Session.Schedule
import SolanaBlocks.Proofs.Session.Watching
import SolanaBlocks.Proofs.Settings.Overrides
import SolanaBlocks.Proofs.Text.Fences
import SolanaBlocks.Proofs.Text.SnakeCase
import SolanaBlocks.Proofs.Trees.Acceptance
import SolanaBlocks.Proofs.Trees.Codec
import SolanaBlocks.Proofs.Trees.Counts
import SolanaBlocks.Proofs.Trees.Coverage
import SolanaBlocks.Proofs.Trees.Depiction
import SolanaBlocks.Proofs.Trees.Export
import SolanaBlocks.Proofs.Trees.Meeting
import SolanaBlocks.Proofs.Trees.Normal
import SolanaBlocks.Proofs.Trees.Planting
import SolanaBlocks.Proofs.Trees.RoundTrip
import SolanaBlocks.Proofs.Trees.Text
import SolanaBlocks.Refinement.Basic
import SolanaBlocks.Refinement.Error
import SolanaBlocks.Refinement.Http
import SolanaBlocks.Session.Basic
import SolanaBlocks.Session.Debounce
import SolanaBlocks.Session.Display
import SolanaBlocks.Session.Moment
import SolanaBlocks.Session.Timeline
import SolanaBlocks.Settings.Basic
import SolanaBlocks.Settings.Environment
import SolanaBlocks.Settings.Reader
import SolanaBlocks.Text.Blank
import SolanaBlocks.Text.CaseTable
import SolanaBlocks.Text.Composition
import SolanaBlocks.Text.CompositionTable
import SolanaBlocks.Text.Fenced
import SolanaBlocks.Text.Identifier
import SolanaBlocks.Text.Letter
import SolanaBlocks.Text.Lines
import SolanaBlocks.Text.MarkTable
import SolanaBlocks.Text.Padded
import SolanaBlocks.Text.PrintableTable
import SolanaBlocks.Text.Quoted
import SolanaBlocks.Text.Split
import SolanaBlocks.Text.Table
import SolanaBlocks.Toml.Basic
import SolanaBlocks.Toml.Reader
import SolanaBlocks.Url.Basic
import SolanaBlocks.Url.Domain
import SolanaBlocks.Url.DomainTable
import SolanaBlocks.Url.Host
import SolanaBlocks.Url.Punycode
import SolanaBlocks.Url.Reader
import SolanaBlocks.Url.Script
import SolanaBlocks.Url.ScriptTable
import SolanaBlocks.Wait
import SolanaBlocks.Workspace.Basic
import SolanaBlocks.Workspace.Edit
import SolanaBlocks.Workspace.EditError
import SolanaBlocks.Workspace.Walk
