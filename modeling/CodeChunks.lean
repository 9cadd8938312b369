import CodeChunks.Batch
import CodeChunks.Budget
import CodeChunks.Chunk.Basic
import CodeChunks.Chunk.Document
import CodeChunks.Chunker
import CodeChunks.Chunking.Draft
import CodeChunks.Chunking.Limits
import CodeChunks.Chunking.Render
import CodeChunks.Chunking.Run
import CodeChunks.Chunking.Selection
import CodeChunks.Chunking.View
import CodeChunks.Classifier
import CodeChunks.Config.Basic
import CodeChunks.Config.Environment
import CodeChunks.Config.EnvironmentFile
import CodeChunks.Decimal.Duration
import CodeChunks.Decimal.Exact
import CodeChunks.Decimal.Fixed
import CodeChunks.Decimal.Numeral
import CodeChunks.Decimal.Shortest
import CodeChunks.Digest.Blake3
import CodeChunks.Digest.Content
import CodeChunks.Digest.Sip
import CodeChunks.Error
import CodeChunks.Evidence.Aggregate
import CodeChunks.Evidence.Basic
import CodeChunks.Evidence.Verdict
import CodeChunks.Grammar.Basic
import CodeChunks.Grammar.Document
import CodeChunks.Grammar.Load
import CodeChunks.Grammar.Registry
import CodeChunks.Json.Basic
import CodeChunks.Json.Reader
import CodeChunks.Json.Record
import CodeChunks.Language.Basic
import CodeChunks.Language.Detect
import CodeChunks.Language.Family
import CodeChunks.Meter
import CodeChunks.Names
import CodeChunks.Overrides.Basic
import CodeChunks.Overrides.Builtin
import CodeChunks.Overrides.Context
import CodeChunks.Overrides.Pattern
import CodeChunks.Path
import CodeChunks.Proofs.Batch.Reports
import CodeChunks.Proofs.Batch.Schedules
import CodeChunks.Proofs.Batch.Steps
import CodeChunks.Proofs.Chunking.Anchors
import CodeChunks.Proofs.Chunking.Ceilings
import CodeChunks.Proofs.Chunking.Choice
import CodeChunks.Proofs.Chunking.Coverage
import CodeChunks.Proofs.Chunking.Emitted
import CodeChunks.Proofs.Chunking.Limit
import CodeChunks.Proofs.Chunking.Lines
import CodeChunks.Proofs.Chunking.Nesting
import CodeChunks.Proofs.Chunking.Order
import CodeChunks.Proofs.Chunking.Repeat
import CodeChunks.Proofs.Chunking.Runs
import CodeChunks.Proofs.Chunking.Siblings
import CodeChunks.Proofs.Chunking.Stretch
import CodeChunks.Proofs.Chunking.Time
import CodeChunks.Proofs.Classifier.Memory
import CodeChunks.Proofs.Contents.Calls
import CodeChunks.Proofs.Contents.Counts
import CodeChunks.Proofs.Contents.Retention
import CodeChunks.Proofs.Document.RoundTrip
import CodeChunks.Proofs.Evidence.Combined
import CodeChunks.Proofs.Evidence.Deciding
import CodeChunks.Proofs.Evidence.Made
import CodeChunks.Proofs.Evidence.Range
import CodeChunks.Proofs.Evidence.Reordered
import CodeChunks.Proofs.Evidence.Shortcut
import CodeChunks.Proofs.Evidence.Silence
import CodeChunks.Proofs.Evidence.Winner
import CodeChunks.Proofs.Grammar.Categories
import CodeChunks.Proofs.Grammar.History
import CodeChunks.Proofs.Grammar.Prevailing
import CodeChunks.Proofs.Language.Families
import CodeChunks.Proofs.Overrides.Isolation
import CodeChunks.Proofs.Overrides.Refinement
import CodeChunks.Proofs.Overrides.Surroundings
import CodeChunks.Proofs.Store.Callers
import CodeChunks.Proofs.Store.Offer
import CodeChunks.Proofs.Store.Recency
import CodeChunks.Proofs.Store.Shards
import CodeChunks.Proofs.Taxonomy.Handles
import CodeChunks.Proofs.Text.Boundary
import CodeChunks.Proofs.Text.LineIndex
import CodeChunks.Proofs.Tree.Additions
import CodeChunks.Proofs.Tree.Built
import CodeChunks.Proofs.Tree.Parents
import CodeChunks.Regex.Basic
import CodeChunks.Regex.Find
import CodeChunks.Regex.Footprint
import CodeChunks.Regex.Look
import CodeChunks.Regex.Parse
import CodeChunks.Regex.Program
import CodeChunks.Regex.Property
import CodeChunks.Regex.Property.Age
import CodeChunks.Regex.Property.Break
import CodeChunks.Regex.Property.Category
import CodeChunks.Regex.Property.Script
import CodeChunks.Regex.Property.Trait
import CodeChunks.Regex.Read.Bracket
import CodeChunks.Regex.Read.Escape
import CodeChunks.Regex.Read.Flags
import CodeChunks.Regex.Read.Group
import CodeChunks.Signal
import CodeChunks.Store.Cache
import CodeChunks.Store.Recent
import CodeChunks.Store.Reserve
import CodeChunks.Store.Stats
import CodeChunks.SyntaxTree
import CodeChunks.Table
import CodeChunks.Taxonomy.Basic
import CodeChunks.Taxonomy.Class
import CodeChunks.Taxonomy.Importance
import CodeChunks.Taxonomy.Register
import CodeChunks.Text.Blank
import CodeChunks.Text.ByteRange
import CodeChunks.Text.CaseFold
import CodeChunks.Text.CaseRun
import CodeChunks.Text.CodeSet
import CodeChunks.Text.Lines
import CodeChunks.Text.LowerCase
import CodeChunks.Text.Property
import CodeChunks.Text.Search
import CodeChunks.Text.Slice
import CodeChunks.Timestamp
import CodeChunks.Tokenizer
import CodeChunks.Tokens
import CodeChunks.Uuid
