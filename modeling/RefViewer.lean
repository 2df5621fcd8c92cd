import RefViewer.Card.Address
import RefViewer.Card.Basic
import RefViewer.Card.Html
import RefViewer.Card.Targets
import RefViewer.Channel.Basic
import RefViewer.Channel.Link
import RefViewer.Channel.Worker
import RefViewer.CommandLine
import RefViewer.Dataset
import RefViewer.Dataset.Decode
import RefViewer.Dataset.Encode
import RefViewer.Debounce
import RefViewer.Engine
import RefViewer.Failure
import RefViewer.Index
import RefViewer.Ini
import RefViewer.Json.Basic
import RefViewer.Json.Cause
import RefViewer.Json.Decode
import RefViewer.Json.Node
import RefViewer.Json.Reader
import RefViewer.Json.Relaxed
import RefViewer.Json.Writer
import RefViewer.Main
import RefViewer.Message
import RefViewer.Message.Decode
import RefViewer.Message.Encode
import RefViewer.Number.Basic
import RefViewer.Number.Decimal
import RefViewer.Number.Shortest
import RefViewer.Pattern.CharClass
import RefViewer.Pattern.Property
import RefViewer.Pattern.Reader
import RefViewer.Pattern.Regex
import RefViewer.Program
import RefViewer.Query.Compiled
import RefViewer.Query.Error
import RefViewer.Query.Expr
import RefViewer.Query.Field
import RefViewer.Query.Grammar
import RefViewer.Query.Precedence
import RefViewer.Query.Reader
import RefViewer.Query.Resolve
import RefViewer.Query.Size
import RefViewer.Query.Term
import RefViewer.Query.Value
import RefViewer.Render
import RefViewer.Ron
import RefViewer.Session
import RefViewer.Settings
import RefViewer.Settings.Given
import RefViewer.Settings.Layer
import RefViewer.Stats
import RefViewer.Time.Age
import RefViewer.Time.Calendar
import RefViewer.Time.Instant
import RefViewer.Toml.Basic
import RefViewer.Toml.Reader
import RefViewer.Toml.Scalar
import RefViewer.Toml.Text
import RefViewer.Unicode.CaseTable
import RefViewer.Unicode.Category
import RefViewer.Unicode.CodePoint
import RefViewer.Unicode.CodeSet
import RefViewer.Unicode.Letter
import RefViewer.Unicode.Property
import RefViewer.Unicode.Script
import RefViewer.Unicode.ShiftTable
import RefViewer.Unicode.Utf8
import RefViewer.Viewer
import RefViewer.Yaml.Block
import RefViewer.Yaml.Flow
import RefViewer.Yaml.Scalar
import RefViewer.Proofs.Card.Classes
import RefViewer.Proofs.Card.Links
import RefViewer.Proofs.Card.Markup
import RefViewer.Proofs.Card.Outline
import RefViewer.Proofs.Card.Tree
import RefViewer.Proofs.Channel.Loss
import RefViewer.Proofs.Channel.Operations
import RefViewer.Proofs.Channel.Pairing
import RefViewer.Proofs.Channel.Submission
import RefViewer.Proofs.Channel.World
import RefViewer.Proofs.Dataset.Nulls
import RefViewer.Proofs.Engine.Cache
import RefViewer.Proofs.Engine.Composition
import RefViewer.Proofs.Engine.Flags
import RefViewer.Proofs.Engine.Reuse
import RefViewer.Proofs.Engine.Safety
import RefViewer.Proofs.Engine.Selection
import RefViewer.Proofs.Engine.Visibility
import RefViewer.Proofs.Json.Decoding
import RefViewer.Proofs.Json.Floats
import RefViewer.Proofs.Json.Numerals
import RefViewer.Proofs.Json.Omission
import RefViewer.Proofs.Json.Portable
import RefViewer.Proofs.Json.Rows
import RefViewer.Proofs.Json.Spelling
import RefViewer.Proofs.Message.RoundTrip
import RefViewer.Proofs.Query.Comparing
import RefViewer.Proofs.Query.Completion
import RefViewer.Proofs.Query.Composition
import RefViewer.Proofs.Query.Cuts
import RefViewer.Proofs.Query.Grouping
import RefViewer.Proofs.Query.Height
import RefViewer.Proofs.Query.Kinds
import RefViewer.Proofs.Query.Leaves
import RefViewer.Proofs.Query.Limits
import RefViewer.Proofs.Query.Literals
import RefViewer.Proofs.Query.Marks
import RefViewer.Proofs.Query.Misses
import RefViewer.Proofs.Query.Operands
import RefViewer.Proofs.Query.Outcome
import RefViewer.Proofs.Query.Phrase
import RefViewer.Proofs.Query.PhraseCover
import RefViewer.Proofs.Query.PhraseReading
import RefViewer.Proofs.Query.Positions
import RefViewer.Proofs.Query.Printing
import RefViewer.Proofs.Query.Progress
import RefViewer.Proofs.Query.Respelling
import RefViewer.Proofs.Query.Resumed
import RefViewer.Proofs.Query.Rows
import RefViewer.Proofs.Query.Stacking
import RefViewer.Proofs.Query.Taken
import RefViewer.Proofs.Query.Tokens
import RefViewer.Proofs.Query.Trimming
import RefViewer.Proofs.Query.Words
import RefViewer.Proofs.Query.Writing
import RefViewer.Proofs.Query.Written
import RefViewer.Proofs.Render.Bounds
import RefViewer.Proofs.Render.Ledger
import RefViewer.Proofs.Render.Order
import RefViewer.Proofs.Render.Replay
import RefViewer.Proofs.Render.World
import RefViewer.Proofs.Session.OneShot
import RefViewer.Proofs.Time.Age
import RefViewer.Proofs.Time.Stamp
import RefViewer.Proofs.Viewer.Calls
import RefViewer.Proofs.Viewer.Display
import RefViewer.Proofs.Viewer.Metadata
import RefViewer.Proofs.Viewer.Steady
import RefViewer.Proofs.Viewer.Typing
import RefViewer.Proofs.Viewer.World
