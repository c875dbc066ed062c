import QueryReplay.Backend.Affinity
import QueryReplay.Backend.Declared
import QueryReplay.Backend.Live
import QueryReplay.Backend.Native
import QueryReplay.Backend.NumberText
import QueryReplay.Backend.Script
import QueryReplay.Backend.Statement
import QueryReplay.Backend.Tables
import QueryReplay.Calendar.Date
import QueryReplay.Calendar.Pattern
import QueryReplay.Calendar.TimeOfDay
import QueryReplay.Calendar.Timestamp
import QueryReplay.Column
import QueryReplay.Config.Document
import QueryReplay.Config.Json
import QueryReplay.Config.Load
import QueryReplay.Config.Settings
import QueryReplay.Config.Target
import QueryReplay.Config.Toml
import QueryReplay.Config.Toml.Quoted
import QueryReplay.Config.Toml.Scalar
import QueryReplay.Config.Toml.Tree
import QueryReplay.Connection.Environment
import QueryReplay.Connection.Prepared
import QueryReplay.Connection.Replay
import QueryReplay.Cursor
import QueryReplay.Digest.Sha256
import QueryReplay.Entry.Corruption
import QueryReplay.Entry.Decoder
import QueryReplay.Entry.Input
import QueryReplay.Entry.Writer
import QueryReplay.Error
import QueryReplay.Host.Backends
import QueryReplay.Host.Basic
import QueryReplay.Host.Connections
import QueryReplay.Host.Stores
import QueryReplay.Key
import QueryReplay.Log.Event
import QueryReplay.Log.Expression.Basic
import QueryReplay.Log.Expression.Reader
import QueryReplay.Log.Filter
import QueryReplay.Log.Level
import QueryReplay.Log.Logger
import QueryReplay.Number.BigEndian
import QueryReplay.Number.Binary64
import QueryReplay.Number.Decimal
import QueryReplay.Number.DecimalSteps
import QueryReplay.Number.Extended
import QueryReplay.Number.Shortest
import QueryReplay.Proofs.Calendar.Epoch
import QueryReplay.Proofs.Number.BigEndian
import QueryReplay.Proofs.Text.Utf8
import QueryReplay.ResultSet
import QueryReplay.Store.Directory
import QueryReplay.Store.Entries
import QueryReplay.Store.FilePath
import QueryReplay.Store.FileTree
import QueryReplay.Store.Memory
import QueryReplay.Store.Replacement
import QueryReplay.Store.Unreliable
import QueryReplay.Text.Alphanumeric
import QueryReplay.Text.Blank
import QueryReplay.Text.DecimalDigit
import QueryReplay.Text.Extending
import QueryReplay.Text.Hex
import QueryReplay.Text.Inkless
import QueryReplay.Text.Numeral
import QueryReplay.Text.Search
import QueryReplay.Text.Shown
import QueryReplay.Text.Utf8
import QueryReplay.Value.Basic
import QueryReplay.Value.Coercion
import QueryReplay.Proofs.Entry.Grammar
import QueryReplay.Proofs.Entry.NullBits
import QueryReplay.Proofs.Entry.Values
import QueryReplay.Proofs.Entry.Rows
import QueryReplay.Proofs.Entry.Results
import QueryReplay.Proofs.Entry.RoundTrip
import QueryReplay.Proofs.Key.Separation
import QueryReplay.Proofs.Store.Entries
import QueryReplay.Proofs.Store.FilePath
import QueryReplay.Proofs.Text.Hex
import QueryReplay.Proofs.Store.FileTree
import QueryReplay.Proofs.Store.Directory
import QueryReplay.Proofs.Host.Shelves
import QueryReplay.Proofs.Backend.Collect
import QueryReplay.Proofs.Connection.Parts
import QueryReplay.Proofs.Connection.Outcomes
import QueryReplay.Proofs.Connection.Stability
import QueryReplay.Proofs.Backend.Columns
import QueryReplay.Proofs.Connection.Calls
import QueryReplay.Proofs.Connection.Views
import QueryReplay.Proofs.Backend.Failure
import QueryReplay.Proofs.Connection.Atomicity
import QueryReplay.Proofs.Connection.Runs
import QueryReplay.Proofs.Connection.Provenance
import QueryReplay.Proofs.Connection.Degrading
import QueryReplay.Proofs.Connection.Policies
import QueryReplay.Proofs.Host.Serving
import QueryReplay.Proofs.Connection.Damage
import QueryReplay.Proofs.Entry.Streams
import QueryReplay.Proofs.Entry.Bounds
import QueryReplay.Proofs.Connection.Transparency
import QueryReplay.Proofs.Simulation
import QueryReplay.Proofs.Backend.Likeness
import QueryReplay.Proofs.Key.Order
import QueryReplay.Proofs.Store.Listing
import QueryReplay.Proofs.Store.FiniteMap
import QueryReplay.Proofs.Store.Refinement
import QueryReplay.Proofs.Store.Registry
import QueryReplay.Proofs.Store.Handles
import QueryReplay.Proofs.Store.Sharing
import QueryReplay.Proofs.Host.Frames
import QueryReplay.Proofs.Connection.Effects
import QueryReplay.Proofs.Text.Blank
import QueryReplay.Proofs.Text.Numeral
import QueryReplay.Proofs.Number.DecimalValue
import QueryReplay.Proofs.Number.DecimalText
import QueryReplay.Proofs.Number.DecimalSteps
import QueryReplay.Proofs.Number.Rescaling
import QueryReplay.Proofs.Number.DecimalOrigins
import QueryReplay.Proofs.Calendar.Civil
import QueryReplay.Proofs.Calendar.Pattern
import QueryReplay.Proofs.Calendar.Text
import QueryReplay.Proofs.Value.Temporal
import QueryReplay.Proofs.Number.BinaryValue
import QueryReplay.Proofs.Value.Narrowing
import QueryReplay.Proofs.Backend.Storage
import QueryReplay.Proofs.Backend.Binding
import QueryReplay.Proofs.Key.Spelling
import QueryReplay.Proofs.Store.KeyNames
import QueryReplay.Proofs.Store.Replacement
import QueryReplay.Proofs.Store.Put
import QueryReplay.Proofs.Value.IntegerText
import QueryReplay.CursorSteps
import QueryReplay.Proofs.Backend.Walk
import QueryReplay.Proofs.Connection.Prepared
import QueryReplay.Proofs.Backend.Declared
import QueryReplay.Proofs.Config.Json
import QueryReplay.Proofs.Config.Settings
import QueryReplay.Proofs.Config.Target
import QueryReplay.Proofs.Entry.Digits
import QueryReplay.Proofs.Entry.Rereading
