import DebugCatalog.Collector.Basic
import DebugCatalog.Collector.Listing
import DebugCatalog.Command.Arguments
import DebugCatalog.Command.Basic
import DebugCatalog.Command.Output
import DebugCatalog.Command.Run
import DebugCatalog.Command.Usage
import DebugCatalog.DataType.Basic
import DebugCatalog.DataType.Json
import DebugCatalog.DataType.Reader
import DebugCatalog.DataType.Spelling
import DebugCatalog.Decimal.Shortest
import DebugCatalog.Disk.Basic
import DebugCatalog.Disk.Change
import DebugCatalog.Disk.Database
import DebugCatalog.Failure
import DebugCatalog.FileError
import DebugCatalog.FunctionRecord
import DebugCatalog.Host
import DebugCatalog.Image.Basic
import DebugCatalog.Image.Bytes
import DebugCatalog.Image.Digest
import DebugCatalog.Image.Elf
import DebugCatalog.Image.Load
import DebugCatalog.Image.MachO
import DebugCatalog.Image.Pe
import DebugCatalog.Ingest.Basic
import DebugCatalog.Json.Basic
import DebugCatalog.Json.Fault
import DebugCatalog.Json.Reader
import DebugCatalog.Json.Record
import DebugCatalog.Json.Scanner
import DebugCatalog.Json.Writer
import DebugCatalog.KeyedList
import DebugCatalog.Log
import DebugCatalog.Main
import DebugCatalog.Mangling.Cursor
import DebugCatalog.Mangling.Legacy
import DebugCatalog.Mangling.Name
import DebugCatalog.Mangling.Printer
import DebugCatalog.Mangling.Punycode
import DebugCatalog.Parser.Basic
import DebugCatalog.Parser.Registry
import DebugCatalog.Parser.Run
import DebugCatalog.Parser.Session
import DebugCatalog.Parser.Symbols
import DebugCatalog.Path
import DebugCatalog.Project.Config
import DebugCatalog.Project.Layout
import DebugCatalog.Project.Open
import DebugCatalog.Proofs.Collector.Adding
import DebugCatalog.Proofs.Collector.Counts
import DebugCatalog.Proofs.Collector.Credit
import DebugCatalog.Proofs.Collector.FirstWins
import DebugCatalog.Proofs.Collector.Intake
import DebugCatalog.Proofs.Collector.Listing
import DebugCatalog.Proofs.Collector.Lookups
import DebugCatalog.Proofs.Collector.MergeLaws
import DebugCatalog.Proofs.Collector.Reachable
import DebugCatalog.Proofs.Command.FunctionLines
import DebugCatalog.Proofs.Command.Reports
import DebugCatalog.Proofs.Command.Steps
import DebugCatalog.Proofs.DataType.Decoding
import DebugCatalog.Proofs.DataType.Normalizing
import DebugCatalog.Proofs.DataType.Spelling
import DebugCatalog.Proofs.DataType.Widths
import DebugCatalog.Proofs.Disk.Databases
import DebugCatalog.Proofs.FunctionRecord
import DebugCatalog.Proofs.Image.Relocation
import DebugCatalog.Proofs.Image.SectionData
import DebugCatalog.Proofs.Image.Sections
import DebugCatalog.Proofs.Image.SymbolTables
import DebugCatalog.Proofs.Image.Tables
import DebugCatalog.Proofs.Ingest.Failing
import DebugCatalog.Proofs.Ingest.History
import DebugCatalog.Proofs.Ingest.Journal
import DebugCatalog.Proofs.Ingest.Outcomes
import DebugCatalog.Proofs.Ingest.Persisting
import DebugCatalog.Proofs.Ingest.ReadBack
import DebugCatalog.Proofs.Ingest.References
import DebugCatalog.Proofs.Ingest.Reruns
import DebugCatalog.Proofs.Ingest.Selection
import DebugCatalog.Proofs.Ingest.Stages
import DebugCatalog.Proofs.Json.Codecs
import DebugCatalog.Proofs.Json.Indented
import DebugCatalog.Proofs.Json.Lengths
import DebugCatalog.Proofs.Json.Nesting
import DebugCatalog.Proofs.Json.Readers
import DebugCatalog.Proofs.Json.Skipping
import DebugCatalog.Proofs.Json.Tokens
import DebugCatalog.Proofs.Json.Values
import DebugCatalog.Proofs.KeyedList
import DebugCatalog.Proofs.LastOccurrence
import DebugCatalog.Proofs.Mangling.SegmentStart
import DebugCatalog.Proofs.Mangling.Segments
import DebugCatalog.Proofs.Parser.Accounts
import DebugCatalog.Proofs.Parser.Handles
import DebugCatalog.Proofs.Parser.Hooks
import DebugCatalog.Proofs.Parser.Passes
import DebugCatalog.Proofs.Parser.Registry
import DebugCatalog.Proofs.Parser.Sessions
import DebugCatalog.Proofs.Parser.Symbols
import DebugCatalog.Proofs.Parser.Together
import DebugCatalog.Proofs.Path
import DebugCatalog.Proofs.Project.Configurations
import DebugCatalog.Proofs.Project.Opening
import DebugCatalog.Proofs.Project.Versions
import DebugCatalog.Proofs.Results
import DebugCatalog.Proofs.Steps
import DebugCatalog.Proofs.Store.Binaries
import DebugCatalog.Proofs.Store.Chronicle
import DebugCatalog.Proofs.Store.FirstWrite
import DebugCatalog.Proofs.Store.History
import DebugCatalog.Proofs.Store.Inheriting
import DebugCatalog.Proofs.Store.Isolation
import DebugCatalog.Proofs.Store.Latest
import DebugCatalog.Proofs.Store.LatestNumbers
import DebugCatalog.Proofs.Store.Loading
import DebugCatalog.Proofs.Store.Merging
import DebugCatalog.Proofs.Store.Migrating
import DebugCatalog.Proofs.Store.Noting
import DebugCatalog.Proofs.Store.Overwriting
import DebugCatalog.Proofs.Store.Recording
import DebugCatalog.Proofs.Store.References
import DebugCatalog.Proofs.Store.Repeating
import DebugCatalog.Proofs.Store.RoundTrip
import DebugCatalog.Proofs.Store.RunLog
import DebugCatalog.Proofs.Store.Transaction
import DebugCatalog.Proofs.Store.Writing
import DebugCatalog.Store.Basic
import DebugCatalog.Store.Edit
import DebugCatalog.Store.File
import DebugCatalog.Store.Findings
import DebugCatalog.Store.Known
import DebugCatalog.Store.Location
import DebugCatalog.Store.Record
import DebugCatalog.Store.Runs
import DebugCatalog.Store.Table
import DebugCatalog.Text.Blank
import DebugCatalog.Text.Digits
import DebugCatalog.Text.Lowercase
import DebugCatalog.Text.Quoted
import DebugCatalog.Text.Visible
import DebugCatalog.Timestamp
import DebugCatalog.Version
import DebugCatalog.Word
import DebugCatalog.Yaml.Reading
import DebugCatalog.Yaml.Scalar
import DebugCatalog.Yaml.Writer
