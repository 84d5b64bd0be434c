import Tabular.Text.Ascii
import Tabular.Text.Blank
import Tabular.Text.Utf8
import Tabular.Text.Lines
import Tabular.Number.Binary64
import Tabular.Number.Shortest
import Tabular.Number.Style
import Tabular.Instant
import Tabular.Error
import Tabular.Cell
import Tabular.Column
import Tabular.Document
import Tabular.Document.Path
import Tabular.Json.Printer
import Tabular.Json.Parser
import Tabular.Delimiter
import Tabular.Format
import Tabular.Source
import Tabular.Source.Input
import Tabular.Source.Options
import Tabular.Source.Delimited
import Tabular.Source.Labelled
import Tabular.Source.Framed
import Tabular.Source.Aligned
import Tabular.Source.PlainText
import Tabular.Source.Documents
import Tabular.Source.InMemory
import Tabular.Yaml.Cursor
import Tabular.Yaml.Token
import Tabular.Yaml.Folding
import Tabular.Yaml.Quoted
import Tabular.Yaml.Block
import Tabular.Yaml.Tag
import Tabular.Yaml.Lexer
import Tabular.Number.Literal
import Tabular.Yaml.Event
import Tabular.Yaml.Scalar
import Tabular.Yaml.Node
import Tabular.Source.Opening
import Tabular.Query.Field
import Tabular.Query.Table
import Tabular.Query.Rewriter
import Tabular.Text.Width
import Tabular.Yaml.Printer
import Tabular.Sink.Options
import Tabular.Sink.Delimited
import Tabular.Sink.Grid
import Tabular.Sink
import Tabular.Engine.Dialect
import Tabular.Engine.CopyText
import Tabular.Engine
import Tabular.Engine.Load
import Tabular.Engine.Recorder
import Tabular.Engine.CopyIn
import Tabular.Sink.Writer
import Tabular.Run.Answer
import Tabular.Compression.Unpacking
import Tabular.Compression.Checksum
import Tabular.Compression.Huffman
import Tabular.Compression.Deflate
import Tabular.Compression.Gzip
import Tabular.Compression.Lz4
import Tabular.Compression.Bzip2
import Tabular.Compression.Lzma
import Tabular.Compression.Xz
import Tabular.Compression.Zstd.Entropy
import Tabular.Compression.Zstd
import Tabular.Compression
import Tabular.Files
import Tabular.Files.Pattern
import Tabular.Files.Pipe
import Tabular.Files.Reference
import Tabular.Run.Gather
import Tabular.Json.Reader
import Tabular.Configuration
import Tabular.Sql.Value
import Tabular.Sql.Token
import Tabular.Sql.Select
import Tabular.Sql.Parser
import Tabular.Sql.Relation
import Tabular.Sql.Database
import Tabular.Engine.Storage
import Tabular.Sql.Location
import Tabular.Run.Transaction
import Tabular.Description
import Tabular.CommandLine.Switches
import Tabular.CommandLine.Help
import Tabular.CommandLine.Session
import Tabular.Main
import Tabular.Proofs.Text.Utf8
import Tabular.Proofs.Text.Plain
import Tabular.Proofs.Text.Blank
import Tabular.Proofs.Text.Lines
import Tabular.Proofs.Engine.CopyText
import Tabular.Proofs.Engine.Reliable
import Tabular.Proofs.Load.Insert
import Tabular.Proofs.Engine.Chunks
import Tabular.Proofs.Engine.Statements
import Tabular.Proofs.Load.Failure
import Tabular.Proofs.Load.Copy
import Tabular.Proofs.Query.Piece
import Tabular.Proofs.Query.Substitution
import Tabular.Proofs.Query.Renaming
import Tabular.Proofs.Query.Automaton
import Tabular.Proofs.Query.Position
import Tabular.Proofs.Query.Selection
import Tabular.Proofs.Engine.Identifier
import Tabular.Proofs.Files.Reference
import Tabular.Proofs.Files.Pipe
import Tabular.Proofs.Run.Gather
import Tabular.Proofs.Load.Executed
import Tabular.Proofs.Run.Tables
import Tabular.Proofs.Run.TableName
import Tabular.Proofs.Column
import Tabular.Proofs.Source.Calls
import Tabular.Proofs.Source.Feed
import Tabular.Proofs.Source.Formats
import Tabular.Proofs.Source.Names
import Tabular.Proofs.Source.Window
import Tabular.Proofs.Source.Sentinel
import Tabular.Proofs.Source.Concatenation
import Tabular.Proofs.Source.Flattening
import Tabular.Proofs.Source.Numbering
import Tabular.Proofs.Source.Cuts
import Tabular.Proofs.Source.Boundaries
import Tabular.Proofs.Document
import Tabular.Proofs.Json.Reading
import Tabular.Proofs.Source.Records
import Tabular.Proofs.Sink.Results
import Tabular.Proofs.Sink.Lines
import Tabular.Proofs.RoundTrip.Labelled
import Tabular.Proofs.RoundTrip.Framed
import Tabular.Proofs.Source.RowLines
import Tabular.Proofs.Engine.Watched
import Tabular.Proofs.Engine.Streams
import Tabular.Proofs.Load.Calls
import Tabular.Proofs.Run.Importers
import Tabular.Proofs.Sql.Session
import Tabular.Proofs.Run.Transaction
import Tabular.Proofs.Description
import Tabular.Proofs.Document.Path
import Tabular.Proofs.Source.Refusal
import Tabular.Proofs.Source.Shapes
import Tabular.Proofs.Sink.Members
import Tabular.Proofs.Delimiter
import Tabular.Proofs.Format
import Tabular.Proofs.RoundTrip.Delimited
import Tabular.Proofs.Engine.Values
