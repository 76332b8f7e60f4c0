import SchemaWire.Arena.Basic
import SchemaWire.Catalog
import SchemaWire.Codegen.Collisions
import SchemaWire.Codegen.Expr
import SchemaWire.Codegen.File
import SchemaWire.Codegen.Names
import SchemaWire.Codegen.Parts
import SchemaWire.Codegen.Types
import SchemaWire.Command.Arguments
import SchemaWire.Command.Files
import SchemaWire.Command.Run
import SchemaWire.Decimal.Shortest
import SchemaWire.Decimal.Style
import SchemaWire.Document.Basic
import SchemaWire.Document.Compile
import SchemaWire.Document.Cycles
import SchemaWire.Document.Parse
import SchemaWire.Document.Reserved
import SchemaWire.Document.Token
import SchemaWire.Document.Validity
import SchemaWire.Document.Violation
import SchemaWire.Json
import SchemaWire.Layout.Basic
import SchemaWire.Layout.Borrowed
import SchemaWire.Layout.Owned
import SchemaWire.Layout.Stored
import SchemaWire.Main
import SchemaWire.Message
import SchemaWire.Proofs.Arena.Allocator
import SchemaWire.Proofs.Arena.History
import SchemaWire.Proofs.Arena.Region
import SchemaWire.Proofs.Arena.Staleness
import SchemaWire.Proofs.Binds
import SchemaWire.Proofs.Catalog.ArenaTier
import SchemaWire.Proofs.Catalog.Dispatch
import SchemaWire.Proofs.Catalog.Dynamic
import SchemaWire.Proofs.Catalog.Encoding
import SchemaWire.Proofs.Catalog.Reuse
import SchemaWire.Proofs.Catalog.Schema
import SchemaWire.Proofs.Codegen.Collisions
import SchemaWire.Proofs.Codegen.Docs
import SchemaWire.Proofs.Codegen.Lifetimes
import SchemaWire.Proofs.Codegen.Lines
import SchemaWire.Proofs.Codegen.Names
import SchemaWire.Proofs.Codegen.TypeIds
import SchemaWire.Proofs.Codegen.Usable
import SchemaWire.Proofs.Document.Bare
import SchemaWire.Proofs.Document.Cycles
import SchemaWire.Proofs.Document.Faults
import SchemaWire.Proofs.Document.Grammar
import SchemaWire.Proofs.Document.Halting
import SchemaWire.Proofs.Document.Offence
import SchemaWire.Proofs.Document.Parsing
import SchemaWire.Proofs.Document.Reader
import SchemaWire.Proofs.Document.References
import SchemaWire.Proofs.Document.Rendering
import SchemaWire.Proofs.Document.Reports
import SchemaWire.Proofs.Document.Resolution
import SchemaWire.Proofs.Document.RoundTrip
import SchemaWire.Proofs.Document.Scanning
import SchemaWire.Proofs.Document.Spans
import SchemaWire.Proofs.Document.Spelling
import SchemaWire.Proofs.Document.Validity
import SchemaWire.Proofs.Document.Walk
import SchemaWire.Proofs.Layout.Access
import SchemaWire.Proofs.Layout.Borrowed
import SchemaWire.Proofs.Layout.Dynamic
import SchemaWire.Proofs.Layout.Encoding
import SchemaWire.Proofs.Layout.Issued
import SchemaWire.Proofs.Layout.Mirror
import SchemaWire.Proofs.Layout.Record
import SchemaWire.Proofs.Layout.Rounds
import SchemaWire.Proofs.Layout.Stored
import SchemaWire.Proofs.Layout.Wire
import SchemaWire.Proofs.Schema.WellFormed
import SchemaWire.Proofs.Text.Lines
import SchemaWire.Proofs.Text.Lowercase
import SchemaWire.Proofs.Value.Accounting
import SchemaWire.Proofs.Value.Appending
import SchemaWire.Proofs.Value.Bounded
import SchemaWire.Proofs.Value.Bytes
import SchemaWire.Proofs.Value.Canonical
import SchemaWire.Proofs.Value.Consumed
import SchemaWire.Proofs.Value.EarlyRefusal
import SchemaWire.Proofs.Value.Framing
import SchemaWire.Proofs.Value.Objects
import SchemaWire.Proofs.Value.Recursion
import SchemaWire.Proofs.Value.Reencode
import SchemaWire.Proofs.Value.RoundTrip
import SchemaWire.Proofs.Value.Sizing
import SchemaWire.Proofs.Wire.Delimited
import SchemaWire.Proofs.Wire.Frame
import SchemaWire.Proofs.Wire.Parallel
import SchemaWire.Proofs.Wire.Programs
import SchemaWire.Proofs.Wire.Reading
import SchemaWire.Proofs.Wire.Scalar
import SchemaWire.Proofs.Wire.View
import SchemaWire.Proofs.Wire.Writing
import SchemaWire.Schema.Basic
import SchemaWire.Text.Case
import SchemaWire.Text.CaseTables
import SchemaWire.Text.Naming
import SchemaWire.Text.Quoted
import SchemaWire.Text.Ranges
import SchemaWire.Text.Visible
import SchemaWire.Text.WordChar
import SchemaWire.Value.Basic
import SchemaWire.Value.Decode
import SchemaWire.Value.Encode
import SchemaWire.Wire.Buffer
import SchemaWire.Wire.Cursor
import SchemaWire.Wire.Error
import SchemaWire.Wire.Frame
import SchemaWire.Wire.Scalar
import SchemaWire.Wire.ScalarText
import SchemaWire.Wire.View
