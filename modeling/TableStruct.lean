import TableStruct.Main
import TableStruct.Proofs.Converter.Batches
import TableStruct.Proofs.GoStruct.Columns
import TableStruct.Proofs.GoStruct.Layout
import TableStruct.Proofs.Json.Schemas
import TableStruct.Proofs.Name.Abbreviations
import TableStruct.Proofs.Name.Affix
import TableStruct.Proofs.Name.Casing
import TableStruct.Proofs.Path.Steps
import TableStruct.Proofs.Run.History
import TableStruct.Proofs.Scan.Requests
import TableStruct.Proofs.Schema.Attributes
import TableStruct.Proofs.Schema.IndexClauses
import TableStruct.Proofs.Schema.LastColumn
import TableStruct.Proofs.Schema.Lowering
import TableStruct.Proofs.Schema.OpenQuotes
import TableStruct.Proofs.Schema.Reference
import TableStruct.Proofs.Schema.Remarks
import TableStruct.Proofs.Schema.Spacing
import TableStruct.Proofs.Statement.Bodies
import TableStruct.Proofs.Statement.Joining
import TableStruct.Proofs.Text.Ordered
import TableStruct.Proofs.Text.UpperCase
import TableStruct.Proofs.TypeTable.Keywords
