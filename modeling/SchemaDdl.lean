import SchemaDdl.Main
import SchemaDdl.Proofs.Document
import SchemaDdl.Proofs.Simulation
import SchemaDdl.Proofs.Acceptance
import SchemaDdl.Proofs.TrailingComma
import SchemaDdl.Proofs.Text
import SchemaDdl.Proofs.CamelCase
import SchemaDdl.Proofs.Schema
import SchemaDdl.Proofs.RoundTrip
import SchemaDdl.Proofs.Concatenation
import SchemaDdl.Proofs.Strictness
import SchemaDdl.Proofs.ScriptLanguage
import SchemaDdl.Proofs.FileConversion
import SchemaDdl.Proofs.DraftCalls
import SchemaDdl.Proofs.DraftHistory
import SchemaDdl.Proofs.FaultLocation
import SchemaDdl.Proofs.LineLimit
import SchemaDdl.Proofs.Indentation
import SchemaDdl.Proofs.NoiseLines
import SchemaDdl.Proofs.Containment
import SchemaDdl.Proofs.DistinctKeys
import SchemaDdl.Proofs.NearestSettings
import SchemaDdl.Proofs.ColumnShape
import SchemaDdl.Proofs.LineDelivery
import SchemaDdl.Proofs.EffectiveSettings
import SchemaDdl.Proofs.UnreadableSettings
import SchemaDdl.Proofs.FixedColumns
import SchemaDdl.Proofs.LineText
import SchemaDdl.Proofs.LookupRows
import SchemaDdl.Proofs.OutputPath
import SchemaDdl.Proofs.FieldSeparators
