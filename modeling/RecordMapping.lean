import RecordMapping.CellValue
import RecordMapping.Column
import RecordMapping.Derive.Code
import RecordMapping.Export
import RecordMapping.FieldType.Builtin
import RecordMapping.Inspection
import RecordMapping.Registry
import RecordMapping.Proofs.Marks
import RecordMapping.Proofs.Resolution.Step
import RecordMapping.Proofs.Session
import RecordMapping.Proofs.Stability
import RecordMapping.Proofs.Reachability
import RecordMapping.Proofs.Resolution.View
import RecordMapping.Proofs.Resolution.Progress
import RecordMapping.Proofs.Resolution.Settled
import RecordMapping.Proofs.Resolution.Declared
import RecordMapping.Proofs.Resolution.Shares
import RecordMapping.Proofs.Resolution.Trace
import RecordMapping.Proofs.Rule
import RecordMapping.Proofs.Relationships
import RecordMapping.Proofs.Resolution.Flags
import RecordMapping.Proofs.ForeignKeys
import RecordMapping.Proofs.Resolution.Chronicle
import RecordMapping.Proofs.Embedding
import RecordMapping.Proofs.Resolution.Related
import RecordMapping.Proofs.Resolution.PrimaryKey
import RecordMapping.Proofs.Resolution.Keys
import RecordMapping.Proofs.JoinTables
import RecordMapping.Proofs.KeyFields
import RecordMapping.Proofs.Strictness
import RecordMapping.Proofs.Counters
import RecordMapping.Proofs.Resolution.Runs
import RecordMapping.Proofs.Termination
import RecordMapping.Proofs.Annotations
import RecordMapping.Proofs.Lookup
import RecordMapping.Proofs.TableNames
import RecordMapping.Proofs.Provenance
import RecordMapping.Proofs.KeyPlaces
import RecordMapping.Proofs.Outcomes
import RecordMapping.Proofs.Faults
import RecordMapping.Proofs.Grammar
import RecordMapping.Proofs.Findings
import RecordMapping.Proofs.PolymorphicKeys
import RecordMapping.Proofs.JoinColumns
import RecordMapping.Proofs.KeyFallback
import RecordMapping.Proofs.Casing
import RecordMapping.Proofs.Settings
import RecordMapping.Proofs.ColumnNames
import RecordMapping.Proofs.ColumnKeys
import RecordMapping.Proofs.Migration
import RecordMapping.Proofs.Exclusion
import RecordMapping.Proofs.Markers
import RecordMapping.Proofs.Configurations
import RecordMapping.Proofs.Plurals
import RecordMapping.Proofs.UniqueIndexes
import RecordMapping.Proofs.Resolution.Growth
import RecordMapping.Proofs.Resolution.Places
import RecordMapping.Proofs.Resolution.PlacedRuns
import RecordMapping.Proofs.Intact
