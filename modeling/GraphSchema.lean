import GraphSchema.CommandLine
import GraphSchema.Compilation.Basic
import GraphSchema.Main
import GraphSchema.Proofs.Compilation.Addition
import GraphSchema.Proofs.Compilation.Agreement
import GraphSchema.Proofs.Compilation.DistinctTables
import GraphSchema.Proofs.Compilation.Grounding
import GraphSchema.Proofs.Compilation.Junctions
import GraphSchema.Proofs.Compilation.Leniency
import GraphSchema.Proofs.Compilation.Mappings
import GraphSchema.Proofs.Compilation.Parameters
import GraphSchema.Proofs.Compilation.ResultColumns
import GraphSchema.Proofs.Compilation.Strictness
import GraphSchema.Proofs.Graph.Documents
import GraphSchema.Proofs.Compilation.Depth
import GraphSchema.Proofs.Storage.ForeignKeys
import GraphSchema.Proofs.Name.Lowered
import GraphSchema.Proofs.Shape.References
import GraphSchema.Proofs.Storage.UniqueTables
import GraphSchema.Proofs.Compilation.FieldNames
import GraphSchema.Proofs.Storage.Removal
import GraphSchema.Proofs.Storage.UniqueColumns
import GraphSchema.Proofs.Sql.Migration
import GraphSchema.Proofs.Shape.Documents
import GraphSchema.Proofs.Sql.Templates
import GraphSchema.Proofs.Graph.Outcomes
import GraphSchema.Proofs.Name.Breaks
import GraphSchema.Proofs.Name.Search
import GraphSchema.Proofs.Relational.Calls
import GraphSchema.Proofs.Name.Idempotence
import GraphSchema.Proofs.Query.Names
