import ResourceTables.Command
import ResourceTables.Command.Arguments
import ResourceTables.Datatype
import ResourceTables.Export
import ResourceTables.ExportError
import ResourceTables.Files.Access
import ResourceTables.Files.Path
import ResourceTables.Files.Tree
import ResourceTables.Graph
import ResourceTables.Identifier.Names
import ResourceTables.Identifier.Slug
import ResourceTables.Json.Decode
import ResourceTables.Json.Read
import ResourceTables.Json.Text
import ResourceTables.Json.Value
import ResourceTables.LocalizedText
import ResourceTables.Main
import ResourceTables.Proofs.Export.Parts
import ResourceTables.Proofs.Schema.ParentChain
import ResourceTables.Proofs.Sql.Catalog
import ResourceTables.Number.Double
import ResourceTables.Number.Width
import ResourceTables.Package
import ResourceTables.Package.Load
import ResourceTables.Record
import ResourceTables.Registry
import ResourceTables.Review
import ResourceTables.Review.Cycles
import ResourceTables.Review.Issue
import ResourceTables.Rows.Coercion
import ResourceTables.Rows.Materialization
import ResourceTables.Schema
import ResourceTables.Schema.Definition
import ResourceTables.Schema.Derivation
import ResourceTables.Settings
import ResourceTables.Settings.Load
import ResourceTables.Shapefile
import ResourceTables.Sql.Expression
import ResourceTables.Sql.Phrase
import ResourceTables.Sql.Quoting
import ResourceTables.Sql.Script
import ResourceTables.Sql.Statement
import ResourceTables.Text.Blank
import ResourceTables.Text.Case
import ResourceTables.Text.Case.Table
import ResourceTables.Text.CharTable
import ResourceTables.Text.Decimal
import ResourceTables.Text.Fold
import ResourceTables.Text.Fold.Table
import ResourceTables.Text.Hex
import ResourceTables.Text.Visible
import ResourceTables.Text.Visible.Table
import ResourceTables.Toml.Document
import ResourceTables.Toml.Scalar
import ResourceTables.Toml.Text
import ResourceTables.Toml.Value
import ResourceTables.Uuid
import ResourceTables.Uuid.Digest
import ResourceTables.Vocabulary
import ResourceTables.Yaml.Document
import ResourceTables.Yaml.Node
import ResourceTables.Yaml.Place
import ResourceTables.Yaml.Property
import ResourceTables.Yaml.Scalar
import ResourceTables.Yaml.Token
import ResourceTables.Yaml.Token.Lexer
import ResourceTables.Proofs.Schema.Objects
import ResourceTables.Proofs.Schema.Construction
import ResourceTables.Proofs.Export.Agreement
import ResourceTables.Proofs.Export.Composition
import ResourceTables.Proofs.Export.Execution
import ResourceTables.Proofs.Export.Insertions
import ResourceTables.Proofs.Rows.Contents
import ResourceTables.Proofs.Rows.Counts
import ResourceTables.Proofs.Rows.Misfits
import ResourceTables.Proofs.Sql.Lexing
import ResourceTables.Proofs.Sql.Tokens
import ResourceTables.Proofs.Identifier.Slug
import ResourceTables.Proofs.Schema.Identifiers
import ResourceTables.Proofs.Sql.Reading
import ResourceTables.Proofs.Sql.Insertion
import ResourceTables.Proofs.Sql.History
import ResourceTables.Proofs.Export.Reading
import ResourceTables.Proofs.Export.Records
import ResourceTables.Proofs.Export.Registry
import ResourceTables.Proofs.Review.Components
import ResourceTables.Proofs.Review.LeavingOrder
import ResourceTables.Proofs.Review.Cycles
import ResourceTables.Proofs.Review.Issues
import ResourceTables.Proofs.Identifier.Circles
import ResourceTables.Proofs.Schema.Failures
import ResourceTables.Proofs.Schema.Coverage
import ResourceTables.Proofs.Export.Removal
import ResourceTables.Proofs.Export.WithoutRows
import ResourceTables.Proofs.Export.Rows
import ResourceTables.Proofs.Export.ParentKeys
import ResourceTables.Proofs.Identifier.Limits
import ResourceTables.Proofs.Schema.Limits
import ResourceTables.Proofs.Identifier.Climb
import ResourceTables.Proofs.Identifier.Collisions
import ResourceTables.Proofs.Json.Codec
import ResourceTables.Proofs.Documents
import ResourceTables.Proofs.Rows.Tiles
import ResourceTables.Proofs.Review.ParentTiles
import ResourceTables.Proofs.Printed
import ResourceTables.Proofs.Sql.Readings
import ResourceTables.Proofs.Rows.Geometries
import ResourceTables.Proofs.Rows.Values
import ResourceTables.Proofs.Identifier.Reference
import ResourceTables.Proofs.Identifier.Shortening
import ResourceTables.Proofs.Identifier.ColumnNames
import ResourceTables.Proofs.Schema.LookupValues
import ResourceTables.Proofs.Sql.Unquoting
import ResourceTables.Proofs.Text.ByteOrder
import ResourceTables.Proofs.Text.Pieces
import ResourceTables.Proofs.LocalizedText
import ResourceTables.Proofs.Files.View
import ResourceTables.Proofs.Package.Contents
import ResourceTables.Proofs.Package.Load
import ResourceTables.Proofs.Shapefile
