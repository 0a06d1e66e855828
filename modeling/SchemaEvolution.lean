import SchemaEvolution.Text.Pieces
import SchemaEvolution.Text.Casing
import SchemaEvolution.Text.Quoted
import SchemaEvolution.Text.Numeral
import SchemaEvolution.Digest
import SchemaEvolution.Name
import SchemaEvolution.Keyed
import SchemaEvolution.LogicalType
import SchemaEvolution.ColumnType
import SchemaEvolution.NativeType
import SchemaEvolution.Identifier
import SchemaEvolution.IndexFilter
import SchemaEvolution.Physical.Schema
import SchemaEvolution.Statement.Columns
import SchemaEvolution.Statement.Tables
import SchemaEvolution.Statement.Indexes
import SchemaEvolution.Statement.ForeignKeys
import SchemaEvolution.Statement.Manifests
import SchemaEvolution.Difference.Comparison
import SchemaEvolution.Emission
import SchemaEvolution.Build
import SchemaEvolution.Document.Printer
import SchemaEvolution.Encoding.Differences
import SchemaEvolution.Encoding.Declarations
import SchemaEvolution.Yaml.Node
import SchemaEvolution.Encoding.Configurations
import SchemaEvolution.Rehearsal
import SchemaEvolution.Encoding.Reports
import SchemaEvolution.Catalog.Postgres
import SchemaEvolution.Catalog.Mysql
import SchemaEvolution.Engine.Introspection
import SchemaEvolution.Proofs.BuiltSchemas
import SchemaEvolution.Proofs.SettledDifference
import SchemaEvolution.Proofs.Pairing
import SchemaEvolution.Proofs.Application
import SchemaEvolution.Proofs.Convergence
import SchemaEvolution.Proofs.Replay
import SchemaEvolution.Proofs.ForeignKeyDrops
import SchemaEvolution.Proofs.Alteration
import SchemaEvolution.Proofs.DependencySafety
import SchemaEvolution.Proofs.Spelling
import SchemaEvolution.Proofs.Engine.WrittenTokens
import SchemaEvolution.Proofs.Engine.WrittenStatements
import SchemaEvolution.Proofs.Engine.ExecutedTexts
import SchemaEvolution.Proofs.Engine.AsciiNames
import SchemaEvolution.Proofs.Engine.IncrementMentions
import SchemaEvolution.Proofs.Engine.CatalogListings
import SchemaEvolution.Proofs.Engine.ReadSchemas
import SchemaEvolution.Proofs.Engine.ShownSchemas
import SchemaEvolution.Proofs.Engine.CatalogChanges
import SchemaEvolution.Proofs.CreatedColumns
import SchemaEvolution.Proofs.Engine.PortableSchemas
import SchemaEvolution.Proofs.Engine.ListedStatements
import SchemaEvolution.Proofs.Engine.ListedCreations
import SchemaEvolution.Proofs.Engine.PerformedActions
import SchemaEvolution.Proofs.Engine.SettledListings
import SchemaEvolution.Proofs.Engine.SettledCatalogs
import SchemaEvolution.Proofs.Engine.MigrationHistories
import SchemaEvolution.Proofs.ExactDifference
import SchemaEvolution.Proofs.DeferredWork
import SchemaEvolution.Proofs.DeclarationOrder
import SchemaEvolution.Proofs.NativeTypeNames
import SchemaEvolution.Proofs.SpacedWords
import SchemaEvolution.Proofs.SpelledTypes
import SchemaEvolution.Proofs.RenderedTypes
import SchemaEvolution.Proofs.AcceptedDeclarations
import SchemaEvolution.Proofs.DistinctTypes
import SchemaEvolution.Proofs.RealizedClasses
import SchemaEvolution.Proofs.FilterScreening
import SchemaEvolution.Proofs.FreshCreation
import SchemaEvolution.Proofs.QuotedNames
import SchemaEvolution.Proofs.NumberedNames
import SchemaEvolution.Proofs.FreshNames
import SchemaEvolution.Proofs.StoredValues
import SchemaEvolution.Proofs.Operations
import SchemaEvolution.Proofs.WritingFaults
import SchemaEvolution.Proofs.PlanningFaults
import SchemaEvolution.Proofs.FaithfulMigrations
import SchemaEvolution.Proofs.ReportedChanges
import SchemaEvolution.Proofs.FilterLiterals
import SchemaEvolution.Proofs.Engine.ExtractedFilters
import SchemaEvolution.Proofs.Engine.CreatedIncrements
import SchemaEvolution.Proofs.NamedObjects
import SchemaEvolution.Proofs.TableReplay
import SchemaEvolution.Proofs.IndexNames
import SchemaEvolution.Proofs.SupportingIndexes
import SchemaEvolution.Proofs.Collations
import SchemaEvolution.Proofs.ColumnAlterations
import SchemaEvolution.Proofs.ReadScripts
import SchemaEvolution.Proofs.CommentedLines
import SchemaEvolution.Proofs.HiddenPasswords
import SchemaEvolution.Proofs.ManifestLiterals
import SchemaEvolution.Proofs.GroupedRows
import SchemaEvolution.Proofs.FileHashes
import SchemaEvolution.Proofs.Engine.OverlookedTables
import SchemaEvolution.Proofs.TruncatedNames
import SchemaEvolution.Proofs.Engine.ExpressionKeys
import SchemaEvolution.Proofs.FirstFreeNames
import SchemaEvolution.Proofs.FilledCollections
import SchemaEvolution.Proofs.CheckedTypeNames
