import SchemaEvolution.Declared.Location
import SchemaEvolution.Identifier
import SchemaEvolution.IndexFilter
import SchemaEvolution.Physical.Column
import SchemaEvolution.Physical.ForeignKey
import SchemaEvolution.Physical.Index

/-!
# Faults

Everything that can go wrong, by cause.  The wording of a cause stands here
and nowhere else.
-/

namespace SchemaEvolution

/-- What a database, or this library, does not offer. -/
inductive Unsupported where
  | arrayColumn (dialect table column : String)
  | partialIndex (dialect table : String) (index : Index)
  | declaredPartialIndex (dialect table : String)
  | declaredPrimaryIndex (table : String)
  | compositePrimaryKey (className : String)
  | primaryKeyRedefinition (table : String) (index : Index)
  | compositeForeignKey (table constraint : String)
  | requiredColumnOnLiveTable (dialect table column : String)
  | identityColumnOnLiveTable (dialect table column : String)
  | columnAlteration (dialect table column : String)
  | identityAlteration (table column : String)
  | primaryKeyOnLiveTable (dialect table : String)
  | foreignKeyAddition (dialect table : String) (key : ForeignKey)
  | foreignKeyRemoval (dialect table : String) (key : ForeignKey)
  | nativeType (product type table column : String)
  | stated (feature context : String)
  deriving DecidableEq

namespace Unsupported

def columnPlace (table column : String) : String :=
  "column " ++ table ++ "." ++ column

def feature : Unsupported → String
  | arrayColumn dialect _ _ => "array columns on " ++ dialect
  | partialIndex dialect _ _ | declaredPartialIndex dialect _ => "partial indexes on " ++ dialect
  | declaredPrimaryIndex _ => "PRIMARY index blocks (primary key redefinition)"
  | compositePrimaryKey _ => "composite primary keys"
  | primaryKeyRedefinition _ _ => "primary key redefinition"
  | compositeForeignKey _ _ => "composite foreign keys"
  | requiredColumnOnLiveTable dialect _ _ =>
      "adding a NOT NULL column without default on " ++ dialect
  | identityColumnOnLiveTable dialect _ _ => "adding an auto-increment column on " ++ dialect
  | columnAlteration dialect _ _ => "altering columns on " ++ dialect
  | identityAlteration _ _ => "changing IDENTITY on an existing column"
  | primaryKeyOnLiveTable dialect _ =>
      "adding a primary key to an existing " ++ dialect ++ " table"
  | foreignKeyAddition dialect _ _ => "adding foreign keys on " ++ dialect
  | foreignKeyRemoval dialect _ _ => "dropping foreign keys on " ++ dialect
  | nativeType product type _ _ => product ++ " column type '" ++ type ++ "'"
  | stated feature _ => feature

def context : Unsupported → String
  | arrayColumn _ table column | requiredColumnOnLiveTable _ table column
  | identityColumnOnLiveTable _ table column | columnAlteration _ table column
  | identityAlteration table column | nativeType _ _ table column => columnPlace table column
  | partialIndex _ table index => "index " ++ index.describe ++ " on " ++ table
  | declaredPartialIndex _ table | declaredPrimaryIndex table
  | primaryKeyOnLiveTable _ table => "table " ++ table
  | compositePrimaryKey className => "class " ++ className
  | primaryKeyRedefinition table index => "table " ++ table ++ ": " ++ index.describe
  | compositeForeignKey table constraint =>
      "constraint " ++ constraint ++ " on table " ++ table
  | foreignKeyAddition _ table key | foreignKeyRemoval _ table key =>
      "foreign key " ++ key.describe ++ " on table " ++ table
  | stated _ context => context

end Unsupported

/-- What does not fit together in a model. -/
inductive Inconsistency where
  | identifier (defect : Identifier.Defect)
  | indexFilter (defect : IndexFilter.Defect)
  | duplicateTable (table : String)
  | duplicateColumn (table column : String)
  | primaryIndexCount (table : String) (count : Nat)
  | emptyIndex (table : String)
  | indexColumn (table column : String)
  | foreignKeyColumn (table column : String)
  | indexWithoutName (table : String) (index : Index)
  | foreignKeyWithoutName (table : String) (key : ForeignKey)
  | removedIndexWithoutName (table : String) (index : Index)
  | removedForeignKeyWithoutName (table : String) (key : ForeignKey)
  | unknownClass (className parent target : String)
  | missingId (className : String)
  | unknownProperty (table property : String)
  | stated (message context : String)
  deriving DecidableEq

namespace Inconsistency

def message : Inconsistency → String
  | identifier defect => defect.message
  | indexFilter defect => defect.message
  | duplicateTable table => "duplicate table '" ++ table ++ "'"
  | duplicateColumn _ column => "duplicate column '" ++ column ++ "'"
  | primaryIndexCount _ count => s!"expected exactly one PRIMARY index, found {count}"
  | emptyIndex _ => "index over zero columns"
  | indexColumn _ column => "index references unknown column '" ++ column ++ "'"
  | foreignKeyColumn _ column => "foreign key references unknown column '" ++ column ++ "'"
  | indexWithoutName _ _ => "index has no name"
  | foreignKeyWithoutName _ _ => "foreign key has no name"
  | removedIndexWithoutName _ _ => "cannot drop an unnamed index"
  | removedForeignKeyWithoutName _ _ => "cannot drop an unnamed foreign key"
  | unknownClass _ parent target =>
      "foreign parent '" ++ parent ++ "' references unknown class '" ++ target ++ "'"
  | missingId _ => "class has no id property"
  | unknownProperty _ property => "index references unknown property '" ++ property ++ "'"
  | stated message _ => message

def context : Inconsistency → String
  | identifier _ => "identifier validation"
  | indexFilter _ => "partial index"
  | duplicateTable _ => "building physical schema"
  | duplicateColumn table _ | primaryIndexCount table _ | emptyIndex table
  | indexColumn table _ | foreignKeyColumn table _ | unknownProperty table _ =>
      "table " ++ table
  | indexWithoutName table index => "index " ++ index.describe ++ " on table " ++ table
  | foreignKeyWithoutName table key => "foreign key " ++ key.describe ++ " on table " ++ table
  | removedIndexWithoutName table index => "table " ++ table ++ ": " ++ index.describe
  | removedForeignKeyWithoutName table key => "table " ++ table ++ ": " ++ key.describe
  | unknownClass className _ _ | missingId className => "class " ++ className
  | stated _ context => context

end Inconsistency

/-- What a data type lacks for the column it is used in. -/
inductive TypeDefect where
  | decimalSize (typeName : String)
  | missingLength (typeName : String) (logical : LogicalType)
  | indexRequirement (typeName kind : String)
  | stated (message : String)
  deriving DecidableEq

def TypeDefect.message : TypeDefect → String
  | .decimalSize typeName =>
      "decimal type '" ++ typeName ++ "' requires both length and scale"
  | .missingLength typeName logical =>
      "type '" ++ typeName ++ "' (" ++ logical.keyword ++ ") requires a length"
  | .indexRequirement typeName kind =>
      "data type '" ++ typeName ++ "' requires an index of kind UNIQUE or INDEX, found " ++ kind
  | .stated message => message

inductive ConfigDefect where
  | missingConnection
  | unknownDialect (name : String)
  | emptyDatabase
  | missingVersion
  | pragmaName (name : String)
  | missingHash
  | stated (message : String)
  deriving DecidableEq

def ConfigDefect.message : ConfigDefect → String
  | .missingConnection => "target.connection is required"
  | .unknownDialect name =>
      "Unknown dialect: '" ++ name ++
        "'. Supported dialects: mysql, postgres, sqlite, mssql"
  | .emptyDatabase => "target.database must not be empty when set"
  | .missingVersion =>
      "migration.version is required when migration.write_manifest is set"
  | .pragmaName name => "sqlite.pragmas: '" ++ name ++ "' is not a valid pragma name"
  | .missingHash => "a schema hash is required to write the manifest"
  | .stated message => message

inductive Fault where
  | unsupported (cause : Unsupported)
  | inconsistent (cause : Inconsistency)
  | dataType (table column : String) (defect : TypeDefect) (location : Option Location)
  | introspection (dialect message : String)
  /-- The filter of an index cannot be cut out of the source at its place, which
  ends the whole run. -/
  | misplacedFilter (source : String)
  | execution (statement cause : String)
  | notIdempotent (remaining : Nat)
  | config (defect : ConfigDefect)
  | io
  | yaml
  | json
  deriving DecidableEq

inductive Fault.Category where
  | unsupported
  | inconsistentModel
  | introspection
  | execution
  | configuration
  | verification
  deriving DecidableEq

namespace Fault

def locationText : Option Location → String
  | some location => " (declared at " ++ location.describe ++ ")"
  | none => ""

def message : Fault → String
  | unsupported cause =>
      "Unsupported feature: " ++ cause.feature ++ "\n  Context: " ++ cause.context
  | inconsistent cause =>
      "Inconsistent schema model: " ++ cause.message ++ "\n  Context: " ++ cause.context
  | dataType table column defect location =>
      "Data type error on " ++ table ++ "." ++ column ++ ": " ++ defect.message ++
        locationText location
  | introspection dialect message =>
      "Schema introspection failed (" ++ dialect ++ "): " ++ message
  | misplacedFilter source =>
      "The filter of an index does not begin with a character: " ++ source
  | execution statement _ => "Statement failed: " ++ statement
  | notIdempotent remaining =>
      s!"Migration is not idempotent: {remaining} change(s) remain after applying"
  | config defect => "Configuration error: " ++ defect.message
  | io => "IO error"
  | yaml => "YAML error"
  | json => "JSON error"

def category : Fault → Category
  | unsupported _ => .unsupported
  | inconsistent _ | dataType _ _ _ _ => .inconsistentModel
  | introspection _ _ | misplacedFilter _ => .introspection
  | execution _ _ => .execution
  | notIdempotent _ => .verification
  | config _ | io | yaml | json => .configuration

/-- The chain of causes behind a fault, nearest first. -/
def causes : Fault → List String
  | execution _ cause => [cause]
  | _ => []

/-- The message followed by its numbered causes. -/
def detailed (fault : Fault) : String :=
  let numbered := fault.causes.zipIdx 1
  "Error: " ++ fault.message ++ "\n" ++ String.join (numbered.map fun cause =>
    let depth := cause.2
    s!"\nCaused by:\n  {depth}: " ++ cause.1)

def ofIdentifier (defect : Identifier.Defect) : Fault :=
  .inconsistent (.identifier defect)

def ofIndexFilter (defect : IndexFilter.Defect) : Fault :=
  .inconsistent (.indexFilter defect)

end Fault
end SchemaEvolution
