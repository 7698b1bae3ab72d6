import DatasetCompiler.Query

/-!
# Models and datasets

A model is a kind of row: fields, the queries over them, and a name that its C type and its table
share unless they are named apart.  A dataset is a named list of models.
-/

namespace DatasetCompiler

/-- A kind of row. -/
structure Model where
  name : String
  fields : List Field
  queries : List Query
  typeOverride : Option String
  tableOverride : Option String
deriving DecidableEq, Repr

namespace Model

/-- A model without queries, whose type and table have its name. -/
def ofFields (name : String) (fields : List Field) : Model := ⟨name, fields, [], none, none⟩

def withTypeName (m : Model) (name : String) : Model := { m with typeOverride := some name }

def withTableName (m : Model) (name : String) : Model := { m with tableOverride := some name }

def withQueries (m : Model) (queries : List Query) : Model := { m with queries := queries }

def typeName (m : Model) : String := m.typeOverride.getD m.name

def tableName (m : Model) : String := m.tableOverride.getD m.name

def queriesOf (m : Model) (type : QueryType) : List Query :=
  m.queries.filter (·.type == type)

def primaryKeyCount (m : Model) : Nat :=
  m.fields.countP (·.isPrimaryKey)

/-- The primary key, which must be the only one. -/
def primaryKey (m : Model) : Except KeyViolation Field :=
  match m.fields.filter (·.isPrimaryKey) with
  | [key] => .ok key
  | _ => .error ⟨m.name, m.primaryKeyCount⟩

def hasDynamicFields (m : Model) : Bool :=
  m.fields.any (·.isDynamic)

/-- The place of the first field with a name. -/
def columnIndex? (m : Model) (name : String) : Option Nat :=
  m.fields.findIdx? (·.name == name)

end Model

structure Dataset where
  name : String
  models : List Model
deriving DecidableEq, Repr

def Dataset.model? (d : Dataset) (name : String) : Option Model :=
  d.models.find? (·.name == name)

end DatasetCompiler
