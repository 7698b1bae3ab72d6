/-!
# Field types

The six types a field or a query parameter can have, and everything that depends on the type alone:
its name in definitions, its representation in memory and in the table, and the operations that
bind and read it.
-/

namespace DatasetCompiler

/-- The type of a field or of a query parameter. -/
inductive FieldType where
  | primaryKey
  | foreignKey
  | integer
  | real
  | text
  | blob
deriving DecidableEq, Repr

/-- Where a value lives in a row structure. -/
inductive Allocation where
  /-- In the structure, as a plain scalar. -/
  | primitive
  /-- Behind a pointer, with any length. -/
  | dynamic
  /-- In the structure, as an array of fixed length. -/
  | fixed
deriving DecidableEq, Repr

namespace FieldType

def all : List FieldType := [.primaryKey, .foreignKey, .integer, .real, .text, .blob]

def name : FieldType → String
  | .primaryKey => "PrimaryKey"
  | .foreignKey => "ForeignKey"
  | .integer => "Integer"
  | .real => "Real"
  | .text => "Text"
  | .blob => "Blob"

def ofName? (name : String) : Option FieldType :=
  all.find? (·.name = name)

/-- The place of a type in `all`. -/
def index (t : FieldType) : Nat :=
  all.idxOf t

/-- The C type of one element. -/
def physicalType : FieldType → String
  | .primaryKey => "sqlite3_int64"
  | .foreignKey => "sqlite3_int64"
  | .integer => "int"
  | .real => "double"
  | .text => "char"
  | .blob => "char"

def columnType : FieldType → String
  | .primaryKey => "INTEGER PRIMARY KEY"
  | .foreignKey => "INTEGER"
  | .integer => "INTEGER"
  | .real => "REAL"
  | .text => "TEXT"
  | .blob => "BLOB"

def bindOperation : FieldType → String
  | .primaryKey => "sqlite3_bind_int64"
  | .foreignKey => "sqlite3_bind_int64"
  | .integer => "sqlite3_bind_int"
  | .real => "sqlite3_bind_double"
  | .text => "sqlite3_bind_text"
  | .blob => "sqlite3_bind_blob"

def readOperation : FieldType → Allocation → String
  | .primaryKey, _ => "sqlite3_column_int64"
  | .foreignKey, _ => "sqlite3_column_int64"
  | .integer, _ => "sqlite3_column_int"
  | .real, _ => "sqlite3_column_double"
  | .text, .fixed => "cqlite_fixed_length_string_read"
  | .text, _ => "cqlite_dynamic_string_read"
  | .blob, .fixed => "cqlite_fixed_length_blob_read"
  | .blob, _ => "cqlite_dynamic_blob_read"

def isPrimitive : FieldType → Bool
  | .primaryKey | .foreignKey | .integer | .real => true
  | .text | .blob => false

def canHaveMaxLength (t : FieldType) : Bool :=
  !t.isPrimitive

/-- Where a value with this maximal length lives; length zero means unbounded. -/
def allocation (t : FieldType) (maxLength : Nat) : Allocation :=
  if t.isPrimitive then .primitive
  else if maxLength = 0 then .dynamic
  else .fixed

end FieldType

end DatasetCompiler
