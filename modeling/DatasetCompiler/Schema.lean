import DatasetCompiler.Draft
import DatasetCompiler.Json.Path

/-!
# The shape of a definition document

A definition is a JSON object of this shape; keys that are not listed are allowed and ignored.

```text
datasetName  string of ASCII letters, digits and _, not empty
models       array of objects
  name       string
  typeName   string, may be left out
  tableName  string, may be left out
  fields     array of objects
    name       string
    type       string
    maxLength  integer of 64 bits, may be left out
  queries    object, may be left out; each value an array of objects
    name       string
    query      string
```

`Schema.check` walks a value along this shape, keys in the order listed, items and query groups in
document order, and reports the first violation with its place.  `Schema.read` checks a value and
then takes the draft out of it.
-/

namespace DatasetCompiler.Schema

open Json (Path Kind)

inductive Expected where
  | object
  | array
  | string
  | integer
deriving DecidableEq, Repr

def Expected.description : Expected → String
  | .object => "an object"
  | .array => "an array"
  | .string => "a string"
  | .integer => "an integer"

inductive Cause where
  | missingKey (key : String)
  | mismatch (expected : Expected) (found : Kind)
  | notIdentifier (name : String)
  /-- The value passed every check and still holds no draft. -/
  | undecodable
deriving DecidableEq, Repr

def Cause.message : Cause → String
  | .missingKey key => "missing required key `" ++ key ++ "`"
  | .mismatch expected found =>
    "expected " ++ expected.description ++ ", found " ++ found.description
  | .notIdentifier name =>
    "`" ++ name ++ "` is not an identifier (letters, digits and `_` only)"
  | .undecodable => "the definition cannot be decoded"

structure Violation where
  path : Path
  cause : Cause
deriving DecidableEq, Repr

/-- A violation as it is reported: the written path and the message of the cause. -/
structure Report where
  path : String
  detail : String
deriving DecidableEq, Repr

def Violation.report (v : Violation) : Report := ⟨v.path.render, v.cause.message⟩

def Report.message (r : Report) : String :=
  "invalid dataset definition at `" ++ r.path ++ "`: " ++ r.detail

def isIdentifierChar (c : Char) : Bool := c.isAlphanum || c == '_'

/-- Whether a name can be part of file names and macro names. -/
def isIdentifierFragment (name : String) : Bool :=
  !name.isEmpty && name.toList.all isIdentifierChar

/-! ### Checks at one place -/

abbrev Check (α : Type) := Except Violation α

def mismatch {α : Type} (path : Path) (expected : Expected) (value : Json) : Check α :=
  .error ⟨path, .mismatch expected value.kind⟩

def object (path : Path) : Json → Check (List (String × Json))
  | .object members => .ok members
  | value => mismatch path .object value

def array (path : Path) : Json → Check (List Json)
  | .array items => .ok items
  | value => mismatch path .array value

def string (path : Path) : Json → Check String
  | .string text => .ok text
  | value => mismatch path .string value

def integer (path : Path) (value : Json) : Check Int64 :=
  match value.int64? with
  | some n => .ok n
  | none => mismatch path .integer value

/-- The value of a key that must be there, in the object at `path`. -/
def required (path : Path) (members : List (String × Json)) (key : String) : Check Json :=
  match Json.member? members key with
  | some value => .ok value
  | none => .error ⟨path, .missingKey key⟩

def requiredWith {α : Type} (check : Path → Json → Check α) (path : Path)
    (members : List (String × Json)) (key : String) : Check α := do
  let value ← required path members key
  check (path.key key) value

def optionalWith {α : Type} (check : Path → Json → Check α) (path : Path)
    (members : List (String × Json)) (key : String) : Check Unit :=
  match Json.member? members key with
  | none => .ok ()
  | some value => do
    let _ ← check (path.key key) value
    return ()

/-- Checks the items of the array at `path`, from index `i` on. -/
def itemsFrom (check : Path → Json → Check Unit) (path : Path) (i : Nat) :
    List Json → Check Unit
  | [] => .ok ()
  | value :: rest => do
    check (path.index i) value
    itemsFrom check path (i + 1) rest

def arrayOf (check : Path → Json → Check Unit) (path : Path) (value : Json) : Check Unit := do
  let items ← array path value
  itemsFrom check path 0 items

/-! ### The parts of a definition -/

def checkField (path : Path) (value : Json) : Check Unit := do
  let members ← object path value
  let _ ← requiredWith string path members "name"
  let _ ← requiredWith string path members "type"
  optionalWith integer path members "maxLength"

def checkQuery (path : Path) (value : Json) : Check Unit := do
  let members ← object path value
  let _ ← requiredWith string path members "name"
  let _ ← requiredWith string path members "query"
  return ()

def checkGroups (path : Path) : List (String × Json) → Check Unit
  | [] => .ok ()
  | (key, value) :: rest => do
    arrayOf checkQuery (path.key key) value
    checkGroups path rest

def checkQueries (path : Path) (value : Json) : Check Unit := do
  let members ← object path value
  checkGroups path members

def checkModel (path : Path) (value : Json) : Check Unit := do
  let members ← object path value
  let _ ← requiredWith string path members "name"
  optionalWith string path members "typeName"
  optionalWith string path members "tableName"
  requiredWith (arrayOf checkField) path members "fields"
  optionalWith checkQueries path members "queries"

def checkName (path : Path) (value : Json) : Check Unit := do
  let name ← string path value
  if isIdentifierFragment name then return () else .error ⟨path, .notIdentifier name⟩

def check (value : Json) : Check Unit := do
  let members ← object Path.root value
  requiredWith checkName Path.root members "datasetName"
  requiredWith (arrayOf checkModel) Path.root members "models"

/-- Checks a document and takes the draft out of it. -/
def read (value : Json) : Check DatasetDraft := do
  check value
  match DatasetDraft.ofJson? value with
  | some draft => return draft
  | none => .error ⟨Path.root, .undecodable⟩

end DatasetCompiler.Schema
