import DatasetCompiler.Numeral.Binary64

/-!
# JSON values

JSON values, the kinds that messages name, and how a value is looked at: as a text, an array, an
object or a machine word, and by the keys of an object.
-/

namespace DatasetCompiler

/-- A number: an integer of at most 64 bits, or the nearest floating point value. -/
inductive Json.Number where
  | integer (value : Int)
  | float (negative : Bool) (magnitude : Numeral.Binary64)
deriving DecidableEq, Repr

/-- A JSON value.  The members of an object keep their order. -/
inductive Json where
  | null
  | bool (value : Bool)
  | number (value : Json.Number)
  | string (text : String)
  | array (items : List Json)
  | object (members : List (String × Json))
deriving Repr

namespace Json

/-! ### Kinds -/

inductive Kind where
  | null
  | boolean
  | number
  | string
  | array
  | object
deriving DecidableEq, Repr

def kind : Json → Kind
  | .null => .null
  | .bool _ => .boolean
  | .number _ => .number
  | .string _ => .string
  | .array _ => .array
  | .object _ => .object

def Kind.description : Kind → String
  | .null => "null"
  | .boolean => "a boolean"
  | .number => "a number"
  | .string => "a string"
  | .array => "an array"
  | .object => "an object"

/-! ### Parts of a value -/

/-- The value as a machine word with sign, if it is an integer in that range. -/
def int64? : Json → Option Int64
  | .number (.integer n) =>
    if Int64.minValue.toInt ≤ n ∧ n ≤ Int64.maxValue.toInt then some (Int64.ofInt n) else none
  | _ => none

def string? : Json → Option String
  | .string text => some text
  | _ => none

def array? : Json → Option (List Json)
  | .array items => some items
  | _ => none

def object? : Json → Option (List (String × Json))
  | .object members => some members
  | _ => none

/-- The members of a record with these keys: those of an object, or the items of an array that is
not too long, each under the key of its position. -/
def record? (keys : List String) : Json → Option (List (String × Json))
  | .object members => some members
  | .array items => if items.length ≤ keys.length then some (keys.zip items) else none
  | _ => none

def member? (members : List (String × Json)) (key : String) : Option Json :=
  members.lookup key

def required? {α : Type} (read : Json → Option α) (members : List (String × Json))
    (key : String) : Option α :=
  (member? members key).bind read

/-- Reads the value of a key that may be left out or be null. -/
def optional? {α : Type} (read : Json → Option α) (members : List (String × Json))
    (key : String) : Option (Option α) :=
  match member? members key with
  | none | some .null => some none
  | some value => (read value).map some

/-- Reads the value of a key that may be left out, and takes `absent` then. -/
def defaulted? {α : Type} (read : Json → Option α) (absent : α)
    (members : List (String × Json)) (key : String) : Option α :=
  match member? members key with
  | none => some absent
  | some value => read value

def arrayOf? {α : Type} (read : Json → Option α) (value : Json) : Option (List α) :=
  value.array?.bind (·.mapM read)

end Json

end DatasetCompiler
