import DatasetCompiler.Definition.Error

/-!
# Fields

A field of a model has a name, a type and a maximal length.  Only texts and blobs can have a
maximal length; zero means that there is none.
-/

namespace DatasetCompiler

structure Field where
  name : String
  type : FieldType
  maxLength : Nat
deriving DecidableEq, Repr

def FieldType.named (name : String) : Except DefinitionError FieldType :=
  match FieldType.ofName? name with
  | some type => .ok type
  | none => .error (.ofKind (.unknownFieldType name))

namespace Field

def unbounded (name : String) (type : FieldType) : Field := ⟨name, type, 0⟩

/-- A field with a maximal length.  The type must allow one, and then it must be positive. -/
def bounded (name : String) (type : FieldType) (length : Int64) : Except DefinitionError Field :=
  if !type.canHaveMaxLength then .error (.ofKind (.maxLengthNotAllowed type))
  else if length.toInt ≤ 0 then .error (.ofKind (.invalidMaxLength length))
  else .ok ⟨name, type, length.toInt.toNat⟩

def hasMaxLength (f : Field) : Bool := f.maxLength != 0

def allocation (f : Field) : Allocation := f.type.allocation f.maxLength

def isPrimitive (f : Field) : Bool := f.allocation == .primitive

def isDynamic (f : Field) : Bool := f.allocation == .dynamic

def isFixed (f : Field) : Bool := f.allocation == .fixed

def isPrimaryKey (f : Field) : Bool := f.type == .primaryKey

end Field

end DatasetCompiler
