import DatasetCompiler.Model

/-!
# C types and declarations

How the rows of a model, lists of them, their fields and the parameters of queries are declared in
the generated code.
-/

namespace DatasetCompiler

namespace Model

def pointerType (m : Model) : String := m.typeName ++ "*"

def constPointerType (m : Model) : String := m.typeName ++ " const *"

def listType (m : Model) : String := m.name ++ "_list_t"

def listPointerType (m : Model) : String := m.listType ++ "*"

def listConstPointerType (m : Model) : String := m.listType ++ " const *"

end Model

def Field.typeDeclaration (f : Field) : String :=
  match f.allocation with
  | .dynamic => f.type.physicalType ++ "*"
  | .primitive | .fixed => f.type.physicalType

/-- The name in the declaration of a field, with the length of a fixed array. -/
def Field.nameDeclaration (f : Field) : String :=
  match f.allocation with
  | .fixed => f.name ++ "[ " ++ toString f.maxLength ++ " ]"
  | .primitive | .dynamic => f.name

def QueryParam.typeDeclaration (p : QueryParam) : String :=
  if p.type.isPrimitive then p.type.physicalType else p.type.physicalType ++ " const *"

end DatasetCompiler
