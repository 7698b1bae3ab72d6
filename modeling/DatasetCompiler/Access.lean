import DatasetCompiler.Fragment
import DatasetCompiler.Naming

/-!
# Binding and reading values

The calls that bind fields and query parameters to a statement, and the statements that read fields
from a row.  Slots of a statement count from one and columns of a row from zero, so a field is bound
at its column constant plus one.
-/

namespace DatasetCompiler

structure Variables where
  query : String
  model : String
  success : String
deriving DecidableEq, Repr

def Variables.default : Variables := ⟨"query", "model", "success"⟩

/-- What a binding call says about the length and the lifetime of a value. -/
def FieldType.bindExtras (t : FieldType) : List Argument :=
  if t.isPrimitive then [] else [.lengthSentinel, .transient]

def Model.bindField (m : Model) (f : Field) (query row : String) : Call :=
  ⟨f.type.bindOperation,
    [.var query, .column (m.columnConstant f) 1, .member row f.name] ++ f.type.bindExtras⟩

def Model.readField (m : Model) (f : Field) (query row success : String) : Read :=
  let operation := f.type.readOperation f.allocation
  let args : List Argument := [.var query, .column (m.columnConstant f) 0]
  match f.allocation with
  | .primitive => .assign (.member row f.name) ⟨operation, args⟩
  | .dynamic => .accumulate success ⟨operation, args ++ [.memberAddress row f.name]⟩
  | .fixed =>
    .accumulate success ⟨operation, args ++ [.member row f.name, .sizeOf row f.name]⟩

def QueryParam.bind (p : QueryParam) (query : String) : Call :=
  ⟨p.type.bindOperation,
    [.var query, .position p.position, .var p.name] ++ p.type.bindExtras⟩

end DatasetCompiler
