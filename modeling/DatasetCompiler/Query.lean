import DatasetCompiler.Field
import DatasetCompiler.Query.Segment
import DatasetCompiler.QueryType

/-!
# Queries

A compiled query has its text with every placeholder replaced by `?`, and one parameter for each
placeholder, numbered from one in the order of occurrence.
-/

namespace DatasetCompiler

structure QueryParam where
  position : Nat
  name : String
  type : FieldType
deriving DecidableEq, Repr

structure Query where
  type : QueryType
  name : String
  text : String
  params : List QueryParam
deriving DecidableEq, Repr

def QueryType.keyed (key : String) : Except DefinitionError QueryType :=
  match QueryType.ofKey? key with
  | some type => .ok type
  | none => .error (.ofKind (.unknownQueryType key))

namespace QueryText

/-- The parameters of segments, numbered from `position` on; the first unknown type is a fault. -/
def numberFrom (position : Nat) : List Segment → Except DefinitionError (List QueryParam)
  | [] => .ok []
  | .literal _ :: rest => numberFrom position rest
  | .placeholder name typeName :: rest => do
    let type ← FieldType.named typeName
    let params ← numberFrom (position + 1) rest
    return ⟨position, name, type⟩ :: params

def params (segs : List Segment) : Except DefinitionError (List QueryParam) :=
  numberFrom 1 segs

def substituteSegment : Segment → String
  | .literal text => text
  | .placeholder _ _ => "?"

/-- The compiled text: every placeholder becomes `?`. -/
def substitute (segs : List Segment) : String :=
  String.join (segs.map substituteSegment)

end QueryText

def Query.compile (type : QueryType) (name raw : String) : Except DefinitionError Query := do
  let segs := QueryText.segments raw
  let params ← QueryText.params segs
  return ⟨type, name, QueryText.substitute segs, params⟩

end DatasetCompiler
