import DatasetCompiler.Json
import DatasetCompiler.Model
import DatasetCompiler.Options
import DatasetCompiler.Schema

/-!
# Compiling definitions

A draft is compiled model by model.  In a model, the fields come first, then the number of primary
keys if the check is eager, then the query groups; the first fault decides.

A definition is loaded from a text, from a source of bytes, or from a JSON value, and then compiled.
-/

namespace DatasetCompiler

inductive CompileError where
  | definition (error : DefinitionError)
  | primaryKey (violation : KeyViolation)
deriving DecidableEq, Repr

inductive LoadError where
  | json (fault : Json.Fault)
  | schema (report : Schema.Report)
deriving DecidableEq, Repr

inductive BuildError where
  | load (error : LoadError)
  | compile (error : CompileError)
deriving DecidableEq, Repr

/-! ### Drafts -/

def FieldDraft.resolve (draft : FieldDraft) : Except DefinitionError Field := do
  let type ← FieldType.named draft.typeName
  match draft.maxLength with
  | none => return Field.unbounded draft.name type
  | some length => Field.bounded draft.name type length

/-- Compiles a field; a fault is placed at the field. -/
def FieldDraft.compile (draft : FieldDraft) : Except DefinitionError Field :=
  draft.resolve.mapError (·.onEntry (.field draft.name))

def QueryDraft.compile (type : QueryType) (draft : QueryDraft) : Except DefinitionError Query :=
  (Query.compile type draft.name draft.text).mapError (·.onEntry (.query draft.name))

def QueryGroup.type (group : QueryGroup) : Except DefinitionError QueryType :=
  (QueryType.keyed group.key).mapError (·.onEntry (.queryGroup group.key))

def QueryGroup.compile (group : QueryGroup) : Except DefinitionError (List Query) := do
  let type ← group.type
  group.entries.mapM (·.compile type)

def ModelDraft.compileFields (draft : ModelDraft) : Except DefinitionError (List Field) :=
  draft.fields.mapM FieldDraft.compile

def ModelDraft.compileQueries (draft : ModelDraft) : Except DefinitionError (List Query) := do
  let groups ← draft.groups.mapM QueryGroup.compile
  return groups.flatten

def DefinitionError.placed {α : Type} (model : String) (r : Except DefinitionError α) :
    Except CompileError α :=
  r.mapError fun e => .definition (e.inModel model)

/-- Requires exactly one primary key if the check is eager. -/
def Model.checkKey (check : KeyCheck) (model : Model) : Except CompileError Unit :=
  if check = .eager ∧ model.primaryKeyCount ≠ 1 then
    .error (.primaryKey ⟨model.name, model.primaryKeyCount⟩)
  else .ok ()

def ModelDraft.compile (check : KeyCheck) (draft : ModelDraft) : Except CompileError Model := do
  let fields ← DefinitionError.placed draft.name draft.compileFields
  let model : Model := ⟨draft.name, fields, [], draft.typeName, draft.tableName⟩
  model.checkKey check
  let queries ← DefinitionError.placed draft.name draft.compileQueries
  return model.withQueries queries

def DatasetDraft.compile (options : Options) (draft : DatasetDraft) :
    Except CompileError Dataset := do
  let models ← draft.models.mapM (ModelDraft.compile options.keyCheck)
  return ⟨draft.name, models⟩

/-! ### Documents -/

namespace Definition

def ofJson (value : Json) : Except LoadError DatasetDraft :=
  (Schema.read value).mapError fun v => .schema v.report

def ofRead (read : Except Json.Fault Json) : Except LoadError DatasetDraft :=
  match read with
  | .ok value => ofJson value
  | .error fault => .error (.json fault)

def ofText (text : String) : Except LoadError DatasetDraft :=
  ofRead (Json.ofText text)

def ofSource (source : Json.Source) : Except LoadError DatasetDraft :=
  ofRead (Json.ofSource source)

def build (options : Options) (loaded : Except LoadError DatasetDraft) :
    Except BuildError Dataset :=
  match loaded with
  | .error e => .error (.load e)
  | .ok draft => (draft.compile options).mapError .compile

def compile (options : Options) (value : Json) : Except BuildError Dataset :=
  build options (ofJson value)

def compileText (options : Options) (text : String) : Except BuildError Dataset :=
  build options (ofText text)

end Definition

end DatasetCompiler
