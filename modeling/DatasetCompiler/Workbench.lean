import DatasetCompiler.Artifact
import DatasetCompiler.Definition
import DatasetCompiler.Options.Reader

/-!
# Building datasets by hand

A workbench holds values under construction: fields and queries for the next model, a current model,
models for the next dataset, a current dataset, and the options.  Each step uses or changes them and
gives an answer; a step that fails changes nothing.
-/

namespace DatasetCompiler

inductive Document where
  | text (t : String)
  | source (s : Json.Source)
deriving DecidableEq, Repr

def Document.load : Document → Except LoadError DatasetDraft
  | .text t => Definition.ofText t
  | .source s => Definition.ofSource s

def Document.compile (options : Options) (document : Document) : Except BuildError Dataset :=
  Definition.build options document.load

/-- A parameter that is given, not found in a text; its type is given by name. -/
structure ParamDraft where
  position : Nat
  name : String
  typeName : String
deriving DecidableEq, Repr

inductive QuerySource where
  | raw (text : String)
  /-- A finished text with its parameters. -/
  | given (text : String) (params : List ParamDraft)
deriving DecidableEq, Repr

def ParamDraft.resolve (draft : ParamDraft) : Except DefinitionError QueryParam := do
  let type ← FieldType.named draft.typeName
  return ⟨draft.position, draft.name, type⟩

/-- Makes a query; its type is resolved first. -/
def QuerySource.resolve (key name : String) (source : QuerySource) :
    Except DefinitionError Query := do
  let type ← QueryType.keyed key
  match source with
  | .raw text => Query.compile type name text
  | .given text params =>
    let params ← params.mapM ParamDraft.resolve
    return ⟨type, name, text, params⟩

/-- The values under construction. -/
structure Workbench where
  fields : List Field
  queries : List Query
  model : Option Model
  models : List Model
  dataset : Option Dataset
  options : Options
deriving DecidableEq, Repr

namespace Workbench

def empty : Workbench := ⟨[], [], none, [], none, Options.default⟩

inductive Step where
  /-- Adds a field for the next model. -/
  | field (draft : FieldDraft)
  /-- Adds a query for the next change of queries. -/
  | query (key name : String) (source : QuerySource)
  /-- Makes the fields into the current model. -/
  | model (name : String)
  | typeName (name : String)
  | tableName (name : String)
  | queries
  | columnIndex (name : String)
  | queriesOf (key : String)
  | primaryKey
  /-- Adds the current model for the next dataset. -/
  | addModel
  /-- Makes the models into the current dataset. -/
  | dataset (name : String)
  | compile (document : Document)
  | findModel (name : String)
  | keyCheck (check : KeyCheck)
  | addInclude (target : String)
  | options (text : String)
  /-- Asks for the current dataset, to be described with these variables. -/
  | describe (vars : Variables)
  | filter (template : Template) (name : String) (vars : Variables)
  | artifacts
  | generate (vars : Variables) (absent : Option Template)
deriving DecidableEq, Repr

inductive Answer where
  | field (f : Field)
  | query (q : Query)
  | model (m : Model)
  | index (i : Option Nat)
  | names (names : List String)
  | count (n : Nat)
  | dataset (d : Dataset)
  | found (m : Option Model)
  | options (o : Options)
  | description (d : Dataset) (vars : Variables)
  | values (result : Option (String × List String))
  | artifacts (d : Dataset) (o : Options)
  | files (files : List Artifact)
deriving DecidableEq, Repr

inductive Failure where
  | noModel
  | noDataset
  | definition (error : DefinitionError)
  | build (error : BuildError)
  | options (error : Options.ReadError)
  | primaryKey (violation : KeyViolation)
  | generation (error : GenerateError ListingError)

/-- The outcome of a step: an answer and the workbench behind it. -/
abbrev Outcome := Except Failure (Answer × Workbench)

def currentModel (w : Workbench) : Except Failure Model :=
  match w.model with
  | some m => .ok m
  | none => .error .noModel

def currentDataset (w : Workbench) : Except Failure Dataset :=
  match w.dataset with
  | some d => .ok d
  | none => .error .noDataset

def setModel (w : Workbench) (m : Model) : Answer × Workbench :=
  (.model m, { w with model := some m })

def setDataset (w : Workbench) (d : Dataset) : Answer × Workbench :=
  (.dataset d, { w with dataset := some d })

def setOptions (w : Workbench) (o : Options) : Answer × Workbench :=
  (.options o, { w with options := o })

/-- The kind and the values of a filter, if the template has it. -/
def filterValues (template : Template) (name : String) (vars : Variables) (d : Dataset) :
    Except KeyViolation (Option (String × List String)) :=
  match template.filter? name with
  | none => .ok none
  | some filter => (filter.values vars d).map fun values => some (filter.kind, values)

def step (w : Workbench) : Step → Outcome
  | .field draft => do
    let f ← draft.resolve.mapError .definition
    return (.field f, { w with fields := w.fields ++ [f] })
  | .query key name source => do
    let q ← (source.resolve key name).mapError .definition
    return (.query q, { w with queries := w.queries ++ [q] })
  | .model name => return { w with fields := [] }.setModel (Model.ofFields name w.fields)
  | .typeName name => do
    let m ← w.currentModel
    return w.setModel (m.withTypeName name)
  | .tableName name => do
    let m ← w.currentModel
    return w.setModel (m.withTableName name)
  | .queries => do
    let m ← w.currentModel
    return { w with queries := [] }.setModel (m.withQueries w.queries)
  | .columnIndex name => do
    let m ← w.currentModel
    return (.index (m.columnIndex? name), w)
  | .queriesOf key => do
    let type ← (QueryType.keyed key).mapError .definition
    let m ← w.currentModel
    return (.names ((m.queriesOf type).map (·.name)), w)
  | .primaryKey => do
    let m ← w.currentModel
    let key ← m.primaryKey.mapError .primaryKey
    return (.field key, w)
  | .addModel => do
    let m ← w.currentModel
    let models := w.models ++ [m]
    return (.count models.length, { w with models := models })
  | .dataset name => return { w with models := [] }.setDataset ⟨name, w.models⟩
  | .compile document => do
    let d ← (document.compile w.options).mapError .build
    return w.setDataset d
  | .findModel name => do
    let d ← w.currentDataset
    return (.found (d.model? name), w)
  | .keyCheck check => return w.setOptions (w.options.withKeyCheck check)
  | .addInclude target => return w.setOptions (w.options.withInclude target)
  | .options text => do
    let o ← (Options.ofText text).mapError .options
    return w.setOptions o
  | .describe vars => do
    let d ← w.currentDataset
    return (.description d vars, w)
  | .filter template name vars => do
    let d ← w.currentDataset
    let values ← (filterValues template name vars d).mapError .primaryKey
    return (.values values, w)
  | .artifacts => do
    let d ← w.currentDataset
    return (.artifacts d w.options, w)
  | .generate vars absent => do
    let d ← w.currentDataset
    let files ← (DatasetCompiler.generate (Context.listing vars absent) w.options d).mapError
      .generation
    return (.files files, w)

/-- Does steps one after the other and collects their answers. -/
def run : Workbench → List Step → List (Except Failure Answer)
  | _, [] => []
  | w, s :: rest =>
    match w.step s with
    | .ok (answer, next) => .ok answer :: next.run rest
    | .error failure => .error failure :: w.run rest

end Workbench

end DatasetCompiler
