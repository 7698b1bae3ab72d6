import DatasetCompiler.Json.Value

/-!
# Drafts

A draft is a definition as written: the strings and integers of a document in the structure of a
dataset, before types are resolved and queries are compiled.

Main definitions: `DatasetDraft`, and `DatasetDraft.ofJson?`, which takes a draft out of a JSON
value.  It fails without explanation; `Schema.check` finds out what is wrong and where.  Taken by
itself it asks for less than `Schema.check`: a record may also be an array of its values in the
order of their keys, and null stands for an optional value that is left out.
-/

namespace DatasetCompiler

structure FieldDraft where
  name : String
  typeName : String
  maxLength : Option Int64
deriving DecidableEq, Repr

structure QueryDraft where
  name : String
  text : String
deriving DecidableEq, Repr

/-- The queries under one key. -/
structure QueryGroup where
  key : String
  entries : List QueryDraft
deriving DecidableEq, Repr

/-- A model as written, with its query groups in document order. -/
structure ModelDraft where
  name : String
  typeName : Option String
  tableName : Option String
  fields : List FieldDraft
  groups : List QueryGroup
deriving DecidableEq, Repr

structure DatasetDraft where
  name : String
  models : List ModelDraft
deriving DecidableEq, Repr

def FieldDraft.keys : List String := ["name", "type", "maxLength"]

def FieldDraft.ofJson? (value : Json) : Option FieldDraft := do
  let members ← value.record? FieldDraft.keys
  let name ← Json.required? Json.string? members "name"
  let typeName ← Json.required? Json.string? members "type"
  let maxLength ← Json.optional? Json.int64? members "maxLength"
  return ⟨name, typeName, maxLength⟩

def QueryDraft.keys : List String := ["name", "query"]

def QueryDraft.ofJson? (value : Json) : Option QueryDraft := do
  let members ← value.record? QueryDraft.keys
  let name ← Json.required? Json.string? members "name"
  let text ← Json.required? Json.string? members "query"
  return ⟨name, text⟩

def QueryGroup.ofMember? (member : String × Json) : Option QueryGroup :=
  (Json.arrayOf? QueryDraft.ofJson? member.2).map (⟨member.1, ·⟩)

def QueryGroup.listOfJson? (value : Json) : Option (List QueryGroup) :=
  value.object?.bind (·.mapM QueryGroup.ofMember?)

def ModelDraft.keys : List String := ["name", "typeName", "tableName", "fields", "queries"]

def ModelDraft.ofJson? (value : Json) : Option ModelDraft := do
  let members ← value.record? ModelDraft.keys
  let name ← Json.required? Json.string? members "name"
  let typeName ← Json.optional? Json.string? members "typeName"
  let tableName ← Json.optional? Json.string? members "tableName"
  let fields ← Json.required? (Json.arrayOf? FieldDraft.ofJson?) members "fields"
  let groups ← Json.defaulted? QueryGroup.listOfJson? [] members "queries"
  return ⟨name, typeName, tableName, fields, groups⟩

def DatasetDraft.keys : List String := ["datasetName", "models"]

def DatasetDraft.ofJson? (value : Json) : Option DatasetDraft := do
  let members ← value.record? DatasetDraft.keys
  let name ← Json.required? Json.string? members "datasetName"
  let models ← Json.required? (Json.arrayOf? ModelDraft.ofJson?) members "models"
  return ⟨name, models⟩

end DatasetCompiler
