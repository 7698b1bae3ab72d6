import DatasetCompiler.FieldType

/-!
# Faults of a definition

What can be wrong with the content of a well-formed definition, and where.  A fault is found deep
inside a model and learns its place on the way out: the entry first, then the model.  A place that
is already known is never replaced, so the innermost one stays.

Main definitions: `DefinitionError` with `inModel` and `onEntry`, and its message; and
`KeyViolation`, a model without exactly one primary key.
-/

namespace DatasetCompiler

inductive DefinitionError.Kind where
  | unknownFieldType (name : String)
  | maxLengthNotAllowed (type : FieldType)
  | invalidMaxLength (length : Int64)
  | unknownQueryType (key : String)
deriving DecidableEq, Repr

inductive DefinitionError.Entry where
  | field (name : String)
  | query (name : String)
  | queryGroup (key : String)
deriving DecidableEq, Repr

/-- A fault with its place, as far as it is known. -/
structure DefinitionError where
  kind : DefinitionError.Kind
  model : Option String
  entry : Option DefinitionError.Entry
deriving DecidableEq, Repr

namespace DefinitionError

def Kind.message : Kind → String
  | .unknownFieldType name => "unknown field type `" ++ name ++ "`"
  | .maxLengthNotAllowed type => "fields of type " ++ type.name ++ " cannot have a max length"
  | .invalidMaxLength length => "invalid max length value: " ++ toString length.toInt
  | .unknownQueryType key => "unknown query type `" ++ key ++ "`"

def Entry.description : Entry → String
  | .field name => "field `" ++ name ++ "`"
  | .query name => "query `" ++ name ++ "`"
  | .queryGroup key => "query group `" ++ key ++ "`"

/-- A fault whose place is not known yet. -/
def ofKind (kind : Kind) : DefinitionError := ⟨kind, none, none⟩

/-- The fault with its model, unless that is known already. -/
def inModel (e : DefinitionError) (model : String) : DefinitionError :=
  { e with model := e.model <|> some model }

/-- The fault with its entry, unless that is known already. -/
def onEntry (e : DefinitionError) (entry : Entry) : DefinitionError :=
  { e with entry := e.entry <|> some entry }

/-- The place of a fault, as the beginning of its message. -/
def location (e : DefinitionError) : String :=
  match e.model, e.entry with
  | some model, some entry => "model `" ++ model ++ "`, " ++ entry.description ++ ": "
  | some model, none => "model `" ++ model ++ "`: "
  | none, some entry => entry.description ++ ": "
  | none, none => ""

def message (e : DefinitionError) : String :=
  e.location ++ e.kind.message

end DefinitionError

/-- A model that has `found` primary keys and not exactly one. -/
structure KeyViolation where
  model : String
  found : Nat
deriving DecidableEq, Repr

def KeyViolation.message (v : KeyViolation) : String :=
  "model `" ++ v.model ++ "` must have exactly one PrimaryKey field, found " ++ toString v.found

end DatasetCompiler
