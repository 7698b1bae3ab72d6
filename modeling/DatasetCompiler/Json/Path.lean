import DatasetCompiler.Json.Token

/-!
# Places in a JSON value

A path leads from the root of a value to a place inside it, by keys of objects and indexes of
arrays.  It is written with dots and brackets, `$` for the root itself: `models[2].fields[0].name`.
-/

namespace DatasetCompiler.Json

inductive PathStep where
  | key (name : String)
  | index (i : Nat)
deriving DecidableEq, Repr

/-- A path, first step first. -/
abbrev Path := List PathStep

namespace Path

def root : Path := []

def key (p : Path) (name : String) : Path := p ++ [.key name]

def index (p : Path) (i : Nat) : Path := p ++ [.index i]

/-- The steps behind the first one, as written. -/
def renderSteps : Path → String
  | [] => ""
  | .key name :: rest => "." ++ name ++ renderSteps rest
  | .index i :: rest => "[" ++ toString i ++ "]" ++ renderSteps rest

def render : Path → String
  | [] => "$"
  | .key name :: rest => name ++ renderSteps rest
  | .index i :: rest => "$" ++ renderSteps (.index i :: rest)

end Path

end DatasetCompiler.Json
