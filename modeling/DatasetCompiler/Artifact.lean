import DatasetCompiler.Filter
import DatasetCompiler.Options

/-!
# Artifacts

Four files are generated for a dataset, one from each template, in a fixed order.  The text of a
file is left to a renderer, which is given the file's template, include targets, dataset and
filters; generation stops at the first file that cannot be rendered.

`Context.listing` is a plain renderer that writes down all a template can use.
-/

namespace DatasetCompiler

namespace Template

/-- Every template, in generation order. -/
def all : List Template := [.typesHeader, .typesSource, .accessorHeader, .accessorSource]

def name : Template → String
  | .typesHeader => "TypesHeader"
  | .typesSource => "TypesSource"
  | .accessorHeader => "AccessorHeader"
  | .accessorSource => "AccessorSource"

def ofName? (name : String) : Option Template :=
  all.find? (·.name = name)

/-- The file that holds a template. -/
def file : Template → String
  | .typesHeader => "ctypes.h"
  | .typesSource => "ctypes.c"
  | .accessorHeader => "accessor.h"
  | .accessorSource => "accessor.c"

def outputName (d : Dataset) : Template → String
  | .typesHeader => d.typesHeader
  | .typesSource => d.typesSource
  | .accessorHeader => d.accessorHeader
  | .accessorSource => d.accessorSource

end Template

/-! ### Include targets -/

/-- The include target that every types header begins with. -/
def builtinInclude : String := "<sqlite3.h>"

/-- Appends a target unless it is there. -/
def addInclude (targets : List String) (target : String) : List String :=
  if targets.contains target then targets else targets ++ [target]

/-- The include targets of a types header: the built-in one, then the further ones, each once. -/
def typesHeaderIncludes (further : List String) : List String :=
  further.foldl addInclude [builtinInclude]

def Template.includes (options : Options) (d : Dataset) : Template → List String
  | .typesHeader => typesHeaderIncludes options.includes
  | .typesSource => ["<stdlib.h>", "<string.h>", quotedInclude d.typesHeader]
  | .accessorHeader => ["<sqlite3.h>", quotedInclude d.typesHeader]
  | .accessorSource => ["<stddef.h>", quotedInclude "cqlite.h", quotedInclude d.accessorHeader]

/-! ### Generation -/

/-- What a renderer is given. -/
structure Context where
  template : Template
  includes : List String
  dataset : Dataset

def Context.filters (c : Context) : List NamedFilter := c.template.filters

def Template.context (options : Options) (d : Dataset) (t : Template) : Context :=
  ⟨t, t.includes options d, d⟩

structure Artifact where
  fileName : String
  contents : String
deriving DecidableEq, Repr

/-- A file that could not be rendered, with the cause. -/
structure GenerateError (ε : Type) where
  template : Template
  fileName : String
  source : ε

def GenerateError.message {ε : Type} (e : GenerateError ε) (causeMessage : ε → String) : String :=
  "failed to render `" ++ e.fileName ++ "`: " ++ causeMessage e.source

/-- The templates up to the one that failed: all that were given to the renderer. -/
def GenerateError.attempted {ε : Type} (e : GenerateError ε) : List Template :=
  Template.all.takeWhile (· ≠ e.template) ++ [e.template]

def Template.generate {ε : Type} (render : Context → Except ε String) (options : Options)
    (d : Dataset) (t : Template) : Except (GenerateError ε) Artifact :=
  match render (t.context options d) with
  | .ok contents => .ok ⟨t.outputName d, contents⟩
  | .error cause => .error ⟨t, t.outputName d, cause⟩

def generate {ε : Type} (render : Context → Except ε String) (options : Options) (d : Dataset) :
    Except (GenerateError ε) (List Artifact) :=
  Template.all.mapM (Template.generate render options d)

/-! ### Listings -/

inductive ListingError where
  /-- The template is not there. -/
  | missing (template : Template)
  /-- A filter needs the primary key of a model that does not have exactly one. -/
  | primaryKey (violation : KeyViolation)
deriving DecidableEq, Repr

def ListingError.message : ListingError → String
  | .missing template => "template `" ++ template.file ++ "` missing"
  | .primaryKey violation => violation.message

def NamedFilter.listing (vars : Variables) (d : Dataset) (f : NamedFilter) :
    Except KeyViolation String := do
  let values ← f.filter.values vars d
  return String.join (values.map fun value => f.name ++ ": " ++ value ++ "\n")

/-- Writes down the include targets and every value of every filter, unless the template is the
absent one. -/
def Context.listing (vars : Variables) (absent : Option Template) (c : Context) :
    Except ListingError String :=
  if absent = some c.template then .error (.missing c.template)
  else
    let head := String.join (c.includes.map fun target => "#include " ++ target ++ "\n")
    match c.filters.mapM (NamedFilter.listing vars c.dataset) with
    | .ok sections => .ok (head ++ String.join sections)
    | .error violation => .error (.primaryKey violation)

end DatasetCompiler
