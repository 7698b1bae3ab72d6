/-!
# Compile options

Two decisions are left to whoever compiles a definition: whether every model must have exactly one
primary key already when it is compiled, and which include targets the generated types need beyond
the built-in one.
-/

namespace DatasetCompiler

/-- When the number of primary keys of a model is checked. -/
inductive KeyCheck where
  /-- While the definition is compiled. -/
  | eager
  /-- Only where the key is needed. -/
  | lazy
deriving DecidableEq, Repr

def KeyCheck.name : KeyCheck → String
  | .eager => "eager"
  | .lazy => "lazy"

def KeyCheck.all : List KeyCheck := [.eager, .lazy]

def KeyCheck.ofName? (name : String) : Option KeyCheck :=
  KeyCheck.all.find? (·.name = name)

structure Options where
  keyCheck : KeyCheck
  includes : List String
deriving DecidableEq, Repr

namespace Options

/-- The options of a compilation that says nothing: an eager check and no further includes. -/
def default : Options := ⟨.eager, []⟩

instance : Inhabited Options := ⟨default⟩

def withKeyCheck (o : Options) (check : KeyCheck) : Options := { o with keyCheck := check }

def withInclude (o : Options) (target : String) : Options :=
  { o with includes := o.includes ++ [target] }

end Options

end DatasetCompiler
