/-!
# Query types

The five kinds of queries a model can have.  In a definition, the queries of one kind stand in a
group under the key of that kind.
-/

namespace DatasetCompiler

inductive QueryType where
  | select
  | find
  | count
  | delete
  | update
deriving DecidableEq, Repr

namespace QueryType

def all : List QueryType := [.select, .find, .count, .delete, .update]

/-- The key of the group that holds queries of this kind. -/
def key : QueryType → String
  | .select => "select"
  | .find => "find"
  | .count => "count"
  | .delete => "delete"
  | .update => "update"

def ofKey? (key : String) : Option QueryType :=
  all.find? (·.key = key)

/-- The place of a kind in `all`. -/
def index (t : QueryType) : Nat :=
  all.idxOf t

end QueryType

end DatasetCompiler
