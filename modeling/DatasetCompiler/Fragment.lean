/-!
# Fragments of generated code

Calls with their arguments, and statements that read one value from a row.
-/

namespace DatasetCompiler

inductive Argument where
  | var (name : String)
  /-- A column constant, moved by an offset. -/
  | column (constant : String) (offset : Nat)
  | position (n : Nat)
  | member (owner field : String)
  | memberAddress (owner field : String)
  | sizeOf (owner field : String)
  /-- The length of a text that ends with a zero byte. -/
  | lengthSentinel
  /-- The request to copy a value. -/
  | transient
deriving DecidableEq, Repr

def Argument.text : Argument → String
  | .var name => name
  | .column constant offset =>
    if offset = 0 then constant else "(" ++ constant ++ " + " ++ toString offset ++ ")"
  | .position n => toString n
  | .member owner field => owner ++ "->" ++ field
  | .memberAddress owner field => "&" ++ owner ++ "->" ++ field
  | .sizeOf owner field => "sizeof( " ++ owner ++ "->" ++ field ++ " )"
  | .lengthSentinel => "-1"
  | .transient => "SQLITE_TRANSIENT"

structure Call where
  operation : String
  args : List Argument
deriving DecidableEq, Repr

def Call.text (c : Call) : String :=
  if c.args.isEmpty then c.operation ++ "()"
  else c.operation ++ "( " ++ ", ".intercalate (c.args.map Argument.text) ++ " )"

/-- A statement that reads one value. -/
inductive Read where
  /-- The result of the call is the value. -/
  | assign (target : Argument) (call : Call)
  /-- The call stores the value and tells whether that worked. -/
  | accumulate (success : String) (call : Call)
deriving DecidableEq, Repr

def Read.call : Read → Call
  | .assign _ call => call
  | .accumulate _ call => call

def Read.text : Read → String
  | .assign target call => target.text ++ " = " ++ call.text ++ ";"
  | .accumulate success call => success ++ " &= ( CQLITE_SUCCESS == " ++ call.text ++ " );"

end DatasetCompiler
