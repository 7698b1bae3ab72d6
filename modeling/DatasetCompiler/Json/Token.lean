import DatasetCompiler.Json.Value

/-!
# Tokens of JSON text

JSON text is a sequence of bytes that falls into tokens: six marks, three words, numbers and
strings.  A text is cut into its tokens first (`Json.Lexer`); both the readers of whole documents
(`Json.Builder`) and the reader of compile options work on tokens.

Reading stops for one of four reasons (`Stop`).  Which fault that is depends on what was awaited
there: a text that ends inside a number is truncated where a value may stand, and malformed where
only a comma may.
-/

namespace DatasetCompiler.Json

/-- What lies behind the last byte of an input: its end, or a failed read. -/
inductive Ending where
  | closed
  | broken
deriving DecidableEq, Repr

inductive Fault where
  /-- No JSON text begins like this. -/
  | malformed
  /-- The input ended where more was required. -/
  | truncated
  /-- Reading the input failed. -/
  | unreadable
deriving DecidableEq, Repr

/-- The fault of asking for a byte behind the last one. -/
def Ending.fault : Ending → Fault
  | .closed => .truncated
  | .broken => .unreadable

inductive Token where
  | openBrace
  | closeBrace
  | openBracket
  | closeBracket
  | comma
  | colon
  | null
  | bool (value : Bool)
  | number (value : Number)
  | string (text : String)
deriving DecidableEq, Repr

/-- Why there is no further token. -/
inductive Stop where
  /-- The input ended between two tokens. -/
  | finished
  /-- Reading failed between two tokens. -/
  | broken
  /-- The next bytes begin no token. -/
  | malformed
  /-- The input stopped inside a token, which is a string or another scalar. -/
  | cut (isString : Bool) (ending : Ending)
deriving DecidableEq, Repr

/-- What may come next in a text. -/
inductive Awaited where
  | value
  | text
  | mark
deriving DecidableEq, Repr

/-- Whether a scalar of which only the beginning is there could be what is awaited. -/
def Awaited.mayBe : Awaited → (isString : Bool) → Bool
  | .value, _ => true
  | .text, isString => isString
  | .mark, _ => false

/-- The fault of a text that has no further token although one is awaited. -/
def Stop.fault (awaited : Awaited) : Stop → Fault
  | .finished => .truncated
  | .broken => .unreadable
  | .malformed => .malformed
  | .cut isString ending => if awaited.mayBe isString then ending.fault else .malformed

/-- The end of a text after its last token: nothing but blanks may follow. -/
def Stop.atEnd : Stop → Except Fault Unit
  | .finished => .ok ()
  | .broken => .error .unreadable
  | .malformed => .error .malformed
  | .cut _ _ => .error .malformed

/-- A text cut into tokens, with the reason why there are no more. -/
structure Lexed where
  tokens : List Token
  stop : Stop
deriving DecidableEq, Repr

end DatasetCompiler.Json
