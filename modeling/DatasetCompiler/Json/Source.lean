import DatasetCompiler.Json.Lexer

/-!
# Sources of bytes

A source delivers the bytes of a text in pieces, and then it ends or fails.  The pieces are handed
to the lexer one after the other.
-/

namespace DatasetCompiler.Json

/-- An input that is delivered in pieces and then ends or fails. -/
structure Source where
  chunks : List (List UInt8)
  ending : Ending
deriving DecidableEq, Repr

def Lexer.feedChunks : Lexer → List (List UInt8) → Lexer.Output
  | l, [] => ([], some l)
  | l, chunk :: chunks =>
    match l.feed chunk with
    | (tokens, none) => (tokens, none)
    | (tokens, some next) =>
      let (more, last) := feedChunks next chunks
      (tokens ++ more, last)

namespace Source

def lex (source : Source) : Lexed :=
  Lexer.conclude source.ending (Lexer.between.feedChunks source.chunks)

/-- Cuts bytes into pieces of a size; size zero leaves them in one piece. -/
def pieces (size : Nat) (bytes : List UInt8) : List (List UInt8) :=
  if size = 0 ∨ bytes.drop size = [] then [bytes]
  else bytes.take size :: pieces size (bytes.drop size)
termination_by bytes.length
decreasing_by
  rename_i h
  simp only [not_or, List.drop_eq_nil_iff, Nat.not_le] at h
  simp only [List.length_drop]
  omega

def ofBytes (size : Nat) (bytes : List UInt8) : Source := ⟨pieces size bytes, .closed⟩

/-- A source that delivers bytes and fails after `count` of them, if there are that many. -/
def failing (size count : Nat) (bytes : List UInt8) : Source :=
  if count ≤ bytes.length then ⟨pieces size (bytes.take count), .broken⟩ else ofBytes size bytes

end Source

end DatasetCompiler.Json
