import DatasetCompiler.Json.NumberLexer
import DatasetCompiler.Json.StringLexer

/-!
# Cutting JSON text into tokens

The lexer takes one byte at a time and needs no look-ahead: a number ends when the byte behind it
arrives.  So an input may come in pieces of any size (`Lexer.feed`), and what it has said about the
first bytes never changes when more bytes come.

Main definitions: `Lexer.step` for one byte, `Lexer.feed` for a run of bytes, `lex` for a whole
input.
-/

namespace DatasetCompiler.Json

/-- How far the current token has been read. -/
inductive Lexer where
  | between
  /-- Inside a word, before its last byte; `rest` are the bytes still due. -/
  | word (rest : List UInt8) (token : Token)
  | number (n : NumberLexer)
  | string (s : StringLexer)
deriving DecidableEq, Repr

/-- The tokens that bytes complete, and the lexer behind them unless no token continues so. -/
abbrev Lexer.Output := List Token × Option Lexer

def isBlank (b : UInt8) : Bool :=
  b == 0x20 || b == 0x09 || b == 0x0A || b == 0x0D

def mark? (b : UInt8) : Option Token :=
  match Char.ofUInt8 b with
  | '{' => some .openBrace
  | '}' => some .closeBrace
  | '[' => some .openBracket
  | ']' => some .closeBracket
  | ',' => some .comma
  | ':' => some .colon
  | _ => none

def asciiBytes (word : String) : List UInt8 :=
  word.toList.map Char.toUInt8

/-- The word that starts with a byte: the bytes still due, and the token. -/
def word? (b : UInt8) : Option (List UInt8 × Token) :=
  match Char.ofUInt8 b with
  | 't' => some (asciiBytes "rue", .bool true)
  | 'f' => some (asciiBytes "alse", .bool false)
  | 'n' => some (asciiBytes "ull", .null)
  | _ => none

namespace Lexer

def stepBetween (b : UInt8) : Output :=
  if isBlank b then ([], some .between)
  else if Char.ofUInt8 b = '"' then ([], some (.string (.body [])))
  else
    match mark? b, word? b, NumberLexer.start? b with
    | some token, _, _ => ([token], some .between)
    | none, some (rest, token), _ => ([], some (.word rest token))
    | none, none, some n => ([], some (.number n))
    | none, none, none => ([], none)

def stepWord (b : UInt8) (token : Token) : List UInt8 → Output
  | [] => ([], none)
  | [due] => if b = due then ([token], some .between) else ([], none)
  | due :: rest => if b = due then ([], some (.word rest token)) else ([], none)

/-- A byte inside or behind a number. -/
def stepNumber (b : UInt8) (n : NumberLexer) : Output :=
  match n.step b with
  | .more n => ([], some (.number n))
  | .malformed => ([], none)
  | .ended =>
    match n.value? with
    | none => ([], none)
    | some value =>
      let (tokens, next) := stepBetween b
      (.number value :: tokens, next)

def stepString (b : UInt8) (s : StringLexer) : Output :=
  match s.step b with
  | .more s => ([], some (.string s))
  | .malformed => ([], none)
  | .closed bytes =>
    match textOfBytes? bytes with
    | some text => ([.string text], some .between)
    | none => ([], none)

def step (b : UInt8) : Lexer → Output
  | .between => stepBetween b
  | .word rest token => stepWord b token rest
  | .number n => stepNumber b n
  | .string s => stepString b s

def feed : Lexer → List UInt8 → Output
  | l, [] => ([], some l)
  | l, b :: bs =>
    match l.step b with
    | (tokens, none) => (tokens, none)
    | (tokens, some next) =>
      let (more, last) := feed next bs
      (tokens ++ more, last)

/-- The end of the input: a last number, and why there are no more tokens. -/
def finish (ending : Ending) : Lexer → Lexed
  | .between =>
    match ending with
    | .closed => ⟨[], .finished⟩
    | .broken => ⟨[], .broken⟩
  | .word _ _ => ⟨[], .cut false ending⟩
  | .string _ => ⟨[], .cut true ending⟩
  | .number n =>
    match ending, n.isComplete with
    | .closed, true =>
      match n.value? with
      | some value => ⟨[.number value], .finished⟩
      | none => ⟨[], .malformed⟩
    | _, _ => ⟨[], .cut false ending⟩

/-- The end of the input for a lexer that may have been stopped before. -/
def conclude (ending : Ending) : Output → Lexed
  | (tokens, none) => ⟨tokens, .malformed⟩
  | (tokens, some l) =>
    let last := l.finish ending
    ⟨tokens ++ last.tokens, last.stop⟩

end Lexer

def lex (ending : Ending) (bytes : List UInt8) : Lexed :=
  Lexer.conclude ending (Lexer.between.feed bytes)

def bytesOfText (text : String) : List UInt8 :=
  text.toUTF8.data.toList

def lexText (text : String) : Lexed :=
  lex .closed (bytesOfText text)

end DatasetCompiler.Json
