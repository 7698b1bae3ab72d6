/-!
# Strings, byte by byte

A string is read as bytes up to its closing quote and is then required to be UTF-8.  An escape
stands for the bytes of one character.  The four digits of a `\u` escape are taken before they are
judged, and an escape for a high surrogate must be followed at once by one for a low surrogate.
-/

namespace DatasetCompiler.Json

/-- How far a string has been read behind its opening quote; `bytes` holds what was read, last byte
first. -/
inductive StringLexer where
  /-- Between two characters. -/
  | body (bytes : List UInt8)
  /-- Behind a backslash. -/
  | escape (bytes : List UInt8)
  /-- Inside the digits of a `\u` escape, last digit first, perhaps behind a high surrogate. -/
  | hex (bytes : List UInt8) (high : Option Nat) (digits : List UInt8)
  /-- Behind a high surrogate, where a backslash is due. -/
  | surrogate (bytes : List UInt8) (high : Nat)
  /-- Behind a high surrogate and a backslash, where a `u` is due. -/
  | surrogateEscape (bytes : List UInt8) (high : Nat)
deriving DecidableEq, Repr

inductive StringStep where
  /-- The byte belongs to the string. -/
  | more (next : StringLexer)
  /-- The byte is the closing quote; these are the bytes of the string. -/
  | closed (bytes : List UInt8)
  /-- No string continues like this. -/
  | malformed
deriving DecidableEq, Repr

def hexDigit? (b : UInt8) : Option Nat :=
  let c := Char.ofUInt8 b
  if '0' ≤ c ∧ c ≤ '9' then some (c.toNat - '0'.toNat)
  else if 'a' ≤ c ∧ c ≤ 'f' then some (c.toNat - 'a'.toNat + 10)
  else if 'A' ≤ c ∧ c ≤ 'F' then some (c.toNat - 'A'.toNat + 10)
  else none

/-- The number written by hexadecimal digits, last digit first. -/
def hexValue? : List UInt8 → Option Nat
  | [] => some 0
  | b :: bs => do
    let high ← hexValue? bs
    let low ← hexDigit? b
    return high * 16 + low

def isHighSurrogate (n : Nat) : Bool := 0xD800 ≤ n && n ≤ 0xDBFF

def isLowSurrogate (n : Nat) : Bool := 0xDC00 ≤ n && n ≤ 0xDFFF

def joinSurrogates (high low : Nat) : Char :=
  Char.ofNat (0x10000 + (high - 0xD800) * 0x400 + (low - 0xDC00))

namespace StringLexer

def push (bytes : List UInt8) (c : Char) : StringLexer :=
  .body ((String.utf8EncodeChar c).reverse ++ bytes)

def escaped? (b : UInt8) : Option Char :=
  match Char.ofUInt8 b with
  | '"' => some '"'
  | '\\' => some '\\'
  | '/' => some '/'
  | 'b' => some '\x08'
  | 'f' => some '\x0c'
  | 'n' => some '\n'
  | 'r' => some '\r'
  | 't' => some '\t'
  | _ => none

/-- The end of a `\u` escape that wrote a number. -/
def closeHex (bytes : List UInt8) : (high : Option Nat) → Nat → StringStep
  | none, n =>
    if isLowSurrogate n then .malformed
    else if isHighSurrogate n then .more (.surrogate bytes n)
    else .more (push bytes (Char.ofNat n))
  | some high, n =>
    if isLowSurrogate n then .more (push bytes (joinSurrogates high n)) else .malformed

def step (b : UInt8) : StringLexer → StringStep
  | .body bytes =>
    if Char.ofUInt8 b = '"' then .closed bytes.reverse
    else if Char.ofUInt8 b = '\\' then .more (.escape bytes)
    else if b < 0x20 then .malformed
    else .more (.body (b :: bytes))
  | .escape bytes =>
    match escaped? b with
    | some c => .more (push bytes c)
    | none => if Char.ofUInt8 b = 'u' then .more (.hex bytes none []) else .malformed
  | .hex bytes high digits =>
    if digits.length < 3 then .more (.hex bytes high (b :: digits))
    else
      match hexValue? (b :: digits) with
      | some n => closeHex bytes high n
      | none => .malformed
  | .surrogate bytes high =>
    if Char.ofUInt8 b = '\\' then .more (.surrogateEscape bytes high) else .malformed
  | .surrogateEscape bytes high =>
    if Char.ofUInt8 b = 'u' then .more (.hex bytes (some high) []) else .malformed

end StringLexer

def textOfBytes? (bytes : List UInt8) : Option String :=
  String.fromUTF8? ⟨bytes.toArray⟩

end DatasetCompiler.Json
