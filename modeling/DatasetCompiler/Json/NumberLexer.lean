import DatasetCompiler.Json.Token

/-!
# Numbers, byte by byte

A number is an optional minus sign, an integer without superfluous leading zeros, an optional
fraction and an optional exponent.  It is read into a significand of 64 bits and a power of ten:
digits of the integer part that no longer fit only raise the power, and such digits of the fraction
are dropped.  A number without fraction and exponent that fits a machine word stays an integer.
-/

namespace DatasetCompiler.Json

open Numeral (Binary64)

def maxSignificand : Nat := Nat.pow 2 64 - 1

/-- The largest exponent that is looked at; a number with a larger one is out of range. -/
def maxWrittenExponent : Nat := Nat.pow 2 31 - 1

/-- The digits read so far, as `significand * 10 ^ power`. -/
structure Mantissa where
  negative : Bool
  significand : Nat
  power : Int
  /-- Whether a digit of the current part did not fit. -/
  full : Bool
deriving DecidableEq, Repr

namespace Mantissa

def start (negative : Bool) : Mantissa := ⟨negative, 0, 0, false⟩

def fits (m : Mantissa) (digit : Nat) : Bool :=
  !m.full && m.significand * 10 + digit ≤ maxSignificand

def pushInteger (m : Mantissa) (digit : Nat) : Mantissa :=
  if m.fits digit then { m with significand := m.significand * 10 + digit }
  else { m with power := m.power + 1, full := true }

def pushFraction (m : Mantissa) (digit : Nat) : Mantissa :=
  if m.fits digit then { m with significand := m.significand * 10 + digit, power := m.power - 1 }
  else { m with full := true }

/-- The floating point number with a further power of ten, unless it is out of range. -/
def float? (m : Mantissa) (power : Int) : Option Number :=
  (Binary64.scaled? m.significand (m.power + power)).map (.float m.negative)

/-- The number without fraction and exponent.  Minus zero, and a negative number below the machine
words, are floating point numbers. -/
def integer? (m : Mantissa) : Option Number :=
  if m.full then m.float? 0
  else if !m.negative then some (.integer m.significand)
  else if 0 < m.significand && m.significand ≤ Nat.pow 2 63 then some (.integer (-m.significand))
  else some (.float true (Binary64.ofNat m.significand))

end Mantissa

/-- How far a number has been read. -/
inductive NumberLexer where
  | sign
  /-- A leading zero. -/
  | zero (m : Mantissa)
  /-- A nonempty integer part without leading zero. -/
  | integer (m : Mantissa)
  | point (m : Mantissa)
  /-- A nonempty fraction. -/
  | fraction (m : Mantissa)
  | mark (m : Mantissa)
  | markSign (m : Mantissa) (down : Bool)
  /-- A nonempty exponent. -/
  | exponent (m : Mantissa) (down : Bool) (value : Nat)
deriving DecidableEq, Repr

inductive NumberStep where
  /-- The byte belongs to the number. -/
  | more (next : NumberLexer)
  /-- The number ended before the byte. -/
  | ended
  /-- No number continues like this. -/
  | malformed
deriving DecidableEq, Repr

def digit? (b : UInt8) : Option Nat :=
  if (Char.ofUInt8 b).isDigit then some (b.toNat - '0'.toNat) else none

namespace NumberLexer

def start? (b : UInt8) : Option NumberLexer :=
  if Char.ofUInt8 b = '-' then some .sign
  else
    match digit? b with
    | some 0 => some (.zero (Mantissa.start false))
    | some d => some (.integer ((Mantissa.start false).pushInteger d))
    | none => none

/-- Behind the integer part: a fraction, an exponent, or the end. -/
def afterInteger (m : Mantissa) (b : UInt8) : NumberStep :=
  match Char.ofUInt8 b with
  | '.' => .more (.point { m with full := false })
  | 'e' | 'E' => .more (.mark m)
  | _ => .ended

def pushExponent (m : Mantissa) (down : Bool) (value digit : Nat) : NumberStep :=
  let value := value * 10 + digit
  if maxWrittenExponent < value && !down && m.significand ≠ 0 then .malformed
  else .more (.exponent m down value)

def step (b : UInt8) : NumberLexer → NumberStep
  | .sign =>
    match digit? b with
    | some 0 => .more (.zero (Mantissa.start true))
    | some d => .more (.integer ((Mantissa.start true).pushInteger d))
    | none => .malformed
  | .zero m =>
    match digit? b with
    | some _ => .malformed
    | none => afterInteger m b
  | .integer m =>
    match digit? b with
    | some d => .more (.integer (m.pushInteger d))
    | none => afterInteger m b
  | .point m =>
    match digit? b with
    | some d => .more (.fraction (m.pushFraction d))
    | none => .malformed
  | .fraction m =>
    match digit? b with
    | some d => .more (.fraction (m.pushFraction d))
    | none => if Char.ofUInt8 b = 'e' || Char.ofUInt8 b = 'E' then .more (.mark m) else .ended
  | .mark m =>
    match digit? b with
    | some d => pushExponent m false 0 d
    | none =>
      if Char.ofUInt8 b = '+' then .more (.markSign m false)
      else if Char.ofUInt8 b = '-' then .more (.markSign m true)
      else .malformed
  | .markSign m down =>
    match digit? b with
    | some d => pushExponent m down 0 d
    | none => .malformed
  | .exponent m down value =>
    match digit? b with
    | some d => pushExponent m down value d
    | none => .ended

def isComplete : NumberLexer → Bool
  | .zero _ | .integer _ | .fraction _ | .exponent _ _ _ => true
  | .sign | .point _ | .mark _ | .markSign _ _ => false

/-- The value of a complete number, unless it is out of range. -/
def value? : NumberLexer → Option Number
  | .zero m | .integer m => m.integer?
  | .fraction m => m.float? 0
  | .exponent m down value =>
    if m.significand = 0 then some (.float m.negative Binary64.zero)
    else m.float? (if down then -value else value)
  | .sign | .point _ | .mark _ | .markSign _ _ => none

end NumberLexer

end DatasetCompiler.Json
