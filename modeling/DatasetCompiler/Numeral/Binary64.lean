/-!
# Binary floating point with 53 bits

A number with a fraction or an exponent, and an integer too large for a machine word, is kept as
the nearest value with 53 significant bits.  The values are pairs of naturals and integers, and
every operation rounds an exact quotient once, to nearest with ties to even, so nothing here
depends on the floating point unit of the machine that runs it.

Main definitions: `Binary64.ofRatio?` rounds a quotient, and `Binary64.scaled?` reads a significand
with a power of ten.
-/

namespace DatasetCompiler.Numeral

/-- The finite, nonnegative value `mantissa * 2 ^ exponent`. -/
structure Binary64 where
  mantissa : Nat
  exponent : Int
deriving DecidableEq, Repr

namespace Binary64

/-- The smallest exponent: subnormal values end here. -/
def minExponent : Int := -1074

/-- The largest exponent of a finite value. -/
def maxExponent : Int := 971

def zero : Binary64 := ⟨0, minExponent⟩

def isZero (x : Binary64) : Bool := x.mantissa == 0

/-- The quotient `num / den` rounded to an integer, ties to even. -/
def roundDiv (num den : Nat) : Nat :=
  let q := num / den
  let r := num % den
  if 2 * r < den then q
  else if den < 2 * r then q + 1
  else q + q % 2

/-- The quotient `num / den` divided by `2 ^ e`, again as a numerator and a denominator. -/
def shifted (num den : Nat) (e : Int) : Nat × Nat :=
  if 0 ≤ e then (num, den * Nat.pow 2 e.toNat) else (num * Nat.pow 2 (-e).toNat, den)

/-- The exponent at which the positive quotient `num / den` has 53 bits before its binary point,
or the smallest exponent when it has fewer there. -/
def exponentOf (num den : Nat) : Int :=
  let e := max (((Nat.log2 num : Nat) : Int) - (Nat.log2 den : Nat) - 53) minExponent
  let (n, d) := shifted num den e
  if Nat.pow 2 53 ≤ n / d then e + 1 else e

/-- The quotient `num / den` rounded to the nearest value, or nothing if that is not finite. -/
def ofRatio? (num den : Nat) : Option Binary64 :=
  if num = 0 then some zero
  else
    let e := exponentOf num den
    let (n, d) := shifted num den e
    let m := roundDiv n d
    let (m, e) := if m = Nat.pow 2 53 then (Nat.pow 2 52, e + 1) else (m, e)
    if e ≤ maxExponent then some ⟨m, e⟩ else none

def toRatio (x : Binary64) : Nat × Nat :=
  if 0 ≤ x.exponent then (x.mantissa * Nat.pow 2 x.exponent.toNat, 1)
  else (x.mantissa, Nat.pow 2 (-x.exponent).toNat)

def mul? (x y : Binary64) : Option Binary64 :=
  ofRatio? (x.toRatio.1 * y.toRatio.1) (x.toRatio.2 * y.toRatio.2)

/-- The quotient of two values, rounded once; `y` is not zero. -/
def div? (x y : Binary64) : Option Binary64 :=
  ofRatio? (x.toRatio.1 * y.toRatio.2) (x.toRatio.2 * y.toRatio.1)

/-- The value nearest to a natural number; numbers of 64 bits are always finite. -/
def ofNat (n : Nat) : Binary64 :=
  (ofRatio? n 1).getD zero

def maxPowerOfTen : Nat := 308

/-- The value nearest to a power of ten; `k` is at most `maxPowerOfTen`. -/
def powerOfTen (k : Nat) : Binary64 :=
  ofNat (Nat.pow 10 k)

/-- Multiplies or divides by one power of ten, at most `maxPowerOfTen` up or down. -/
def timesPowerOfTen? (x : Binary64) (power : Int) : Option Binary64 :=
  if power < 0 then x.div? (powerOfTen (-power).toNat) else x.mul? (powerOfTen power.toNat)

/-- Multiplies or divides by a power of ten.  A power below the reach of one step is approached by
dividing by the largest power of ten, `steps` times at most: a significand of 64 bits vanishes after
two such divisions.  A value that grows out of range has no result. -/
def scaleBy? (steps : Nat) (x : Binary64) (power : Int) : Option Binary64 :=
  if power < -(maxPowerOfTen : Int) then
    match steps with
    | 0 => some zero
    | steps + 1 =>
      if x.isZero then some x
      else
        (x.div? (powerOfTen maxPowerOfTen)).bind fun y => scaleBy? steps y (power + maxPowerOfTen)
  else if power ≤ maxPowerOfTen then x.timesPowerOfTen? power
  else if x.isZero then some x
  else none

def scaled? (significand : Nat) (power : Int) : Option Binary64 :=
  scaleBy? 3 (ofNat significand) power

end Binary64

end DatasetCompiler.Numeral
