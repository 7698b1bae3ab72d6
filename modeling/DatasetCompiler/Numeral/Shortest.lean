import DatasetCompiler.Numeral.Binary64

/-!
# Shortest decimals

A binary value is shown with the fewest decimal digits that read back as the same value, and among
those with the digits nearest to it.  The reals that round to `m * 2 ^ q` form an interval that
reaches half way to the two neighbours; it contains its ends exactly when `m` is even.  For one
digit, two digits, and so on, the two decimals around the value on that grid are tested against the
interval; seventeen digits always suffice.
-/

namespace DatasetCompiler.Numeral

/-- The decimal `digits * 10 ^ power`. -/
structure Decimal where
  digits : Nat
  power : Int
deriving DecidableEq, Repr

/-- `n * 10 ^ power` as a quotient of naturals. -/
def timesTenTo (n : Nat) (power : Int) : Nat × Nat :=
  if 0 ≤ power then (n * Nat.pow 10 power.toNat, 1) else (n, Nat.pow 10 (-power).toNat)

def ratioLE (a b : Nat × Nat) : Bool := a.1 * b.2 ≤ b.1 * a.2

namespace Binary64

/-- `n` quarters of the unit in the last place of a value with exponent `e`. -/
def quarterUnits (n : Nat) (e : Int) : Nat × Nat :=
  (⟨n, e - 2⟩ : Binary64).toRatio

/-- The lower end of the interval that rounds to the value.  Below a power of two the neighbour is
half as far away. -/
def lowerEnd (x : Binary64) : Nat × Nat :=
  let gap := if x.mantissa = Nat.pow 2 52 && minExponent < x.exponent then 1 else 2
  quarterUnits (4 * x.mantissa - gap) x.exponent

def upperEnd (x : Binary64) : Nat × Nat :=
  quarterUnits (4 * x.mantissa + 2) x.exponent

/-- Whether a decimal reads back as the value. -/
def readsBack (x : Binary64) (d : Decimal) : Bool :=
  let v := timesTenTo d.digits d.power
  if x.mantissa % 2 = 0 then ratioLE x.lowerEnd v && ratioLE v x.upperEnd
  else !ratioLE v x.lowerEnd && !ratioLE x.upperEnd v

/-- The exponent of the leading decimal digit of a positive value. -/
def leadingPower (x : Binary64) : Int :=
  let (n, d) := x.toRatio
  if d ≤ n then ((Nat.toDigits 10 (n / d)).length : Int) - 1
  else -((Nat.toDigits 10 ((d + n - 1) / n - 1)).length : Int)

/-- The decimal of so many digits nearest to the value among the two around it, if it or the other
one reads back; a tie goes to the even one. -/
def candidate? (x : Binary64) (count : Nat) : Option Decimal :=
  let power := x.leadingPower - count + 1
  let (n, d) := x.toRatio
  let (n, d) :=
    if 0 ≤ power then (n, d * Nat.pow 10 power.toNat) else (n * Nat.pow 10 (-power).toNat, d)
  let below : Decimal := ⟨n / d, power⟩
  let above : Decimal := ⟨n / d + 1, power⟩
  match x.readsBack below, x.readsBack above with
  | true, true => if roundDiv n d = n / d then some below else some above
  | true, false => some below
  | false, true => some above
  | false, false => none

/-- A decimal without trailing zeros; `fuel` bounds the number of zeros removed. -/
def trimZeros : Nat → Decimal → Decimal
  | 0, d => d
  | fuel + 1, d =>
    if d.digits ≠ 0 && d.digits % 10 = 0 then trimZeros fuel ⟨d.digits / 10, d.power + 1⟩ else d

def shortest (x : Binary64) : Decimal :=
  let found := (List.range 17).findSome? fun i => x.candidate? (i + 1)
  trimZeros 17 (found.getD ⟨x.mantissa, 0⟩)

end Binary64

/-- The decimal exponents that are written without an exponent mark. -/
def positionalPowers : Int × Int := (-5, 15)

def zeros (n : Nat) : String := String.ofList (List.replicate n '0')

/-- A decimal in words of digits: positional with at least one digit on each side of the point, or
one leading digit with a signed exponent outside `positionalPowers`. -/
def Decimal.text (d : Decimal) : String :=
  let ds := Nat.toDigits 10 d.digits
  let lead : Int := ds.length - 1 + d.power
  if positionalPowers.1 ≤ lead && lead ≤ positionalPowers.2 then
    if 0 ≤ d.power then String.ofList ds ++ zeros d.power.toNat ++ ".0"
    else if 0 ≤ lead then
      String.ofList (ds.take (lead.toNat + 1)) ++ "." ++ String.ofList (ds.drop (lead.toNat + 1))
    else "0." ++ zeros ((-lead).toNat - 1) ++ String.ofList ds
  else
    let fraction := if ds.length ≤ 1 then "" else "." ++ String.ofList (ds.drop 1)
    let mark := if lead < 0 then "e-" else "e+"
    String.ofList (ds.take 1) ++ fraction ++ mark ++ toString lead.natAbs

def Binary64.text (x : Binary64) : String :=
  if x.isZero then "0.0" else x.shortest.text

end DatasetCompiler.Numeral
