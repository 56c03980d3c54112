/-!
# Double-precision numbers

A number with a point, an exponent, or more digits than an integer of 64 bits can hold is a signed
binary number with 53 significant bits.  A literal gives a significand and a power of ten.  The
significand is rounded to binary, and so is every product and quotient with a power of ten, so that
the number need not be the one nearest to the literal.

A double-precision number is shown with the fewest decimal digits that denote it, in positional
notation near one and in scientific notation elsewhere.

All arithmetic is exact: a binary number is a pair of whole numbers, and comparisons of fractions
are made by cross multiplication.
-/

namespace IamReconciler

/-! ## Fractions -/

/-- A non-negative fraction. -/
structure Fraction where
  num : Nat
  den : Nat

/-- The fraction `n · base ^ e`. -/
def Fraction.scaled (n base : Nat) (e : Int) : Fraction :=
  if 0 ≤ e then ⟨n * base.pow e.toNat, 1⟩ else ⟨n, base.pow (-e).toNat⟩

/-- The first fraction is at most the second. -/
def Fraction.le (x y : Fraction) : Bool :=
  x.num * y.den ≤ y.num * x.den

/-- The first fraction is less than the second. -/
def Fraction.lt (x y : Fraction) : Bool :=
  x.num * y.den < y.num * x.den

/-- The product of two fractions. -/
def Fraction.times (x y : Fraction) : Fraction :=
  ⟨x.num * y.num, x.den * y.den⟩

/-- The quotient of two fractions, the second of which is not zero. -/
def Fraction.over (x y : Fraction) : Fraction :=
  ⟨x.num * y.den, x.den * y.num⟩

/-- The quotient rounded to the nearest whole number, a half going to the even one. -/
def roundDiv (n d : Nat) : Nat :=
  let floor := n / d
  let twice := 2 * (n % d)
  if twice < d then floor
  else if d < twice then floor + 1
  else if floor % 2 = 0 then floor else floor + 1

/-! ## Binary numbers -/

/-- A binary number `mantissa · 2 ^ exponent`. -/
structure Binary where
  mantissa : Nat
  exponent : Int
  deriving DecidableEq, Repr, Inhabited

namespace Binary

/-- The least exponent of a binary number. -/
def minExponent : Int := -1074

/-- The greatest exponent of a binary number. -/
def maxExponent : Int := 971

/-- Zero. -/
def zero : Binary := ⟨0, minExponent⟩

/-- The binary number nearest to a fraction, a half going to the even mantissa; its exponent may be
too great. -/
def nearest (x : Fraction) : Binary :=
  if x.num = 0 then zero
  else
    let low : Int := (Nat.log2 x.num : Int) - Nat.log2 x.den - 53
    let fits (q : Int) : Nat × Nat :=
      if 0 ≤ q then (x.num, x.den * Nat.pow 2 q.toNat) else (x.num * Nat.pow 2 (-q).toNat, x.den)
    let wide := fits low
    let q := max (if wide.1 / wide.2 < Nat.pow 2 53 then low else low + 1) minExponent
    let scaled := fits q
    let m := roundDiv scaled.1 scaled.2
    if m = Nat.pow 2 53 then ⟨Nat.pow 2 52, q + 1⟩ else ⟨m, q⟩

/-- The fraction that a binary number is. -/
def value (b : Binary) : Fraction :=
  Fraction.scaled b.mantissa 2 b.exponent

/-- The greatest power of ten by which a number is multiplied or divided in one step. -/
def tenStep : Nat := 308

/-- The binary number nearest to a power of ten. -/
def ten (k : Nat) : Binary :=
  nearest ⟨Nat.pow 10 k, 1⟩

/-- The binary number times a power of ten, rounded; a product that is too great is none. -/
def timesTen? (b : Binary) (k : Nat) : Option Binary :=
  if b.mantissa = 0 then some b
  else if tenStep < k then none
  else
    let product := nearest (b.value.times (ten k).value)
    if maxExponent < product.exponent then none else some product

/-- The quotient by a power of ten that is no greater than one step, rounded. -/
def overTenStep (b : Binary) (k : Nat) : Binary :=
  nearest (b.value.over (ten k).value)

/-- The binary number of at most 64 bits divided by a power of ten, in steps that are each
rounded. -/
def overTen (b : Binary) (k : Nat) : Binary :=
  if k ≤ tenStep then b.overTenStep k
  else if k ≤ 2 * tenStep then (b.overTenStep tenStep).overTenStep (k - tenStep)
  else zero

/-! ### The fewest digits -/

/-- Whether the binary number nearest to a fraction is the given one. -/
def covers (b : Binary) (x : Fraction) : Bool :=
  let quarter (n : Nat) := Fraction.scaled n 2 (b.exponent - 2)
  let low := if b.mantissa = Nat.pow 2 52 ∧ minExponent < b.exponent
    then quarter (4 * b.mantissa - 1) else quarter (4 * b.mantissa - 2)
  let high := quarter (4 * b.mantissa + 2)
  if b.mantissa % 2 = 0 then low.le x && x.le high else low.lt x && x.lt high

/-- The exponent of ten just above a fraction, found by counting up from `k`. -/
def tenAbove (x : Fraction) : Nat → Int → Int
  | 0, k => k
  | steps + 1, k => if x.lt (Fraction.scaled 1 10 k) then k else tenAbove x steps (k + 1)

/-- The nearest multiple of `10 ^ e` that denotes the binary number, if there is one. -/
def onGrid? (b : Binary) (e : Int) : Option Nat :=
  let x := b.value
  let unit := Fraction.scaled 1 10 e
  let below := x.num * unit.den / (x.den * unit.num)
  let hit (c : Nat) := b.covers (Fraction.scaled c 10 e)
  match hit below, hit (below + 1) with
  | true, true => some (roundDiv (x.num * unit.den) (x.den * unit.num))
  | true, false => some below
  | false, true => some (below + 1)
  | false, false => none

/-- The fewest digits that denote the binary number, with the exponent of their last place. -/
def shortest (b : Binary) : Nat × Int :=
  let top := tenAbove b.value 700 (-330)
  let grids := (List.range 17).filterMap fun (i : Nat) =>
    let e := top - (i + 1 : Nat)
    (b.onGrid? e).map fun c => (c, e)
  grids.headD (b.mantissa, b.exponent)

end Binary

/-! ## Signed numbers -/

/-- A signed binary number. -/
structure Double where
  negative : Bool
  magnitude : Binary
  deriving DecidableEq, Repr, Inhabited

namespace Double

/-- Two numbers are equal when they have the same value; the two zeros are equal. -/
instance : BEq Double where
  beq x y := x.magnitude = y.magnitude && (x.negative = y.negative || x.magnitude.mantissa = 0)

/-- The number `± significand · 10 ^ exponent`, where the significand has at most 64 bits; none when
it is too great. -/
def ofParts? (negative : Bool) (significand : Nat) (exponent : Int) : Option Double :=
  let b := Binary.nearest ⟨significand, 1⟩
  if 0 ≤ exponent then (b.timesTen? exponent.toNat).map fun magnitude => ⟨negative, magnitude⟩
  else some ⟨negative, b.overTen (-exponent).toNat⟩

/-- A whole number of at most 64 bits with a sign. -/
def ofNat (negative : Bool) (n : Nat) : Double :=
  ⟨negative, Binary.nearest ⟨n, 1⟩⟩

/-- Zero with a sign. -/
def zero (negative : Bool) : Double :=
  ⟨negative, Binary.zero⟩

/-- Digits with a point among or around them; `point` counts the digits before it. -/
def placePoint (digits : List Char) (point : Int) : String :=
  let n : Int := digits.length
  if n ≤ point ∧ point ≤ 16 then
    String.ofList (digits ++ List.replicate (point - n).toNat '0') ++ ".0"
  else if 0 < point ∧ point ≤ 16 then
    String.ofList (digits.take point.toNat) ++ "." ++ String.ofList (digits.drop point.toNat)
  else if -5 < point ∧ point ≤ 0 then
    "0." ++ String.ofList (List.replicate (-point).toNat '0' ++ digits)
  else
    let fraction := digits.drop 1
    String.ofList (digits.take 1) ++
      (if fraction.isEmpty then "" else "." ++ String.ofList fraction) ++
      (if 0 < point then "e+" else "e") ++ toString (point - 1)

/-- The number in the fewest digits. -/
def text (x : Double) : String :=
  let sign := if x.negative then "-" else ""
  if x.magnitude.mantissa = 0 then sign ++ "0.0"
  else
    let (c, e) := x.magnitude.shortest
    let digits := Nat.toDigits 10 c
    let kept := (digits.reverse.dropWhile (· = '0')).reverse
    sign ++ placePoint kept (digits.length + e)

end Double

end IamReconciler
