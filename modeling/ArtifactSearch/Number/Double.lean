/-!
# ArtifactSearch.Number.Double

**Binary floating-point numbers of double precision**, as a significand below
two to the power 53 and an exponent of two. A number that is none of them is
taken for the nearest one, and of two equally near ones for the one with the
even significand (`ofRatio`, `Decimal.nearest`).

All is done in exact arithmetic. Numbers beyond the largest double have a
significand and an exponent here too; `isFinite` tells them apart.
-/

namespace ArtifactSearch

/-- A number written in decimal: the mantissa over ten to the power of the number
of places. -/
structure Decimal where
  /-- The digits with the sign. -/
  mantissa : Int
  /-- The number of digits behind the point. -/
  places : Nat
  deriving Repr, DecidableEq

/-- A number in binary: the significand times two to the power of the
exponent. -/
structure Double where
  /-- The significand with the sign. -/
  significand : Int
  /-- The exponent. -/
  exponent : Int
  deriving Repr, DecidableEq

namespace Double

/-- The integer nearest to `num / den`, of two the even one. -/
def roundRatio (num den : Nat) : Nat :=
  let twice := 2 * (num % den)
  if den < twice || (den = twice && num / den % 2 = 1) then num / den + 1 else num / den

/-- A ratio that is an integer is its own nearest integer. -/
theorem roundRatio_mul (n den : Nat) (h : 0 < den) : roundRatio (n * den) den = n := by
  have remainder : n * den % den = 0 := Nat.mul_mod_left n den
  have quotient : n * den / den = n := Nat.mul_div_cancel n h
  unfold roundRatio
  simp [remainder, quotient]
  omega

/-- The integer nearest to `num / den` over two to the power of `exponent`. -/
def significandAt (num den : Nat) (exponent : Int) : Nat :=
  if exponent < 0 then roundRatio (num * Nat.pow 2 exponent.natAbs) den
  else roundRatio num (den * Nat.pow 2 exponent.natAbs)

/-- Whether `num / den` is at least two to the power of `exponent`. -/
def reaches (num den : Nat) (exponent : Int) : Bool :=
  if exponent < 0 then den ≤ num * Nat.pow 2 exponent.natAbs
  else den * Nat.pow 2 exponent.natAbs ≤ num

/-- The least exponent of a double. -/
def leastExponent : Int := -1074

/-- The double nearest to `num / den`: its exponent leaves 53 bits for the
significand, as far as there are exponents for that. -/
def ofRatio (num den : Nat) : Double :=
  let estimate : Int := (num.log2 : Int) - den.log2
  let exponent := max (if reaches num den estimate then estimate - 52 else estimate - 53) leastExponent
  ⟨significandAt num den exponent, exponent⟩

/-- The number with the other sign. -/
def neg (x : Double) : Double := ⟨-x.significand, x.exponent⟩

/-- Whether a number is no larger than the largest double. -/
def isFinite (x : Double) : Bool :=
  x.significand = 0 || (x.significand.natAbs.log2 : Int) + x.exponent < 1024

/-- The integer that a number is, if it is one. -/
def integer? (x : Double) : Option Int :=
  let scale : Int := Nat.pow 2 x.exponent.natAbs
  if x.exponent < 0 then if x.significand % scale = 0 then some (x.significand / scale) else none
  else some (x.significand * scale)

end Double

namespace Decimal

/-- The double nearest to a decimal number. -/
def nearest (d : Decimal) : Double :=
  let magnitude := Double.ofRatio d.mantissa.natAbs (Nat.pow 10 d.places)
  if d.mantissa < 0 then magnitude.neg else magnitude

example : nearest ⟨1, 1⟩ = ⟨0x1999999999999A, -56⟩ ∧ (nearest ⟨25, 1⟩).integer? = none ∧
    (nearest ⟨9007199254740993, 0⟩).integer? = some 9007199254740992 := by decide

end Decimal

/-- The double nearest to an integer, which is an integer too; there is none
beyond the largest double. -/
def Double.nearestInteger? (n : Int) : Option Int :=
  if (Decimal.nearest ⟨n, 0⟩).isFinite then (Decimal.nearest ⟨n, 0⟩).integer? else none

end ArtifactSearch
