/-!
# Finite binary floating-point numbers

The finite numbers of the 64-bit binary interchange format.  The magnitudes are
numbered upwards from zero; every magnitude is a whole number of units of `2 ^ -1074`,
so rounding is exact arithmetic on natural numbers.
-/

namespace OpenIdConnect.Decimal

/-- How many magnitudes share an exponent: `2 ^ 52`. -/
def binade : Nat :=
  4503599627370496

/-- How many finite magnitudes there are. -/
def magnitudeCount : Nat :=
  2047 * binade

/-- A finite number: a sign, and how many magnitudes are smaller. -/
structure Binary64 where
  negative : Bool
  rank : Nat
  finite : rank < magnitudeCount
deriving DecidableEq

namespace Binary64

/-- The magnitude of a rank in units of `2 ^ -1074`. -/
def unitsOf (rank : Nat) : Nat :=
  if rank < binade then rank
  else (binade + rank % binade) <<< (rank / binade - 1)

/-- The magnitude in units of `2 ^ -1074`. -/
def units (x : Binary64) : Nat :=
  unitsOf x.rank

/-- Equality of value: the two zeros are equal. -/
def sameValue (x y : Binary64) : Bool :=
  x.rank == y.rank && (x.negative == y.negative || x.rank == 0)

/--
The rank nearest to `num / den` units, the even one of two that are equally near.
Ranks from `magnitudeCount` on stand for values too large to be finite.
-/
def nearestRank (num den : Nat) : Nat :=
  let shift := (num / den).log2 - 52
  let step := den <<< shift
  let floor := num / step
  let twiceRest := 2 * (num % step)
  let up := step < twiceRest || (step == twiceRest && floor % 2 == 1)
  shift * binade + floor + (if up then 1 else 0)

/-- The number of this sign and rank, unless the rank is too large. -/
def ofRank? (negative : Bool) (rank : Nat) : Option Binary64 :=
  if h : rank < magnitudeCount then some ⟨negative, rank, h⟩ else none

/-- The zero of a sign. -/
def zero (negative : Bool) : Binary64 :=
  ⟨negative, 0, by decide⟩

/-- One, in units. -/
def unit : Nat :=
  1 <<< 1074

/-- The power of ten, rounded to a floating-point number, in units. -/
def powerOfTen (k : Nat) : Nat :=
  unitsOf (nearestRank (Nat.pow 10 k * unit) 1)

/-- The magnitude of `10 ^ 308`, in units: the largest finite power of ten. -/
def largestPower : Nat :=
  powerOfTen 308

/-- A quotient of two magnitudes in units, rounded, in units. -/
def quotient (a b : Nat) : Nat :=
  unitsOf (nearestRank (a * unit) b)

/--
The number `± significand × 10 ^ exponent`, computed in rounded steps: the significand
is rounded first, then multiplied by one rounded power of ten, or divided by several
whose exponents are at most 308.  The result is `none` when it is too large.
A third division by `10 ^ 308` would divide zero, so two are enough.
-/
def ofDecimal? (negative : Bool) (significand : Nat) (exponent : Int) : Option Binary64 :=
  let start := unitsOf (nearestRank (significand * unit) 1)
  match exponent with
  | .ofNat k =>
    if significand = 0 then some (zero negative)
    else if 308 < k then none
    else ofRank? negative (nearestRank (start * powerOfTen k) unit)
  | .negSucc k =>
    let divisions := if k < 308 then 0 else if k < 616 then 1 else 2
    let scaled := (List.replicate divisions largestPower).foldl quotient start
    ofRank? negative (nearestRank (scaled * unit) (powerOfTen (k % 308 + 1)))

end Binary64

end OpenIdConnect.Decimal
