import OpenIdConnect.Decimal.Binary64
import OpenIdConnect.Text.Digits

/-!
# Shortest decimals

The decimal with the fewest digits that rounds to a given floating-point number, and of
those the nearest.
-/

namespace OpenIdConnect.Decimal

/-- The decimal `0.d₁d₂… × 10 ^ (first + 1)`, that is `d₁` stands at `10 ^ first`. -/
structure Digits where
  digits : List Char
  first : Int
deriving DecidableEq

namespace Shortest

/-- How often ten goes into `num / den` with a quotient of at least one, up to `fuel` times. -/
def tens : Nat → Nat → Nat → Nat
  | 0, _, _ => 0
  | fuel + 1, num, den => if den * 10 ≤ num then tens fuel num (den * 10) + 1 else 0

/-- How often `num / den` has to be multiplied by ten to reach one, up to `fuel` times. -/
def tenths : Nat → Nat → Nat → Nat
  | 0, _, _ => 0
  | fuel + 1, num, den => if num < den then tenths fuel (num * 10) den + 1 else 0

/-- The exponent of the first decimal digit of a positive magnitude in units. -/
def leading (units : Nat) : Int :=
  if Binary64.unit ≤ units then tens 400 units Binary64.unit
  else - (tenths 400 units Binary64.unit : Int)

/-- The quotient `significand × 10 ^ exponent`, as a fraction of units. -/
def fraction (significand : Nat) (exponent : Int) : Nat × Nat :=
  match exponent with
  | .ofNat k => (significand * Nat.pow 10 k * Binary64.unit, 1)
  | .negSucc k => (significand * Binary64.unit, Nat.pow 10 (k + 1))

/-- Does the decimal round to this rank? -/
def roundsTo (rank significand : Nat) (exponent : Int) : Bool :=
  let (num, den) := fraction significand exponent
  Binary64.nearestRank num den == rank

/-- The multiple of `10 ^ exponent` next to the magnitude that rounds to it, the nearer of two. -/
def onGrid? (rank : Nat) (exponent : Int) : Option Nat :=
  let units := Binary64.unitsOf rank
  let (num, den) :=
    match exponent with
    | .ofNat k => (units, Nat.pow 10 k * Binary64.unit)
    | .negSucc k => (units * Nat.pow 10 (k + 1), Binary64.unit)
  let below := num / den
  let rest := num % den
  let lower := roundsTo rank below exponent
  let upper := roundsTo rank (below + 1) exponent
  if lower && upper then
    if 2 * rest < den || (2 * rest == den && below % 2 == 0) then some below else some (below + 1)
  else if lower then some below
  else if upper then some (below + 1)
  else none

/-- Digits without the zeros at their end. -/
def trimZeros (digits : List Char) : List Char :=
  (digits.reverse.dropWhile (· == '0')).reverse

/-- The digits of `significand × 10 ^ exponent`. -/
def digitsOf (significand : Nat) (exponent : Int) : Digits :=
  let all := Text.Digits.decimal significand
  ⟨trimZeros all, exponent + (all.length : Int) - 1⟩

/-- The first grid from `10 ^ exponent` downwards that has a decimal rounding to the rank. -/
def search : Nat → Nat → Int → Digits
  | 0, rank, _ => digitsOf (Binary64.unitsOf rank * Nat.pow 5 1074) (-1074)
  | fuel + 1, rank, exponent =>
    match onGrid? rank exponent with
    | some significand => digitsOf significand exponent
    | none => search fuel rank (exponent - 1)

end Shortest

/--
The shortest decimal that rounds to the magnitude.  Seventeen digits always suffice;
the exact expansion stands behind them.
-/
def shortest (x : Binary64) : Digits :=
  if x.rank = 0 then ⟨['0'], 0⟩
  else Shortest.search 17 x.rank (Shortest.leading x.units)

end OpenIdConnect.Decimal
