/-
**Shortest decimals.**

A double stands for all reals that are nearer to it than to its neighbours; the two midpoints belong
to it when its significand is even. The decimal chosen for it lies on the coarsest power-of-ten grid
that has a point among those reals: no decimal with fewer digits reads back as the double. Of two
such points the nearer is taken, and of two equally near ones the even.

* `Reals.ofBits`: the reals of a double, by its bits;
* `Reals.shortest?`: the decimal chosen for it.
-/

namespace OperatorLowering

/-- The number `digits * 10 ^ exponent`. -/
structure Decimal where
  digits : Nat
  exponent : Int
  deriving DecidableEq

namespace Decimal

/-- The reals that a double without its sign stands for: those between `low` and `high`, around
`value`, all three in units of `1 / scale`. The ends belong to them if `closed`. -/
structure Reals where
  value : Nat
  low : Nat
  high : Nat
  scale : Nat
  closed : Bool

namespace Reals

/-- The bits of a double behind its sign and exponent. -/
def fraction (bits : UInt64) : Nat := bits.toNat % Nat.pow 2 52

/-- The exponent bits of a double. -/
def biased (bits : UInt64) : Nat := bits.toNat / Nat.pow 2 52 % Nat.pow 2 11

/-- The reals of a finite double of either sign, in quarters of its last place. Below a power of two
the next double is only half as far away. -/
def ofBits (bits : UInt64) : Reals :=
  let significand := if biased bits = 0 then fraction bits else Nat.pow 2 52 + fraction bits
  let value := 4 * significand
  let low := if fraction bits = 0 ∧ 1 < biased bits then value - 1 else value - 2
  let power : Int := (max (biased bits) 1 : Nat) - 1077
  let unit := Nat.pow 2 power.toNat
  ⟨value * unit, low * unit, (value + 2) * unit, Nat.pow 2 (-power).toNat, significand % 2 = 0⟩

/-- The whole part of the double. -/
def whole (reals : Reals) : Nat := reals.value / reals.scale

/-- A decimal is one of the reals. -/
def contains (reals : Reals) (decimal : Decimal) : Bool :=
  let point := decimal.digits * Nat.pow 10 decimal.exponent.toNat * reals.scale
  let unit := Nat.pow 10 (-decimal.exponent).toNat
  let low := reals.low * unit
  let high := reals.high * unit
  if reals.closed then low ≤ point && point ≤ high else low < point && point < high

/-- The nearest of the reals on the grid of the multiples of `10 ^ exponent`, if it has any. Where
one of its points is among them, one of the two points around the double is. -/
def onGrid? (reals : Reals) (exponent : Int) : Option Decimal :=
  let value := reals.value * Nat.pow 10 (-exponent).toNat
  let unit := reals.scale * Nat.pow 10 exponent.toNat
  let below : Decimal := ⟨value / unit, exponent⟩
  let above : Decimal := ⟨value / unit + 1, exponent⟩
  match reals.contains below, reals.contains above with
  | false, false => none
  | true, false => some below
  | false, true => some above
  | true, true =>
    match compare (2 * (value % unit)) unit with
    | .lt => some below
    | .gt => some above
    | .eq => some (if below.digits % 2 = 0 then below else above)

/-- The exponents of grids, coarsest first: from beyond the greatest double to below the least. -/
def exponents : List Int := (List.range 634).map fun (step : Nat) => 309 - (step : Int)

/-- The decimal chosen for the double, on the coarsest grid that has one for it; zero has none. -/
def shortest? (reals : Reals) : Option Decimal :=
  if reals.value = 0 then none else exponents.findSome? reals.onGrid?

end Reals

end Decimal

end OperatorLowering
