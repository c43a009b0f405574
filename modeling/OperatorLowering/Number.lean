/-
**Numbers in messages.**

A number is an integer or a double. Integers are written in full. A double is written with the
fewest digits that read back as it, positionally with at least one digit behind the point while its
leading digit stands between the fourth place behind the point and the sixteenth before it, and with
an exponent of a sign and at least two digits otherwise.

* `Number.text`: the written form;
* `Number.realLayout`: the bounds of positional notation.
-/

import OperatorLowering.Decimal.Shortest

namespace OperatorLowering

/-- An integer or a double. -/
inductive Number where
  | integer (value : Int)
  | real (value : Float)
  deriving DecidableEq

namespace Decimal

/-- Where decimals are written positionally, by the exponent of their leading digit, and the least
number of digits of an exponent. -/
structure Layout where
  leastPositional : Int
  leastScientific : Int
  exponentWidth : Nat

namespace Layout

/-- Digits with the point behind `places` of them, which may lie outside. -/
def positional (digits : List Char) (places : Int) : List Char :=
  if places ≤ 0 then '0' :: '.' :: (List.replicate (-places).toNat '0' ++ digits)
  else if places < digits.length then
    digits.take places.toNat ++ '.' :: digits.drop places.toNat
  else digits ++ List.replicate (places.toNat - digits.length) '0' ++ ['.', '0']

/-- Digits with the point behind the first and the exponent of the first. -/
def scientific (layout : Layout) (digits : List Char) (exponent : Int) : List Char :=
  let power := Nat.toDigits 10 exponent.natAbs
  let point := if digits.length = 1 then [] else ['.']
  digits.take 1 ++ point ++ digits.drop 1 ++ 'e' :: (if exponent < 0 then '-' else '+') ::
    (List.replicate (layout.exponentWidth - power.length) '0' ++ power)

/-- The written form of a positive decimal. -/
def write (layout : Layout) (decimal : Decimal) : List Char :=
  let digits := Nat.toDigits 10 decimal.digits
  let leading := decimal.exponent + digits.length - 1
  if layout.leastPositional ≤ leading ∧ leading < layout.leastScientific then
    positional digits (leading + 1)
  else layout.scientific digits leading

end Layout

end Decimal

namespace Number

/-- Doubles are written positionally from 0.0001 up to below 10^16, and their exponents have at
least two digits. -/
def realLayout : Decimal.Layout where
  leastPositional := -4
  leastScientific := 16
  exponentWidth := 2

/-- The written form of a double without its sign; zero has the digit zero on either side of the
point. -/
def magnitudeText (bits : UInt64) : String :=
  if Decimal.Reals.biased bits = 2047 then
    if Decimal.Reals.fraction bits = 0 then "inf" else "nan"
  else
    match (Decimal.Reals.ofBits bits).shortest? with
    | some decimal => String.ofList (realLayout.write decimal)
    | none => "0.0"

/-- A double is written under a minus sign; zero may be, and what is no number is not. -/
def isNegative (value : Float) : Bool :=
  Nat.pow 2 63 ≤ value.toBits.toNat && !value.isNaN

/-- The written form of a number. -/
def text : Number → String
  | .integer value => toString value
  | .real value =>
    (if isNegative value then "-" else "") ++ magnitudeText value.toBits

/-- A finite double without what stands behind its point. -/
def truncate (value : Float) : Int :=
  let whole := (Decimal.Reals.ofBits value.toBits).whole
  if isNegative value then -whole else whole

/-- The least natural number that rounds to no double. -/
def doubleBound : Nat := (Nat.pow 2 54 - 1) * Nat.pow 2 970

end Number

end OperatorLowering
