/-
**Numerals.**

A numeral has digits before and behind a point, at least one in all, and may have an exponent: in
base ten a power of ten behind `e`, in base sixteen, which `0x` announces, a power of two behind
`p`. A `j` behind it makes it imaginary. The longest front of a text that is a numeral is read; an
exponent without digits is none, and `0x` without digits is the numeral `0`.

* `Numeral.scan?`: the numeral that a text begins with;
* `Numeral.toInteger?`, `Numeral.fitsDouble`: the value of the numeral, if it has one of that kind.
-/

namespace OperatorLowering

/-- A numeral: how it is written, its digits around the point, and the power that its exponent asks
for. -/
structure Numeral where
  written : List Char
  hexadecimal : Bool
  whole : List Char
  fraction : List Char
  exponent : Int
  deriving DecidableEq

namespace Numeral

/-- It is imaginary: a `j` stands behind it. -/
def imaginary (numeral : Numeral) : Bool :=
  numeral.written.getLast? = some 'j'

/-- It is written as a real number, with a point or with a small `e`. -/
def real (numeral : Numeral) : Bool :=
  numeral.written.contains '.' || numeral.written.contains 'e'

/-! ### Reading -/

/-- A digit in base sixteen. -/
def isHexDigit (character : Char) : Bool :=
  character.isDigit || ('a' ≤ character && character ≤ 'f') ||
    ('A' ≤ character && character ≤ 'F')

/-- The value of a digit in base ten or sixteen. -/
def digitValue (digit : Char) : Nat :=
  if digit.isDigit then digit.toNat - '0'.toNat else digit.toLower.toNat - 'a'.toNat + 10

/-- The value of digits in a base. -/
def digitsValue (base : Nat) (digits : List Char) : Nat :=
  digits.foldl (fun value digit => base * value + digitValue digit) 0

/-- Digits before and behind a point, at least one in all, and the rest of the text. -/
def mantissa? (isDigit : Char → Bool) (text : List Char) :
    Option (List Char × List Char × List Char) :=
  let whole := text.takeWhile isDigit
  let (fraction, rest) :=
    match text.dropWhile isDigit with
    | '.' :: behind => (behind.takeWhile isDigit, behind.dropWhile isDigit)
    | rest => ([], rest)
  if whole.isEmpty && fraction.isEmpty then none else some (whole, fraction, rest)

/-- The exponent behind a mark, zero if there is none, and the rest of the text. -/
def power (isMark : Char → Bool) (text : List Char) : Int × List Char :=
  match text with
  | mark :: behind =>
    let (sign, unsigned) : Int × List Char :=
      match behind with
      | '-' :: rest => (-1, rest)
      | '+' :: rest => (1, rest)
      | rest => (1, rest)
    let digits := unsigned.takeWhile Char.isDigit
    if isMark mark && !digits.isEmpty then
      (sign * digitsValue 10 digits, unsigned.dropWhile Char.isDigit)
    else (0, text)
  | [] => (0, [])

/-- The numeral of a mantissa and the exponent behind it. -/
def complete (hexadecimal : Bool) (text whole fraction behind : List Char) : Numeral × List Char :=
  let isMark : Char → Bool := fun mark =>
    if hexadecimal then mark = 'p' || mark = 'P' else mark = 'e' || mark = 'E'
  let (exponent, rest) := power isMark behind
  let rest :=
    match rest with
    | 'j' :: rest => rest
    | rest => rest
  (⟨text.take (text.length - rest.length), hexadecimal, whole, fraction, exponent⟩, rest)

/-- The numeral that a text begins with, in base ten. -/
def decimal? (text : List Char) : Option (Numeral × List Char) :=
  (mantissa? Char.isDigit text).map fun (whole, fraction, behind) =>
    complete false text whole fraction behind

/-- The numeral that a text begins with, and the rest of the text. -/
def scan? (text : List Char) : Option (Numeral × List Char) :=
  match text with
  | '0' :: mark :: behind =>
    if mark = 'x' || mark = 'X' then
      match mantissa? isHexDigit behind with
      | some (whole, fraction, rest) => some (complete true text whole fraction rest)
      | none => decimal? text
    else decimal? text
  | _ => decimal? text

/-! ### Values -/

/-- The integer that the digits before the point stand for in base ten; in base sixteen it is the
zero of `0x`. -/
def integer (numeral : Numeral) : Nat :=
  if numeral.hexadecimal then 0 else digitsValue 10 numeral.whole

/-- The integer of the numeral under a sign, if it has 64 bits. -/
def toInteger? (numeral : Numeral) (negative : Bool) : Option Int :=
  let value : Int := if negative then -numeral.integer else numeral.integer
  if -0x8000000000000000 ≤ value ∧ value ≤ 0x7fffffffffffffff then some value else none

/-- The numeral's value has a double: it rounds to no infinity, and unless it is zero or a double
itself, it rounds to one of full precision. -/
def fitsDouble (numeral : Numeral) : Bool :=
  let digits := numeral.whole ++ numeral.fraction
  let value := digitsValue (if numeral.hexadecimal then 16 else 10) digits
  let base := if numeral.hexadecimal then 2 else 10
  let places := if numeral.hexadecimal then 4 * numeral.fraction.length else numeral.fraction.length
  let power := numeral.exponent - places
  if value = 0 then true
  else if 2000 < power ∨ power < -2000 - 4 * digits.length then false
  else
    let numerator := value * base.pow power.toNat
    let denominator := base.pow (-power).toNat
    numerator < (Nat.pow 2 54 - 1) * Nat.pow 2 970 * denominator &&
      ((Nat.pow 2 54 - 1) * denominator ≤ numerator * Nat.pow 2 1076 ||
        numerator * Nat.pow 2 1074 % denominator = 0)

end Numeral

end OperatorLowering
