/-
**Default values of parameters.**

A default value is read and dropped, but it must be one that its parameter's type can have. Tensors,
generators and quantizers have only the absent value, and devices quoted names. Numbers, truth
values and text have single constants: absence, a truth value, quoted text, a name for an integer,
or a numeral under at most one sign. An optional type has them too, whatever it makes optional. A
list is written out between brackets, or, if the type gives its length, as the one constant that all
its items are; its items are integers, doubles, complex numbers or truth values, each in the form of
its own. No other type has default values.

A numeral is given its value where it stands, so of two faults the first is the answer.

* `DefaultValue.read`: what stands behind the default value of a type.
-/

import OperatorLowering.Operator.Phrase
import OperatorLowering.Operator.ValueType

namespace OperatorLowering

/-- Why a text is no signature. -/
inductive SignatureFault where
  | malformed
  /-- A numeral stands for a number outside the range of its type. -/
  | outOfRange
  /-- A numeral stands for no number of its type, or a constant is repeated less than no times. -/
  | valueless
  deriving DecidableEq

namespace Phrase

/-- Nothing is left behind what was read. -/
def requireEnd (behind : List Phrase) : Except SignatureFault Unit :=
  if behind.isEmpty then .ok () else .error .malformed

/-- Nothing stands behind a numeral that is no token. -/
def requireReadable : List Phrase → Except SignatureFault Unit
  | .token .unreadable :: _ => .error .malformed
  | _ => .ok ()

end Phrase

namespace DefaultValue

/-! ### Single constants -/

/-- What a single constant is. -/
inductive Kind where
  | absent
  | truth
  | text
  | integer
  | double
  | complex
  deriving DecidableEq

/-- The names that stand for integers. -/
def integerNames : List String :=
  ["float", "complex", "long", "strided", "Mean", "contiguous_format"]

/-- The names of element types. -/
def elementTypeNames : List String :=
  ["uint8", "int8", "int16", "short", "int32", "int", "int64", "long", "float16", "half", "float32",
    "float", "float64", "double", "complex32", "chalf", "complex64", "cfloat", "complex128", "cdouble",
    "bool", "bfloat16", "qint8", "quint8", "qint32", "quint4x2", "quint2x4", "bits1x8", "bits2x4",
    "bits4x2", "bits8", "bits16", "float8_e5m2", "float8_e4m3fn", "float8_e5m2fnuz",
    "float8_e4m3fnuz", "float8_e8m0fnu", "float4_e2m1fn_x2", "uint16", "uint32", "uint64", "uint1",
    "uint2", "uint3", "uint4", "uint5", "uint6", "uint7", "int1", "int2", "int3", "int4", "int5",
    "int6", "int7"]

/-- The numeral in front of the last character: a complex number is read as the mark behind it. -/
def imaginaryPart? (numeral : Numeral) : Option Numeral :=
  (Numeral.scan? numeral.written.dropLast).map Prod.fst

/-- What a numeral under a sign is as a constant of a type: a double where the type or the way it is
written says so, else an integer. -/
def number (type : ValueType) (negative : Bool) (numeral : Numeral) :
    Except SignatureFault Kind :=
  if numeral.imaginary ∨ type = .base .complex then
    match imaginaryPart? numeral with
    | none => .error .valueless
    | some part => if part.fitsDouble then .ok .complex else .error .outOfRange
  else if numeral.real ∨ type = .base .float then
    if numeral.fitsDouble then .ok .double else .error .outOfRange
  else if (numeral.toInteger? negative).isSome then .ok .integer
  else .error .outOfRange

/-- What a name is as a constant of a type. -/
def named (type : ValueType) (name : String) : Except SignatureFault Kind :=
  if integerNames.contains name ∨ type.namesElements ∧ elementTypeNames.contains name then
    .ok .integer
  else .error .malformed

/-- What the single constant in front is as a constant of a type, and what stands behind it. -/
def single (type : ValueType) : List Phrase → Except SignatureFault (Kind × List Phrase)
  | .token (.reserved "None") :: behind => .ok (.absent, behind)
  | .token (.reserved "True") :: behind => .ok (.truth, behind)
  | .token (.reserved "False") :: behind => .ok (.truth, behind)
  | .token (.quoted characters) :: behind =>
    if (Token.unescape? characters).isSome then .ok (.text, behind) else .error .malformed
  | .token (.word name) :: behind => do return (← named type name, behind)
  | .token (.number numeral) :: behind => do
    Phrase.requireReadable behind
    return (← number type false numeral, behind)
  | .token (.mark '-') :: .token (.number numeral) :: behind => do
    Phrase.requireReadable behind
    return (← number type true numeral, behind)
  | _ => .error .malformed

/-! ### Lists -/

/-- What the items of a list must be, for the types that lists can be written of. -/
def itemKind? : ValueType → Option Kind
  | .base .int | .base .elementType => some .integer
  | .base .float => some .double
  | .base .complex => some .complex
  | .base .bool => some .truth
  | _ => none

/-- The kinds of a list's items are those of its type. -/
def checkItems (item : ValueType) (kinds : List Kind) : Except SignatureFault Unit :=
  match itemKind? item with
  | some kind => if kinds.all (· = kind) then .ok () else .error .malformed
  | none => .error .malformed

/-- What an item that is one constant is. -/
def ofItem (type : ValueType) (item : List Phrase) : Except SignatureFault Kind := do
  let (kind, behind) ← single type item
  Phrase.requireEnd behind
  return kind

/-- What stands behind the value of a list: it is written out, or repeats one constant as often as
the length says. -/
def readList (item : ValueType) (length : Option Int) (value : List Phrase) :
    Except SignatureFault (List Phrase) :=
  match value, length with
  | .token (.word _) :: _, _ => .error .malformed
  | .square items ended :: behind, _ => do
    let kinds ← items.mapM (ofItem item)
    if ended then
      checkItems item kinds
      return behind
    else throw .malformed
  | value, some length => do
    let (kind, behind) ← single item value
    if length < 0 then throw .valueless
    else
      checkItems item (List.replicate (min length.toNat 1) kind)
      return behind
  | _, none => .error .malformed

/-! ### Devices -/

/-- The kinds of devices. -/
def deviceKinds : List String :=
  ["cpu", "cuda", "ipu", "xpu", "mkldnn", "opengl", "opencl", "ideep", "hip", "ve", "fpga", "maia",
    "xla", "lazy", "vulkan", "mps", "meta", "hpu", "mtia", "privateuseone"]

/-- The index of a device has no leading zeros and 32 bits. -/
def isDeviceIndex (digits : List Char) : Bool :=
  !digits.isEmpty && digits.all Char.isDigit && (digits = ['0'] || digits.head? ≠ some '0') &&
    Numeral.digitsValue 10 digits < Nat.pow 2 31

/-- The name of a device: its kind, and behind a colon its index if it has one. -/
def isDevice (name : List Char) : Bool :=
  let kind := name.takeWhile (· ≠ ':')
  deviceKinds.contains (String.ofList kind) &&
    match name.drop kind.length with
    | [] => true
    | _ :: index => isDeviceIndex index

/-! ### Types -/

/-- What stands behind the default value of a parameter of the type, with this length if it is a
list. -/
def read (type : ValueType) (length : Option Int) (value : List Phrase) :
    Except SignatureFault (List Phrase) :=
  match type with
  | .base .tensor | .base .generator | .base .quantizer =>
    match value with
    | .token (.reserved "None") :: behind => .ok behind
    | _ => .error .malformed
  | .base .device =>
    match value with
    | .token (.quoted characters) :: behind =>
      if (Token.unescape? characters).any isDevice then .ok behind else .error .malformed
    | _ => .error .malformed
  | .base .int | .base .elementType | .base .float | .base .complex | .base .bool | .base .str
  | .base .scalar | .optional _ => do
    let (_, behind) ← single type value
    return behind
  | .list item => readList item length value
  | _ => .error .malformed

end DefaultValue

end OperatorLowering
