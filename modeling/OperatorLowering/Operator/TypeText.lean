/-
**Reading types.**

A type is a name, possibly applied to other types, or a parenthesised list of types; it is under
suffixes that make it optional or a list, and what it aliases may be noted behind it, if it is
neither parenthesised nor a wrapper of one type, and behind each list suffix. A name may have parts
behind points. A list with a length is written once, outermost but for one optional suffix.

* `ValueType.ofPhrases?`: the type that phrases begin with;
* `ValueType.read`: the type of a parameter or result, which may have a length.
-/

import OperatorLowering.Operator.DefaultValue
import OperatorLowering.Operator.UnionType

namespace OperatorLowering

/-! ### Alias notes -/

namespace Alias

/-- What stands behind the alias set that phrases begin with. Behind a star, nothing or a star
stands for a name. -/
def set? (starred : Bool) : List Phrase → Option (List Phrase)
  | .token (.mark '*') :: .token (.mark '|') :: rest => set? true rest
  | .token (.mark '*') :: rest => some rest
  | .token (.mark '|') :: rest => if starred then set? true rest else none
  | .token (.word _) :: .token (.mark '|') :: rest => if starred then none else set? false rest
  | .token (.word name) :: rest =>
    if starred then some (.token (.word name) :: rest) else some rest
  | rest => if starred then some rest else none

/-- What stands behind an exclamation mark, if there is one. -/
def dropWritten : List Phrase → List Phrase
  | .token (.mark '!') :: rest => rest
  | rest => rest

/-- The items of a parenthesised list note an alias: a set, an exclamation mark if it is written to,
and the set it becomes if that is another. -/
def isNote : List (List Phrase) → Bool
  | [item] =>
    match (set? false item).map dropWritten with
    | some [] => true
    | some (.token .arrow :: behind) =>
      match set? false behind with
      | some [] => true
      | _ => false
    | _ => false
  | _ => false

end Alias

/-! ### Base types -/

namespace BaseType

/-- The base types that have a name of their own. -/
def named : List (String × BaseType) :=
  [("Generator", .generator), ("Quantizer", .quantizer), ("int", .int),
    ("SymInt", .int), ("ScalarType", .elementType), ("Layout", .int), ("MemoryFormat", .int),
    ("DeviceIndex", .int), ("ConstQuantizerPtr", .int), ("float", .float), ("complex", .complex),
    ("bool", .bool), ("SymBool", .symbolicBool), ("str", .str), ("Scalar", .scalar),
    ("Storage", .storage), ("QScheme", .quantizationScheme), ("Device", .device),
    ("Stream", .stream), ("Capsule", .capsule), ("None", .absent), ("NoneType", .absent),
    ("Any", .any), ("AnyClassType", .anyObject), ("AnyEnumType", .anyEnum)]

/-- The base type of a name; any other name that begins with a small letter is a type variable. -/
def ofName? (name : String) : Option BaseType :=
  match named.lookup name with
  | some type => some type
  | none => if name.toList.head?.any Char.isLower then some .generic else none

/-- The registered classes of objects. -/
def classes : List String :=
  ["quantized.LinearPackedParamsBase", "quantized.Conv2dPackedParamsBase",
    "quantized.Conv3dPackedParamsBase", "quantized.EmbeddingPackedParamsBase",
    "sparse.LinearPackedParamsBase", "rnn.CellParamsBase", "xnnpack.LinearOpContext",
    "xnnpack.Conv2dOpContext", "xnnpack.TransposeConv2dOpContext", "mkldnn.ConvOpContext",
    "c10d.ProcessGroup", "c10d.Work", "c10d.ReduceOp", "dist_rpc.WorkerInfo"]

/-- The type of the objects of a registered class, and what stands behind its name. -/
def object? : List Phrase → Option (BaseType × List Phrase)
  | .token (.mark '.') :: .token (.word "torch") :: .token (.mark '.') ::
      .token (.word "classes") :: .token (.mark '.') :: .token (.word space) ::
      .token (.mark '.') :: .token (.word name) :: rest =>
    if classes.contains s!"{space}.{name}" then some (.object s!"{space}.{name}", rest) else none
  | _ => none

/-- A name with the parts behind its points, and what stands behind them. -/
def dotted (name : String) : List Phrase → String × List Phrase
  | .token (.mark '.') :: .token (.word part) :: rest => dotted s!"{name}.{part}" rest
  | rest => (name, rest)

/-- The base type of a name and what stands behind it. -/
def ofPhrases? (name : String) (rest : List Phrase) : Option (BaseType × List Phrase) :=
  let (name, rest) := dotted name rest
  (ofName? name).map (·, rest)

end BaseType

/-! ### Types -/

namespace ValueType

/-- The type that a name makes of others, if it is applied to them, and whether an alias may be
noted behind it. -/
def built? (name : String) (types : List ValueType) : Option (ValueType × Bool) :=
  match name, types with
  | "Dict", [key, value] => (dictionaryOf? key value).map (·, true)
  | "Union", types => (unionOf? types).map (·, true)
  | "Future", [type] => some (.compound .future [type], false)
  | "Await", [type] => some (.compound .awaited [type], false)
  | "RRef", [type] => some (.compound .remote [type], false)
  | _, _ => none

/-- The names that are applied to types. -/
def appliedNames : List String := ["Dict", "Union", "Future", "Await", "RRef"]

/-- A type under the suffixes that follow it. An alias may be noted where `notable` holds. -/
def withSuffixes (type : ValueType) (notable : Bool) :
    List Phrase → Option (ValueType × List Phrase)
  | .round items true :: rest =>
    if notable then if Alias.isNote items then withSuffixes type false rest else none
    else some (type, .round items true :: rest)
  | .token (.mark '!') :: rest =>
    if notable then withSuffixes type false rest else some (type, .token (.mark '!') :: rest)
  | .token (.mark '?') :: rest =>
    match optionalOf? type with
    | some type => withSuffixes type false rest
    | none => none
  | .square [] true :: rest => withSuffixes (.list type) true rest
  | rest => some (type, rest)

mutual

/-- The type that phrases begin with, and the rest of them. -/
def ofPhrases? : List Phrase → Option (ValueType × List Phrase)
  | .round items true :: rest =>
    match ofItems? items with
    | some types => withSuffixes (.compound .tuple types) false rest
    | none => none
  | .token (.word "Tensor") :: rest => withSuffixes (.base .tensor) true rest
  | .token (.word "__torch__") :: rest =>
    match BaseType.object? rest with
    | some (type, rest) => withSuffixes (.base type) false rest
    | none => none
  | .token (.word name) :: rest =>
    if appliedNames.contains name then
      match rest with
      | .round items true :: rest =>
        match (ofItems? items).bind (built? name) with
        | some (type, notable) => withSuffixes type notable rest
        | none => none
      | _ => none
    else
      match BaseType.ofPhrases? name rest with
      | some (type, rest) => withSuffixes (.base type) true rest
      | none => none
  | .token (.reserved name) :: rest =>
    if name = "None" || name = "NoneType" then
      match BaseType.ofPhrases? name rest with
      | some (type, rest) => withSuffixes (.base type) true rest
      | none => none
    else none
  | _ => none

/-- The types of items, each of which is one, as other types contain them. -/
def ofItems? : List (List Phrase) → Option (List ValueType)
  | [] => some []
  | item :: rest =>
    match ofPhrases? item with
    | some (type, []) => (ofItems? rest).map (type.plain :: ·)
    | _ => none

end

/-! ### Lengths -/

/-- The length that a numeral gives a list: the digits it begins with, of which 32 bits count. -/
def lengthOf (numeral : Numeral) : Except SignatureFault Int :=
  if numeral.whole.isEmpty && !numeral.hexadecimal then .error .valueless
  else
    match numeral.toInteger? false with
    | some length => .ok (length.bmod 0x100000000)
    | none => .error .outOfRange

/-- The length that the items of a square list give, which must be a single numeral. -/
def lengthOfItems (items : List (List Phrase)) (ended : Bool) : Except SignatureFault Int :=
  match items with
  | (.token (.number numeral) :: behind) :: others => do
    Phrase.requireReadable behind
    let length ← lengthOf numeral
    if behind.isEmpty && others.isEmpty && ended then return length else throw .malformed
  | _ => .error .malformed

/-- What stands behind an alias note, if there is one. -/
def dropNote : List Phrase → Option (List Phrase)
  | .round items ended :: rest => if ended && Alias.isNote items then some rest else none
  | .token (.mark '!') :: rest => some rest
  | rest => some rest

/-- A list of given length under the optional suffix that may follow it. -/
def withLength (item : ValueType) (rest : List Phrase) :
    Except SignatureFault (ValueType × List Phrase) :=
  match dropNote rest with
  | some (.token (.mark '?') :: rest) => .ok (.optional (.list item), rest)
  | some rest => .ok (.list item, rest)
  | none => .error .malformed

/-- The type that a parameter or result begins with, its length if it gives one, and the rest. -/
def read (phrases : List Phrase) :
    Except SignatureFault (ValueType × Option Int × List Phrase) :=
  match ofPhrases? phrases with
  | none => .error .malformed
  | some (type, .square items ended :: rest) => do
    let length ← lengthOfItems items ended
    let (type, rest) ← withLength type rest
    return (type, some length, rest)
  | some (type, rest) => .ok (type, none, rest)

end ValueType

end OperatorLowering
