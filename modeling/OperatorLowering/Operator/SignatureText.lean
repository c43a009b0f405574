/-
**Reading signatures.**

A signature is written `name(parameters) -> results`. The name is `space::op` or `op`; an overload
behind a point is not part of the kind, and may neither be `default` nor begin with two underscores.
A parameter is a type and a name, and may have a default value; a lone star makes all parameters
behind it keyword-only, and three points at the end stand for any further ones. Results are one type
or a parenthesised list of types, each of which may have a name.

A positional parameter without a default value does not follow one with a default value, unless it
is a list, and parameters that may be followed by any further ones have no default values.

A signature is read from left to right, and the first fault is the answer; whether the parameters
can stand in their order is asked when all else is read.

* `Signature.ofText`: the signature of a text, or why it is none.
-/

import OperatorLowering.Operator.ValueType
import OperatorLowering.Operator.TypeText

namespace OperatorLowering

/-! ### Parameters -/

namespace Parameter

/-- A parameter as it is written: with or without a default value, and before or behind a star. -/
structure Written where
  parameter : Parameter
  hasDefault : Bool
  keywordOnly : Bool

/-- The parameter of one item. -/
def ofItem (keywordOnly : Bool) (item : List Phrase) : Except SignatureFault Written := do
  match ← ValueType.read item with
  | (type, length, .token (.word name) :: .token (.mark '=') :: value) =>
    Phrase.requireEnd (← DefaultValue.read type length value)
    return ⟨⟨name, type⟩, true, keywordOnly⟩
  | (type, _, .token (.word name) :: behind) =>
    Phrase.requireEnd behind
    return ⟨⟨name, type⟩, false, keywordOnly⟩
  | _ => throw .malformed

/-- The parameters of a list of items, and whether any further ones may follow. -/
def ofItems (keywordOnly : Bool) :
    List (List Phrase) → Except SignatureFault (List Written × Bool)
  | [] => .ok ([], false)
  | [[.token .dots]] => .ok ([], true)
  | [.token (.mark '*')] :: rest => ofItems true rest
  | item :: rest => do
    let first ← ofItem keywordOnly item
    let (others, more) ← ofItems keywordOnly rest
    return (first :: others, more)

/-- The parameters of a list, which must have ended. -/
def ofList (items : List (List Phrase)) (ended : Bool) :
    Except SignatureFault (List Written) := do
  let (written, more) ← ofItems false items
  if !ended || more && written.any Written.hasDefault then throw .malformed
  else return written

/-- No positional parameter without a default value follows one with a default value,
lists apart. -/
def areOrdered (seenDefault : Bool) : List Written → Bool
  | [] => true
  | first :: rest =>
    if first.hasDefault then areOrdered true rest
    else
      (!seenDefault || first.keywordOnly || first.parameter.type.isList) &&
        areOrdered seenDefault rest

end Parameter

/-! ### Results -/

namespace ValueType

/-- The type of one result, which may have a name, and what stands behind it. -/
def ofResult (phrases : List Phrase) : Except SignatureFault (ValueType × List Phrase) := do
  match ← read phrases with
  | (type, _, .token (.word _) :: behind) => return (type, behind)
  | (type, _, behind) => return (type, behind)

/-- The types of a list of items; three points at its end stand for any further ones. -/
def ofResultItems : List (List Phrase) → Except SignatureFault (List ValueType)
  | [] => .ok []
  | [[.token .dots]] => .ok []
  | item :: rest => do
    let (first, behind) ← ofResult item
    Phrase.requireEnd behind
    let others ← ofResultItems rest
    return first :: others

/-- The types of the results that phrases begin with, and what stands behind them. -/
def ofResults : List Phrase → Except SignatureFault (List ValueType × List Phrase)
  | .token .dots :: behind => .ok ([], behind)
  | .round items ended :: behind => do
    let types ← ofResultItems items
    if ended then return (types, behind) else throw .malformed
  | phrases => do
    let (type, behind) ← ofResult phrases
    return ([type], behind)

end ValueType

/-! ### Signatures -/

namespace Signature

/-- The name of an overload. -/
def isOverload (name : String) : Bool :=
  name ≠ "default" && name.toList.take 2 ≠ ['_', '_']

/-- What stands behind an overload, if there is one. -/
def dropOverload : List Phrase → Option (List Phrase)
  | .token (.mark '.') :: .token (.word name) :: rest => if isOverload name then some rest else none
  | .token (.mark '.') :: _ => none
  | rest => some rest

/-- The kind that phrases begin with, and what stands behind its overload. -/
def kind? : List Phrase → Option (String × List Phrase)
  | .token (.word space) :: .token (.mark ':') :: .token (.mark ':') :: .token (.word op) :: rest =>
    (dropOverload rest).map (s!"{space}::{op}", ·)
  | .token (.word op) :: rest => (dropOverload rest).map (op, ·)
  | _ => none

/-- What stands behind an arrow, which must be there. -/
def dropArrow : List Phrase → Except SignatureFault (List Phrase)
  | .token .arrow :: behind => .ok behind
  | _ => .error .malformed

/-- What stands behind the end of a line, if there is one. -/
def dropLineEnd : List Phrase → List Phrase
  | .token .lineEnd :: behind => behind
  | behind => behind

/-- The signature that all of the phrases stand for. -/
def ofPhrases (phrases : List Phrase) : Except SignatureFault Signature :=
  match kind? phrases with
  | some (kind, .round items ended :: behind) => do
    let parameters ← Parameter.ofList items ended
    let (results, behind) ← ValueType.ofResults (← dropArrow behind)
    if Parameter.areOrdered false parameters then
      Phrase.requireEnd (dropLineEnd behind)
      return ⟨kind, parameters.map Parameter.Written.parameter, results⟩
    else throw .malformed
  | _ => .error .malformed

/-- The signature of a text, or why it is none. -/
def ofText (text : String) : Except SignatureFault Signature :=
  ofPhrases (Phrase.ofTokens (Token.ofText text))

end Signature

end OperatorLowering
