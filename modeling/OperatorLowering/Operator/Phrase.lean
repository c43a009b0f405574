/-
**Phrases of a signature.**

A phrase is a token, or a list between round or square brackets, whose items are separated by
commas. Reading a list item by item needs no look at where it ends. Tokens without an end of their
brackets are a list too, which has not ended; an end of other brackets is a token like any other,
and no phrase that a signature may have.

* `Phrase.ofTokens`: the phrases of tokens.
-/

import OperatorLowering.Operator.Token

namespace OperatorLowering

/-- A token, or a bracketed list of items, which may lack its end. -/
inductive Phrase where
  | token (token : Token)
  | round (items : List (List Phrase)) (ended : Bool)
  | square (items : List (List Phrase)) (ended : Bool)

namespace Phrase

/-- A list whose end has not been read: its items before the last comma and the phrases behind that
comma, each last one first. -/
structure Frame where
  isSquare : Bool
  items : List (List Phrase)
  item : List Phrase

/-- The lists that have not ended, innermost first, and the phrases outside of them, last
one first. -/
structure Assembly where
  frames : List Frame
  outside : List Phrase

namespace Frame

/-- The list with the items that were read; one without phrases and commas has none. -/
def finish (frame : Frame) (ended : Bool) : Phrase :=
  let items :=
    if frame.items.isEmpty && frame.item.isEmpty then []
    else (frame.item.reverse :: frame.items).reverse
  if frame.isSquare then .square items ended else .round items ended

end Frame

namespace Assembly

/-- One more phrase in the innermost list. -/
def add (assembly : Assembly) (phrase : Phrase) : Assembly :=
  match assembly.frames with
  | [] => { assembly with outside := phrase :: assembly.outside }
  | frame :: around =>
    { assembly with frames := { frame with item := phrase :: frame.item } :: around }

/-- A list begins. -/
def enter (assembly : Assembly) (isSquare : Bool) : Assembly :=
  { assembly with frames := ⟨isSquare, [], []⟩ :: assembly.frames }

/-- The innermost list ends, if the brackets are its own. -/
def leave (assembly : Assembly) (isSquare : Bool) (token : Token) : Assembly :=
  match assembly.frames with
  | frame :: around =>
    if frame.isSquare = isSquare then add ⟨around, assembly.outside⟩ (frame.finish true)
    else assembly.add (.token token)
  | [] => assembly.add (.token token)

/-- The next item of the innermost list begins. -/
def separate (assembly : Assembly) (token : Token) : Assembly :=
  match assembly.frames with
  | frame :: around =>
    { assembly with
      frames := { frame with items := frame.item.reverse :: frame.items, item := [] } :: around }
  | [] => assembly.add (.token token)

/-- One more token. -/
def step (assembly : Assembly) (token : Token) : Assembly :=
  match token with
  | .mark '(' => assembly.enter false
  | .mark '[' => assembly.enter true
  | .mark ')' => assembly.leave false token
  | .mark ']' => assembly.leave true token
  | .mark ',' => assembly.separate token
  | plain => assembly.add (.token plain)

/-- The phrases, last one first, once the lists that are left are given up. -/
def finish (outside : List Phrase) : List Frame → List Phrase
  | [] => outside
  | [frame] => frame.finish false :: outside
  | frame :: next :: around =>
    finish outside ({ next with item := frame.finish false :: next.item } :: around)
termination_by frames => frames.length

end Assembly

/-- The phrases of tokens. -/
def ofTokens (tokens : List Token) : List Phrase :=
  let assembly := tokens.foldl Assembly.step ⟨[], []⟩
  (Assembly.finish assembly.outside assembly.frames).reverse

end Phrase

end OperatorLowering
