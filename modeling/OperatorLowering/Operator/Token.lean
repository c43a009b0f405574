/-
**Tokens of a signature.**

Words, numerals, quoted text and marks, with blanks and comments between them. Numerals come first:
a token that begins with a digit, or with a point in front of one, is the longest numeral there.
Ends of lines count outside of brackets alone, where several in a row are one token, unless a
backslash takes them away; in front of the first token they are nothing. Text that begins with no
token ends the tokens with a mark of its own.

* `Token.lexeme?`: the token that a text begins with, and how long it is;
* `Token.ofText`: the tokens of a text.
-/

import OperatorLowering.Operator.Numeral

namespace OperatorLowering

/-- A token of a signature. -/
inductive Token where
  | word (text : String)
  | reserved (text : String)
  | number (numeral : Numeral)
  /-- Text between quotes, with its escapes as written. -/
  | quoted (characters : List Char)
  | arrow
  | dots
  | lineEnd
  | mark (character : Char)
  /-- What follows is no token. -/
  | unreadable
  deriving DecidableEq

namespace Token

/-! ### Characters and words -/

/-- A blank inside a line. -/
def isBlank (character : Char) : Bool :=
  character = ' ' || character = '\t' || character = '\r' || character = '\x0b' ||
    character = '\x0c'

/-- A letter or an underscore. -/
def startsWord (character : Char) : Bool :=
  character.isAlpha || character = '_'

/-- A character that goes on with a word. -/
def continuesWord (character : Char) : Bool :=
  startsWord character || character.isDigit

/-- The words that name nothing. -/
def reservedWords : List String :=
  ["def", "if", "else", "elif", "while", "return", "is", "True", "False", "None", "NoneType", "and",
    "or", "not", "global", "for", "in", "raise", "assert", "break", "continue", "del", "pass",
    "class", "import", "with", "as", "Ellipsis"]

/-- The token of a word. -/
def ofWord (text : String) : Token :=
  if reservedWords.contains text then .reserved text else .word text

/-! ### Quoted text -/

/-- The text up to the quote that ends it, and what stands behind that. A backslash takes the next
character with it. One quote ends the text on its own line, `thrice` the same quote three times. -/
def quotedBody? (quote : Char) (thrice : Bool) : List Char → Option (List Char × List Char)
  | [] => none
  | '\\' :: escaped :: rest =>
    (quotedBody? quote thrice rest).map fun (body, behind) => ('\\' :: escaped :: body, behind)
  | character :: rest =>
    if !thrice && character = quote then some ([], rest)
    else if thrice && character = quote && rest.take 2 = [quote, quote] then
      some ([], rest.drop 2)
    else if !thrice && character = '\n' then none
    else
      (quotedBody? quote thrice rest).map fun (body, behind) => (character :: body, behind)

/-- The quoted text behind its first quote, and what stands behind it. -/
def quoted? (quote : Char) (text : List Char) : Option (List Char × List Char) :=
  if text.take 2 = [quote, quote] then quotedBody? quote true (text.drop 2)
  else quotedBody? quote false text

/-- What a backslash and a sign or letter stand for. -/
def escape? : Char → Option Char
  | '\\' => some '\\'
  | '\'' => some '\''
  | '"' => some '"'
  | '\n' => some '\n'
  | 'a' => some '\x07'
  | 'b' => some '\x08'
  | 'f' => some '\x0c'
  | 'n' => some '\n'
  | 'v' => some '\x0b'
  | 't' => some '\t'
  | _ => none

/-- The value of a digit in base eight. -/
def octal? (digit : Char) : Option Nat :=
  if '0' ≤ digit ∧ digit ≤ '7' then some (digit.toNat - '0'.toNat) else none

/-- The byte that three digits in base eight name. -/
def byte? (first second third : Char) : Option Char := do
  let value := 64 * (← octal? first) + 8 * (← octal? second) + (← octal? third)
  if value < 256 then some (Char.ofNat value) else none

/-- The text that quoted text stands for. Every backslash begins an escape: of one sign or letter,
or of a byte. -/
def unescape? : List Char → Option (List Char)
  | '\\' :: first :: rest =>
    match escape? first, rest with
    | some character, rest => (unescape? rest).map (character :: ·)
    | none, second :: third :: behind => do
      let byte ← byte? first second third
      return byte :: (← unescape? behind)
    | none, _ => none
  | ['\\'] => none
  | character :: rest => (unescape? rest).map (character :: ·)
  | [] => some []

/-! ### Scanning -/

/-- The characters that are marks by themselves. -/
def marks : List Char := "+-*/%@()[]:,={}><.?!&^|~".toList

/-- A comment of this beginning says something about types and is a mark. -/
def typeComment : List Char := " type:".toList

/-- The mark that begins with a character, and its length. -/
def mark? (first : Char) (rest : List Char) : Option (Token × Nat) :=
  if first = '-' ∧ rest.head? = some '>' then some (.arrow, 2)
  else if first = '.' ∧ rest.take 2 = ['.', '.'] then some (.dots, 3)
  else if marks.contains first || first = '#' then some (.mark first, 1)
  else none

/-- The token that begins with a character which is no blank, and its length. -/
def lexeme? (first : Char) (rest : List Char) : Option (Token × Nat) :=
  if startsWord first then
    let word := first :: rest.takeWhile continuesWord
    some (ofWord (String.ofList word), word.length)
  else
    match Numeral.scan? (first :: rest) with
    | some (numeral, behind) => some (.number numeral, rest.length + 1 - behind.length)
    | none =>
      if first = '"' || first = '\'' then
        (quoted? first rest).map fun (body, behind) =>
          (.quoted body, rest.length + 1 - behind.length)
      else mark? first rest

/-- The number of brackets that are open behind a token. -/
def depthAfter (depth : Nat) : Token → Nat
  | .mark '(' => depth + 1
  | .mark '[' => depth + 1
  | .mark ')' => depth - 1
  | .mark ']' => depth - 1
  | _ => depth

/-- A comment begins here. -/
def isComment (first : Char) (rest : List Char) : Bool :=
  first = '#' && !typeComment.isPrefixOf rest

/-- What stands behind blanks, comments and ends of lines, and how many blanks stand in front of it
on its line if there are `indent` to begin with. -/
def skipLines (indent : Nat) : List Char → Nat × List Char
  | [] => (indent, [])
  | first :: rest =>
    if isBlank first then skipLines (indent + 1) rest
    else if first = '\n' then skipLines 0 rest
    else if isComment first rest then
      skipLines indent (rest.drop (rest.takeWhile (· ≠ '\n')).length)
    else (indent, first :: rest)
termination_by text => text.length
decreasing_by all_goals simp only [List.length_drop, List.length_cons]; omega

/-- Skipping lines makes no text longer. -/
theorem length_skipLines_le (indent : Nat) (text : List Char) :
    (skipLines indent text).2.length ≤ text.length := by
  fun_induction skipLines indent text <;> simp_all <;> omega

/-- The tokens of a text that begins inside `depth` brackets. An end of a line outside of brackets
is one only in front of the end of the text or of a line as far in as the first, which has `indent`
blanks in front of it. -/
def scan (indent depth : Nat) : List Char → List Token
  | [] => []
  | first :: rest =>
    if isBlank first then scan indent depth rest
    else if first = '\n' then
      if depth = 0 then
        let behind := skipLines 0 rest
        if behind.2.isEmpty || behind.1 = indent then .lineEnd :: scan indent depth behind.2
        else [.unreadable]
      else scan indent depth rest
    else if isComment first rest then
      scan indent depth (rest.drop (rest.takeWhile (· ≠ '\n')).length)
    else if first = '\\' && rest.head? = some '\n' then scan indent depth (rest.drop 1)
    else
      match lexeme? first rest with
      | some (token, length) =>
        token :: scan indent (depthAfter depth token) (rest.drop (length - 1))
      | none => [.unreadable]
termination_by text => text.length
decreasing_by
  all_goals simp only [List.length_drop, List.length_cons]
  all_goals first | omega | exact Nat.lt_succ_of_le (length_skipLines_le 0 rest)

/-- The tokens of a text. -/
def ofText (text : String) : List Token :=
  let (indent, behind) := skipLines 0 text.toList
  scan indent 0 behind

end Token

end OperatorLowering
