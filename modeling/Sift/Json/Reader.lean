/-
**Reading JSON text.**

`Json.parse?` accepts exactly the grammar of JSON: four blanks, no comments, no trailing commas, no
control characters within strings. Three limits come on top: arrays and objects nest less than
`depthLimit` deep, every number is within the range of a double, and no string or key has half of a
surrogate pair. A part beyond them is read as `Json.unreadable`.
-/

import Sift.Double
import Sift.Json.Basic
import Sift.Text.Scan

namespace Sift.Json

open Text (Scan)

/-- Arrays and objects have to nest less deeply than this. -/
def depthLimit : Nat := 128

/-! ### Words, numbers and strings -/

/-- The four blanks of JSON. -/
def isSpace (c : Char) : Bool :=
  c == ' ' || c == '\n' || c == '\t' || c == '\r'

/-- The rest of a text behind the word that it starts with. -/
def afterWord? : List Char → List Char → Option (List Char)
  | [], text => some text
  | w :: word, c :: text => if w = c then afterWord? word text else none
  | _, _ => none

/-- What stands in a text before its rest. -/
def upTo (text rest : List Char) : String :=
  String.ofList (text.take (text.length - rest.length))

/-- The digits before the point: a single zero, or no zero in front. -/
def wholeDigits : Scan (List Char) := do
  if ← Scan.peek (· == '0') then
    return [← Scan.char '0']
  else
    Scan.digits 1 none

def fractionDigits : Scan (Option (List Char)) := do
  if ← Scan.peek (· == '.') then
    let _ ← Scan.char '.'
    return some (← Scan.digits 1 none)
  else
    return none

def exponent : Scan (Option Int) := do
  if ← Scan.peek fun c => c == 'e' || c == 'E' then
    let _ ← Scan.charWhere fun _ => true
    if ← Scan.peek (· == '-') then
      let _ ← Scan.char '-'
      return some (-((← Scan.number 1 none) : Int))
    else if ← Scan.peek (· == '+') then
      let _ ← Scan.char '+'
      return some ((← Scan.number 1 none) : Int)
    else
      return some ((← Scan.number 1 none) : Int)
  else
    return none

/-- Appends digits to a number as long as it has a place among 64 bits, and counts the digits that are
left over. -/
def gather (number : Nat) : List Char → Nat × Nat
  | [] => (number, 0)
  | c :: digits =>
    let longer := 10 * number + (c.toNat - '0'.toNat)
    if longer < UInt64.size then gather longer digits else (number, digits.length + 1)

/-- Whether a number, by its first digits and the power of ten that goes with them, is beyond the
largest double. -/
def isBeyond (leading fraction : List Char) (power : Int) : Bool :=
  let (digits, dropped) := gather 0 leading
  let (digits, ignored) := gather digits fraction
  Double.productExceeds digits (dropped - (fraction.length - ignored : Nat) + power)

def number : Scan Json := fun text => do
  let negative := text.head? == some '-'
  let body := if negative then text.drop 1 else text
  let (leading, rest) ← wholeDigits body
  let (fraction, rest) ← fractionDigits rest
  let (power, rest) ← exponent rest
  let digits := Nat.ofDigitChars 10 leading 0
  if isBeyond leading (fraction.getD []) (power.getD 0) then
    some (.unreadable (upTo text rest), rest)
  else if fraction.isNone && power.isNone && !(negative && digits == 0) then
    some (.whole (if negative then -(digits : Int) else digits), rest)
  else
    some (.real (upTo text rest), rest)

/-- The value of four hexadecimal digits. -/
def hexQuad : List Char → Option (Nat × List Char)
  | a :: b :: c :: d :: rest => do
    let digit (c : Char) : Option Nat :=
      if c.isDigit then some (c.toNat - '0'.toNat)
      else if 'a' ≤ c && c ≤ 'f' then some (c.toNat - 'a'.toNat + 10)
      else if 'A' ≤ c && c ≤ 'F' then some (c.toNat - 'A'.toNat + 10)
      else none
    some (((((← digit a) * 16 + (← digit b)) * 16 + (← digit c)) * 16 + (← digit d)), rest)
  | _ => none

/-- The second half of a surrogate pair, as an escape of its own. -/
def lowHalf? : List Char → Option (Nat × List Char)
  | '\\' :: 'u' :: rest => do
    let (code, rest) ← hexQuad rest
    if 0xDC00 ≤ code && code < 0xE000 then some (code, rest) else none
  | _ => none

/-- The character of an escape with a code, behind its `u`: of two escapes where the codes are a
surrogate pair, and none for half of a pair. -/
def codeEscape (text : List Char) : Option (Option Char × List Char) := do
  let (code, rest) ← hexQuad text
  if 0xD800 ≤ code && code < 0xE000 then
    match if code < 0xDC00 then lowHalf? rest else none with
    | some (low, rest) =>
      some (some (Char.ofNat (0x10000 + (code - 0xD800) * 0x400 + (low - 0xDC00))), rest)
    | none => some (none, rest)
  else some (some (Char.ofNat code), rest)

/-- The character of an escape, behind its backslash, or none for half of a surrogate pair. -/
def escape : List Char → Option (Option Char × List Char)
  | '"' :: rest => some (some '"', rest)
  | '\\' :: rest => some (some '\\', rest)
  | '/' :: rest => some (some '/', rest)
  | 'b' :: rest => some (some '\x08', rest)
  | 'f' :: rest => some (some '\x0c', rest)
  | 'n' :: rest => some (some '\n', rest)
  | 'r' :: rest => some (some '\r', rest)
  | 't' :: rest => some (some '\t', rest)
  | 'u' :: rest => codeEscape rest
  | _ => none

/-- The characters of a string up to its closing quote, within so many steps; none stands for half
of a surrogate pair. -/
def stringChars : Nat → List Char → Option (List (Option Char) × List Char)
  | _, '"' :: rest => some ([], rest)
  | fuel + 1, '\\' :: rest => do
    let (c, rest) ← escape rest
    let (more, rest) ← stringChars fuel rest
    some (c :: more, rest)
  | fuel + 1, c :: rest =>
    if c.toNat < 0x20 then none
    else do
      let (more, rest) ← stringChars fuel rest
      some (some c :: more, rest)
  | _, _ => none

/-- A string, behind its opening quote and within so many steps, or none for one with half of a
surrogate pair. -/
def stringBody (fuel : Nat) (text : List Char) : Option (Option String × List Char) := do
  let (chars, rest) ← stringChars fuel text
  some ((chars.mapM fun c => c).map String.ofList, rest)

/-! ### Documents -/

/-- An array or object that takes up a text but for its rest, with its opening bracket on the given
level, counted down to the first one that is too deep. -/
def enclosed (level : Nat) (json : Json) (text rest : List Char) : Json × List Char :=
  (if level = 1 then .unreadable (upTo text rest) else json, rest)

/-- An object with the given members, some of which may have a key without a value. -/
def enclosedMembers (level : Nat) (members : List (Option String × Json)) (text rest : List Char) :
    Json × List Char :=
  match members.mapM fun (key, json) => key.map (·, json) with
  | some members => enclosed level (.object members) text rest
  | none => (.unreadable (upTo text rest), rest)

mutual

/-- A document, within so many steps. The level counts down to the first one that is too deep; what
stands below that is one unreadable part with it. -/
def document : (fuel level : Nat) → List Char → Option (Json × List Char)
  | 0, _, _ => none
  | fuel + 1, level, text =>
    match text.dropWhile isSpace with
    | 'n' :: rest => (afterWord? ['u', 'l', 'l'] rest).map (.null, ·)
    | 't' :: rest => (afterWord? ['r', 'u', 'e'] rest).map (.bool true, ·)
    | 'f' :: rest => (afterWord? ['a', 'l', 's', 'e'] rest).map (.bool false, ·)
    | '"' :: start => do
      let (value, rest) ← stringBody fuel start
      some ((value.map .string).getD (.unreadable (upTo ('"' :: start) rest)), rest)
    | '[' :: start =>
      match start.dropWhile isSpace with
      | ']' :: rest => some (enclosed level (.array []) ('[' :: start) rest)
      | first => do
        let (items, rest) ← elements fuel (level - 1) first
        some (enclosed level (.array items) ('[' :: start) rest)
    | '\x7b' :: start =>
      match start.dropWhile isSpace with
      | '\x7d' :: rest => some (enclosed level (.object []) ('\x7b' :: start) rest)
      | first => do
        let (items, rest) ← members fuel (level - 1) first
        some (enclosedMembers level items ('\x7b' :: start) rest)
    | text => number text

/-- The elements of an array that has some, up to its closing bracket. -/
def elements : (fuel level : Nat) → List Char → Option (List Json × List Char)
  | 0, _, _ => none
  | fuel + 1, level, text => do
    let (first, rest) ← document fuel level text
    match rest.dropWhile isSpace with
    | ']' :: rest => some ([first], rest)
    | ',' :: rest =>
      let (more, rest) ← elements fuel level rest
      some (first :: more, rest)
    | _ => none

/-- The members of an object that has some, up to its closing brace. A key with half of a surrogate
pair is none. -/
def members : (fuel level : Nat) → List Char → Option (List (Option String × Json) × List Char)
  | 0, _, _ => none
  | fuel + 1, level, text =>
    match text.dropWhile isSpace with
    | '"' :: rest => do
      let (key, rest) ← stringBody fuel rest
      match rest.dropWhile isSpace with
      | ':' :: rest =>
        let (value, rest) ← document fuel level rest
        match rest.dropWhile isSpace with
        | '\x7d' :: rest => some ([(key, value)], rest)
        | ',' :: rest =>
          let (more, rest) ← members fuel level rest
          some ((key, value) :: more, rest)
        | _ => none
      | _ => none
    | _ => none

end

/-- Reads a text as one document. At least every other step takes a character, so the length of the
text bounds their number. -/
def parse? (text : String) : Option Json := do
  let chars := text.toList
  let (json, rest) ← document (2 * chars.length + 1) depthLimit chars
  if (rest.dropWhile isSpace).isEmpty then some json else none

end Sift.Json
