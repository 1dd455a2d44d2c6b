/-
**Strings, numbers and moments in TOML.**

* `Toml.quotedString` — the four forms of strings, behind their opening quotes.
* `Toml.plain?` — what a bare word stands for: a truth value, a number or a moment.
-/

import Sift.Calendar.Reader
import Sift.Double
import Sift.Text.Numeral
import Sift.Toml.Basic

namespace Sift.Toml

open Text (Scan)

/-! ### Strings -/

/-- Whether a character may stand in a comment or in a string, apart from what ends the string. -/
def isPrintable (c : Char) : Bool :=
  c == '\t' || (0x20 ≤ c.toNat && c.toNat != 0x7F)

/-- Whether a character is a blank within a line. -/
def isGap (c : Char) : Bool :=
  c == ' ' || c == '\t'

def hexDigit? (c : Char) : Option Nat :=
  if c.isDigit then some (c.toNat - '0'.toNat)
  else if 'a' ≤ c && c ≤ 'f' then some (c.toNat - 'a'.toNat + 10)
  else if 'A' ≤ c && c ≤ 'F' then some (c.toNat - 'A'.toNat + 10)
  else none

/-- The character whose code has these hexadecimal digits. -/
def coded? (digits : List Char) : Option Char := do
  let values ← digits.mapM hexDigit?
  let code := values.foldl (fun code digit => code * 16 + digit) 0
  if code.isValidChar then some (Char.ofNat code) else none

/-- The character that a letter stands for behind a backslash. -/
def escaped? : Char → Option Char
  | 'b' => some '\x08'
  | 't' => some '\t'
  | 'n' => some '\n'
  | 'f' => some '\x0c'
  | 'r' => some '\r'
  | '"' => some '"'
  | '\\' => some '\\'
  | _ => none

/-- Puts a character in front of what was read. -/
def prepend (c : Char) (read : Option (List Char × List Char)) : Option (List Char × List Char) :=
  read.map fun (chars, rest) => (c :: chars, rest)

/-- A string in double quotes, behind the opening one. -/
def basicString : List Char → Option (List Char × List Char)
  | '"' :: rest => some ([], rest)
  | '\\' :: 'u' :: a :: b :: c :: d :: rest => do
    prepend (← coded? [a, b, c, d]) (basicString rest)
  | '\\' :: 'U' :: a :: b :: c :: d :: e :: f :: g :: h :: rest => do
    prepend (← coded? [a, b, c, d, e, f, g, h]) (basicString rest)
  | '\\' :: c :: rest => do prepend (← escaped? c) (basicString rest)
  | c :: rest => if isPrintable c then prepend c (basicString rest) else none
  | [] => none

/-- A string in single quotes, behind the opening one. -/
def literalString : List Char → Option (List Char × List Char)
  | '\'' :: rest => some ([], rest)
  | c :: rest => if isPrintable c then prepend c (literalString rest) else none
  | [] => none

/-- Where a string of several lines stands: in its text, behind a backslash that has to end its
line, or in the blanks that such a backslash swallows. -/
inductive LineMode where
  | text
  | lineEnd
  | swallow

/-- A string of several lines in double quotes. Up to two more quotes may stand before the closing
three. -/
def basicLines (mode : LineMode) : List Char → Option (List Char × List Char)
  | '\r' :: '\n' :: rest =>
    match mode with
    | .text => prepend '\n' (basicLines .text rest)
    | _ => basicLines .swallow rest
  | '\n' :: rest =>
    match mode with
    | .text => prepend '\n' (basicLines .text rest)
    | _ => basicLines .swallow rest
  | ' ' :: rest =>
    match mode with
    | .text => prepend ' ' (basicLines .text rest)
    | mode => basicLines mode rest
  | '\t' :: rest =>
    match mode with
    | .text => prepend '\t' (basicLines .text rest)
    | mode => basicLines mode rest
  | '"' :: '"' :: '"' :: '"' :: '"' :: rest =>
    match mode with
    | .lineEnd => none
    | _ => some (['"', '"'], rest)
  | '"' :: '"' :: '"' :: '"' :: rest =>
    match mode with
    | .lineEnd => none
    | _ => some (['"'], rest)
  | '"' :: '"' :: '"' :: rest =>
    match mode with
    | .lineEnd => none
    | _ => some ([], rest)
  | '\\' :: 'u' :: a :: b :: c :: d :: rest =>
    match mode with
    | .lineEnd => none
    | _ => do prepend (← coded? [a, b, c, d]) (basicLines .text rest)
  | '\\' :: 'U' :: a :: b :: c :: d :: e :: f :: g :: h :: rest =>
    match mode with
    | .lineEnd => none
    | _ => do prepend (← coded? [a, b, c, d, e, f, g, h]) (basicLines .text rest)
  | '\\' :: c :: rest =>
    match mode with
    | .lineEnd => none
    | _ =>
      match escaped? c with
      | some c => prepend c (basicLines .text rest)
      | none =>
        if isGap c then basicLines .lineEnd rest
        else
          match c, rest with
          | '\n', rest => basicLines .swallow rest
          | '\r', '\n' :: rest => basicLines .swallow rest
          | _, _ => none
  | c :: rest =>
    match mode with
    | .lineEnd => none
    | _ => if isPrintable c then prepend c (basicLines .text rest) else none
  | [] => none

/-- A string of several lines in single quotes. Up to two more quotes may stand before the closing
three. -/
def literalLines : List Char → Option (List Char × List Char)
  | '\r' :: '\n' :: rest => prepend '\n' (literalLines rest)
  | '\n' :: rest => prepend '\n' (literalLines rest)
  | '\'' :: '\'' :: '\'' :: '\'' :: '\'' :: rest => some (['\'', '\''], rest)
  | '\'' :: '\'' :: '\'' :: '\'' :: rest => some (['\''], rest)
  | '\'' :: '\'' :: '\'' :: rest => some ([], rest)
  | c :: rest => if isPrintable c then prepend c (literalLines rest) else none
  | [] => none

/-- The rest of a text behind a line break, if it starts with one. -/
def afterBreak : List Char → List Char
  | '\r' :: '\n' :: rest => rest
  | '\n' :: rest => rest
  | text => text

/-- A string in any of its four forms. -/
def quotedString : List Char → Option (List Char × List Char)
  | '"' :: '"' :: '"' :: rest => basicLines .text (afterBreak rest)
  | '\'' :: '\'' :: '\'' :: rest => literalLines (afterBreak rest)
  | '"' :: rest => basicString rest
  | '\'' :: rest => literalString rest
  | _ => none

/-! ### Bare words -/

/-- The digits of a number, an underscore allowed between any two. -/
def digits? (isDigit : Char → Bool) : List Char → Option (List Char)
  | [] => none
  | [c] => if isDigit c then some [c] else none
  | c :: '_' :: rest => if isDigit c then (digits? isDigit rest).map (c :: ·) else none
  | c :: rest => if isDigit c then (digits? isDigit rest).map (c :: ·) else none

/-- The digits of a number without zeros in front. -/
def decimalDigits? (text : List Char) : Option (List Char) := do
  match ← digits? Char.isDigit text with
  | ['0'] => some ['0']
  | '0' :: _ => none
  | digits => some digits

/-- The whole number of a base that a word spells. -/
def based? (base : Nat) (text : List Char) : Option Int := do
  let digits ← digits? (fun c => (hexDigit? c).any (· < base)) text
  return digits.foldl (fun value c => value * base + (hexDigit? c).getD 0) 0

/-- The whole number that a word spells. -/
def integer? : List Char → Option Int
  | '0' :: 'x' :: text => based? 16 text
  | '0' :: 'o' :: text => based? 8 text
  | '0' :: 'b' :: text => based? 2 text
  | text => do
    let (negative, body) := Text.splitSign text
    let magnitude := Nat.ofDigitChars 10 (← decimalDigits? body) 0
    return if negative then -(magnitude : Int) else magnitude

/-- Whether a word spells a number with a fraction, an exponent, or one of the special numbers. A
positive number has to be within the range of a double; a negative one beyond it stands for the
negative infinity. -/
def isFloat (text : List Char) : Bool :=
  let (negative, body) := Text.splitSign text
  let isExponent (c : Char) : Bool := c == 'e' || c == 'E'
  let mantissa := body.takeWhile fun c => !isExponent c
  let power := body.drop mantissa.length
  let (whole, fraction) := Text.splitPoint mantissa
  let written : Option Bool := do
    let whole ← decimalDigits? whole
    let fraction ← if mantissa.contains '.' then digits? Char.isDigit fraction else some []
    let exponent : Int ←
      match power with
      | [] => some 0
      | _ :: power => do
        let (below, digits) := Text.splitSign power
        let magnitude := Nat.ofDigitChars 10 (← digits? Char.isDigit digits) 0
        some (if below then -(magnitude : Int) else magnitude)
    let digits := Nat.ofDigitChars 10 (whole ++ fraction) 0
    return (mantissa.contains '.' || !power.isEmpty) &&
      (negative || !Double.exceeds digits (exponent - fraction.length))
  body == "inf".toList || body == "nan".toList || written == some true

def fullDay : Scan Unit := do
  let year ← Scan.number 4 (some 4)
  let _ ← Scan.char '-'
  let month ← Scan.number 2 (some 2)
  let _ ← Scan.char '-'
  let _ ← Calendar.day year month (← Scan.number 2 (some 2))

def fullTime : Scan Unit := do
  let hour ← Scan.number 2 (some 2)
  let _ ← Scan.char ':'
  let minute ← Scan.number 2 (some 2)
  let _ ← Scan.char ':'
  let second ← Scan.number 2 (some 2)
  let _ ← Calendar.clock hour minute second (← Calendar.fraction)

def fullOffset : Scan Unit := do
  if ← Scan.peek fun c => c == 'Z' || c == 'z' then
    let _ ← Scan.charWhere fun _ => true
  else
    let _ ← Scan.charWhere fun c => c == '+' || c == '-'
    let hour ← Scan.number 2 (some 2)
    let _ ← Scan.char ':'
    let minute ← Scan.number 2 (some 2)
    let _ ← Calendar.clock hour minute 0 0

/-- Whether a text spells a day, a time, or both of them with or without an offset. -/
def isMoment (text : List Char) : Bool :=
  let between : Scan Char := Scan.charWhere fun c => c == 'T' || c == 't' || c == ' '
  [fullDay, fullTime, (do fullDay; let _ ← between; fullTime),
    (do fullDay; let _ ← between; fullTime; fullOffset)].any fun scan =>
      (Scan.whole? scan text).isSome

/-- What a bare word stands for. -/
def plain? (text : List Char) : Option Toml :=
  if text = "true".toList then some (.boolean true)
  else if text = "false".toList then some (.boolean false)
  else
    match integer? text with
    | some value =>
      if Int64.minValue.toInt ≤ value && value ≤ Int64.maxValue.toInt then some (.integer value)
      else none
    | none => if isFloat text || isMoment text then some .other else none

end Sift.Toml
