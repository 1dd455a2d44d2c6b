/-
**Reading TOML documents.**

`Toml.parse?` reads a document line by line: a key with its value, the header of a table, or the
header of a further element of an array of tables. It gives none where the text breaks the grammar,
where a key is repeated, or where a table is opened that may not be.
-/

import Sift.Toml.Text

namespace Sift.Toml

open Text (Scan)

/-- Arrays and tables within one another, and the parts of a key, have to be fewer than this. -/
def depthLimit : Nat := 80

/-- Whether a character may stand in a key without quotes. -/
def isBareKey (c : Char) : Bool :=
  c.isAlphanum || c == '_' || c == '-'

/-- Whether a character may stand in a bare word. -/
def isPlain (c : Char) : Bool :=
  c.isAlphanum || c == '_' || c == '-' || c == '+' || c == '.' || c == ':'

/-- Passes over blanks within a line. -/
def gap : Scan Unit := Scan.skipWhile isGap

/-- Passes over blanks, line breaks and comments; `inComment` tells whether a comment is open. -/
def trivia (inComment : Bool) : List Char → Option (Unit × List Char)
  | '\r' :: '\n' :: rest => trivia false rest
  | '\n' :: rest => trivia false rest
  | c :: rest =>
    if inComment then if isPrintable c then trivia true rest else none
    else if isGap c then trivia false rest
    else if c = '#' then trivia true rest
    else some ((), c :: rest)
  | [] => some ((), [])

/-- Passes over the rest of a line: blanks and a comment, up to and with the line break. -/
def lineEnd (inComment : Bool) : List Char → Option (Unit × List Char)
  | '\r' :: '\n' :: rest => some ((), rest)
  | '\n' :: rest => some ((), rest)
  | c :: rest =>
    if inComment then if isPrintable c then lineEnd true rest else none
    else if isGap c then lineEnd false rest
    else if c = '#' then lineEnd true rest
    else none
  | [] => some ((), [])

/-- One part of a key. -/
def keyPart : Scan String := fun text =>
  match text with
  | '"' :: rest => (basicString rest).map fun (chars, rest) => (String.ofList chars, rest)
  | '\'' :: rest => (literalString rest).map fun (chars, rest) => (String.ofList chars, rest)
  | text =>
    let bare := text.takeWhile isBareKey
    if bare.isEmpty then none else some (String.ofList bare, text.drop bare.length)

/-- The parts of a key, with points between them, within so many steps. -/
def keyParts : Nat → Scan (List String)
  | 0 => fun _ => none
  | fuel + 1 => do
    gap
    let part ← keyPart
    gap
    if ← Scan.peek (· == '.') then
      let _ ← Scan.char '.'
      return part :: (← keyParts fuel)
    else
      return [part]

/-- A key: the path of its parts but the last, and the last. -/
def key : Scan (List String × String) := do
  let parts ← keyParts (depthLimit - 1)
  match parts.getLast? with
  | some last => return (parts.dropLast, last)
  | none => fun _ => none

/-- A bare word, with a blank in it where a day and a time stand apart. -/
def plainWord : Scan Toml := fun text => do
  let word := text.takeWhile isPlain
  let rest := text.drop word.length
  let time := (rest.drop 1).takeWhile isPlain
  if (Scan.whole? fullDay word).isSome && rest.head? == some ' ' && !time.isEmpty then
    return (← plain? (word ++ ' ' :: time), rest.drop (time.length + 1))
  else
    return (← plain? word, rest)

mutual

/-- A value, within so many steps and with so many levels of nesting left. -/
def value : (fuel depth : Nat) → Scan Toml
  | 0, _ => fun _ => none
  | fuel + 1, depth => fun text =>
    match text with
    | '[' :: rest => if depth ≤ 1 then none else elements fuel (depth - 1) [] rest
    | '\x7b' :: rest =>
      if depth ≤ 1 then none
      else
        match rest.dropWhile isGap with
        | '\x7d' :: rest => some (.table .braces [], rest)
        | rest => pairs fuel (depth - 1) [] rest
    | '"' :: _ | '\'' :: _ =>
      (quotedString text).map fun (chars, rest) => (.string (String.ofList chars), rest)
    | text => plainWord text

/-- The rest of an array, behind the elements that were read already, the last of them first. -/
def elements : (fuel depth : Nat) → List Toml → Scan Toml
  | 0, _, _ => fun _ => none
  | fuel + 1, depth, read => do
    trivia false
    if ← Scan.peek (· == ']') then
      let _ ← Scan.char ']'
      return .array read.reverse
    else
      let element ← value fuel depth
      trivia false
      if ← Scan.peek (· == ',') then
        let _ ← Scan.char ','
        elements fuel depth (element :: read)
      else
        let _ ← Scan.char ']'
        return .array (element :: read).reverse

/-- The rest of a table in braces that has at least one more entry. -/
def pairs : (fuel depth : Nat) → Entries → Scan Toml
  | 0, _, _ => fun _ => none
  | fuel + 1, depth, read => do
    let (path, last) ← key
    let _ ← Scan.char '='
    gap
    let content ← value fuel depth
    gap
    let entries ← fun text => (read.insert? path last content).map (·, text)
    if ← Scan.peek (· == ',') then
      let _ ← Scan.char ','
      pairs fuel depth entries
    else
      let _ ← Scan.char '\x7d'
      return .table .braces entries

end

/-- A document as far as it was read: its table, and the header that is open. -/
structure Progress where
  root : Entries
  header : List String

/-- Reads one line, or the lines of one value. -/
def expression (fuel : Nat) (progress : Progress) : Scan Progress := do
  gap
  if ← Scan.peek fun c => c == '#' || c == '\n' || c == '\r' then
    lineEnd false
    return progress
  else if ← Scan.peek (· == '[') then
    let _ ← Scan.char '['
    let repeated ← Scan.peek (· == '[')
    if repeated then
      let _ ← Scan.char '['
    let (path, last) ← key
    let _ ← Scan.char ']'
    if repeated then
      let _ ← Scan.char ']'
    lineEnd false
    let root ← fun text =>
      (if repeated then progress.root.openNext? path last else progress.root.open? path last).map
        (·, text)
    return ⟨root, path ++ [last]⟩
  else
    let (path, last) ← key
    let _ ← Scan.char '='
    gap
    let content ← value fuel depthLimit
    lineEnd false
    let root ← fun text =>
      (progress.root.update? false (fun _ entries => entries.insert? path last content)
        progress.header false).map (·, text)
    return { progress with root }

/-- Reads the lines of a document, within so many steps. -/
def expressions : Nat → Progress → List Char → Option Entries
  | 0, _, _ => none
  | fuel + 1, progress, text =>
    if (text.dropWhile isGap).isEmpty then some progress.root
    else
      match expression (2 * text.length + 1) progress text with
      | none => none
      | some (progress, rest) => expressions fuel progress rest

/-- The table of a document. A byte order mark may stand in front. -/
def parse? (text : String) : Option Entries :=
  let chars :=
    match text.toList with
    | '\ufeff' :: rest => rest
    | chars => chars
  expressions (chars.length + 1) ⟨[], []⟩ chars

end Sift.Toml
