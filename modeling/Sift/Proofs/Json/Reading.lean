/-
**Documents are read back from their text.**

A document without fractions, and with whole numbers below two to the power of sixty-four in
magnitude, is read back as it is, if it does not nest too deeply. Each piece is read with the text
that follows it; a number is a piece that goes on as long as it can, so that what follows must not
look like more of it.

* `Json.isPlain`, `Json.nesting` — the documents that this is about, and how deep they are.
* `Json.number_intChars`, `Json.stringBody_quoted` — numbers and strings are read back.
* `Json.document_chars` — documents are, within as many steps as there are characters, twice over.
* `Json.parse?_text` — the reader allows for so many.
-/

import Mathlib.Tactic.IntervalCases
import Sift.Json.Reader
import Sift.Json.Writer
import Sift.Proofs.Text.Scan

namespace Sift

open Text (natChars)
open Text.Scan

namespace Json

variable {rest : List Char}

/-! ### Numbers -/

/-- Whether a character can stand in a number behind its first digit. -/
def continues (c : Char) : Bool :=
  c.isDigit || c == '.' || c == 'e' || c == 'E'

/-- What follows a number stops it if it stops all that may be part of one. -/
theorem stop_of_continues {test : Char → Bool} (part : ∀ c, test c = true → continues c = true)
    (stop : rest.head?.any continues = false) : rest.head?.any test = false := by
  cases rest with
  | nil => rfl
  | cons c rest => exact Bool.eq_false_iff.mpr fun passes => Bool.eq_false_iff.mp stop (part c passes)

theorem wholeDigits_natChars (n : Nat) (stop : rest.head?.any Char.isDigit = false) :
    wholeDigits (natChars n ++ rest) = some (natChars n, rest) := by
  refine (bind_of_reads (peek_eq _ _)).trans ?_
  rcases Nat.eq_zero_or_pos n with rfl | positive
  · rfl
  · rw [Text.head?_natChars_append positive]
    refine digits_append (fun c => Text.isDigit_of_mem_natChars) ?_ (by simp) (.inr stop)
    exact List.length_pos_iff.mpr (Text.natChars_ne_nil n)

/-- All digits of a number with a place among 64 bits are gathered. -/
theorem gather_of_lt {digits : List Char} {number : Nat}
    (small : Nat.ofDigitChars 10 digits number < UInt64.size) :
    gather number digits = (Nat.ofDigitChars 10 digits number, 0) := by
  induction digits generalizing number with
  | nil => rfl
  | cons c digits ih =>
    rw [Nat.ofDigitChars_cons] at small ⊢
    have grows (start : Nat) : start ≤ Nat.ofDigitChars 10 digits start := by
      rw [Nat.ofDigitChars_eq_ofDigitChars_zero]
      have unit : 0 < 10 ^ digits.length := Nat.pow_pos (by decide)
      exact Nat.le_trans (Nat.le_mul_of_pos_left start unit) (Nat.le_add_right ..)
    have longer := Nat.lt_of_le_of_lt (grows _) small
    rw [gather, if_pos longer, ih small]

/-- A number with a place among 64 bits is far below the largest double. -/
theorem isBeyond_natChars {n : Nat} (small : n < UInt64.size) :
    isBeyond (natChars n) [] 0 = false := by
  have gathered : gather 0 (natChars n) = (n, 0) := by
    rw [gather_of_lt (by rwa [Text.ofDigitChars_natChars]), Text.ofDigitChars_natChars]
  have near := Double.nearest_le n
  have largest : 2 * UInt64.size < Double.bound := by decide +kernel
  have one : Double.nearest (Nat.pow 10 0) = 1 := by decide
  have exponent : ((0 : Nat) : Int) - (([] : List Char).length - 0 : Nat) + 0 = 0 := rfl
  simp only [isBeyond, gathered, gather, exponent, Double.productExceeds, Int.toNat_zero, one]
  split
  · rfl
  · simp only [Nat.mul_one, Bool.or_eq_false_iff, decide_eq_false_iff_not]
    exact ⟨by decide, by omega⟩

theorem fractionDigits_of_stop (stop : rest.head?.any continues = false) :
    fractionDigits rest = some (none, rest) := by
  have noPoint : rest.head?.any (· == '.') = false :=
    stop_of_continues (fun c point => by simp [continues, eq_of_beq point]) stop
  refine (bind_of_reads (peek_eq _ _)).trans ?_
  rw [noPoint]
  rfl

theorem exponent_of_stop (stop : rest.head?.any continues = false) :
    exponent rest = some (none, rest) := by
  have none : rest.head?.any (fun c => c == 'e' || c == 'E') = false := by
    refine stop_of_continues (fun c letter => ?_) stop
    rcases Bool.or_eq_true _ _ ▸ letter with lower | upper
    · simp [continues, eq_of_beq lower]
    · simp [continues, eq_of_beq upper]
  refine (bind_of_reads (peek_eq _ _)).trans ?_
  rw [none]
  rfl

/-- The sign of a written number, and what is written behind it. -/
theorem sign_intChars (value : Int) (rest : List Char) :
    ((Text.intChars value ++ rest).head? == some '-') = decide (value < 0) ∧
    (if decide (value < 0) = true then (Text.intChars value ++ rest).drop 1
      else Text.intChars value ++ rest) = natChars value.natAbs ++ rest := by
  by_cases negative : value < 0
  · simp [Text.intChars, negative]
  · obtain ⟨c, tail, start, digit⟩ := Text.exists_natChars value.natAbs
    have noSign : c ≠ '-' := by
      rintro rfl
      exact absurd digit (by decide)
    simp [Text.intChars, negative, start, noSign]

/-- **A whole number is read back** from its digits and its sign. -/
theorem number_intChars {value : Int} (small : value.natAbs < UInt64.size)
    (stop : rest.head?.any continues = false) :
    number (Text.intChars value ++ rest) = some (.whole value, rest) := by
  have noDigit : rest.head?.any Char.isDigit = false :=
    stop_of_continues (fun c digit => by simp [continues, digit]) stop
  obtain ⟨sign, body⟩ := sign_intChars value rest
  have plain : (decide (value < 0) && value.natAbs == 0) = false := by
    rw [Bool.and_eq_false_iff, decide_eq_false_iff_not, beq_eq_false_iff_ne]
    omega
  simp only [number, sign, body, wholeDigits_natChars _ noDigit, fractionDigits_of_stop stop,
    exponent_of_stop stop, Option.bind_eq_bind, Option.bind_some, Option.getD_none,
    isBeyond_natChars small, Text.ofDigitChars_natChars, plain, Text.signed_natAbs]
  rfl

/-! ### Strings -/

/-- The four digits that stand for a control character. -/
theorem hexQuad_hexPair {code : Nat} (control : code < 0x20) :
    hexQuad ('0' :: '0' :: (hexPair code ++ rest)) = some (code, rest) := by
  interval_cases code <;> rfl

theorem escapedChar_ne_nil (c : Char) : escapedChar c ≠ [] := by
  unfold escapedChar
  split_ifs <;> simp

theorem stringChars_escape {fuel : Nat} {written : List Char} {c : Option Char}
    (read : escape written = some (c, rest)) :
    stringChars (fuel + 1) ('\\' :: written) =
      (stringChars fuel rest).map fun (more, rest) => (c :: more, rest) := by
  simp only [stringChars, read, Option.bind_eq_bind, Option.bind_some]
  cases stringChars fuel rest <;> rfl

/-- A character is read back from what is written for it, in one step. -/
theorem stringChars_escapedChar (fuel : Nat) (c : Char) :
    stringChars (fuel + 1) (escapedChar c ++ rest) =
      (stringChars fuel rest).map fun (more, rest) => (some c :: more, rest) := by
  by_cases special : c ∈ ['"', '\\', '\n', '\r', '\t', '\x08', '\x0c']
  · -- Each of these is written as a letter behind a backslash.
    simp only [List.mem_cons, List.not_mem_nil, or_false] at special
    rcases special with rfl | rfl | rfl | rfl | rfl | rfl | rfl <;> exact stringChars_escape rfl
  · simp only [List.mem_cons, List.not_mem_nil, or_false, not_or] at special
    obtain ⟨quote, backslash, newline, carriage, tab, backspace, feed⟩ := special
    simp only [escapedChar, quote, backslash, newline, carriage, tab, backspace, feed, if_false]
    split
    case isTrue control =>
      have code : codeEscape ('0' :: '0' :: (hexPair c.toNat ++ rest)) = some (some c, rest) := by
        have low : ¬ 0xD800 ≤ c.toNat := by omega
        simp [codeEscape, hexQuad_hexPair control, low]
      exact stringChars_escape code
    case isFalse printed =>
      rw [List.singleton_append, stringChars, if_neg printed]
      · cases stringChars fuel rest <;> rfl
      · exact quote
      · exact backslash

theorem stringChars_escaped {fuel : Nat} {value : List Char} (enough : value.length ≤ fuel) :
    stringChars fuel (value.flatMap escapedChar ++ '"' :: rest) = some (value.map some, rest) := by
  induction value generalizing fuel with
  | nil => cases fuel <;> rfl
  | cons c value ih =>
    obtain ⟨fuel, rfl⟩ : ∃ less, fuel = less + 1 := ⟨fuel - 1, by simp at enough; omega⟩
    rw [List.flatMap_cons, List.append_assoc, stringChars_escapedChar,
      ih (Nat.le_of_succ_le_succ enough)]
    rfl

theorem quoted_append (value : String) (rest : List Char) :
    quoted value ++ rest = '"' :: (value.toList.flatMap escapedChar ++ '"' :: rest) := by
  simp [quoted]

/-- **A string is read back** from what is written for it between quotes. -/
theorem stringBody_quoted {fuel : Nat} {value : String} (enough : value.toList.length ≤ fuel) :
    stringBody fuel (value.toList.flatMap escapedChar ++ '"' :: rest) = some (some value, rest) := by
  have whole : ∀ chars : List Char, ((chars.map some).mapM fun c => c) = some chars := by
    intro chars
    induction chars with
    | nil => rfl
    | cons c chars ih => simp [ih]
  simp only [stringBody, stringChars_escaped enough, Option.bind_eq_bind, Option.bind_some, whole,
    Option.map_some, String.ofList_toList]

/-! ### Plain documents -/

mutual

/-- Whether a document has no parts but those that are written as what they are: no number but whole
ones with a place among 64 bits, and nothing unreadable. -/
def isPlain : Json → Bool
  | .null | .bool _ | .string _ => true
  | .whole value => value.natAbs < UInt64.size
  | .real _ | .unreadable _ => false
  | .array elements => arePlain elements
  | .object members => arePlainMembers members

def arePlain : List Json → Bool
  | [] => true
  | json :: rest => isPlain json && arePlain rest

def arePlainMembers : List (String × Json) → Bool
  | [] => true
  | (_, json) :: rest => isPlain json && arePlainMembers rest

end

mutual

/-- How deeply arrays and objects are nested in a document. -/
def nesting : Json → Nat
  | .array elements => nestingAll elements + 1
  | .object members => nestingMembers members + 1
  | _ => 0

def nestingAll : List Json → Nat
  | [] => 0
  | json :: rest => max (nesting json) (nestingAll rest)

def nestingMembers : List (String × Json) → Nat
  | [] => 0
  | (_, json) :: rest => max (nesting json) (nestingMembers rest)

end

/-- The characters that a plain document may start with. -/
def starts (c : Char) : Bool :=
  c.isDigit || ['n', 't', 'f', '"', '[', '\x7b', '-'].contains c

theorem exists_intChars (value : Int) :
    ∃ c tail, Text.intChars value = c :: tail ∧ (c.isDigit = true ∨ c = '-') := by
  obtain ⟨c, tail, start, digit⟩ := Text.exists_natChars value.natAbs
  by_cases negative : value < 0
  · exact ⟨'-', natChars value.natAbs, by simp [Text.intChars, negative], .inr rfl⟩
  · exact ⟨c, tail, by simp [Text.intChars, negative, start], .inl digit⟩

theorem starts_of_number {c : Char} (first : c.isDigit = true ∨ c = '-') : starts c = true := by
  rcases first with digit | rfl
  · simp [starts, digit]
  · rfl

theorem exists_chars {json : Json} (plain : json.isPlain = true) :
    ∃ c tail, json.chars = c :: tail ∧ starts c = true := by
  cases json with
  | null => exact ⟨'n', _, rfl, rfl⟩
  | bool value => cases value <;> exact ⟨_, _, rfl, rfl⟩
  | string value => exact ⟨'"', _, rfl, rfl⟩
  | array elements => exact ⟨'[', _, rfl, rfl⟩
  | object members => exact ⟨'\x7b', _, rfl, rfl⟩
  | real literal => cases plain
  | unreadable written => cases plain
  | whole value =>
    obtain ⟨c, tail, start, first⟩ := exists_intChars value
    exact ⟨c, tail, start, starts_of_number first⟩

/-- What is written of elements starts as the first of them does. -/
theorem exists_elementChars {json : Json} (plain : json.isPlain = true) (more : List Json) :
    ∃ c tail, elementChars (json :: more) = c :: tail ∧ starts c = true := by
  obtain ⟨c, tail, start, first⟩ := exists_chars plain
  cases more with
  | nil => exact ⟨c, tail, start, first⟩
  | cons next more =>
    exact ⟨c, tail ++ ',' :: elementChars (next :: more), by simp [elementChars, start], first⟩

theorem exists_memberChars (member : String × Json) (more : List (String × Json)) :
    ∃ tail, memberChars (member :: more) = '"' :: tail := by
  cases more with
  | nil => exact ⟨_, rfl⟩
  | cons next more => exact ⟨_, rfl⟩

/-! ### Documents by their first character -/

theorem ne_of_starts {c other : Char} (first : starts c = true) (none : starts other = false) :
    c ≠ other := by
  rintro rfl
  rw [first] at none
  cases none

theorem isSpace_of_starts {c : Char} (first : starts c = true) : isSpace c = false := by
  have other (space : Char) (none : starts space = false) : (c == space) = false :=
    beq_eq_false_iff_ne.mpr (ne_of_starts first none)
  simp only [isSpace, other ' ' (by decide), other '\n' (by decide), other '\t' (by decide),
    other '\r' (by decide), Bool.or_self]

/-- A number is the only document that starts with a digit or a sign. -/
theorem document_number (fuel level : Nat) {c : Char} (text : List Char)
    (first : c.isDigit = true ∨ c = '-') :
    document (fuel + 1) level (c :: text) = number (c :: text) := by
  have kept : (c :: text).dropWhile isSpace = c :: text :=
    List.dropWhile_cons_of_neg (by simp [isSpace_of_starts (starts_of_number first)])
  have other : ∀ d : Char, d.isDigit = false → d ≠ '-' → c ≠ d := by
    rintro d noDigit noSign rfl
    rcases first with digit | sign
    · rw [digit] at noDigit
      cases noDigit
    · exact noSign sign
  unfold document
  rw [kept]
  split
  case h_7 => rfl
  all_goals
    rename_i same
    obtain ⟨rfl, -⟩ := List.cons.inj same
    exact absurd rfl (other _ (by decide) (by decide))

theorem document_string {fuel : Nat} (level : Nat) {value : String}
    (enough : value.toList.length ≤ fuel) :
    document (fuel + 1) level (quoted value ++ rest) = some (.string value, rest) := by
  rw [quoted_append]
  show Option.bind _ _ = _
  rw [stringBody_quoted enough]
  rfl

theorem document_array (fuel level : Nat) {c : Char} (text : List Char) (first : starts c = true) :
    document (fuel + 1) level ('[' :: c :: text) =
      (elements fuel (level - 1) (c :: text)).map fun (items, rest) =>
        enclosed level (.array items) ('[' :: c :: text) rest := by
  have kept : (c :: text).dropWhile isSpace = c :: text :=
    List.dropWhile_cons_of_neg (by simp [isSpace_of_starts first])
  have bracket : c ≠ ']' := ne_of_starts first (by decide)
  have opened : ('[' :: c :: text).dropWhile isSpace = '[' :: c :: text := rfl
  simp only [document, opened, kept]
  split
  · rename_i same
    exact absurd (List.cons.inj same).1 bracket
  · cases elements fuel (level - 1) (c :: text) <;> rfl

theorem document_object (fuel level : Nat) (text : List Char) :
    document (fuel + 1) level ('\x7b' :: '"' :: text) =
      (members fuel (level - 1) ('"' :: text)).map fun (items, rest) =>
        enclosedMembers level items ('\x7b' :: '"' :: text) rest := by
  show Option.bind (members fuel (level - 1) ('"' :: text)) _ = _
  cases members fuel (level - 1) ('"' :: text) <;> rfl

/-! ### Elements and members -/

section Items

variable {fuel level : Nat} {text behind : List Char} {json : Json}

theorem elements_last (read : document fuel level text = some (json, ']' :: rest)) :
    elements (fuel + 1) level text = some ([json], rest) := by
  rw [elements, read]
  rfl

theorem elements_next {more : List Json}
    (read : document fuel level text = some (json, ',' :: behind))
    (others : elements fuel level behind = some (more, rest)) :
    elements (fuel + 1) level text = some (json :: more, rest) := by
  rw [elements, read]
  show Option.bind (elements fuel level behind) _ = _
  rw [others]
  rfl

variable {key : String}

/-- A member is read up to what follows it. -/
theorem members_quoted (enough : key.toList.length ≤ fuel)
    (read : document fuel level text = some (json, behind)) :
    members (fuel + 1) level (quoted key ++ ':' :: text) =
      match behind.dropWhile isSpace with
      | '\x7d' :: rest => some ([(some key, json)], rest)
      | ',' :: rest => do
        let (more, rest) ← members fuel level rest
        some ((some key, json) :: more, rest)
      | _ => none := by
  rw [quoted_append]
  show Option.bind (stringBody fuel _) _ = _
  rw [stringBody_quoted enough]
  show Option.bind (document fuel level text) _ = _
  rw [read]
  rfl

theorem members_last (enough : key.toList.length ≤ fuel)
    (read : document fuel level text = some (json, '\x7d' :: rest)) :
    members (fuel + 1) level (quoted key ++ ':' :: text) = some ([(some key, json)], rest) :=
  members_quoted enough read

theorem members_next {more : List (Option String × Json)} (enough : key.toList.length ≤ fuel)
    (read : document fuel level text = some (json, ',' :: behind))
    (others : members fuel level behind = some (more, rest)) :
    members (fuel + 1) level (quoted key ++ ':' :: text) =
      some ((some key, json) :: more, rest) := by
  refine (members_quoted enough read).trans ?_
  show Option.bind (members fuel level behind) _ = _
  rw [others]
  rfl

end Items

theorem length_le_quoted (value : String) : value.toList.length + 2 ≤ (quoted value).length := by
  have longer : ∀ chars : List Char, chars.length ≤ (chars.flatMap escapedChar).length := by
    intro chars
    induction chars with
    | nil => exact Nat.le_refl 0
    | cons c chars ih =>
      have one := List.length_pos_iff.mpr (escapedChar_ne_nil c)
      rw [List.flatMap_cons, List.length_append, List.length_cons]
      omega
  simpa [quoted] using longer value.toList

theorem enclosed_of_ne {level : Nat} (deep : level ≠ 1) (json : Json) (text rest : List Char) :
    enclosed level json text rest = (json, rest) := by
  rw [enclosed, if_neg deep]

theorem enclosedMembers_of_ne {level : Nat} (deep : level ≠ 1) (items : List (String × Json))
    (text rest : List Char) :
    enclosedMembers level (items.map (Prod.map some id)) text rest = (.object items, rest) := by
  have named : ∀ items : List (String × Json),
      (items.map (Prod.map some id)).mapM
        (fun member : Option String × Json => member.1.map (·, member.2)) = some items := by
    intro items
    induction items with
    | nil => rfl
    | cons item items ih => simp_all
  unfold enclosedMembers
  split
  · rename_i same
    cases (named items).symm.trans same
    exact enclosed_of_ne deep _ _ _
  · rename_i none
    cases (named items).symm.trans none

/-! ### Whole documents -/

/-- An array that has elements is read as far as its elements are. -/
theorem document_of_elements {fuel level : Nat} {json : Json} {more items : List Json}
    (plain : json.isPlain = true) (deep : level ≠ 1)
    (read : elements fuel (level - 1) (elementChars (json :: more) ++ ']' :: rest)
      = some (items, rest)) :
    document (fuel + 1) level ((Json.array (json :: more)).chars ++ rest)
      = some (.array items, rest) := by
  have written : (Json.array (json :: more)).chars ++ rest
      = '[' :: (elementChars (json :: more) ++ ']' :: rest) := by simp [chars]
  obtain ⟨c, tail, start, first⟩ := exists_elementChars plain more
  rw [start, List.cons_append] at read
  rw [written, start, List.cons_append, document_array fuel level _ first, read]
  exact congrArg some (enclosed_of_ne deep _ _ _)

/-- An object that has members is read as far as its members are. -/
theorem document_of_members {fuel level : Nat} {member : String × Json}
    {more items : List (String × Json)} (deep : level ≠ 1)
    (read : members fuel (level - 1) (memberChars (member :: more) ++ '\x7d' :: rest)
      = some (items.map (Prod.map some id), rest)) :
    document (fuel + 1) level ((Json.object (member :: more)).chars ++ rest)
      = some (.object items, rest) := by
  have written : (Json.object (member :: more)).chars ++ rest
      = '\x7b' :: (memberChars (member :: more) ++ '\x7d' :: rest) := by simp [chars]
  obtain ⟨tail, start⟩ := exists_memberChars member more
  rw [start, List.cons_append] at read
  rw [written, start, List.cons_append, document_object, read]
  exact congrArg some (enclosedMembers_of_ne deep _ _ _)

-- A document takes a step, and so does going on to an element or a member. The comma or the bracket
-- in front of what follows pays for the latter, so that two steps for each character are enough.
mutual

/-- **A plain document is read back from its text**, if it does not nest too deeply. -/
theorem document_chars : ∀ (json : Json) {fuel level : Nat} {rest : List Char},
    json.isPlain = true → json.nesting < level → 2 * json.chars.length ≤ fuel →
    rest.head?.any continues = false →
    document fuel level (json.chars ++ rest) = some (json, rest)
  | .null, fuel + 1, _, _, _, _, _, _ => rfl
  | .bool true, fuel + 1, _, _, _, _, _, _ => rfl
  | .bool false, fuel + 1, _, _, _, _, _, _ => rfl
  | .whole value, fuel, level, rest, plain, _, enough, stop => by
    obtain ⟨c, tail, start, first⟩ := exists_intChars value
    have read := number_intChars (of_decide_eq_true plain) stop
    rw [chars, start] at enough ⊢
    rw [start] at read
    obtain ⟨fuel, rfl⟩ : ∃ less, fuel = less + 1 := ⟨fuel - 1, by simp at enough; omega⟩
    exact (document_number fuel level (tail ++ rest) first).trans read
  | .string value, fuel + 1, level, rest, _, _, enough, _ => by
    have long := length_le_quoted value
    rw [chars] at enough
    exact document_string level (by omega)
  | .array [], fuel + 1, level, rest, _, shallow, _, _ => by
    have deep : level ≠ 1 := by
      rintro rfl
      exact absurd shallow (by decide)
    exact congrArg some (enclosed_of_ne deep _ _ _)
  | .array (json :: more), fuel + 1, level, rest, plain, shallow, enough, _ => by
    rw [isPlain] at plain
    rw [nesting] at shallow
    have length : (Json.array (json :: more)).chars.length
        = (elementChars (json :: more)).length + 2 := by simp [chars]
    exact document_of_elements (Bool.and_eq_true_iff.mp plain).1 (by omega)
      (elements_chars (json :: more) (by simp) plain (by omega) (by omega))
  | .object [], fuel + 1, level, rest, _, shallow, _, _ => by
    have deep : level ≠ 1 := by
      rintro rfl
      exact absurd shallow (by decide)
    exact congrArg some (enclosed_of_ne deep _ _ _)
  | .object (member :: more), fuel + 1, level, rest, plain, shallow, enough, _ => by
    rw [isPlain] at plain
    rw [nesting] at shallow
    have length : (Json.object (member :: more)).chars.length
        = (memberChars (member :: more)).length + 2 := by simp [chars]
    exact document_of_members (by omega)
      (members_chars (member :: more) (by simp) plain (by omega) (by omega))

theorem elements_chars : ∀ (items : List Json) {fuel level : Nat} {rest : List Char},
    items ≠ [] → arePlain items = true → nestingAll items < level →
    2 * (elementChars items).length < fuel →
    elements fuel level (elementChars items ++ ']' :: rest) = some (items, rest)
  | [], _, _, _, nonempty, _, _, _ => absurd rfl nonempty
  | [json], fuel + 1, level, rest, _, plain, shallow, enough => by
    simp only [arePlain, Bool.and_true, nestingAll, elementChars] at plain shallow enough ⊢
    exact elements_last (document_chars json plain (by omega) (by omega) rfl)
  | json :: next :: more, fuel + 1, level, rest, _, plain, shallow, enough => by
    rw [arePlain, Bool.and_eq_true] at plain
    rw [nestingAll] at shallow
    simp only [elementChars, List.length_append, List.length_cons, List.append_assoc,
      List.cons_append] at enough ⊢
    exact elements_next (document_chars json plain.1 (by omega) (by omega) rfl)
      (elements_chars (next :: more) (by simp) plain.2 (by omega) (by omega))

theorem members_chars : ∀ (items : List (String × Json)) {fuel level : Nat} {rest : List Char},
    items ≠ [] → arePlainMembers items = true → nestingMembers items < level →
    2 * (memberChars items).length < fuel →
    members fuel level (memberChars items ++ '\x7d' :: rest) =
      some (items.map (Prod.map some id), rest)
  | [], _, _, _, nonempty, _, _, _ => absurd rfl nonempty
  | [(key, json)], fuel + 1, level, rest, _, plain, shallow, enough => by
    have long := length_le_quoted key
    simp only [arePlainMembers, Bool.and_true, nestingMembers, memberChars, List.length_append,
      List.length_cons, List.append_assoc, List.cons_append] at plain shallow enough ⊢
    exact members_last (by omega) (document_chars json plain (by omega) (by omega) rfl)
  | (key, json) :: next :: more, fuel + 1, level, rest, _, plain, shallow, enough => by
    have long := length_le_quoted key
    rw [arePlainMembers, Bool.and_eq_true] at plain
    rw [nestingMembers] at shallow
    simp only [memberChars, List.length_append, List.length_cons, List.append_assoc,
      List.cons_append] at enough ⊢
    exact members_next (by omega) (document_chars json plain.1 (by omega) (by omega) rfl)
      (members_chars (next :: more) (by simp) plain.2 (by omega) (by omega))

end

/-- **A plain document is read back from its text** if it nests less deeply than documents may. -/
theorem parse?_text {json : Json} (plain : json.isPlain = true)
    (shallow : json.nesting < depthLimit) : parse? json.text = some json := by
  have read : document (2 * json.chars.length + 1) depthLimit (json.chars ++ []) = some (json, []) :=
    document_chars json plain shallow (Nat.le_succ _) rfl
  rw [List.append_nil] at read
  simp only [parse?, text, String.toList_ofList, read]
  rfl

end Json

end Sift
