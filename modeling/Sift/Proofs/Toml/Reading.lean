/-
**Documents of plain lines are read back.**

A plain line holds a bare key, an equals sign between blanks, and a value that is read back at the
end of the line. Such lines make a document whose table has the values under their keys, in order,
if no key is there twice.

* `Toml.value_string`, `Toml.value_natChars` — strings and whole numbers are read back.
* `Toml.Line.IsPlain` — the lines that this is about.
* `Toml.expression_chars`, `Toml.expressions_chars` — a line is read, and so are lines in a row.
* `Toml.parse?_chars` — a document of plain lines is read back.
-/

import Sift.Proofs.Text.Scan
import Sift.Toml.Reader

namespace Sift.Toml

open Text (natChars)
open Text.Scan

variable {rest : List Char}

/-! ### Keys -/

/-- A character that may stand in a bare key is none that may not. -/
theorem ne_of_isBareKey {c other : Char} (bare : isBareKey c = true)
    (none : isBareKey other = false) : c ≠ other := by
  rintro rfl
  rw [bare] at none
  cases none

theorem isGap_of_isBareKey {c : Char} (bare : isBareKey c = true) : isGap c = false := by
  simp only [isGap, Bool.or_eq_false_iff, beq_eq_false_iff_ne]
  exact ⟨ne_of_isBareKey bare (by decide), ne_of_isBareKey bare (by decide)⟩

theorem gap_of_stop (stop : rest.head?.any isGap = false) : gap rest = some ((), rest) :=
  skipWhile_of_stop stop

/-- One blank is passed over in front of what is none. -/
theorem gap_blank (stop : rest.head?.any isGap = false) : gap (' ' :: rest) = some ((), rest) :=
  gap_of_stop stop

section Key

variable {bare : List Char} (nonempty : bare ≠ []) (all : ∀ c ∈ bare, isBareKey c = true)

include nonempty all

theorem keyPart_bare (stop : rest.head?.any isBareKey = false) :
    keyPart (bare ++ rest) = some (String.ofList bare, rest) := by
  have taken := takeWhile_append_of_stop all stop
  obtain ⟨c, tail, rfl⟩ := List.exists_cons_of_ne_nil nonempty
  have first := all c List.mem_cons_self
  unfold keyPart
  split
  case h_1 same => exact absurd (List.cons.inj same).1 (ne_of_isBareKey first (by decide))
  case h_2 same => exact absurd (List.cons.inj same).1 (ne_of_isBareKey first (by decide))
  case h_3 =>
    simp only [taken, List.drop_left]
    rfl

/-- A bare key is read up to the sign behind it. -/
theorem key_bare :
    key (bare ++ ' ' :: '=' :: rest) = some (([], String.ofList bare), '=' :: rest) := by
  have start : (bare ++ ' ' :: '=' :: rest).head?.any isGap = false := by
    obtain ⟨c, tail, rfl⟩ := List.exists_cons_of_ne_nil nonempty
    exact isGap_of_isBareKey (all c List.mem_cons_self)
  have part : keyParts (depthLimit - 1) (bare ++ ' ' :: '=' :: rest)
      = some ([String.ofList bare], '=' :: rest) := by
    refine (bind_of_reads (gap_of_stop start)).trans ?_
    refine (bind_of_reads (keyPart_bare nonempty all rfl)).trans ?_
    rfl
  exact (bind_of_reads part).trans rfl

end Key

/-! ### Values -/

/-- Whether a character stands for itself in a string. -/
def standsForItself (c : Char) : Bool :=
  isPrintable c && c != '"' && c != '\\'

theorem basicString_append {word : List Char} (plain : ∀ c ∈ word, standsForItself c = true) :
    basicString (word ++ '"' :: rest) = some (word, rest) := by
  induction word with
  | nil => rfl
  | cons c word ih =>
    have first := plain c List.mem_cons_self
    have later := ih fun other member => plain other (List.mem_cons_of_mem c member)
    simp only [standsForItself, Bool.and_eq_true, bne_iff_ne] at first
    obtain ⟨⟨printable, quote⟩, backslash⟩ := first
    rw [List.cons_append, basicString, if_pos printable, later]
    · rfl
    all_goals simp_all

/-- **A string is read back** from what is written for it between quotes. -/
theorem value_string (fuel depth : Nat) {word : List Char} (nonempty : word ≠ [])
    (plain : ∀ c ∈ word, standsForItself c = true) :
    value (fuel + 1) depth ('"' :: (word ++ '"' :: rest))
      = some (.string (String.ofList word), rest) := by
  have read : basicString (word ++ '"' :: rest) = some (word, rest) := basicString_append plain
  obtain ⟨c, tail, rfl⟩ := List.exists_cons_of_ne_nil nonempty
  have quote : c ≠ '"' := by
    have first := plain c List.mem_cons_self
    simp only [standsForItself, Bool.and_eq_true, bne_iff_ne] at first
    exact first.1.2
  have string : quotedString ('"' :: (c :: tail ++ '"' :: rest)) = some (c :: tail, rest) := by
    rw [← read]
    unfold quotedString
    split
    case h_3 same => rw [(List.cons.inj same).2]
    all_goals simp_all
  rw [value]
  show (quotedString _).map _ = _
  rw [string]
  rfl

/-- What holds no underscore is read digit by digit. -/
theorem digits?_of_isDigit {digits : List Char} (nonempty : digits ≠ [])
    (all : ∀ c ∈ digits, c.isDigit = true) : digits? Char.isDigit digits = some digits := by
  induction digits with
  | nil => exact absurd rfl nonempty
  | cons c digits ih =>
    have first := all c List.mem_cons_self
    cases digits with
    | nil => simp [digits?, first]
    | cons d digits =>
      have later := ih (by simp) fun other member => all other (List.mem_cons_of_mem c member)
      have digit : d.isDigit = true := all d (by simp)
      rw [digits?, if_pos first, later]
      · rfl
      · simp
      · rintro rest same
        rw [(List.cons.inj same).1] at digit
        cases digit

/-- A number is written without zeros in front. -/
theorem decimalDigits?_natChars (n : Nat) : decimalDigits? (natChars n) = some (natChars n) := by
  have read := digits?_of_isDigit (Text.natChars_ne_nil n) fun c => Text.isDigit_of_mem_natChars
  show Option.bind _ _ = _
  rw [read, Option.bind_some]
  rcases Nat.eq_zero_or_pos n with rfl | positive
  · rfl
  · have start := Text.head?_natChars_append positive []
    rw [List.append_nil] at start
    split
    case h_1 same => rw [same]
    case h_2 same =>
      rw [same] at start
      cases start
    case h_3 => rfl

theorem natChars_ne (n : Nat) {word : List Char} {c : Char} (member : c ∈ word)
    (other : c.isDigit = false) : natChars n ≠ word := by
  rintro rfl
  rw [Text.isDigit_of_mem_natChars member] at other
  cases other

theorem integer?_natChars (n : Nat) : integer? (natChars n) = some (n : Int) := by
  have sign : Text.splitSign (natChars n) = (false, natChars n) :=
    Text.splitSign_signed false fun c => Text.isDigit_of_mem_natChars
  unfold integer?
  split
  case h_1 same => exact absurd same (natChars_ne n (c := 'x') (by simp) (by decide))
  case h_2 same => exact absurd same (natChars_ne n (c := 'o') (by simp) (by decide))
  case h_3 same => exact absurd same (natChars_ne n (c := 'b') (by simp) (by decide))
  case h_4 =>
    rw [sign]
    show Option.bind (decimalDigits? (natChars n)) _ = _
    rw [decimalDigits?_natChars, Option.bind_some, Text.ofDigitChars_natChars]
    rfl

theorem plain?_natChars {n : Nat} (small : (n : Int) ≤ Int64.maxValue.toInt) :
    plain? (natChars n) = some (.integer n) := by
  rw [plain?, if_neg (natChars_ne n (c := 'e') (by decide +kernel) (by decide)),
    if_neg (natChars_ne n (c := 'e') (by decide +kernel) (by decide)), integer?_natChars]
  exact if_pos (by simp [small])

theorem plainWord_natChars {n : Nat} (small : (n : Int) ≤ Int64.maxValue.toInt) :
    plainWord (natChars n ++ '\n' :: rest) = some (.integer n, '\n' :: rest) := by
  have plain : ∀ c ∈ natChars n, isPlain c = true := by
    intro c member
    have digit := Text.isDigit_of_mem_natChars member
    simp [isPlain, Char.isAlphanum, digit]
  have taken := takeWhile_append_of_stop plain (rfl : ('\n' :: rest).head?.any isPlain = false)
  simp only [plainWord, taken, List.drop_left, plain?_natChars small]
  simp

/-- A digit is the first character of a bare word and of no other value. -/
theorem value_of_isDigit (fuel depth : Nat) {c : Char} (text : List Char)
    (digit : c.isDigit = true) : value (fuel + 1) depth (c :: text) = plainWord (c :: text) := by
  have other : ∀ d : Char, d.isDigit = false → c ≠ d := by
    rintro d noDigit rfl
    rw [digit] at noDigit
    cases noDigit
  rw [value]
  dsimp only
  split
  case h_5 => rfl
  all_goals
    rename_i same
    exact absurd (List.cons.inj same).1 (other _ (by decide))

/-- **A whole number is read back** from its digits, at the end of a line. -/
theorem value_natChars (fuel depth : Nat) {n : Nat} (small : (n : Int) ≤ Int64.maxValue.toInt) :
    value (fuel + 1) depth (natChars n ++ '\n' :: rest) = some (.integer n, '\n' :: rest) := by
  have word : plainWord (natChars n ++ '\n' :: rest) = some (.integer n, '\n' :: rest) :=
    plainWord_natChars small
  obtain ⟨c, tail, start, digit⟩ := Text.exists_natChars n
  rw [start] at word ⊢
  exact (value_of_isDigit fuel depth _ digit).trans word

/-! ### Lines -/

/-- A line of a document: a key, and a value as it is written. -/
structure Line where
  key : String
  written : List Char
  content : Toml

namespace Line

def chars (line : Line) : List Char :=
  line.key.toList ++ ' ' :: '=' :: ' ' :: (line.written ++ ['\n'])

/-- What a line puts into the table of the document. -/
def entry (line : Line) : String × Toml :=
  (line.key, line.content)

/-- Whether the key of a line is bare, and its value is read back at the end of the line. -/
structure IsPlain (line : Line) : Prop where
  nonempty : line.key.toList ≠ []
  bare : ∀ c ∈ line.key.toList, isBareKey c = true
  solid : line.written.head?.any isGap = false
  reads : ∀ fuel rest, value (fuel + 1) depthLimit (line.written ++ '\n' :: rest)
    = some (line.content, '\n' :: rest)

theorem length_pos (line : Line) : 0 < line.chars.length := by
  simp only [chars, List.length_append, List.length_cons]
  omega

/-- What a line starts with may stand in a bare key. -/
theorem IsPlain.start {line : Line} (plain : line.IsPlain) {test : Char → Bool}
    (none : ∀ c, isBareKey c = true → test c = false) :
    (line.chars ++ rest).head?.any test = false := by
  have bare := plain.bare
  cases key : line.key.toList with
  | nil => exact absurd key plain.nonempty
  | cons c tail =>
    rw [key] at bare
    simp [chars, key, none c (bare c List.mem_cons_self)]

theorem IsPlain.dropWhile_isGap {line : Line} (plain : line.IsPlain) :
    (line.chars ++ rest).dropWhile isGap = line.chars ++ rest := by
  have kept : gap (line.chars ++ rest) = some ((), line.chars ++ rest) :=
    gap_of_stop (plain.start fun c => isGap_of_isBareKey)
  exact congrArg Prod.snd (Option.some.inj kept)

/-- A whole number under a key. -/
def ofNat (key : String) (n : Nat) : Line :=
  ⟨key, natChars n, .integer n⟩

/-- A string under a key. -/
def ofString (key value : String) : Line :=
  ⟨key, '"' :: (value.toList ++ ['"']), .string value⟩

section Kinds

variable {key : String} (nonempty : key.toList ≠ []) (bare : ∀ c ∈ key.toList, isBareKey c = true)

include nonempty bare

theorem isPlain_ofNat {n : Nat} (small : (n : Int) ≤ Int64.maxValue.toInt) :
    (ofNat key n).IsPlain where
  nonempty := nonempty
  bare := bare
  solid := by
    obtain ⟨c, tail, start, digit⟩ := Text.exists_natChars n
    have bareDigit : isBareKey c = true := by simp [isBareKey, Char.isAlphanum, digit]
    rw [ofNat, start]
    exact isGap_of_isBareKey bareDigit
  reads fuel rest := value_natChars fuel depthLimit small

theorem isPlain_ofString {word : String} (something : word.toList ≠ [])
    (plain : ∀ c ∈ word.toList, standsForItself c = true) : (ofString key word).IsPlain where
  nonempty := nonempty
  bare := bare
  solid := rfl
  reads fuel rest := by
    have read : value (fuel + 1) depthLimit ('"' :: (word.toList ++ '"' :: '\n' :: rest))
        = some (.string (String.ofList word.toList), '\n' :: rest) :=
      value_string fuel depthLimit something plain
    rw [String.ofList_toList] at read
    simpa [ofString] using read

end Kinds

end Line

/-! ### The table of a document -/

namespace Entries

theorem find?_of_absent {key : String} {entries : Entries} (absent : key ∉ entries.map Prod.fst) :
    find? key entries = none := by
  refine List.lookup_eq_none_iff.mpr fun entry member => ?_
  refine bne_iff_ne.mpr ?_
  rintro rfl
  exact absent (List.mem_map_of_mem member)

/-- What is put under a new key comes behind what is there. -/
theorem put_of_absent {key : String} (value : Toml) {entries : Entries}
    (absent : key ∉ entries.map Prod.fst) : put key value entries = entries ++ [(key, value)] := by
  induction entries with
  | nil => rfl
  | cons entry entries ih =>
    rw [List.map_cons, List.mem_cons, not_or] at absent
    rw [put, if_neg (Ne.symm absent.1), ih absent.2]
    rfl

theorem insert?_of_absent {key : String} (value : Toml) {entries : Entries}
    (absent : key ∉ entries.map Prod.fst) :
    insert? [] key value entries = some (entries ++ [(key, value)]) := by
  simp [insert?, update?, find?_of_absent absent, put_of_absent value absent]

end Entries

/-- **A line is read** up to the next one, and its value put under its key. -/
theorem expression_chars (fuel : Nat) {root : Entries} {line : Line} (plain : line.IsPlain)
    (absent : line.key ∉ root.map Prod.fst) :
    expression (fuel + 1) ⟨root, []⟩ (line.chars ++ rest)
      = some (⟨root ++ [line.entry], []⟩, rest) := by
  have comment : (line.chars ++ rest).head?.any (fun c => c == '#' || c == '\n' || c == '\r')
      = false := by
    refine plain.start fun c bare => ?_
    simp [ne_of_isBareKey bare (by decide : isBareKey '#' = false),
      ne_of_isBareKey bare (by decide : isBareKey '\n' = false),
      ne_of_isBareKey bare (by decide : isBareKey '\r' = false)]
  have header : (line.chars ++ rest).head?.any (· == '[') = false :=
    plain.start fun c bare => beq_eq_false_iff_ne.mpr (ne_of_isBareKey bare (by decide))
  have written : line.chars ++ rest
      = line.key.toList ++ ' ' :: '=' :: ' ' :: (line.written ++ '\n' :: rest) := by
    simp [Line.chars]
  have solid : (line.written ++ '\n' :: rest).head?.any isGap = false := by
    have solid := plain.solid
    cases start : line.written with
    | nil => rfl
    | cons c tail => rwa [start] at solid
  have inserted : Entries.insert? [] (String.ofList line.key.toList) line.content root
      = some (root ++ [line.entry]) := by
    rw [String.ofList_toList]
    exact Entries.insert?_of_absent line.content absent
  refine (bind_of_reads (gap_of_stop (plain.start fun c => isGap_of_isBareKey))).trans ?_
  refine (bind_of_reads (peek_eq _ _)).trans ?_
  rw [comment]
  refine (bind_of_reads (peek_eq _ _)).trans ?_
  rw [header, written]
  refine (bind_of_reads (key_bare plain.nonempty plain.bare)).trans ?_
  refine (bind_of_reads (char_cons '=')).trans ?_
  refine (bind_of_reads (gap_blank solid)).trans ?_
  refine (bind_of_reads (plain.reads fuel rest)).trans ?_
  refine (bind_of_reads (rfl : lineEnd false ('\n' :: rest) = some ((), rest))).trans ?_
  show Option.bind (Option.map _
    (Entries.insert? [] (String.ofList line.key.toList) line.content root)) _ = _
  rw [inserted]
  rfl

/-- **Lines are read one after the other**, within a step for each and one more. -/
theorem expressions_chars {lines : List Line} {root : Entries} {fuel : Nat}
    (plain : ∀ line ∈ lines, line.IsPlain)
    (apart : (root.map Prod.fst ++ lines.map Line.key).Nodup) (enough : lines.length < fuel) :
    expressions fuel ⟨root, []⟩ (lines.flatMap Line.chars)
      = some (root ++ lines.map Line.entry) := by
  induction lines generalizing root fuel with
  | nil =>
    obtain ⟨fuel, rfl⟩ := Nat.exists_eq_succ_of_ne_zero (Nat.ne_zero_of_lt enough)
    simp [expressions]
  | cons line lines ih =>
    obtain ⟨fuel, rfl⟩ := Nat.exists_eq_succ_of_ne_zero (Nat.ne_zero_of_lt enough)
    have first := plain line List.mem_cons_self
    have absent : line.key ∉ root.map Prod.fst := by
      intro member
      exact (List.nodup_append.mp apart).2.2 _ member _ List.mem_cons_self rfl
    have later : expressions fuel ⟨root ++ [line.entry], []⟩ (lines.flatMap Line.chars)
        = some (root ++ [line.entry] ++ lines.map Line.entry) := by
      refine ih (fun other member => plain other (List.mem_cons_of_mem line member)) ?_ ?_
      · simpa [Line.entry] using apart
      · simpa using enough
    have read (fuel : Nat) : expression (fuel + 1) ⟨root, []⟩
        (line.chars ++ lines.flatMap Line.chars) = some (⟨root ++ [line.entry], []⟩, lines.flatMap Line.chars) :=
      expression_chars fuel first absent
    have more : (line.chars ++ lines.flatMap Line.chars).isEmpty = false := by
      simp [Line.chars]
    rw [List.flatMap_cons, expressions, first.dropWhile_isGap, more, read]
    simpa using later

theorem length_le_flatMap (lines : List Line) :
    lines.length ≤ (lines.flatMap Line.chars).length := by
  induction lines with
  | nil => exact Nat.le_refl 0
  | cons line lines ih =>
    have := line.length_pos
    rw [List.flatMap_cons, List.length_append, List.length_cons]
    omega

/-- **A document of plain lines with different keys is read back** as the table of their values. -/
theorem parse?_chars {lines : List Line} (plain : ∀ line ∈ lines, line.IsPlain)
    (apart : (lines.map Line.key).Nodup) :
    parse? (String.ofList (lines.flatMap Line.chars)) = some (lines.map Line.entry) := by
  have enough : lines.length < (lines.flatMap Line.chars).length + 1 :=
    Nat.lt_succ_of_le (length_le_flatMap lines)
  have read : expressions ((lines.flatMap Line.chars).length + 1) ⟨[], []⟩
      (lines.flatMap Line.chars) = some ([] ++ lines.map Line.entry) :=
    expressions_chars plain apart enough
  have unmarked : (lines.flatMap Line.chars).head?.any (· == '\ufeff') = false := by
    cases lines with
    | nil => rfl
    | cons line lines =>
      rw [List.flatMap_cons]
      exact (plain line List.mem_cons_self).start fun c bare =>
        beq_eq_false_iff_ne.mpr (ne_of_isBareKey bare (by decide))
  unfold parse?
  rw [String.toList_ofList]
  split
  case h_1 same =>
    rw [same] at unmarked
    cases unmarked
  case h_2 => exact read

end Sift.Toml
