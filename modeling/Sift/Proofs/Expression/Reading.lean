/-
**Reading an expression.**

A reader of expressions in two steps: the text is cut into tokens, and these are taken one by one
with the truths of what was read so far. An opening parenthesis sets a level aside, and a closing one
brings it back with what stood between them. Nothing says which of two connectives is stronger:
parts that stand side by side have to be connected in one way.

A lookup may have any text in which no parenthesis and no word of an expression stands
(`Expression.Plain`), with blanks wherever it likes. It ends where such a word or a closing
parenthesis begins.

* `Expression.token_lookup` — a lookup is cut off as a whole.
* `Expression.read_token` — reading goes on behind a token.
* `Expression.ReadsPart`, `Expression.ReadsWhole` — texts that are read as one part, or as several
  that are connected.
-/

import Mathlib.Data.List.Forall2
import Sift.Predicate.Expression
import Sift.Proofs.Predicate.Truth
import Sift.Text.Scan

namespace Sift.Expression

open Text (Scan)

/-! ### Tokens -/

inductive Token where
  | opening
  | closing
  | negation
  /-- What stands between parts, `AND` or `OR`. -/
  | joint (connective : Connective)
  | lookup (text : String)

/-- The word of a connective with the blanks around it. -/
def spaced (connective : Connective) : List Char :=
  ' ' :: (connective.word.toList ++ [' '])

/-- Whether a lookup ends in front of this text. -/
def endsLookup (text : List Char) : Bool :=
  text.head?.all (· = ')') || (spaced .all).isPrefixOf text || (spaced .any).isPrefixOf text

/-- The text of a lookup at the front of a text. -/
def lookupText : List Char → List Char
  | [] => []
  | c :: rest => if endsLookup (c :: rest) then [] else c :: lookupText rest

/-- The first token of a text. -/
def token : Scan Token
  | [] => none
  | '(' :: rest => some (.opening, rest)
  | ')' :: rest => some (.closing, rest)
  | text =>
    if (spaced .notAll).tail.isPrefixOf text then
      some (.negation, text.drop (spaced .notAll).tail.length)
    else if (spaced .all).isPrefixOf text then some (.joint .all, text.drop (spaced .all).length)
    else if (spaced .any).isPrefixOf text then some (.joint .any, text.drop (spaced .any).length)
    else
      let lookup := lookupText text
      some (.lookup (String.ofList lookup), text.drop lookup.length)

/-- **The texts of lookups that can be told from the rest**: no parenthesis stands in them, and no
word of an expression, between blanks or at an end. -/
structure Plain (text : String) : Prop where
  opening : '(' ∉ text.toList
  closing : ')' ∉ text.toList
  words : ∀ connective, ¬ spaced connective <:+: ' ' :: (text.toList ++ [' '])

/-- Something of a lookup's text would be a word in blanks if the text goes on with a character that
is in no word, and a word in blanks begins in front of that. -/
theorem infix_of_isPrefix {word text rest : List Char} (filled : text ≠ [])
    (begins : ' ' :: (word ++ [' ']) <+: text ++ rest) (apart : ∀ c ∈ rest.head?, c ∉ word) :
    ' ' :: (word ++ [' ']) <:+: text ++ [' '] := by
  obtain ⟨behind, same⟩ := begins
  rcases List.append_eq_append_iff.mp same with ⟨more, rfl, -⟩ | ⟨more, front, rfl⟩
  · exact ((List.prefix_append _ more).trans (List.prefix_append _ _)).isInfix
  cases text with
  | nil => exact absurd rfl filled
  | cons first text =>
    obtain ⟨rfl, inner⟩ := List.cons.inj front
    -- What is left of the word stands at the front of the rest, so there can be nothing left.
    rcases List.append_eq_append_iff.mp inner with ⟨blank, rfl, end_⟩ | ⟨left, rfl, rfl⟩
    · cases blank with
      | nil =>
        rw [List.append_nil]
        exact List.infix_rfl
      | cons c blank =>
        obtain ⟨rfl, nothing⟩ := List.cons.inj end_
        obtain ⟨rfl, rfl⟩ := List.nil_eq_append_iff.mp nothing
        exact (List.prefix_append _ [' ']).isInfix
    · cases left with
      | nil =>
        rw [List.append_nil]
        exact List.infix_rfl
      | cons c left => exact absurd (by simp) (apart c rfl)

/-- What a lookup ends in front of begins with no character of a word. -/
theorem not_mem_word_of_endsLookup {rest : List Char} (stop : endsLookup rest = true)
    (connective : Connective) : ∀ c ∈ rest.head?, c ∉ connective.word.toList := by
  intro c here
  have mark : c = ')' ∨ c = ' ' := by
    cases rest with
    | nil => cases here
    | cons first rest =>
      obtain rfl := Option.some.inj here
      simp only [endsLookup, spaced, List.head?_cons, Option.all_some, List.isPrefixOf,
        Bool.or_eq_true, Bool.and_eq_true, decide_eq_true_eq, beq_iff_eq] at stop
      tauto
  rcases mark with rfl | rfl <;> cases connective <;> decide

/-- Where a lookup has no words of an expression, it does not end before its end. -/
theorem endsLookup_append {text rest : List Char} (filled : text ≠ []) (closing : ')' ∉ text)
    (words : ∀ connective, ¬ spaced connective <:+: text ++ [' ']) (stop : endsLookup rest = true) :
    endsLookup (text ++ rest) = false := by
  have none (connective : Connective) : ¬ spaced connective <+: text ++ rest := fun begins =>
    words connective
      (infix_of_isPrefix filled begins (not_mem_word_of_endsLookup stop connective))
  cases text with
  | nil => exact absurd rfl filled
  | cons first text =>
    have other : first ≠ ')' := fun same => closing (same ▸ List.mem_cons_self)
    have all := mt List.isPrefixOf_iff_prefix.mp (none .all)
    have any := mt List.isPrefixOf_iff_prefix.mp (none .any)
    rw [List.cons_append] at all any ⊢
    simp only [endsLookup, List.head?_cons, Option.all_some, other, decide_false, Bool.false_or,
      Bool.or_eq_false_iff]
    exact ⟨Bool.eq_false_iff.mpr all, Bool.eq_false_iff.mpr any⟩

/-- The text of a lookup is cut off where the rest is something for a lookup to end in front of. -/
theorem lookupText_append {text rest : List Char} (closing : ')' ∉ text)
    (words : ∀ connective, ¬ spaced connective <:+: text ++ [' ']) (stop : endsLookup rest = true) :
    lookupText (text ++ rest) = text := by
  induction text with
  | nil =>
    cases rest with
    | nil => rfl
    | cons first rest => exact if_pos stop
  | cons first text ih =>
    have goes := endsLookup_append (List.cons_ne_nil first text) closing words stop
    rw [List.cons_append] at goes ⊢
    rw [lookupText, goes, if_neg Bool.false_ne_true]
    refine congrArg (first :: ·) (ih (fun member => closing (.tail _ member)) ?_)
    intro connective within
    exact words connective (within.trans (List.suffix_cons first _).isInfix)

theorem token_negation (rest : List Char) :
    token ((spaced .notAll).tail ++ rest) = some (.negation, rest) := rfl

theorem token_joint {connective : Connective} (affirming : connective ≠ .notAll)
    (rest : List Char) : token (spaced connective ++ rest) = some (.joint connective, rest) := by
  cases connective with
  | all => rfl
  | any => rfl
  | notAll => exact absurd rfl affirming

/-- **A lookup is cut off as a whole.** -/
theorem token_lookup {text : String} (plain : Plain text) (filled : text ≠ "") {rest : List Char}
    (stop : endsLookup rest = true) :
    token (text.toList ++ rest) = some (.lookup text, rest) := by
  have filledChars : text.toList ≠ [] := by simpa using filled
  have words (connective : Connective) : ¬ spaced connective <:+: text.toList ++ [' '] :=
    fun within => plain.words connective (within.trans (List.suffix_cons ' ' _).isInfix)
  have whole := lookupText_append plain.closing words stop
  have goes := endsLookup_append filledChars plain.closing words stop
  -- A negation at the front would be one after a blank.
  have negation : ¬ (spaced .notAll).tail <+: text.toList ++ rest := by
    intro begins
    refine plain.words .notAll (infix_of_isPrefix (List.cons_ne_nil ' ' text.toList) ?_
      (not_mem_word_of_endsLookup stop .notAll))
    exact List.cons_prefix_cons.mpr ⟨rfl, begins⟩
  cases chars : text.toList with
  | nil => exact absurd chars filledChars
  | cons first others =>
    have notOpening : first ≠ '(' := fun same =>
      plain.opening (chars ▸ same ▸ List.mem_cons_self)
    have notClosing : first ≠ ')' := fun same =>
      plain.closing (chars ▸ same ▸ List.mem_cons_self)
    rw [chars, List.cons_append] at whole goes negation
    simp only [endsLookup, Bool.or_eq_false_iff] at goes
    rw [List.cons_append, token]
    · simp only [whole, mt List.isPrefixOf_iff_prefix.mp negation, goes.1.2, goes.2,
        Bool.false_eq_true, if_false]
      rw [← chars, String.ofList_toList, ← List.cons_append, ← chars, List.drop_left]
    · exact nofun
    · exact fun _ same => notOpening (List.cons.inj same).1
    · exact fun _ same => notClosing (List.cons.inj same).1

/-! ### The reader -/

/-- What has been read since a parenthesis opened: whether an odd number of negations wait for a
part, how the parts are connected, and their truths. -/
structure Level where
  negated : Bool := false
  connective? : Option Connective := none
  truths : List Bool := []

namespace Level

/-- The level with one more part. -/
def add (level : Level) (value : Bool) : Level :=
  { level with negated := false, truths := level.truths ++ [value ^^ level.negated] }

def negate (level : Level) : Level :=
  { level with negated := !level.negated }

def connected (level : Level) (connective : Connective) : Level :=
  { level with connective? := some connective }

/-- The level with its parts connected in this way, unless they are connected in another. -/
def connect? (level : Level) (connective : Connective) : Option Level :=
  if level.connective?.all (· = connective) then some (level.connected connective) else none

/-- The truth of a level; a single part is not connected with any. -/
def truth? (level : Level) : Option Bool :=
  (level.connective?.getD .all).truth level.truths

/-- A part behind a negation counts as its opposite. -/
theorem add_negate (level : Level) (value : Bool) : level.negate.add value = level.add !value := by
  cases value <;> cases negated : level.negated <;> simp [add, negate, negated]

end Level

/-- The level that is being read, and those set aside, the innermost first. -/
structure State where
  level : Level
  outer : List Level

/-- What a token makes of what was read before. -/
def State.take? (holds : String → Bool) : State → Token → Option State
  | ⟨level, outer⟩, .opening => some ⟨{}, level :: outer⟩
  | ⟨_, []⟩, .closing => none
  | ⟨level, around :: outer⟩, .closing =>
    level.truth?.map fun value => ⟨around.add value, outer⟩
  | ⟨level, outer⟩, .negation => some ⟨level.negate, outer⟩
  | ⟨level, outer⟩, .joint connective =>
    (level.connect? connective).map fun level => ⟨level, outer⟩
  | ⟨level, outer⟩, .lookup text => some ⟨level.add (holds text), outer⟩

/-- The truth at the end of a text: every parenthesis has to be closed. -/
def State.truth? : State → Option Bool
  | ⟨level, []⟩ => level.truth?
  | ⟨_, _ :: _⟩ => none

/-- A text that does not start with the end of a lookup starts with one. -/
theorem lookupText_ne_nil {text : List Char} (filled : text ≠ []) (goes : endsLookup text = false) :
    lookupText text ≠ [] := by
  cases text with
  | nil => exact absurd rfl filled
  | cons first text =>
    rw [lookupText, goes]
    exact List.cons_ne_nil first _

/-- A token takes something off the text. -/
theorem length_lt_of_token {text rest : List Char} {first : Token}
    (found : token text = some (first, rest)) : rest.length < text.length := by
  have drop_lt {count : Nat} (positive : 0 < count) (filled : text ≠ []) :
      (text.drop count).length < text.length := by
    have long := List.length_pos_iff.mpr filled
    rw [List.length_drop]
    omega
  revert found
  fun_cases token text with
  | case1 => exact nofun
  | case2 | case3 =>
    rintro ⟨⟩
    exact Nat.lt_succ_self _
  | case4 _ filled | case5 _ filled | case6 _ filled =>
    rintro ⟨⟩
    exact drop_lt (by decide) filled
  | case7 _ filled _ notClosing _ notAll notAny =>
    rintro ⟨⟩
    refine drop_lt (List.length_pos_iff.mpr (lookupText_ne_nil filled ?_)) filled
    cases text with
    | nil => exact absurd rfl filled
    | cons c text =>
      have other : c ≠ ')' := fun same => notClosing text (by rw [same])
      simp [endsLookup, other, notAll, notAny]

/-- Reads a text to its end. -/
def read (holds : String → Bool) (state : State) (text : List Char) : Option Bool :=
  match _ : token text with
  | none => state.truth?
  | some (first, rest) =>
    match state.take? holds first with
    | none => none
    | some next => read holds next rest
termination_by text.length
decreasing_by exact length_lt_of_token ‹_›

/-- **The truth of an expression**, if it is one, from the truths of its lookups. -/
def meaning? (holds : String → Bool) (text : String) : Option Bool :=
  read holds ⟨{}, []⟩ text.toList

variable {holds : String → Bool} {state next : State} {rest : List Char}

theorem read_nil : read holds state [] = state.truth? := by
  rw [read]
  rfl

/-- Reading goes on behind a token. -/
theorem read_token {text : List Char} {first : Token} (found : token text = some (first, rest))
    (taken : state.take? holds first = some next) :
    read holds state text = read holds next rest := by
  rw [read]
  split
  · next nothing => cases nothing.symm.trans found
  · next other rest' same =>
    cases same.symm.trans found
    rw [taken]

/-! ### Texts that are read as parts -/

/-- **A text that is read as one part** of this truth, whatever was read before. -/
def ReadsPart (holds : String → Bool) (text : String) (value : Bool) : Prop :=
  ∀ (level : Level) (outer : List Level) (rest : List Char), endsLookup rest = true →
    read holds ⟨level, outer⟩ (text.toList ++ rest) = read holds ⟨level.add value, outer⟩ rest

/-- **A text that is read as all there is** between two parentheses, and has this truth. -/
def ReadsWhole (holds : String → Bool) (text : String) (value : Bool) : Prop :=
  ∀ (outer : List Level) (rest : List Char), endsLookup rest = true →
    ∃ level : Level, level.truth? = some value ∧
      read holds ⟨{}, outer⟩ (text.toList ++ rest) = read holds ⟨level, outer⟩ rest

variable {text : String} {value : Bool}

theorem endsLookup_closing (rest : List Char) : endsLookup (')' :: rest) = true := rfl

theorem endsLookup_joint {connective : Connective} (affirming : connective ≠ .notAll)
    (rest : List Char) : endsLookup (spaced connective ++ rest) = true := by
  cases connective with
  | all => rfl
  | any => rfl
  | notAll => exact absurd rfl affirming

/-- A lookup is read as a part. -/
theorem readsPart_lookup (plain : Plain text) (filled : text ≠ "") :
    ReadsPart holds text (holds text) := by
  intro level outer rest stop
  exact read_token (token_lookup plain filled stop) rfl

theorem ReadsPart.whole (part : ReadsPart holds text value) : ReadsWhole holds text value := by
  intro outer rest stop
  refine ⟨Level.add {} value, ?_, part {} outer rest stop⟩
  cases value <;> rfl

/-- A part behind a negation is one of the opposite truth. -/
theorem ReadsPart.negate (part : ReadsPart holds text value) :
    ReadsPart holds ("NOT " ++ text) (!value) := by
  intro level outer rest stop
  have split : ("NOT " ++ text).toList ++ rest
      = (spaced .notAll).tail ++ (text.toList ++ rest) := by
    rw [String.toList_append, List.append_assoc]
    rfl
  rw [split, read_token (token_negation _) rfl, part level.negate outer rest stop,
    level.add_negate]

/-- What stands in parentheses is a part. -/
theorem ReadsWhole.enclosed (whole : ReadsWhole holds text value) :
    ReadsPart holds ("(" ++ text ++ ")") value := by
  intro level outer rest _
  have split : ("(" ++ text ++ ")").toList ++ rest
      = '(' :: (text.toList ++ ')' :: rest) := by
    rw [String.toList_append, String.toList_append, List.append_assoc, List.append_assoc]
    rfl
  obtain ⟨inner, truth, reads⟩ := whole (level :: outer) (')' :: rest) (endsLookup_closing rest)
  have closed : (State.mk inner (level :: outer)).take? holds .closing
      = some ⟨level.add value, outer⟩ := by
    rw [State.take?, truth]
    rfl
  have opened : (State.mk level outer).take? holds .opening = some ⟨{}, level :: outer⟩ := rfl
  rw [split, read_token rfl opened, reads, read_token rfl closed]

/-- Reading goes on behind what connects two parts. -/
theorem read_joint {connective : Connective} (affirming : connective ≠ .notAll) (level : Level)
    (alike : level.connective?.all (· = connective) = true) (outer : List Level) :
    read holds ⟨level, outer⟩ (spaced connective ++ rest)
      = read holds ⟨level.connected connective, outer⟩ rest := by
  refine read_token (token_joint affirming rest) ?_
  rw [State.take?, Level.connect?, if_pos alike]
  rfl

/-- Parts that stand side by side are read one by one. -/
theorem read_joined {connective : Connective} (affirming : connective ≠ .notAll)
    {texts : List String} {values : List Bool}
    (each : List.Forall₂ (ReadsPart holds) texts values) (filled : texts ≠ []) (level : Level)
    (ready : level.negated = false) (alike : level.connective?.all (· = connective) = true)
    (outer : List Level) (stop : endsLookup rest = true) :
    ∃ after : Level, after.truths = level.truths ++ values ∧
      (after.connective? = some connective ∨
        after.connective? = level.connective? ∧ values.length = 1) ∧
      read holds ⟨level, outer⟩ ((spaced connective).intercalate (texts.map String.toList) ++ rest)
        = read holds ⟨after, outer⟩ rest := by
  induction each generalizing level with
  | nil => exact absurd rfl filled
  | @cons text value texts values part each ih =>
    have truths : (level.add value).truths = level.truths ++ [value] := by simp [Level.add, ready]
    cases each with
    | nil =>
      refine ⟨level.add value, truths, .inr ⟨rfl, rfl⟩, ?_⟩
      rw [List.map_singleton, List.intercalate_singleton, part level outer rest stop]
    | @cons second other texts values next each =>
      obtain ⟨after, further, how, reads⟩ := ih (List.cons_ne_nil second texts)
        ((level.add value).connected connective) rfl (decide_eq_true rfl)
      refine ⟨after, ?_, .inl (how.elim id And.left), ?_⟩
      · rw [further, Level.connected, truths, List.append_assoc]
        rfl
      · rw [List.map_cons] at reads ⊢
        rw [List.map_cons, List.intercalate_cons_cons, List.append_assoc, List.append_assoc,
          part level outer _ (endsLookup_joint affirming _),
          read_joint affirming (level.add value) alike, reads]

/-- **Parts that stand side by side** are read as all there is, with the truth that their connective
gives them. -/
theorem readsWhole_joined {connective : Connective} (affirming : connective ≠ .notAll)
    {separator : String} (spacing : separator.toList = spaced connective) {texts : List String}
    {values : List Bool} (each : List.Forall₂ (ReadsPart holds) texts values)
    (truth : connective.truth values = some value) :
    ReadsWhole holds (separator.intercalate texts) value := by
  intro outer rest stop
  have filled : texts ≠ [] := by
    rintro rfl
    cases each
    cases truth
  obtain ⟨after, truths, how, reads⟩ := read_joined affirming each filled {} rfl rfl
    outer stop
  refine ⟨after, ?_, ?_⟩
  · rw [Level.truth?, truths]
    rcases how with connected | ⟨alone, single⟩
    · rw [connected]
      exact truth
    · -- One part alone has its own truth, however parts are connected.
      obtain ⟨first, rfl⟩ := List.length_eq_one_iff.mp single
      rw [alone]
      cases connective with
      | notAll => exact absurd rfl affirming
      | all => exact truth
      | any => cases first <;> exact truth
  · rw [String.toList_intercalate, spacing]
    exact reads

/-- The truth of a text that is read as all there is. -/
theorem ReadsWhole.meaning?_eq (whole : ReadsWhole holds text value) :
    meaning? holds text = some value := by
  obtain ⟨level, truth, reads⟩ := whole [] [] rfl
  rw [List.append_nil] at reads
  rw [meaning?, reads, read_nil]
  exact truth

-- Parts that are connected in two ways without parentheses are not read at all.
example : meaning? (fun _ => true) "a == 1 AND b == 2 OR c == 3" = none := by decide +kernel

end Sift.Expression
