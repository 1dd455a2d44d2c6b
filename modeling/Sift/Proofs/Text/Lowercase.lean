/-
**The lowercase of a text within other text.**

Whether a capital sigma becomes `ς` or `σ` hangs on the letters around it, so the lowercase of a text
may not stand in the lowercase of a longer text that contains it. It does in every longer text
exactly where nothing around the text could turn one of its sigmas.

* `lowerWith` — lowercase, with the end of a word left open; a piece of a text is lowered so, with
  the end told by the whole (`lowerFrom_append`).
* `sigmas` — whether every capital sigma passes a test on what stands around it.
* `heldBehind`, `heldAhead` — whether the end of a word stays one, or none, whatever text comes
  behind, or in front.
* `forall_prefix_lowerFrom_iff`, `forall_infix_lowerFrom_iff` — the texts whose lowercase begins, or
  stands in, the lowercase of every text that they begin, or stand in.
-/

import Mathlib.Data.List.Count
import Mathlib.Data.List.Infix
import Sift.Text.Lowercase

namespace Sift.Text

/-! ### Lowercase with the end of a word left open -/

/-- The lowercase of a character, which is final if it ends a word. -/
def lowerLetter (final : Bool) (c : Char) : List Char :=
  if c = 'Σ' then [if final then 'ς' else 'σ']
  else if c = 'İ' then ['i', '\u0307']
  else [lowerChar c]

/-- The lowercase of the rest of a text, where `ends` tells the end of a word by what stands before
it, backwards, and after it. -/
def lowerWith (ends : List Char → List Char → Bool) (before : List Char) : List Char → List Char
  | [] => []
  | c :: rest => lowerLetter (ends before rest) c ++ lowerWith ends (c :: before) rest

/-- Whether every capital sigma of the rest of a text passes a test on what stands before it,
backwards, and after it. -/
def sigmas (test : List Char → List Char → Bool) (before : List Char) : List Char → Bool
  | [] => true
  | c :: rest => (c != 'Σ' || test before rest) && sigmas test (c :: before) rest

theorem lowerFrom_eq (before text : List Char) :
    lowerFrom before text = lowerWith wordEnds before text := by
  induction text generalizing before with
  | nil => rfl
  | cons c rest ih => rw [lowerFrom, lowerWith, ih]; rfl

section Pieces

variable {ends other test : List Char → List Char → Bool} {before : List Char}

/-- The front of a text is lowered with what follows it in view. -/
theorem lowerWith_append (text rest : List Char) :
    lowerWith ends before (text ++ rest)
      = lowerWith (fun front back => ends front (back ++ rest)) before text
        ++ lowerWith ends (text.reverse ++ before) rest := by
  induction text generalizing before with
  | nil => rfl
  | cons c text ih =>
    rw [List.cons_append, lowerWith, ih, lowerWith, List.append_assoc, List.reverse_cons,
      List.append_assoc, List.singleton_append]

/-- The back of a text is lowered with what precedes it in view. -/
theorem lowerWith_front (ends : List Char → List Char → Bool) (before outer text : List Char) :
    lowerWith ends (before ++ outer) text
      = lowerWith (fun front back => ends (front ++ outer) back) before text := by
  induction text generalizing before with
  | nil => rfl
  | cons c text ih => rw [lowerWith, lowerWith, ← List.cons_append, ih]

/-- **A piece of a text** is lowered with the ends of its words told by the whole. -/
theorem lowerFrom_append (ahead text behind : List Char) :
    ∃ first last, lowerFrom [] (ahead ++ (text ++ behind))
      = first ++ (lowerWith (fun front back => wordEnds (front ++ ahead.reverse) (back ++ behind))
          [] text ++ last) := by
  rw [lowerFrom_eq, lowerWith_append, lowerWith_append, List.append_nil]
  have placed := lowerWith_front (fun front back => wordEnds front (back ++ behind)) []
    ahead.reverse text
  rw [List.nil_append] at placed
  rw [placed]
  exact ⟨_, _, rfl⟩

/-- A text at the beginning of another is lowered with what follows it in view. -/
theorem lowerFrom_append_behind (text behind : List Char) :
    ∃ last, lowerFrom [] (text ++ behind)
      = lowerWith (fun front back => wordEnds front (back ++ behind)) [] text ++ last := by
  rw [lowerFrom_eq, lowerWith_append]
  exact ⟨_, rfl⟩

/-- A test that is passed where another one is lets at least as many sigmas pass. -/
theorem sigmas_mono (weaker : ∀ front back, test front back = true → other front back = true)
    {text : List Char} (all : sigmas test before text = true) :
    sigmas other before text = true := by
  induction text generalizing before with
  | nil => rfl
  | cons c rest ih =>
    rw [sigmas, Bool.and_eq_true, Bool.or_eq_true] at all ⊢
    exact ⟨all.1.imp_right (weaker _ _), ih all.2⟩

theorem sigmas_and (text : List Char) :
    sigmas (fun front back => test front back && other front back) before text
      = (sigmas test before text && sigmas other before text) := by
  induction text generalizing before with
  | nil => rfl
  | cons c rest ih =>
    rw [sigmas, sigmas, sigmas, ih]
    cases c != 'Σ' <;> cases test before rest <;> cases other before rest <;> simp

/-- Where two views agree on the words that end in a sigma, they give the same lowercase. -/
theorem lowerWith_congr {text : List Char}
    (agree : sigmas (fun front back => ends front back == other front back) before text = true) :
    lowerWith ends before text = lowerWith other before text := by
  induction text generalizing before with
  | nil => rfl
  | cons c rest ih =>
    rw [sigmas, Bool.and_eq_true, Bool.or_eq_true, bne_iff_ne, beq_iff_eq] at agree
    rw [lowerWith, lowerWith, ih agree.2]
    rcases agree.1 with letter | same
    · rw [lowerLetter, lowerLetter, if_neg letter, if_neg letter]
    · rw [same]

/-! ### Counting sigmas -/

/-- Final and other sigmas together are as many in every view. -/
theorem count_lowerWith_add (ends other : List Char → List Char → Bool) (before text : List Char) :
    (lowerWith ends before text).count 'ς' + (lowerWith ends before text).count 'σ'
      = (lowerWith other before text).count 'ς' + (lowerWith other before text).count 'σ' := by
  induction text generalizing before with
  | nil => rfl
  | cons c rest ih =>
    have letter : ∀ final : Bool, (lowerLetter final c).count 'ς' + (lowerLetter final c).count 'σ'
        = (lowerLetter true c).count 'ς' + (lowerLetter true c).count 'σ' := by
      intro final
      unfold lowerLetter
      split
      · cases final <;> decide
      · rfl
    have here := letter (ends before rest)
    have there := letter (other before rest)
    have later := ih (c :: before)
    simp only [lowerWith, List.count_append]
    omega

/-- A letter that ends no word has no more final sigmas than one that may. -/
theorem count_lowerLetter_le {final ending : Bool} (fewer : final = true → ending = true)
    (c : Char) : (lowerLetter final c).count 'ς' ≤ (lowerLetter ending c).count 'ς' := by
  cases final with
  | true => rw [fewer rfl]
  | false =>
    unfold lowerLetter
    split
    · exact Nat.zero_le _
    · exact Nat.le_refl _

/-- A view that ends fewer words in a sigma writes no more final ones. -/
theorem count_lowerWith_le (fewer : ∀ front back, ends front back = true → other front back = true)
    (text : List Char) :
    (lowerWith ends before text).count 'ς' ≤ (lowerWith other before text).count 'ς' := by
  induction text generalizing before with
  | nil => exact Nat.le_refl _
  | cons c rest ih =>
    simp only [lowerWith, List.count_append]
    exact Nat.add_le_add (count_lowerLetter_le (fewer before rest) c) ih

/-- **A view that ends fewer words in a sigma writes fewer final ones**, if the two differ on a sigma
of the text. -/
theorem count_lowerWith_lt (fewer : ∀ front back, ends front back = true → other front back = true)
    {text : List Char}
    (differ : sigmas (fun front back => ends front back == other front back) before text = false) :
    (lowerWith ends before text).count 'ς' < (lowerWith other before text).count 'ς' := by
  induction text generalizing before with
  | nil => cases differ
  | cons c rest ih =>
    simp only [lowerWith, List.count_append]
    rw [sigmas, Bool.and_eq_false_iff, Bool.or_eq_false_iff, bne_eq_false_iff_eq,
      beq_eq_false_iff_ne] at differ
    rcases differ with ⟨rfl, turned⟩ | differ
    · cases ending : ends before rest with
      | true => exact absurd (by rw [ending, fewer _ _ ending]) turned
      | false =>
        have final : other before rest = true := by simpa [ending] using turned
        rw [final]
        exact Nat.add_lt_add_of_lt_of_le (by decide) (count_lowerWith_le fewer rest)
    · exact Nat.add_lt_add_of_le_of_lt (count_lowerLetter_le (fewer before rest) c) (ih differ)

end Pieces

/-! ### What stands around a text -/

/-- Whether a text has nothing but what a search for the end of a word passes over. -/
def isPassedOver (text : List Char) : Bool :=
  text.all fun c => inRanges c.toNat caseIgnorable

/-- A search for a letter goes on into the text behind where it finds nothing before that. -/
theorem meetsCased_append (text behind : List Char) :
    meetsCased (text ++ behind) = if isPassedOver text then meetsCased behind else meetsCased text := by
  unfold meetsCased isPassedOver
  induction text with
  | nil => rfl
  | cons c rest ih =>
    cases ignored : inRanges c.toNat caseIgnorable with
    | true => simpa [List.dropWhile_cons, ignored] using ih
    | false => simp [ignored]

theorem meetsCased_of_isPassedOver {text : List Char} (passed : isPassedOver text = true) :
    meetsCased text = false := by
  have none := meetsCased_append text []
  rwa [passed, List.append_nil] at none

/-- Whether no text behind makes a word go on that ends. -/
def heldBehind (before after : List Char) : Bool :=
  !(meetsCased before && isPassedOver after)

/-- Whether no text in front makes a word of what is none. -/
def heldAhead (before after : List Char) : Bool :=
  !(isPassedOver before && !meetsCased after)

section Around

variable {before after : List Char}

/-- Where the end of a word is held, text behind leaves it as it is. -/
theorem wordEnds_behind (held : heldBehind before after = true) (behind : List Char) :
    wordEnds before (after ++ behind) = wordEnds before after := by
  rw [wordEnds, wordEnds, meetsCased_append]
  cases cased : meetsCased before with
  | false => rfl
  | true =>
    have decisive : isPassedOver after = false := by simpa [heldBehind, cased] using held
    rw [decisive]
    rfl

/-- Where the end of a word is held, text in front leaves it as it is. -/
theorem wordEnds_ahead (held : heldAhead before after = true) (ahead : List Char) :
    wordEnds (before ++ ahead) after = wordEnds before after := by
  rw [wordEnds, wordEnds, meetsCased_append]
  cases passed : isPassedOver before with
  | false => rfl
  | true =>
    have goesOn : meetsCased after = true := by simpa [heldAhead, passed] using held
    rw [goesOn, Bool.not_true, Bool.and_false, Bool.and_false]

/-- Where the end of a word is held on both sides, text around leaves it as it is. -/
theorem wordEnds_around (back : heldBehind before after = true)
    (front : heldAhead before after = true) (ahead behind : List Char) :
    wordEnds (before ++ ahead) (after ++ behind) = wordEnds before after := by
  have stays : heldBehind (before ++ ahead) after = true := by
    rw [heldBehind, meetsCased_append]
    cases passed : isPassedOver before with
    | false => exact back
    | true =>
      have goesOn : meetsCased after = true := by simpa [heldAhead, passed] using front
      cases passed : isPassedOver after with
      | false => simp
      | true => rw [meetsCased_of_isPassedOver passed] at goesOn; cases goesOn
  rw [wordEnds_behind stays, wordEnds_ahead front]

theorem meetsCased_letter : meetsCased ['a'] = true := by decide +kernel

/-- A letter behind a text ends no word. -/
theorem wordEnds_of_letter_behind (ends : wordEnds before (after ++ ['a']) = true) :
    wordEnds before after = true := by
  rw [wordEnds, meetsCased_append, meetsCased_letter] at ends
  rw [wordEnds]
  cases passed : isPassedOver after with
  | true => simp [passed] at ends
  | false => simpa [passed] using ends

/-- The end of a word that a letter behind leaves as it is, is held. -/
theorem heldBehind_of_letter (same : wordEnds before (after ++ ['a']) = wordEnds before after) :
    heldBehind before after = true := by
  rw [wordEnds, wordEnds, meetsCased_append, meetsCased_letter] at same
  cases cased : meetsCased before with
  | false => simp [heldBehind, cased]
  | true =>
    cases passed : isPassedOver after with
    | false => simp [heldBehind, passed]
    | true => simp [cased, passed, meetsCased_of_isPassedOver passed] at same

/-- A letter in front of a text leaves no word without an end. -/
theorem wordEnds_letter_ahead (ends : wordEnds before after = true) :
    wordEnds (before ++ ['a']) after = true := by
  rw [wordEnds] at ends
  rw [wordEnds, meetsCased_append, meetsCased_letter]
  cases passed : isPassedOver before with
  | true => simp [meetsCased_of_isPassedOver passed] at ends
  | false => simpa using ends

/-- The end of a word that a letter in front leaves as it is, is held. -/
theorem heldAhead_of_letter (same : wordEnds before after = wordEnds (before ++ ['a']) after) :
    heldAhead before after = true := by
  rw [wordEnds, wordEnds, meetsCased_append, meetsCased_letter] at same
  cases passed : isPassedOver before with
  | false => simp [heldAhead, passed]
  | true =>
    cases cased : meetsCased after with
    | true => simp [heldAhead, cased]
    | false => simp [passed, cased, meetsCased_of_isPassedOver passed] at same

end Around

/-! ### Lowercase that stands in that of longer texts -/

section Longer

variable {text : List Char}

theorem lowerLetter_letter (final : Bool) : lowerLetter final 'a' = ['a'] := by
  cases final <;> decide

/-- **A letter behind a text turns the sigmas that are not held against it**, so that the lowercase
of the text is not found any more. -/
theorem not_infix_lowerFrom_behind (turns : sigmas heldBehind [] text = false) :
    ¬ lowerFrom [] text <:+: lowerFrom [] (text ++ ['a']) := by
  intro found
  -- One final sigma fewer stands in the lowercase of the longer text.
  have lost : (lowerWith (fun front back => wordEnds front (back ++ ['a'])) [] text).count 'ς'
      < (lowerWith wordEnds [] text).count 'ς' := by
    refine count_lowerWith_lt (fun front back => wordEnds_of_letter_behind) ?_
    rw [← Bool.not_eq_true] at turns ⊢
    exact fun same =>
      turns (sigmas_mono (fun front back same => heldBehind_of_letter (beq_iff_eq.mp same)) same)
  have kept := found.sublist.count_le 'ς'
  rw [lowerFrom_eq, lowerFrom_eq, lowerWith_append, List.count_append, lowerWith, lowerWith,
    lowerLetter_letter] at kept
  exact absurd lost (Nat.not_lt.mpr kept)

/-- **A letter in front of a text turns the sigmas that are not held against it**, so that the
lowercase of the text is not found any more. -/
theorem not_infix_lowerFrom_ahead (turns : sigmas heldAhead [] text = false) :
    ¬ lowerFrom [] text <:+: lowerFrom [] ('a' :: text) := by
  intro found
  -- One final sigma more stands in the lowercase of the longer text, so one of the others is missing.
  have gained : (lowerWith wordEnds [] text).count 'ς'
      < (lowerWith (fun front back => wordEnds (front ++ ['a']) back) [] text).count 'ς' := by
    refine count_lowerWith_lt (fun front back => wordEnds_letter_ahead) ?_
    rw [← Bool.not_eq_true] at turns ⊢
    exact fun same =>
      turns (sigmas_mono (fun front back same => heldAhead_of_letter (beq_iff_eq.mp same)) same)
  have total := count_lowerWith_add wordEnds (fun front back => wordEnds (front ++ ['a']) back) []
    text
  have kept := found.sublist.count_le 'σ'
  rw [lowerFrom_eq, lowerFrom_eq, lowerWith, ← List.nil_append ['a'], lowerWith_front,
    lowerLetter_letter] at kept
  have letter : ∀ lowered : List Char, (['a'] ++ lowered).count 'σ' = lowered.count 'σ' := by
    simp
  rw [letter] at kept
  omega

/-- **The lowercase of a text begins that of every text that it begins** exactly where nothing behind
it can turn one of its sigmas. -/
theorem forall_prefix_lowerFrom_iff :
    (∀ behind, lowerFrom [] text <+: lowerFrom [] (text ++ behind)) ↔
      sigmas heldBehind [] text = true := by
  constructor
  · intro always
    by_contra turns
    exact not_infix_lowerFrom_behind (Bool.eq_false_iff.mpr turns) (always ['a']).isInfix
  · intro held behind
    obtain ⟨last, placed⟩ := lowerFrom_append_behind text behind
    have same : lowerWith (fun front back => wordEnds front (back ++ behind)) [] text
        = lowerFrom [] text := by
      rw [lowerFrom_eq]
      exact lowerWith_congr
        (sigmas_mono (fun front back held => beq_iff_eq.mpr (wordEnds_behind held behind)) held)
    rw [placed, same]
    exact List.prefix_append _ _

/-- **The lowercase of a text stands in that of every text that it stands in** exactly where nothing
around it can turn one of its sigmas. -/
theorem forall_infix_lowerFrom_iff :
    (∀ ahead behind, lowerFrom [] text <:+: lowerFrom [] (ahead ++ (text ++ behind))) ↔
      sigmas (fun front back => heldBehind front back && heldAhead front back) [] text = true := by
  constructor
  · intro always
    rw [sigmas_and, Bool.and_eq_true]
    constructor
    · by_contra turns
      exact not_infix_lowerFrom_behind (Bool.eq_false_iff.mpr turns) (always [] ['a'])
    · by_contra turns
      have here := always ['a'] []
      rw [List.append_nil] at here
      exact not_infix_lowerFrom_ahead (Bool.eq_false_iff.mpr turns) here
  · intro held ahead behind
    obtain ⟨first, last, placed⟩ := lowerFrom_append ahead text behind
    have same : lowerWith (fun front back => wordEnds (front ++ ahead.reverse) (back ++ behind))
        [] text = lowerFrom [] text := by
      rw [lowerFrom_eq]
      refine lowerWith_congr (sigmas_mono (fun front back held => beq_iff_eq.mpr ?_) held)
      obtain ⟨back, front⟩ := Bool.and_eq_true_iff.mp held
      exact wordEnds_around back front ahead.reverse behind
    rw [placed, same]
    exact ⟨first, last, List.append_assoc _ _ _⟩

end Longer

end Sift.Text
