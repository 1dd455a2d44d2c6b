/-
**Whether case is disregarded.**

A look into text that disregards case compares the lowercase of two texts. So it admits whatever the
look that regards case admits, if the lowercase of the literal stands wherever the literal does. That
fails where the literal has a capital sigma that ends a word in the literal, but not in the stored
text, or the other way round.

* `Operator.anyCase?`, `Operator.keepsLowercase` — the operator that does the same regardless of case,
  and the literals whose lowercase is found wherever they are.
* `Restriction.satisfiedBy_iff_agrees` — a look into text is satisfied by an item with a text that
  agrees with the literal.
* `Predicate.anyCase_satisfied_iff` — for which literals disregarding case admits at least as much.
* `Predicate.anyCase_not_satisfied` — a text that is found only as long as its case is regarded.
-/

import Sift.Proofs.Predicate.Complement
import Sift.Proofs.Text.Lowercase

namespace Sift

/-! ### Operators -/

namespace Operator

/-- The operator that looks into text in the same way, regardless of case. -/
def anyCase? : Operator → Option Operator
  | .exact => some .exactAnyCase
  | .contains => some .containsAnyCase
  | .startsWith => some .startsWithAnyCase
  | _ => none

/-- Whether the lowercase of a text is found wherever an operator finds the text itself: nothing that
may stand around the text there turns one of its capital sigmas. -/
def keepsLowercase (given : String) : Operator → Bool
  | .contains =>
    Text.sigmas (fun front back => Text.heldBehind front back && Text.heldAhead front back) []
      given.toList
  | .startsWith => Text.sigmas Text.heldBehind [] given.toList
  | _ => true

theorem toList_lowercase (text : String) :
    (Text.lowercase text).toList = Text.lowerFrom [] text.toList :=
  String.toList_ofList

variable {operator anyCase : Operator}

/-- **Disregarding case finds a text wherever regarding it does**, exactly if its lowercase is the
same everywhere there. -/
theorem forall_agrees_anyCase_iff (counterpart : operator.anyCase? = some anyCase) (given : String) :
    (∀ stored, operator.agrees given stored = true → anyCase.agrees given stored = true) ↔
      operator.keepsLowercase given = true := by
  cases operator with
  | exact =>
    cases counterpart
    refine iff_of_true (fun stored same => ?_) rfl
    rw [of_decide_eq_true same]
    exact decide_eq_true rfl
  | contains =>
    cases counterpart
    rw [keepsLowercase, ← Text.forall_infix_lowerFrom_iff]
    simp only [agrees, decide_eq_true_eq, toList_lowercase]
    constructor
    · intro every ahead behind
      have found := every (String.ofList (ahead ++ (given.toList ++ behind)))
      rw [String.toList_ofList] at found
      exact found ⟨ahead, behind, List.append_assoc _ _ _⟩
    · rintro every stored ⟨ahead, behind, placed⟩
      rw [← placed, List.append_assoc]
      exact every ahead behind
  | startsWith =>
    cases counterpart
    rw [keepsLowercase, ← Text.forall_prefix_lowerFrom_iff]
    simp only [agrees, decide_eq_true_eq, toList_lowercase]
    constructor
    · intro every behind
      have found := every (String.ofList (given.toList ++ behind))
      rw [String.toList_ofList] at found
      exact found ⟨behind, rfl⟩
    · rintro every stored ⟨behind, placed⟩
      rw [← placed]
      exact every behind
  | _ => cases counterpart

theorem isContainment_of_anyCase (counterpart : operator.anyCase? = some anyCase) :
    operator.isContainment = true ∧ anyCase.isContainment = true := by
  cases operator <;> cases counterpart <;> exact ⟨rfl, rfl⟩

end Operator

/-! ### Items with a text under a path -/

namespace Item

/-- An item that stores nothing but a text under a path. -/
def holding (path : FieldPath) (stored : String) : Item :=
  if path.field = "item_id" then ⟨⟨stored, none⟩, []⟩
  else if path.field = "changekey" then ⟨⟨"", some stored⟩, []⟩
  else
    let value : Value :=
      match path.label, path.subfield with
      | none, _ => .text stored
      | some label, none => .labeled label (.text stored)
      | some label, some name => .labeled label (.record [(name, .text stored)])
    ⟨⟨"", none⟩, [(path.field, value)]⟩

theorem elementsAt_holding (path : FieldPath) (stored : String) :
    (holding path stored).elementsAt path = [.text stored] := by
  have value : (holding path stored).valueAt path = some (.text stored) := by
    unfold holding valueAt
    by_cases identity : path.field = "item_id"
    · rw [if_pos identity, if_pos identity]
    by_cases version : path.field = "changekey"
    · rw [if_neg identity, if_pos version, if_neg identity, if_pos version]
      rfl
    rw [if_neg identity, if_neg version, if_neg identity, if_neg version]
    obtain ⟨field, label, subfield⟩ := path
    cases label <;> cases subfield <;> simp [Named.find?, entry?, subfield?]
  rw [elementsAt, value]

end Item

/-! ### Restrictions -/

/-- The literals of a textual kind are the texts that were given. -/
theorem Literal.eq_text_of_coerce {field : String} {kind : FieldKind} {value literal : Value}
    (coerced : coerce field kind value = .ok literal) (textual : kind.isTextual = true) :
    ∃ given, value = .text given ∧ literal = .text given := by
  cases kind with
  | text =>
    cases value with
    | text given => exact ⟨given, rfl, (Except.ok.inj coerced).symm⟩
    | _ => cases coerced
  | choice choices =>
    cases value with
    | text given =>
      simp only [coerce] at coerced
      split at coerced
      · exact ⟨given, rfl, (Except.ok.inj coerced).symm⟩
      · cases coerced
    | _ => cases coerced
  | _ => cases textual

section Lookups

variable {catalog : Catalog} {target : Target} {field key given : String}
  {operator anyCase : Operator} {value : Value} {restriction : Restriction}

/-- **A look into text is satisfied by an item with a text that agrees with the literal.** -/
theorem Restriction.satisfiedBy_iff_agrees (found : Target.find catalog field key = .ok target)
    (single : target.isMultiValued = false) (looks : operator.isContainment = true)
    (coerced : Literal.coerce target.path.text target.kind (.text given) = .ok (.text given))
    (compiled : (Predicate.compare field operator (.text given)).compile catalog
      = .ok (some restriction)) (item : Item) :
    restriction.satisfiedBy item = true ↔
      ∃ stored, .text stored ∈ item.elementsAt target.path ∧
        operator.agrees given stored = true := by
  have notPresent : operator ≠ .present := by rintro rfl; cases looks
  have notOneOf : operator ≠ .oneOf := by rintro rfl; cases looks
  have notUnequal : operator ≠ .notEqual := by rintro rfl; cases looks
  have means : restriction.satisfiedBy item
      = (item.elementsAt target.path).any (operator.passes (.text given)) := by
    refine (Predicate.admits_of_compile compiled item).trans ?_
    show Lookup.holds catalog item ⟨field, operator, .text given⟩ = _
    have known : Lookup.target? catalog ⟨field, operator, .text given⟩ = some target :=
      Lookup.target?_of_find found
    rw [Lookup.holds, known]
    show Lookup.holdsOn target item ⟨field, operator, .text given⟩ = _
    rw [Lookup.holdsOn_scalar notPresent notOneOf single rfl, if_neg notUnequal,
      Lookup.somePasses_of_coerce coerced]
  rw [means, List.any_eq_true]
  constructor
  · rintro ⟨element, member, passes⟩
    cases element with
    | text stored => exact ⟨stored, member, by simpa [Operator.passes, looks] using passes⟩
    | _ => simp [Operator.passes, looks] at passes
  · rintro ⟨stored, member, agrees⟩
    exact ⟨.text stored, member, by simpa [Operator.passes, looks] using agrees⟩

/-- **A list field has no lookup that disregards case.** -/
theorem Predicate.compile_anyCase_of_multiValued (found : Target.find catalog field key = .ok target)
    (several : target.isMultiValued = true) (counterpart : operator.anyCase? = some anyCase) :
    (compare field anyCase value).compile catalog
      = .error (.unsupportedLookup (Lookup.key ⟨field, anyCase, value⟩)
          (.needsMembership target.path.text)) := by
  have refused : Lookup.resolve catalog ⟨field, anyCase, value⟩
      = .error (.unsupportedLookup (Lookup.key ⟨field, anyCase, value⟩)
          (.needsMembership target.path.text)) := by
    rw [Lookup.resolve, Target.find_key found]
    show (if _ then _ else _) = _
    cases operator <;> cases counterpart <;> simp [several, Lookup.resolveMembership]
  show (Lookup.resolve catalog ⟨field, anyCase, value⟩ >>= _) = _
  rw [refused]
  rfl

/-- **Disregarding case admits at least as much for exactly the literals whose lowercase is found
wherever they are.** A lookup that compiles on a field of single texts compiles regardless of case
too, and any item that satisfies the first restriction satisfies the second, if nothing around the
literal can turn one of its capital sigmas; otherwise some item does not. For whole texts that is
never in question. On a list of texts no lookup disregards case. -/
theorem Predicate.anyCase_satisfied_iff (counterpart : operator.anyCase? = some anyCase)
    (compiled : (compare field operator value).compile catalog = .ok (some restriction)) :
    ∃ target, Target.find catalog field (Lookup.key ⟨field, operator, value⟩) = .ok target ∧
      if target.isMultiValued then
        (compare field anyCase value).compile catalog
          = .error (.unsupportedLookup (Lookup.key ⟨field, anyCase, value⟩)
              (.needsMembership target.path.text))
      else
        target.kind.isTextual = true ∧ ∃ given loose, value = .text given ∧
          (compare field anyCase value).compile catalog = .ok (some loose) ∧
          ((∀ item, restriction.satisfiedBy item = true → loose.satisfiedBy item = true) ↔
            operator.keepsLowercase given = true) := by
  obtain ⟨resolved, run⟩ := exists_compile_iff.mp ⟨_, compiled⟩
  obtain ⟨target, found, form⟩ := Lookup.resolvesTo_of_resolve run
  refine ⟨target, found, ?_⟩
  cases several : target.isMultiValued with
  | true => exact compile_anyCase_of_multiValued found several counterpart
  | false =>
    obtain ⟨looks, looksToo⟩ := Operator.isContainment_of_anyCase counterpart
    cases form with
    | presence => cases counterpart
    | everyElement contrary | element contrary => rw [several] at contrary; cases contrary
    | alternatives => cases counterpart
    | alternative => cases counterpart
    | @scalar _ value literal _ notPresent notOneOf textual scalar coerced =>
      obtain ⟨given, rfl, rfl⟩ := Literal.eq_text_of_coerce coerced (textual looks)
      have notPresentToo : anyCase ≠ .present := by rintro rfl; cases looksToo
      have notOneOfToo : anyCase ≠ .oneOf := by rintro rfl; cases looksToo
      have runToo : (compare field anyCase (.text given)).resolve catalog = .ok _ :=
        Lookup.resolve_eq_ok_iff.mpr ⟨target, Target.find_key found _,
          .scalar several notPresentToo notOneOfToo (fun _ => textual looks) rfl coerced⟩
      obtain ⟨result, compiledToo⟩ := exists_compile_iff.mpr ⟨_, runToo⟩
      obtain ⟨loose, rfl⟩ := Option.ne_none_iff_exists'.mp fun none =>
        List.cons_ne_nil _ _ ((eq_none_iff_of_compile compiledToo).mp none)
      refine ⟨textual looks, given, loose, rfl, compiledToo, ?_⟩
      rw [← Operator.forall_agrees_anyCase_iff counterpart given]
      have strictly := Restriction.satisfiedBy_iff_agrees found several looks coerced compiled
      have loosely := Restriction.satisfiedBy_iff_agrees found several looksToo coerced compiledToo
      constructor
      · -- An item with nothing but the stored text tells what the two operators make of it.
        intro every stored agrees
        have alone := Item.elementsAt_holding target.path stored
        have satisfied := every _ ((strictly (.holding target.path stored)).mpr
          ⟨stored, by rw [alone]; exact List.mem_singleton.mpr rfl, agrees⟩)
        obtain ⟨other, member, found⟩ := (loosely _).mp satisfied
        rw [alone, List.mem_singleton] at member
        cases member
        exact found
      · intro every item satisfied
        obtain ⟨stored, member, agrees⟩ := (strictly item).mp satisfied
        exact (loosely item).mpr ⟨stored, member, every stored agrees⟩

end Lookups

namespace Predicate

/-- A heading whose sigma starts a word is found regardless of case wherever it is found. -/
theorem anyCase_satisfied_iff_heading :
    Operator.contains.anyCase? = some .containsAnyCase ∧
    ∃ strict loose,
      (compare "subject" .contains (.text "ΣΟΦΙΑ")).compile Catalog.standard = .ok (some strict) ∧
      (compare "subject" .containsAnyCase (.text "ΣΟΦΙΑ")).compile Catalog.standard
        = .ok (some loose) ∧
      ∀ item, strict.satisfiedBy item = true → loose.satisfiedBy item = true := by
  have compiles : ∀ operator ∈ [Operator.contains, .containsAnyCase],
      ((compare "subject" operator (.text "ΣΟΦΙΑ")).compile Catalog.standard).toBool = true := by
    decide +kernel
  obtain ⟨result, compiled⟩ := exists_ok_of_toBool (compiles .contains (by decide))
  obtain ⟨resultToo, compiledToo⟩ := exists_ok_of_toBool (compiles .containsAnyCase (by decide))
  obtain ⟨strict, rfl⟩ := Option.ne_none_iff_exists'.mp fun none =>
    List.cons_ne_nil _ _ ((eq_none_iff_of_compile compiled).mp none)
  obtain ⟨target, -, admits⟩ := anyCase_satisfied_iff rfl compiled
  refine ⟨rfl, strict, ?_⟩
  cases several : target.isMultiValued with
  | true =>
    rw [several, if_pos rfl, compiledToo] at admits
    cases admits
  | false =>
    rw [several, if_neg Bool.false_ne_true] at admits
    obtain ⟨-, given, loose, same, compiledToo, every⟩ := admits
    cases same
    exact ⟨loose, compiled, compiledToo, every.mpr (by decide +kernel)⟩

/-- An item whose subject goes on where the literals of `anyCase_not_satisfied` end a word. -/
def longerWordSample : Item := ⟨⟨"a", none⟩, [("subject", .text "ΑΣΑ")]⟩

/-- **A text may be found only as long as its case is regarded**: `ΑΣ` stands in `ΑΣΑ`, but its
lowercase `ας` does not stand in `ασα`. -/
theorem anyCase_not_satisfied :
    ∃ strict loose,
      (compare "subject" .contains (.text "ΑΣ")).compile Catalog.standard = .ok (some strict) ∧
      (compare "subject" .containsAnyCase (.text "ΑΣ")).compile Catalog.standard
        = .ok (some loose) ∧
      strict.satisfiedBy longerWordSample = true ∧
      loose.satisfiedBy longerWordSample = false := by
  have verdict : ∀ operator : Operator, ∀ verdict,
      (((compare "subject" operator (.text "ΑΣ")).compile Catalog.standard).toOption.bind id).map
        (fun restriction => restriction.satisfiedBy longerWordSample) = some verdict →
      ∃ restriction, (compare "subject" operator (.text "ΑΣ")).compile Catalog.standard
        = .ok (some restriction) ∧ restriction.satisfiedBy longerWordSample = verdict := by
    intro operator verdict known
    obtain ⟨restriction, found, same⟩ := Option.map_eq_some_iff.mp known
    obtain ⟨result, passed, here⟩ := Option.bind_eq_some_iff.mp found
    cases here
    exact ⟨restriction, eq_ok_of_toOption passed, same⟩
  obtain ⟨strict, compiled, satisfied⟩ := verdict .contains true (by decide +kernel)
  obtain ⟨loose, compiledToo, missed⟩ := verdict .containsAnyCase false (by decide +kernel)
  exact ⟨strict, loose, compiled, compiledToo, satisfied, missed⟩

end Predicate

end Sift
