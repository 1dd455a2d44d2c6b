/-
**Checks made one after another.**

* `bind_eq_ok_iff` — two steps succeed when each of them does.
* `mapM_eq_ok_iff` — a check of every element of a list succeeds element by element.
* `exists_of_mapM_eq_ok`, `exists_mapM_eq_ok` — it succeeds exactly where every element has a result.
* `map_eq_map_of_forall₂` and its companions — where each element agrees with its result in some
  reading, so do the lists.
* `Agree` — two checks that fail alike, or succeed with related results; `Agree.bind` and
  `Agree.mapM` put such checks together.
-/

import Mathlib.Data.List.Forall2

namespace Sift

variable {ε α β : Type}

/-- Two steps succeed when the first does and the second does on its result. -/
theorem bind_eq_ok_iff {first : Except ε α} {second : α → Except ε β} {result : β} :
    first >>= second = .ok result ↔ ∃ middle, first = .ok middle ∧ second middle = .ok result := by
  cases first with
  | error error => exact ⟨fun failed => (nomatch failed), fun ⟨_, failed, _⟩ => (nomatch failed)⟩
  | ok middle =>
    refine ⟨fun run => ⟨middle, rfl, run⟩, ?_⟩
    rintro ⟨_, same, run⟩
    cases same
    exact run

theorem exists_ok_of_toBool {check : Except ε α} (passes : check.toBool = true) :
    ∃ result, check = .ok result := by
  cases check with
  | error error => cases passes
  | ok result => exact ⟨result, rfl⟩

theorem eq_ok_of_toOption {check : Except ε α} {result : α}
    (known : check.toOption = some result) : check = .ok result := by
  cases check <;> cases known
  rfl

/-- **Checking every element of a list succeeds element by element**, in the order of the list. -/
theorem mapM_eq_ok_iff {check : α → Except ε β} {elements : List α} {results : List β} :
    elements.mapM check = .ok results ↔
      List.Forall₂ (fun element result => check element = .ok result) elements results := by
  induction elements generalizing results with
  | nil =>
    rw [List.mapM_nil, List.forall₂_nil_left_iff]
    exact ⟨fun same => (Except.ok.inj same).symm, fun same => congrArg Except.ok same.symm⟩
  | cons element rest ih =>
    rw [List.mapM_cons, bind_eq_ok_iff, List.forall₂_cons_left_iff]
    constructor
    · rintro ⟨result, here, run⟩
      obtain ⟨others, there, same⟩ := bind_eq_ok_iff.mp run
      exact ⟨result, others, here, ih.mp there, (Except.ok.inj same).symm⟩
    · rintro ⟨result, others, here, there, rfl⟩
      exact ⟨result, here, bind_eq_ok_iff.mpr ⟨others, ih.mpr there, rfl⟩⟩

/-! ### What is read off the elements and off their results alike -/

section Readings

variable {γ : Type} {related : α → β → Prop} {elements : List α} {results : List β}

theorem map_eq_map_of_forall₂ {f : α → γ} {g : β → γ}
    (each : List.Forall₂ related elements results)
    (agree : ∀ element ∈ elements, ∀ result, related element result → f element = g result) :
    elements.map f = results.map g := by
  induction each with
  | nil => rfl
  | cons here _ ih =>
    rw [List.map_cons, List.map_cons, agree _ List.mem_cons_self _ here,
      ih fun element member => agree element (List.mem_cons_of_mem _ member)]

theorem filterMap_eq_filterMap_of_forall₂ {f : α → Option γ} {g : β → Option γ}
    (each : List.Forall₂ related elements results)
    (agree : ∀ element ∈ elements, ∀ result, related element result → f element = g result) :
    elements.filterMap f = results.filterMap g := by
  calc elements.filterMap f = (elements.map f).filterMap id := by rw [List.filterMap_map]; rfl
    _ = (results.map g).filterMap id := by rw [map_eq_map_of_forall₂ each agree]
    _ = results.filterMap g := by rw [List.filterMap_map]; rfl

theorem any_eq_any_of_forall₂ {p : α → Bool} {q : β → Bool}
    (each : List.Forall₂ related elements results)
    (agree : ∀ element ∈ elements, ∀ result, related element result → p element = q result) :
    elements.any p = results.any q := by
  calc elements.any p = (elements.map p).any id := by rw [List.any_map]; rfl
    _ = (results.map q).any id := by rw [map_eq_map_of_forall₂ each agree]
    _ = results.any q := by rw [List.any_map]; rfl

theorem all_eq_all_of_forall₂ {p : α → Bool} {q : β → Bool}
    (each : List.Forall₂ related elements results)
    (agree : ∀ element ∈ elements, ∀ result, related element result → p element = q result) :
    elements.all p = results.all q := by
  calc elements.all p = (elements.map p).all id := by rw [List.all_map]; rfl
    _ = (results.map q).all id := by rw [map_eq_map_of_forall₂ each agree]
    _ = results.all q := by rw [List.all_map]; rfl

end Readings

/-- Elements related to two lists joined are two lists joined, each related to its own. -/
theorem exists_append_of_forall₂ {front back : List α}
    (each : List.Forall₂ related (front ++ back) results) :
    ∃ left right, List.Forall₂ related front left ∧ List.Forall₂ related back right ∧
      results = left ++ right := by
  have first := List.forall₂_take front.length each
  have last := List.forall₂_drop front.length each
  rw [List.take_left] at first
  rw [List.drop_left] at last
  exact ⟨_, _, first, last, (List.take_append_drop front.length results).symm⟩

/-- Each result is that of some element. -/
theorem exists_of_forall₂_mem {related : α → β → Prop} {elements : List α} {results : List β}
    (each : List.Forall₂ related elements results) {result : β} (member : result ∈ results) :
    ∃ element ∈ elements, related element result := by
  induction each with
  | nil => cases member
  | cons here _ ih =>
    rcases List.mem_cons.mp member with rfl | later
    · exact ⟨_, List.mem_cons_self, here⟩
    · obtain ⟨element, found, there⟩ := ih later
      exact ⟨element, List.mem_cons_of_mem _ found, there⟩

/-- Where every element passes its check, each one has a result. -/
theorem exists_of_mapM_eq_ok {check : α → Except ε β} {elements : List α} {results : List β}
    (checked : elements.mapM check = .ok results) {element : α} (member : element ∈ elements) :
    ∃ result ∈ results, check element = .ok result := by
  have each := mapM_eq_ok_iff.mp checked
  clear checked
  induction each with
  | nil => cases member
  | cons here _ ih =>
    rcases List.mem_cons.mp member with rfl | later
    · exact ⟨_, List.mem_cons_self, here⟩
    · obtain ⟨result, found, passes⟩ := ih later
      exact ⟨result, List.mem_cons_of_mem _ found, passes⟩

/-- Where each element has a result, all of them pass. -/
theorem exists_mapM_eq_ok {check : α → Except ε β} {elements : List α}
    (each : ∀ element ∈ elements, ∃ result, check element = .ok result) :
    ∃ results, elements.mapM check = .ok results := by
  induction elements with
  | nil => exact ⟨[], rfl⟩
  | cons element rest ih =>
    obtain ⟨result, here⟩ := each element List.mem_cons_self
    obtain ⟨others, there⟩ := ih fun other later => each other (List.mem_cons_of_mem _ later)
    exact ⟨result :: others, mapM_eq_ok_iff.mpr (.cons here (mapM_eq_ok_iff.mp there))⟩

/-! ### Two checks that agree -/

/-- Whether two checks agree: they fail with the same error, or succeed with related results. -/
inductive Agree (related : α → β → Prop) : Except ε α → Except ε β → Prop
  | failed (error : ε) : Agree related (.error error) (.error error)
  | passed {a : α} {b : β} (results : related a b) : Agree related (.ok a) (.ok b)

namespace Agree

variable {γ δ : Type} {related : α → β → Prop} {first : Except ε α} {second : Except ε β}

theorem refl {related : α → α → Prop} (same : ∀ a, related a a) (check : Except ε α) :
    Agree related check check := by
  cases check with
  | error error => exact .failed error
  | ok result => exact .passed (same result)

/-- Checks that agree on equal results are the same. -/
theorem eq {first second : Except ε α} (agree : Agree (· = ·) first second) : first = second := by
  cases agree with
  | failed error => rfl
  | passed results => exact congrArg Except.ok results

/-- Checks that agree, followed by checks that agree on related results. -/
theorem bind {further : γ → δ → Prop} {next : α → Except ε γ} {other : β → Except ε δ}
    (agree : Agree related first second)
    (continued : ∀ a b, related a b → Agree further (next a) (other b)) :
    Agree further (first >>= next) (second >>= other) := by
  cases agree with
  | failed error => exact .failed error
  | passed results => exact continued _ _ results

/-- Checks that agree element by element agree on the lists. -/
theorem mapM {check : γ → Except ε α} {other : δ → Except ε β} {elements : List γ}
    {others : List δ}
    (each : List.Forall₂ (fun c d => Agree related (check c) (other d)) elements others) :
    Agree (List.Forall₂ related) (elements.mapM check) (others.mapM other) := by
  induction each with
  | nil => exact .passed .nil
  | cons here _ ih =>
    rw [List.mapM_cons, List.mapM_cons]
    exact here.bind fun a b first => ih.bind fun as bs rest => .passed (.cons first rest)

end Agree

end Sift
