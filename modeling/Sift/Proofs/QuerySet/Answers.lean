/-
**What calls answer, one after another.**

The calls that run a query set answer with rows, numbers, truth values or outcomes. Here all answers
have one form, so that sequences of calls can be followed: each call is made to the query set that
the call before has left, in the session that it has left.

* `QuerySet.answer`, `QuerySet.run_eq_outcome` — a call with its answer; without the answer it is
  what the call leaves.
* `QuerySet.answers`, `QuerySet.exists_answers` — calls made one after another, with the answers to
  all of them; none asks the store if no single one does.
* `QuerySet.Leads` — the query sets that calls lead to from one, by changes of some kind.
-/

import Sift.Proofs.QuerySet.Calls
import Sift.Proofs.QuerySet.Steps

namespace Sift.QuerySet

variable {σ α : Type}

/-- What a call answers with. -/
inductive Reply where
  | rows (rows : List (Entry Row))
  | count (count : Nat)
  | truth (truth : Bool)
  | row (row : Row)
  | outcomes (outcomes : List (Entry Unit))

/-- An answer in the form of a reply. -/
def inForm (form : α → Reply) : Answer α → Answer Reply
  | (answer, set) => (answer.map form, set)

/-- A call with its answer, and the query set afterwards. -/
def answer [Store σ] (set : QuerySet) : Run → Query σ (Answer Reply)
  | .fetch => inForm .rows <$> set.fetch
  | .count => inForm .count <$> set.count
  | .nonempty => inForm .truth <$> set.nonempty
  | .get predicate => inForm .row <$> set.get predicate
  | .index position => inForm .row <$> set.index position
  | .slice part => inForm .rows <$> set.slice part
  | .delete => inForm .outcomes <$> set.delete

/-- The answers to calls that are made one after another, and the query set after the last one. -/
def answers [Store σ] (set : QuerySet) :
    List Run → Query σ (List (Except QueryError Reply) × QuerySet)
  | [] => return ([], set)
  | call :: calls => do
    let (first, left) ← set.answer call
    let (others, left) ← left.answers calls
    return (first :: others, left)

/-- **The query sets that calls lead to** from one of them, by changes of some kind and by any calls
that run it. -/
inductive Leads (σ : Type) [Store σ] (allowed : Change → Prop) (start : QuerySet) :
    QuerySet → Prop
  | start : Leads σ allowed start start
  | change {set after : QuerySet} (change : Change) (permitted : allowed change) :
    Leads σ allowed start set → set.changed change = .ok after → Leads σ allowed start after
  | run {set : QuerySet} (call : Run) (session : Session σ) :
    Leads σ allowed start set → Leads σ allowed start (set.answer call session).1.2

/-! ### Forms -/

/-- The answer to a call, in the form of a reply. -/
theorem inForm_of_run {query : Query σ (Answer α)} {given : Except QueryError α} {left : QuerySet}
    {session after : Session σ} (form : α → Reply) (run : query session = ((given, left), after)) :
    (inForm form <$> query) session = ((given.map form, left), after) := by
  show (inForm form (query session).1, (query session).2) = _
  rw [run]
  rfl

theorem outcome_inForm (form : α → Reply) (given : Answer α) :
    outcome (inForm form given) = outcome given := by
  obtain ⟨answer, left⟩ := given
  cases answer <;> rfl

theorem outcome_snd (given : Answer α) : (outcome given).2 = given.2 := by
  obtain ⟨answer, left⟩ := given
  cases answer <;> rfl

/-! ### Calls -/

section Calls

variable [Store σ] {set : QuerySet} {session : Session σ}

/-- **What a call leaves is what it leaves with its answer.** -/
theorem run_eq_outcome (set : QuerySet) (call : Run) (session : Session σ) :
    set.run call session
      = (outcome (set.answer call session).1, (set.answer call session).2) := by
  cases call <;> exact Prod.ext (outcome_inForm _ _).symm rfl

/-- What calls lead to from a reachable set is reachable. -/
theorem Leads.reachable {allowed : Change → Prop} {start : QuerySet}
    (leads : Leads σ allowed start set) (reached : Reachable σ start) : Reachable σ set := by
  induction leads with
  | start => exact reached
  | change change _ _ made before => exact .change change before made
  | run call session _ before =>
    have left := before.run call session
    rw [run_eq_outcome, outcome_snd] at left
    exact left

/-- What is read off the rows, once they are fetched. -/
theorem onRows_of_run {rows : List (Entry Row)} {left : QuerySet} {after : Session σ}
    (fetched : set.fetch session = ((.ok rows, left), after))
    (read : List (Entry Row) → Except QueryError α) :
    set.onRows read session = ((read rows, left), after) := by
  rw [onRows_of_fetch read (congrArg Prod.fst fetched), fetched]

/-- The first of several calls, and the others made to what it leaves. -/
theorem answers_cons {call : Run} {calls : List Run} {first : Except QueryError Reply}
    {others : List (Except QueryError Reply)} {left last : QuerySet} {after later : Session σ}
    (here : set.answer call session = ((first, left), after))
    (there : left.answers calls after = ((others, last), later)) :
    set.answers (call :: calls) session = ((first :: others, last), later) := by
  show (set.answer call >>= _) session = _
  rw [bind_of_run here]
  exact bind_of_run there

/-- **Calls that never ask the store.** Where each of them leaves the session as it is, and a query
set of the same kind, so do they all, and each gives its own reply. -/
theorem exists_answers {kind : QuerySet → Prop} {gives : Run → Except QueryError Reply → Prop}
    {calls : List Run}
    (still : ∀ call ∈ calls, ∀ set, kind set → ∃ reply left,
      set.answer call session = ((reply, left), session) ∧ gives call reply ∧ kind left)
    (holds : kind set) :
    ∃ replies left, set.answers calls session = ((replies, left), session) ∧
      List.Forall₂ gives calls replies ∧ kind left := by
  induction calls generalizing set with
  | nil => exact ⟨[], set, rfl, .nil, holds⟩
  | cons call calls ih =>
    obtain ⟨first, left, here, given, kept⟩ := still call List.mem_cons_self set holds
    obtain ⟨others, last, there, each, ended⟩ :=
      ih (fun call member => still call (.tail _ member)) kept
    exact ⟨first :: others, last, answers_cons here there, .cons given each, ended⟩

end Calls

end Sift.QuerySet
