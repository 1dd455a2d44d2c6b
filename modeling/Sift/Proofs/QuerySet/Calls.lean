/-
**Query sets as calls leave them.**

The calls on query sets are of two kinds: a `Change` makes another query set from one, and a `Run`
answers from the rows or asks the store, and may keep rows or forget them. The query sets that
sequences of such calls lead to are `Reachable`. What all of them have in common is `Valid`: the
predicate is in resolved form, and the rows that are kept are whole items if the shape says so.

* `QuerySet.Makes`, `QuerySet.makes_of_changed` — what each change makes of a query set.
* `QuerySet.Valid.changed` — each change preserves validity.
* `QuerySet.Leaves`, `QuerySet.Valid.leaves` — so does what a call to the store may leave.
-/

import Sift.Proofs.Predicate.Resolved
import Sift.QuerySet.Execution

namespace Sift.QuerySet

variable {σ : Type}

/-! ### Calls -/

/-- A call that makes another query set from one. -/
inductive Change where
  | all
  | empty
  | filter (predicate : Predicate)
  | exclude (predicate : Predicate)
  | only (fields : List String)
  | values (fields : List String)
  | valuesList (fields : List String) (flat : Bool)
  | orderBy (fields : List String)
  | reverse
  | pageSize (size : Nat)
  | depth (depth : Depth)
  | settings (settings : Settings)

/-- The query set that a call makes. -/
def changed (set : QuerySet) : Change → Except QueryError QuerySet
  | .all => .ok set.all
  | .empty => .ok set.empty
  | .filter predicate => set.filter predicate
  | .exclude predicate => set.exclude predicate
  | .only fields => set.only fields
  | .values fields => set.values fields
  | .valuesList fields flat => set.valuesList fields flat
  | .orderBy fields => set.orderBy fields
  | .reverse => set.reverse
  | .pageSize size => set.withPageSize size
  | .depth depth => .ok (set.withDepth depth)
  | .settings settings => .ok (set.withSettings settings)

/-- A query set projected to some paths, with rows of some form. -/
def project (set : QuerySet) (paths : List FieldPath) (shape : RowShape) : QuerySet :=
  { set.all with projection := some paths, shape }

/-- **What a change makes**, if it succeeds. -/
inductive Makes (set : QuerySet) : Change → QuerySet → Prop
  | all : Makes set .all set.all
  | empty : Makes set .empty set.empty
  | filter {predicate resolved : Predicate} (run : predicate.resolve set.catalog = .ok resolved) :
    Makes set (.filter predicate)
      { set.all with predicate := set.predicate.map (·.both resolved) }
  | exclude {predicate resolved : Predicate} (run : predicate.resolve set.catalog = .ok resolved) :
    Makes set (.exclude predicate)
      { set.all with predicate := set.predicate.map (·.both resolved.negate) }
  | only {fields : List String} {paths : List FieldPath}
      (known : fields.mapM (FieldPath.ofText set.catalog) = .ok paths) :
    Makes set (.only fields) (set.project paths .entities)
  | values {fields : List String} {paths : List FieldPath}
      (known : fields.mapM (FieldPath.ofText set.catalog) = .ok paths) :
    Makes set (.values fields) (set.project paths .values)
  | tuple {fields : List String} {paths : List FieldPath}
      (known : fields.mapM (FieldPath.ofText set.catalog) = .ok paths) :
    Makes set (.valuesList fields false) (set.project paths .tuple)
  | flat {field : String} {path : FieldPath}
      (known : FieldPath.ofText set.catalog field = .ok path) :
    Makes set (.valuesList [field] true) (set.project [path] .flat)
  | orderBy {fields : List String} {ordering : List SortKey}
      (known : fields.mapM (SortKey.ofText set.catalog) = .ok ordering) :
    Makes set (.orderBy fields) { set.all with ordering, reversed := false }
  | reverse (ordered : set.ordering ≠ []) :
    Makes set .reverse { set.all with reversed := !set.reversed }
  | pageSize {size : Nat} (positive : 1 ≤ size) :
    Makes set (.pageSize size) { set.all with pageSize := size }
  | depth (depth : Depth) : Makes set (.depth depth) (set.withDepth depth)
  | settings (settings : Settings) : Makes set (.settings settings) (set.withSettings settings)

theorem mapM_of_projected {set : QuerySet} {call : String} {fields : List String}
    {paths : List FieldPath} (projected : set.projected call fields = .ok paths) :
    fields.mapM (FieldPath.ofText set.catalog) = .ok paths := by
  unfold QuerySet.projected at projected
  split at projected
  · cases projected
  · exact projected

/-- **A change that succeeds** makes what it says. -/
theorem makes_of_changed {set after : QuerySet} {change : Change}
    (made : set.changed change = .ok after) : set.Makes change after := by
  cases change with
  | all =>
    cases made
    exact .all
  | empty =>
    cases made
    exact .empty
  | filter predicate =>
    obtain ⟨resolved, run, same⟩ := bind_eq_ok_iff.mp made
    cases same
    exact .filter run
  | exclude predicate =>
    obtain ⟨resolved, run, same⟩ := bind_eq_ok_iff.mp made
    cases same
    exact .exclude run
  | only fields =>
    obtain ⟨paths, projected, same⟩ := bind_eq_ok_iff.mp made
    cases same
    exact .only (mapM_of_projected projected)
  | values fields =>
    obtain ⟨paths, projected, same⟩ := bind_eq_ok_iff.mp made
    cases same
    exact .values (mapM_of_projected projected)
  | valuesList fields flat =>
    simp only [changed, valuesList] at made
    split at made
    · cases made
    · rename_i single
      obtain ⟨paths, projected, same⟩ := bind_eq_ok_iff.mp made
      cases same
      have known := mapM_of_projected projected
      cases flat with
      | false => exact .tuple known
      | true =>
        obtain ⟨field, rfl⟩ : ∃ field, fields = [field] :=
          List.length_eq_one_iff.mp (by simpa using single)
        obtain ⟨path, _, first, ⟨⟩, rfl⟩ := List.forall₂_cons_left_iff.mp (mapM_eq_ok_iff.mp known)
        exact .flat first
  | orderBy fields =>
    obtain ⟨ordering, known, same⟩ := bind_eq_ok_iff.mp made
    cases same
    exact .orderBy known
  | reverse =>
    simp only [changed, reverse] at made
    split at made
    · cases made
    · rename_i ordered
      cases made
      exact .reverse fun none => ordered (List.isEmpty_iff.mpr none)
  | pageSize size =>
    simp only [changed, withPageSize] at made
    split at made
    · cases made
    · rename_i positive
      cases made
      exact .pageSize (Nat.one_le_iff_ne_zero.mpr positive)
  | depth depth =>
    cases made
    exact .depth depth
  | settings settings =>
    cases made
    exact .settings settings

/-- A call that answers from the rows of a query set, or asks the store. -/
inductive Run where
  | fetch
  | count
  | nonempty
  | get (predicate : Predicate)
  | index (index : Int64)
  | slice (slice : Slice)
  | delete

/-- The error of an answer, if it is one, and the query set afterwards. -/
def outcome {α : Type} : Answer α → Option QueryError × QuerySet
  | (.ok _, set) => (none, set)
  | (.error error, set) => (some error, set)

/-- What a call leaves: its error, if it fails, and the query set. -/
def run [Store σ] (set : QuerySet) : Run → Query σ (Option QueryError × QuerySet)
  | .fetch => outcome <$> set.fetch
  | .count => outcome <$> set.count
  | .nonempty => outcome <$> set.nonempty
  | .get predicate => outcome <$> set.get predicate
  | .index position => outcome <$> set.index position
  | .slice part => outcome <$> set.slice part
  | .delete => outcome <$> set.delete

/-- **The query sets that calls lead to**, from the items of some folders. A call may meet the store
in any state, and a copy of a query set is the query set itself. -/
inductive Reachable (σ : Type) [Store σ] : QuerySet → Prop
  | folders (catalog : Catalog) (folders : List FolderId) : Reachable σ (ofFolders catalog folders)
  | change {set after : QuerySet} (change : Change) :
    Reachable σ set → set.changed change = .ok after → Reachable σ after
  | run {set : QuerySet} (call : Run) (session : Session σ) :
    Reachable σ set → Reachable σ (set.run call session).1.2

/-! ### The invariant -/

/-- Whether all rows that are no failures are whole items. -/
def WholeItems (rows : List (Entry Row)) : Prop :=
  ∀ row, .ok row ∈ rows → ∃ item, row = .item item

/-- **What calls preserve.** The predicate is in resolved form, and the rows that are kept are whole
items where the shape says so. -/
structure Valid (set : QuerySet) : Prop where
  resolved : ∀ predicate ∈ set.predicate, predicate.resolve set.catalog = .ok predicate
  items : set.shape = .entities → ∀ rows ∈ set.cache, WholeItems rows

/-- What a call may leave of a query set: the set as it was, without rows, or with rows that have
its shape. -/
inductive Leaves (set : QuerySet) : QuerySet → Prop
  | same : Leaves set set
  | uncached : Leaves set set.all
  | cached {rows : List (Entry Row)} (items : set.shape = .entities → WholeItems rows) :
    Leaves set { set with cache := some rows }

theorem valid_ofFolders (catalog : Catalog) (folders : List FolderId) :
    (ofFolders catalog folders).Valid := by
  refine ⟨fun predicate given => ?_, fun _ rows cached => nomatch cached⟩
  cases given
  rfl

/-- A set with a narrower predicate in resolved form is valid. -/
theorem Valid.narrow {set : QuerySet} (valid : set.Valid) {narrowing : Predicate}
    (fixed : narrowing.resolve set.catalog = .ok narrowing) :
    Valid { set.all with predicate := set.predicate.map (·.both narrowing) } := by
  refine ⟨fun predicate given => ?_, fun _ rows cached => nomatch cached⟩
  obtain ⟨base, known, rfl⟩ := Option.map_eq_some_iff.mp given
  refine Predicate.resolve_groupOf_of_resolved fun child member => ?_
  rcases List.mem_pair.mp member with rfl | rfl
  · exact valid.resolved _ known
  · exact fixed

/-- A set with the same predicate and no rows is valid. -/
theorem Valid.rearrange {set after : QuerySet} (valid : set.Valid)
    (catalog : after.catalog = set.catalog) (predicate : after.predicate = set.predicate)
    (uncached : after.cache = none) : after.Valid := by
  refine ⟨?_, fun _ rows cached => ?_⟩
  · rw [catalog, predicate]
    exact valid.resolved
  · rw [uncached] at cached
    cases cached

/-- **Each change preserves validity.** -/
theorem Valid.changed {set after : QuerySet} (valid : set.Valid) (change : Change)
    (made : set.changed change = .ok after) : after.Valid := by
  cases makes_of_changed made with
  | empty => exact ⟨fun predicate given => (nomatch given), fun _ rows cached => (nomatch cached)⟩
  | filter run => exact valid.narrow (Predicate.resolve_of_resolve run)
  | exclude run =>
    exact valid.narrow (Predicate.resolve_negate_of_resolved (Predicate.resolve_of_resolve run))
  | _ => exact valid.rearrange rfl rfl rfl

/-- What a call may leave of a valid set is valid. -/
theorem Valid.leaves {set after : QuerySet} (valid : set.Valid) (leaves : set.Leaves after) :
    after.Valid := by
  cases leaves with
  | same => exact valid
  | uncached => exact valid.rearrange rfl rfl rfl
  | cached items =>
    refine ⟨valid.resolved, fun whole rows cached => ?_⟩
    cases cached
    exact items whole

/-- A valid set has a restriction. -/
theorem Valid.exists_restriction {set : QuerySet} (valid : set.Valid) :
    ∃ restriction, set.restriction = .ok restriction := by
  unfold restriction
  cases known : set.predicate with
  | none => exact ⟨none, rfl⟩
  | some predicate =>
    exact Predicate.exists_compile_iff.mpr ⟨predicate, valid.resolved predicate known⟩

end Sift.QuerySet
