/-
**Rows of some fields are the rows of whole items, cut down.**

A call that projects a query set decides which fields are asked for: those that its rows hold, and
those that only the ordering needs. The store leaves out all others, the items are sorted with what
is left of them, and what was fetched for the ordering alone is taken off again. None of this shows
in the rows: they are what the call makes of each whole item, in the order of the whole items.

* `QuerySet.Change.Cuts` — what a call makes of a whole item.
* `QuerySet.valueAt_retain_fetched` — what is fetched has the values that rows and ordering need.
* `QuerySet.projection_faithful` — the rows of a projected query set over a store in memory.
-/

import Sift.Catalog.Standard
import Sift.Proofs.QuerySet.InMemory
import Sift.Proofs.QuerySet.Validation
import Sift.Proofs.Store.Shaping

namespace Sift

/-- Whether all attributes of a catalog are what identifies an item. -/
def Catalog.AttributesIdentify (catalog : Catalog) : Prop :=
  ∀ field ∈ catalog.fields, field.isAttribute = true →
    field.name = "item_id" ∨ field.name = "changekey"

/-! ### Sorting -/

section Sorting

variable {keys : List SortKey} {cut : Item → Item}

/-- Entries that are cut down compare as before, as long as the keys find the values they did. -/
theorem compareEntries_map
    (kept : ∀ key ∈ keys, ∀ item, (cut item).valueAt key.path = item.valueAt key.path)
    (a b : Entry Item) : compareEntries keys (a.map cut) (b.map cut) = compareEntries keys a b := by
  have value : ∀ (entry : Entry Item) (key : SortKey), key ∈ keys →
      Entry.valueAt (entry.map cut) key.path = Entry.valueAt entry key.path := by
    intro entry key member
    cases entry with
    | error error => rfl
    | ok item =>
      show ((cut item).valueAt key.path).filter _ = (item.valueAt key.path).filter _
      rw [kept key member]
  induction keys with
  | nil => rfl
  | cons key rest ih =>
    rw [compareEntries, compareEntries,
      ih (fun key member => kept key (.tail _ member)) fun entry key member =>
        value entry key (.tail _ member)]
    rw [SortKey.compare, SortKey.compare, value a key List.mem_cons_self,
      value b key List.mem_cons_self]

/-- Entries that are cut down come in the order that they came in. -/
theorem sortEntries_map
    (kept : ∀ key ∈ keys, ∀ item, (cut item).valueAt key.path = item.valueAt key.path)
    (entries : List (Entry Item)) :
    sortEntries keys (entries.map (·.map cut)) = (sortEntries keys entries).map (·.map cut) := by
  refine stableSort_map (fun a b => ?_) entries
  rw [compareEntries_map kept]

end Sorting

namespace QuerySet

/-! ### What is asked for -/

section Fetched

variable {set : QuerySet} {paths : List FieldPath}

theorem mem_distinct {α : Type} [BEq α] [LawfulBEq α] {x : α} {elements : List α} :
    x ∈ distinct elements ↔ x ∈ elements := by
  suffices grown : ∀ found : List α,
      x ∈ elements.foldl (fun found x => if found.contains x then found else found ++ [x]) found
        ↔ x ∈ found ∨ x ∈ elements by
    exact (grown []).trans (by simp)
  induction elements with
  | nil => simp
  | cons first rest ih =>
    intro found
    rw [List.foldl_cons, ih, List.mem_cons]
    split
    · rename_i known
      have member : first ∈ found := List.contains_iff_mem.mp known
      constructor
      · exact Or.imp_right .inr
      · rintro (before | rfl | later)
        exacts [.inl before, .inl member, .inr later]
    · rw [List.mem_append, List.mem_singleton, or_assoc]

/-- Whether a field is asked for with its name, for rows of some paths. -/
def fetched (set : QuerySet) (paths : List FieldPath) (name : String) : Bool :=
  (paths.filter (fun path => !set.isAttribute path) ++ distinct (set.extraSortPaths paths)).any
    fun path => path.field == name

/-- The fields that are asked for only to sort by them. -/
def sortOnly (set : QuerySet) (paths : List FieldPath) : List String :=
  distinct ((set.extraSortPaths paths).map FieldPath.field)

theorem mem_extraSortPaths_iff {path : FieldPath} :
    path ∈ set.extraSortPaths paths ↔ path ∈ set.sortKeys.map SortKey.path ∧
      set.isAttribute path = false ∧ ∀ projected ∈ paths, projected.field ≠ path.field := by
  simp [extraSortPaths]

theorem mem_sortOnly_iff {name : String} :
    name ∈ set.sortOnly paths ↔ ∃ path ∈ set.extraSortPaths paths, path.field = name := by
  rw [sortOnly, mem_distinct, List.mem_map]

theorem fetched_iff {name : String} :
    set.fetched paths name = true ↔
      (∃ path ∈ paths, set.isAttribute path = false ∧ path.field = name) ∨
        name ∈ set.sortOnly paths := by
  simp only [fetched, List.any_eq_true, List.mem_append, mem_distinct, mem_sortOnly_iff,
    List.mem_filter, Bool.not_eq_true', beq_iff_eq, or_and_right, exists_or, and_assoc]

/-- A path that leads to an attribute leads to what identifies the item. -/
theorem field_of_isAttribute (identify : set.catalog.AttributesIdentify) {path : FieldPath}
    (found : set.isAttribute path = true) :
    path.field = "item_id" ∨ path.field = "changekey" := by
  unfold isAttribute at found
  cases known : set.catalog.get? path.field with
  | none =>
    rw [known] at found
    cases found
  | some field =>
    rw [known] at found
    rw [← Catalog.name_of_get? known]
    exact identify field (List.mem_of_find?_eq_some known) found

/-- **What is asked for has the values that rows and ordering need**: those under the paths of the
rows, and those under the keys to sort by. -/
theorem valueAt_retain_fetched (identify : set.catalog.AttributesIdentify) {path : FieldPath}
    (needed : path ∈ paths ∨ path ∈ set.sortKeys.map SortKey.path) (item : Item) :
    (item.retain (set.fetched paths)).valueAt path = item.valueAt path := by
  refine Item.valueAt_retain ?_ item
  by_cases identity : set.isAttribute path = true
  · rcases field_of_isAttribute identify identity with id | key
    exacts [.inl id, .inr (.inl key)]
  · right; right
    have plain : set.isAttribute path = false := Bool.eq_false_iff.mpr identity
    rw [fetched_iff]
    by_cases covered : ∃ projected ∈ paths, projected.field = path.field
    · -- Attributes are told by the field alone, so the path that covers this one is asked for.
      obtain ⟨projected, member, same⟩ := covered
      refine .inl ⟨projected, member, ?_, same⟩
      rw [isAttribute, same]
      exact plain
    · have sorting : path ∈ set.sortKeys.map SortKey.path :=
        needed.resolve_left fun member => covered ⟨path, member, rfl⟩
      have apart : ∀ projected ∈ paths, projected.field ≠ path.field :=
        fun projected member same => covered ⟨projected, member, same⟩
      exact .inr (mem_sortOnly_iff.mpr ⟨path, mem_extraSortPaths_iff.mpr ⟨sorting, plain, apart⟩,
        rfl⟩)

/-- An item with no more of its fields than some paths name. What identifies an item is none of its
fields. -/
def cutTo (set : QuerySet) (paths : List FieldPath) (item : Item) : Item :=
  { item with fields := item.fields.filter fun field =>
      ∃ path ∈ paths, path.field = field.1 ∧
        (set.catalog.get? path.field).all fun known => !known.isAttribute }

theorem isAttribute_eq_false_iff {path : FieldPath} :
    set.isAttribute path = false ↔
      (set.catalog.get? path.field).all (fun known => !known.isAttribute) = true := by
  rw [isAttribute]
  cases set.catalog.get? path.field <;> simp

/-- Without the fields that are there only to sort by, those are left that rows are made of. -/
theorem retain_fetched_retain (set : QuerySet) (paths : List FieldPath) (item : Item) :
    (item.retain (set.fetched paths)).retain (fun name => !(set.sortOnly paths).contains name)
      = set.cutTo paths item := by
  rw [Item.retain_retain]
  refine congrArg (Item.mk item.id) (List.filter_congr fun field _ => Bool.eq_iff_iff.mpr ?_)
  have apart : ∀ path ∈ paths, path.field = field.1 → field.1 ∉ set.sortOnly paths := by
    intro path member same sorting
    obtain ⟨key, extra, sorted⟩ := mem_sortOnly_iff.mp sorting
    exact (mem_extraSortPaths_iff.mp extra).2.2 path member (same.trans sorted.symm)
  simp only [Bool.and_eq_true, Bool.not_eq_true', List.contains_eq_mem, decide_eq_false_iff_not,
    fetched_iff, isAttribute_eq_false_iff, decide_eq_true_eq]
  constructor
  · rintro ⟨notExtra, ⟨path, member, plain, same⟩ | extra⟩
    exacts [⟨path, member, same, plain⟩, absurd extra notExtra]
  · rintro ⟨path, member, same, plain⟩
    exact ⟨apart path member same, .inl ⟨path, member, plain, same⟩⟩

end Fetched

/-! ### Calls that project -/

/-- Whether a call projects a query set. -/
def Change.Projects : Change → Prop
  | .only _ | .values _ | .valuesList _ _ => True
  | _ => False

/-- **What a call for some fields makes of a whole item**: the values under the paths of the fields,
with or without the paths, and null where there is none; a single value; or the item with those of
its fields that are named and no attributes. -/
inductive Change.Cuts (set : QuerySet) : Change → (Item → Row) → Prop
  | values {fields : List String} {paths : List FieldPath}
      (known : fields.mapM (FieldPath.ofText set.catalog) = .ok paths) :
      Cuts set (.values fields) fun item =>
        .values (paths.map fun path => (path.text, (item.valueAt path).getD .null))
  | tuple {fields : List String} {paths : List FieldPath}
      (known : fields.mapM (FieldPath.ofText set.catalog) = .ok paths) :
      Cuts set (.valuesList fields false) fun item =>
        .tuple (paths.map fun path => (item.valueAt path).getD .null)
  | flat {field : String} {path : FieldPath}
      (known : FieldPath.ofText set.catalog field = .ok path) :
      Cuts set (.valuesList [field] true) fun item => .flat ((item.valueAt path).getD .null)
  | only {fields : List String} {paths : List FieldPath}
      (known : fields.mapM (FieldPath.ofText set.catalog) = .ok paths) :
      Cuts set (.only fields) fun item => .item (set.cutTo paths item)

/-- The rows of a projected query set, made of items that are cut down to what is asked for. -/
def shaper (set : QuerySet) (paths : List FieldPath) (shape : RowShape) : Shaper :=
  ⟨shape, paths, set.sortOnly paths⟩

/-- **A call that projects does so to the paths of its fields**, and the rows that come of items cut
down to what is asked for are what the call makes of whole items. -/
theorem exists_project {set derived : QuerySet} {change : Change} (projects : change.Projects)
    (identify : set.catalog.AttributesIdentify) (made : set.changed change = .ok derived) :
    ∃ paths shape row, derived = set.project paths shape ∧ change.Cuts set row ∧
      ∀ item, (set.shaper paths shape).row (item.retain (set.fetched paths)) = row item := by
  have value : ∀ {paths : List FieldPath} {path : FieldPath}, path ∈ paths → ∀ item : Item,
      Shaper.valueOrNull (item.retain (set.fetched paths)) path
        = (item.valueAt path).getD .null := by
    intro paths path member item
    rw [Shaper.valueOrNull, valueAt_retain_fetched identify (.inl member)]
  cases makes_of_changed made with
  | @only fields paths known =>
    refine ⟨paths, .entities, _, rfl, .only known, fun item => ?_⟩
    exact congrArg Row.item (retain_fetched_retain set paths item)
  | @values fields paths known =>
    refine ⟨paths, .values, _, rfl, .values known, fun item => ?_⟩
    exact congrArg Row.values (List.map_congr_left fun path member =>
      congrArg (Prod.mk path.text) (value member item))
  | @tuple fields paths known =>
    refine ⟨paths, .tuple, _, rfl, .tuple known, fun item => ?_⟩
    exact congrArg Row.tuple (List.map_congr_left fun path member => value member item)
  | @flat field path known =>
    refine ⟨[path], .flat, _, rfl, .flat known, fun item => ?_⟩
    exact congrArg Row.flat (value List.mem_cons_self item)
  | _ => exact projects.elim

/-! ### Rows -/

section Rows

variable {set : QuerySet} {σ : Type} [Store σ]

theorem fetch_of_unmatched {session : Session σ} (uncached : set.cache = none)
    (unmatched : set.predicate = none) : (set.fetch session).1.1 = .ok [] := by
  have pass : set.iterator = .ok .empty := by rw [iterator, stream, unmatched]
  rw [fetch_of_stream uncached pass]
  rfl

/-- Fetching gives the rows of the walk over all pages, sorted. -/
theorem fetch_of_restriction {session : Session σ} {restriction : Option Restriction}
    (uncached : set.cache = none) (matched : set.predicate ≠ none)
    (asked : set.restriction = .ok restriction) :
    (set.fetch session).1.1 = .ok
      ((sortEntries set.sortKeys
        ((Cursor.start (set.request restriction 0 none set.pageSize)).drain session).1).map
          (·.map set.plan.2.2.row)) := by
  rw [fetch_of_stream uncached (stream_of_restriction matched asked 0 none set.pageSize),
    Stream.collect_ofRequest]

/-- The form of rows changes with a projection only. -/
theorem Reachable.shape_of_whole (reached : Reachable σ set) (whole : set.projection = none) :
    set.shape = .entities := by
  induction reached with
  | folders => rfl
  | @change set after change _ made ih =>
    cases makes_of_changed made with
    | only | values | tuple | flat => cases whole
    | _ => exact ih whole
  | @run set call session reached ih =>
    rcases reached.valid.run call session with ⟨-, leaves⟩ | ⟨error, refused⟩
    · generalize (set.run call session).1.2 = after at leaves whole ⊢
      cases leaves <;> exact ih whole
    · rw [run_of_refuses refused] at whole ⊢
      exact ih whole

end Rows

/-- A store in memory cuts items down to the fields that a projected query set asks for. -/
theorem shape_project (set : QuerySet) (paths : List FieldPath) (shape : RowShape)
    (request : Request) :
    Memory.shape (request.asking .idOnly (set.project paths shape).plan.2.1)
      = fun item => item.retain (set.fetched paths) := by
  have listed : ∀ asked : List FieldPath,
      (if asked.isEmpty then none else some asked).getD [] = asked := by
    intro asked
    cases asked <;> rfl
  funext item
  show item.retain (fun name => (Option.getD (if List.isEmpty _ then none else some _) []).any _) = _
  rw [listed]
  rfl

/-- **The entries of a query set**, over a store in memory: its rows are these as whole items, and
those of every projection are these, cut down to what is asked for. -/
theorem exists_entries {set : QuerySet} (valid : set.Valid) (whole : set.projection = none)
    (entities : set.shape = .entities) (identify : set.catalog.AttributesIdentify)
    (session : Session Memory) :
    ∃ entries : List (Entry Item),
      (set.all.fetch session).1.1 = .ok (entries.map (·.map .item)) ∧
      ∀ (paths : List FieldPath) (shape : RowShape) (later : Session Memory),
        later.store = session.store → ((set.project paths shape).fetch later).1.1
          = .ok (entries.map (·.map fun item =>
              (set.shaper paths shape).row (item.retain (set.fetched paths)))) := by
  by_cases unmatched : set.predicate = none
  · exact ⟨[], fetch_of_unmatched rfl unmatched, fun _ _ _ _ => fetch_of_unmatched rfl unmatched⟩
  · obtain ⟨restriction, asked⟩ := valid.exists_restriction
    have unprojected : set.all.projection = none := whole
    have planned := plan_of_whole unprojected entities
    let request := set.all.request restriction 0 none set.pageSize
    have everything : request.properties ≠ .idOnly := by
      show set.all.plan.1 ≠ _
      rw [planned]
      exact PropertySet.noConfusion
    have matched : set.all.predicate ≠ none := unmatched
    refine ⟨sortEntries set.sortKeys ((Cursor.start request).drain session).1, ?_,
      fun paths shape later same => ?_⟩
    · rw [fetch_of_restriction set.all_cache matched asked, planned, funext Shaper.row_whole]
      rfl
    · have uncached : (set.project paths shape).cache = none := rfl
      have asking : (set.project paths shape).request restriction 0 none set.pageSize
          = request.asking .idOnly (set.project paths shape).plan.2.1 := rfl
      have walks : ((Cursor.start (request.asking .idOnly (set.project paths shape).plan.2.1)).drain
            later).1
          = ((Cursor.start request).drain session).1.map
            (·.map fun item => item.retain (set.fetched paths)) := by
        rw [← shape_project set paths shape request]
        exact Cursor.drain_asking _ _ (Cursor.start request) everything same
      have kept : ∀ key ∈ set.sortKeys, ∀ item : Item,
          (item.retain (set.fetched paths)).valueAt key.path = item.valueAt key.path :=
        fun key member =>
          valueAt_retain_fetched identify (.inr (List.mem_map.mpr ⟨key, member, rfl⟩))
      rw [fetch_of_restriction uncached matched asked]
      show Except.ok ((sortEntries set.sortKeys ((Cursor.start ((set.project paths shape).request
        restriction 0 none set.pageSize)).drain later).1).map _) = _
      rw [asking, walks, sortEntries_map kept, List.map_map]
      refine congrArg Except.ok (List.map_congr_left fun entry _ => ?_)
      cases entry <;> rfl

/-- **Projection is faithful.** Over a store in memory, with failures of items and pages as they
come, a query set without a projection has entries, which are its rows as whole items. Any call for
some of their fields makes a query set whose rows are these entries, one by one and in this order:
failures as they are, and of each item what the call makes of it. Rows that the query set keeps from
before are not looked at. -/
theorem projection_faithful {set : QuerySet} (reached : Reachable Memory set)
    (whole : set.projection = none) (identify : set.catalog.AttributesIdentify)
    (session : Session Memory) :
    ∃ entries : List (Entry Item),
      (set.all.fetch session).1.1 = .ok (entries.map (·.map .item)) ∧
      (set.fetch session).1.1 = .ok (set.cache.getD (entries.map (·.map .item))) ∧
      ∀ (change : Change) (derived : QuerySet), change.Projects →
        set.changed change = .ok derived → ∃ row, change.Cuts set row ∧
          ∀ later : Session Memory, later.store = session.store →
            (derived.fetch later).1.1 = .ok (entries.map (·.map row)) := by
  obtain ⟨entries, fetched, projected⟩ :=
    exists_entries reached.valid whole (reached.shape_of_whole whole) identify session
  refine ⟨entries, fetched, ?_, fun change derived projects made => ?_⟩
  · cases cached : set.cache with
    | some rows =>
      rw [fetch_of_cached cached]
      rfl
    | none =>
      have same : set.all = set := by rw [all, ← cached]
      rw [same] at fetched
      exact fetched
  · obtain ⟨paths, shape, row, rfl, cuts, rows⟩ := exists_project projects identify made
    refine ⟨row, cuts, fun later same => ?_⟩
    rw [projected paths shape later same, funext rows]

/-- Items from the largest down, with a failure behind them, and their subjects in the same order:
the size is fetched for that and shows in no row, nor does the sender. -/
theorem projection_faithful_largestFirst :
    let small : Item :=
      ⟨⟨"a", none⟩, [("sender", .text "Ada"), ("size", .int 1), ("subject", .text "few")]⟩
    let large : Item := ⟨⟨"b", none⟩, [("size", .int 9), ("subject", .text "many")]⟩
    let session : Session Memory :=
      ⟨⟨[.ok small, .error (.itemNotFound "c"), .ok large], none⟩, []⟩
    ∃ set valued trimmed, (ofFolders Catalog.standard []).orderBy ["-size"] = .ok set ∧
      set.values ["subject"] = .ok valued ∧ set.only ["subject"] = .ok trimmed ∧
      (set.fetch session).1.1
        = .ok [.ok (.item large), .ok (.item small), .error (.itemNotFound "c")] ∧
      (valued.fetch session).1.1
        = .ok [.ok (.values [("subject", .text "many")]), .ok (.values [("subject", .text "few")]),
            .error (.itemNotFound "c")] ∧
      (trimmed.fetch session).1.1
        = .ok [.ok (.item ⟨⟨"b", none⟩, [("subject", .text "many")]⟩),
            .ok (.item ⟨⟨"a", none⟩, [("subject", .text "few")]⟩), .error (.itemNotFound "c")] := by
  intro small large session
  have keys : ["-size"].mapM (SortKey.ofText Catalog.standard)
      = .ok [⟨.ofField "size", true⟩] := eq_ok_of_toOption (by decide +kernel)
  have paths : ["subject"].mapM (FieldPath.ofText Catalog.standard) = .ok [.ofField "subject"] :=
    eq_ok_of_toOption (by decide +kernel)
  let set : QuerySet :=
    { ofFolders Catalog.standard [] with ordering := [⟨.ofField "size", true⟩] }
  have ordered : (ofFolders Catalog.standard []).orderBy ["-size"] = .ok set :=
    bind_eq_ok_iff.mpr ⟨_, keys, rfl⟩
  have valued : set.values ["subject"] = .ok (set.project [.ofField "subject"] .values) :=
    bind_eq_ok_iff.mpr ⟨_, paths, rfl⟩
  have trimmed : set.only ["subject"] = .ok (set.project [.ofField "subject"] .entities) :=
    bind_eq_ok_iff.mpr ⟨_, paths, rfl⟩
  have reached : Reachable Memory set := .change (.orderBy _) (.folders Catalog.standard []) ordered
  have identify : set.catalog.AttributesIdentify := by
    show ∀ field ∈ Catalog.standard.fields, _
    decide +kernel
  obtain ⟨entries, fetched, -, derives⟩ := projection_faithful reached rfl identify session
  have asked : set.restriction = .ok none := rfl
  have steady : session.store.pageFailure = none := rfl
  let inOrder : List (Entry Item) := [.ok large, .ok small, .error (.itemNotFound "c")]
  have sorted : set.sortedRows session.store none = inOrder.map (·.map .item) := rfl
  have whole : (set.fetch session).1.1 = .ok (set.sortedRows session.store none) :=
    congrArg Prod.fst (fetch_memory rfl (Option.some_ne_none _) asked steady (by decide)
      (by decide : 1 ≤ 100)).1
  have apart : Function.Injective fun entry : Entry Item => entry.map Row.item := by
    rintro (error | item) (other | other) same <;> cases same <;> rfl
  have same : entries = inOrder := by
    refine List.map_injective_iff.mpr apart (Except.ok.inj (fetched.symm.trans ?_))
    rw [← sorted]
    exact whole
  refine ⟨set, _, _, ordered, valued, trimmed, whole.trans (congrArg Except.ok sorted), ?_, ?_⟩
  · obtain ⟨row, cuts, rows⟩ := derives (.values ["subject"]) _ trivial valued
    rw [rows session rfl, same]
    cases cuts with
    | values known =>
      cases known.symm.trans paths
      rfl
  · obtain ⟨row, cuts, rows⟩ := derives (.only ["subject"]) _ trivial trimmed
    rw [rows session rfl, same]
    cases cuts with
    | only known =>
      cases known.symm.trans paths
      have plain : (set.catalog.get? "subject").all (fun known => !known.isAttribute) = true := by
        decide +kernel
      simp [inOrder, large, small, cutTo, FieldPath.ofField, plain, Except.map]

end QuerySet

end Sift
