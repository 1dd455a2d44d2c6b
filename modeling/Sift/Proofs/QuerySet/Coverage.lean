/-
**Which values to sort by are fetched.**

A request names the paths that it asks for, and a store may give no more than that: of a field no
entry but the one with a certain label, of a record no more than a sub-field. So the values under a
path to sort by come with certainty only if a path of the request covers it. An attribute comes
anyway.

A query set adds the paths to sort by to those of its projection, but not where a path of the
projection has the same field. There it relies on that path, which may ask for another entry.

* `FieldPath.Covers`, `Item.part` — what is asked for with a path, and what is left of an item for
  which nothing else is asked.
* `Item.valueAt_part` — what is left has the values under the paths that are covered.
* `QuerySet.supplies_iff` — which paths to sort by a request covers.
* `QuerySet.sort_paths_fetched` — that of all requests, and that sorting needs no more.
* `QuerySet.sort_path_not_fetched` — entries that are sorted by what was not asked for.
-/

import Sift.Proofs.QuerySet.Cache
import Sift.Proofs.QuerySet.Projection
import Sift.Proofs.QuerySet.Searches

namespace Sift

/-- **Whether a path covers another one**: it is that path, or one that the other extends. -/
structure FieldPath.Covers (path other : FieldPath) : Prop where
  field : path.field = other.field
  label : ∀ label, path.label = some label → other.label = some label
  subfield : ∀ name, path.subfield = some name → other.subfield = some name

theorem FieldPath.Covers.refl (path : FieldPath) : path.Covers path :=
  ⟨rfl, fun _ => id, fun _ => id⟩

/-! ### What is asked for -/

namespace Value

/-- What some paths into an entry ask for of its value. -/
def entryPart (paths : List FieldPath) (value : Value) : Value :=
  if paths.any fun path => path.subfield.isNone then value
  else
    match value with
    | .record fields =>
      .record (Named.keep (fun name => paths.any fun path => path.subfield == some name) fields)
    | _ => .null

/-- What some paths into a field ask for of one of its entries, if they name its label. -/
def labeledPart? (paths : List FieldPath) : Value → Option Value
  | .labeled label value =>
    let named := paths.filter fun path => path.label == some label
    if named.isEmpty then none else some (.labeled label (value.entryPart named))
  | _ => none

/-- What some paths into a field ask for of its value. -/
def fieldPart (paths : List FieldPath) (value : Value) : Value :=
  if paths.any fun path => path.label.isNone then value
  else
    match value with
    | .list entries => .list (entries.filterMap (labeledPart? paths))
    | entry => (entry.labeledPart? paths).getD .null

theorem entryPart_of_whole {paths : List FieldPath}
    (whole : paths.any fun path => path.subfield.isNone) (value : Value) :
    value.entryPart paths = value := by
  unfold entryPart
  rw [if_pos whole]

theorem fieldPart_of_whole {paths : List FieldPath}
    (whole : paths.any fun path => path.label.isNone) (value : Value) :
    value.fieldPart paths = value := by
  unfold fieldPart
  rw [if_pos whole]

end Value

/-- **What some paths ask for of an item**, apart from its identity. -/
def Item.part (paths : List FieldPath) (item : Item) : Item :=
  let asked := item.retain fun name => paths.any fun path => path.field == name
  { asked with fields := asked.fields.map fun entry =>
      (entry.1, entry.2.fieldPart (paths.filter fun path => path.field == entry.1)) }

/-! ### The values under covered paths -/

section Parts

variable {paths : List FieldPath} {path asked : FieldPath} {label name : String}

/-- A sub-field that is asked for is left, whether by its name or with all others. -/
theorem Item.subfield?_entryPart (member : asked ∈ paths)
    (covers : ∀ other, asked.subfield = some other → other = name) (value : Value) :
    Item.subfield? name (value.entryPart paths) = Item.subfield? name value := by
  by_cases whole : paths.any fun path => path.subfield.isNone
  · rw [Value.entryPart_of_whole whole]
  · unfold Value.entryPart
    rw [if_neg whole]
    cases value with
    | record fields =>
      refine Named.find?_keep ?_ fields
      cases known : asked.subfield with
      | none => exact absurd (List.any_eq_true.mpr ⟨asked, member, by rw [known]; rfl⟩) whole
      | some other =>
        refine List.any_eq_true.mpr ⟨asked, member, ?_⟩
        rw [known, covers other known]
        exact beq_self_eq_true _
    | _ => rfl

/-- Of the entries with labels, the first one with a label that is asked for stays the first. -/
theorem Item.firstLabeled_filterMap (member : asked ∈ paths) (named : asked.label = some label)
    (entries : List Value) :
    Item.firstLabeled label (entries.filterMap (Value.labeledPart? paths))
      = (Item.firstLabeled label entries).map
          (Value.entryPart (paths.filter fun path => path.label == some label)) := by
  have some : (paths.filter fun path => path.label == some label).isEmpty = false := by
    refine List.isEmpty_eq_false_iff_exists_mem.mpr ⟨asked, List.mem_filter.mpr ⟨member, ?_⟩⟩
    rw [named]
    exact beq_self_eq_true _
  fun_induction Item.firstLabeled label entries with
  | case1 => rfl
  | case2 value rest =>
    simp [Value.labeledPart?, some, Item.firstLabeled]
  | case3 other value rest differ ih =>
    by_cases dropped : (paths.filter fun path => path.label == .some other).isEmpty = true
    · simpa [Value.labeledPart?, dropped] using ih
    · simpa [Value.labeledPart?, dropped, Item.firstLabeled, differ] using ih
  | case4 entry rest unlabeled ih =>
    cases entry with
    | labeled other value => exact absurd rfl (unlabeled other value)
    | _ => exact ih

/-- The entry with a label that is asked for is left, with what is asked for of its value. -/
theorem Item.entry?_fieldPart (notWhole : ¬paths.any fun path => path.label.isNone)
    (member : asked ∈ paths) (named : asked.label = some label) (value : Value) :
    Item.entry? label (value.fieldPart paths)
      = (Item.entry? label value).map
          (Value.entryPart (paths.filter fun path => path.label == some label)) := by
  unfold Value.fieldPart
  rw [if_neg notWhole]
  cases value with
  | list entries => exact firstLabeled_filterMap member named entries
  | labeled other value =>
    have single := firstLabeled_filterMap member named [.labeled other value]
    cases part : (Value.labeled other value).labeledPart? paths with
    | none => simpa [part, firstLabeled, entry?] using single
    | some left =>
      obtain ⟨-, same⟩ : _ ∧ _ = left := by
        simpa [Value.labeledPart?] using part
      subst same
      simpa [part, firstLabeled, entry?] using single
  | _ => rfl

/-- The value that a path leads to, within the value of its field. -/
def Item.within (path : FieldPath) (value : Value) : Option Value :=
  match path.label with
  | none => some value
  | some label => do
    let entry ← entry? label value
    match path.subfield with
    | none => some entry
    | some name => subfield? name entry

/-- What is left of the value of a field has the values under the paths that are covered. -/
theorem Item.within_fieldPart (member : asked ∈ paths) (covers : asked.Covers path)
    (value : Value) : within path (value.fieldPart paths) = within path value := by
  by_cases whole : paths.any fun path => path.label.isNone
  · rw [Value.fieldPart_of_whole whole]
  cases named : asked.label with
  | none => exact absurd (List.any_eq_true.mpr ⟨asked, member, by rw [named]; rfl⟩) whole
  | some label =>
    have inNamed : asked ∈ paths.filter fun path => path.label == some label :=
      List.mem_filter.mpr ⟨member, beq_iff_eq.mpr named⟩
    unfold within
    rw [covers.label label named]
    simp only [entry?_fieldPart whole member named]
    cases entry? label value with
    | none => rfl
    | some entry =>
      show (match path.subfield with | none => _ | some name => _)
        = match path.subfield with | none => _ | some name => _
      cases narrowed : path.subfield with
      | none =>
        -- Then no sub-field is named by the path that covers this one either.
        cases inner : asked.subfield with
        | none =>
          have all : (paths.filter fun path => path.label == some label).any
              fun path => path.subfield.isNone :=
            List.any_eq_true.mpr ⟨asked, inNamed, by rw [inner]; rfl⟩
          rw [Value.entryPart_of_whole all]
        | some name => cases narrowed.symm.trans (covers.subfield name inner)
      | some name =>
        refine subfield?_entryPart inNamed (fun other known => ?_) entry
        exact Option.some.inj ((covers.subfield other known).symm.trans narrowed)

theorem Named.find?_map {α β : Type} (f : String → α → β) (name : String) (named : Named α) :
    find? name (named.map fun entry => (entry.1, f entry.1 entry.2))
      = (find? name named).map (f name) := by
  induction named with
  | nil => rfl
  | cons entry rest ih =>
    obtain ⟨key, value⟩ := entry
    rw [List.map_cons, find?, find?, ih]
    by_cases same : key = name
    · rw [if_pos same, if_pos same, same]
      rfl
    · rw [if_neg same, if_neg same]

/-- **What is left of an item has the values under the paths that are covered.** -/
theorem Item.valueAt_part (member : asked ∈ paths) (covers : asked.Covers path) (item : Item) :
    (item.part paths).valueAt path = item.valueAt path := by
  unfold valueAt
  by_cases id : path.field = "item_id"
  · rw [if_pos id, if_pos id]
    rfl
  by_cases key : path.field = "changekey"
  · rw [if_neg id, if_neg id, if_pos key, if_pos key]
    rfl
  rw [if_neg id, if_neg id, if_neg key, if_neg key]
  let into := paths.filter fun other => other.field == path.field
  have inInto : asked ∈ into := List.mem_filter.mpr ⟨member, beq_iff_eq.mpr covers.field⟩
  have found : Named.find? path.field (item.part paths).fields
      = (Named.find? path.field item.fields).map (Value.fieldPart into) := by
    have passes : paths.any (fun other => other.field == path.field) = true :=
      List.any_eq_true.mpr ⟨asked, member, beq_iff_eq.mpr covers.field⟩
    have kept : Named.find? path.field
        (Named.keep (fun name => paths.any fun other => other.field == name) item.fields)
          = Named.find? path.field item.fields :=
      Named.find?_keep passes item.fields
    rw [← kept]
    exact Named.find?_map (fun name value =>
      Value.fieldPart (paths.filter fun other => other.field == name) value) _ _
  show (Named.find? path.field (item.part paths).fields).bind (within path)
    = (Named.find? path.field item.fields).bind (within path)
  rw [found]
  cases Named.find? path.field item.fields with
  | none => rfl
  | some value => exact within_fieldPart inInto covers value

end Parts

namespace QuerySet

/-! ### What is sent -/

/-- **Whether the items that a request brings have the values under a path**: those of attributes
come anyway, and others do if a path that is asked for covers theirs. -/
def Supplies (set : QuerySet) (request : Request) (path : FieldPath) : Prop :=
  set.isAttribute path = true ∨ ∃ asked ∈ request.projection.getD [], asked.Covers path

/-- **Whether a projection leads to the values under a path to sort by**: they are those of an
attribute, or a path of the projection covers theirs, or none has the same field, so that the path
is added to the projection. -/
inductive LeadsTo (set : QuerySet) (fields : List FieldPath) (path : FieldPath) : Prop
  | unasked (found : set.isAttribute path = true)
  | covered {projected : FieldPath} (member : projected ∈ fields) (covers : projected.Covers path)
  | added (apart : ∀ projected ∈ fields, projected.field ≠ path.field)

variable {set : QuerySet} {fields : List FieldPath}

/-- The paths that are sent: those of the projection but for attributes, and those to sort by that
have none of its fields. -/
theorem mem_projection_iff (projected : set.projection = some fields)
    (restriction : Option Restriction) (offset : Nat) (maxItems : Option Nat) (pageSize : Nat)
    {path : FieldPath} :
    path ∈ (set.request restriction offset maxItems pageSize).projection.getD [] ↔
      (path ∈ fields ∧ set.isAttribute path = false) ∨ path ∈ set.extraSortPaths fields := by
  have sent : (set.request restriction offset maxItems pageSize).projection.getD []
      = fields.filter (fun path => !set.isAttribute path)
        ++ distinct (set.extraSortPaths fields) := by
    show set.plan.2.1.getD [] = _
    rw [plan, projected]
    dsimp only
    split
    · rename_i nothing
      exact (List.isEmpty_iff.mp nothing).symm
    · rfl
  simp [sent, mem_distinct]

/-- **A request supplies the values to sort by exactly where the projection leads to them.** -/
theorem supplies_iff (projected : set.projection = some fields)
    (restriction : Option Restriction) (offset : Nat) (maxItems : Option Nat) (pageSize : Nat)
    {key : SortKey} (sorting : key ∈ set.sortKeys) :
    set.Supplies (set.request restriction offset maxItems pageSize) key.path ↔
      set.LeadsTo fields key.path := by
  unfold Supplies
  simp only [mem_projection_iff projected]
  by_cases found : set.isAttribute key.path = true
  · exact iff_of_true (.inl found) (.unasked found)
  have plain : set.isAttribute key.path = false := Bool.eq_false_iff.mpr found
  constructor
  · rintro (found | ⟨asked, ⟨member, -⟩ | extra, covers⟩)
    · exact absurd found (Bool.eq_false_iff.mp plain)
    · exact .covered member covers
    · -- What is added has none of the fields of the projection, and covers paths of its field only.
      refine .added fun projected member => ?_
      rw [← covers.field]
      exact (mem_extraSortPaths_iff.mp extra).2.2 projected member
  · rintro (found | @⟨asked, member, covers⟩ | apart)
    · exact .inl found
    · -- Attributes are told by the field alone, so the path that covers this one is sent.
      refine .inr ⟨asked, .inl ⟨member, ?_⟩, covers⟩
      rw [isAttribute, covers.field]
      exact plain
    · refine .inr ⟨key.path, .inr ?_, .refl _⟩
      exact mem_extraSortPaths_iff.mpr ⟨List.mem_map_of_mem sorting, plain, apart⟩

/-- Where attributes are what identifies an item, what is left of an item has the values that a
request supplies. -/
theorem Supplies.valueAt_part (identify : set.catalog.AttributesIdentify) {request : Request}
    {path : FieldPath} (supplies : set.Supplies request path) (item : Item) :
    (item.part (request.projection.getD [])).valueAt path = item.valueAt path := by
  rcases supplies with found | ⟨asked, member, covers⟩
  · unfold Item.valueAt
    rcases field_of_isAttribute identify found with id | key
    · simp [id, Item.part, Item.retain]
    · simp [key, Item.part, Item.retain]
  · exact Item.valueAt_part member covers item

/-- Whether a request supplies the values to sort by where the projection leads to them, and no
others. -/
def FetchesKeys (set : QuerySet) (fields : List FieldPath) (request : Request) : Prop :=
  ∀ key ∈ set.sortKeys, set.Supplies request key.path ↔ set.LeadsTo fields key.path

theorem FetchesKeys.moved (request : Request) (offset : Nat) (maxItems : Option Nat)
    (fetches : set.FetchesKeys fields request) :
    set.FetchesKeys fields { request with offset, maxItems } :=
  fetches

theorem searches_fetchesKeys (projected : set.projection = some fields) :
    set.Searches (set.FetchesKeys fields) :=
  fun restriction offset maxItems pageSize _ _ sorting =>
    supplies_iff projected restriction offset maxItems pageSize sorting

/-- **The values to sort by are fetched where the projection leads to them.** Let a query set have a
projection. Every request that a call sends for rows, and every one that a pass over the result
sends, supplies the values under a path to sort by if the path is that of an attribute, if a path of
the projection covers it, or if none has the same field, and otherwise not. So a query set that has
anything to ask for sends requests that supply all of these values exactly if its projection leads
to all of them. Then sorting needs no more: over a store that keeps nothing of the items but what
was supplied, they come in the order of the whole items. -/
theorem sort_paths_fetched {σ : Type} [Store σ] (projected : set.projection = some fields) :
    (∀ call, call ≠ .delete →
      Sends (set.FetchesKeys fields) (set.answer call : Query σ (Answer Reply))) ∧
    (∀ stream, set.iterator = .ok stream → ∀ (count : Nat) (session : Session σ),
      session.Adds (set.FetchesKeys fields) (stream.after count session).2 ∧
        Sends (set.FetchesKeys fields)
          ((stream.after count session).1.collect : Query σ (List (Entry Row)))) ∧
    (∀ restriction, set.cache = none → set.predicate ≠ none → set.restriction = .ok restriction →
      ∀ store : σ, (∀ request ∈ (set.fetch ⟨store, []⟩).2.requests, ∀ key ∈ set.sortKeys,
          set.Supplies request key.path) ↔ ∀ key ∈ set.sortKeys, set.LeadsTo fields key.path) ∧
    ∀ request, (∀ key ∈ set.sortKeys, set.Supplies request key.path) → ∀ cut : Item → Item,
      (∀ path, set.Supplies request path →
        ∀ item, (cut item).valueAt path = item.valueAt path) → ∀ entries,
      sortEntries set.sortKeys (entries.map (·.map cut))
        = (sortEntries set.sortKeys entries).map (·.map cut) := by
  have searches := searches_fetchesKeys projected
  refine ⟨fun call rows => ?_, fun stream made count session => ?_,
    fun restriction uncached matched asked store => ⟨fun supplied key sorting => ?_,
      fun leads request sent key sorting => ?_⟩, fun request supplied cut kept => ?_⟩
  · exact searches.sends_answer FetchesKeys.moved call fun removal => absurd removal rows
  · have asking := asking_of_request (fun restriction => searches restriction 0 none _ id) made
    obtain ⟨still, adds⟩ := asking.after FetchesKeys.moved count session
    exact ⟨adds, still.sends_collect FetchesKeys.moved⟩
  · refine (supplies_iff projected restriction 0 none set.pageSize sorting).mp
      (supplied _ ?_ key sorting)
    rw [fetch_eq_pass uncached matched asked]
    exact Cursor.mem_requests_drain (Option.some_ne_none 0).symm _
  · obtain ⟨asked, given, each⟩ := searches.sends_fetch FetchesKeys.moved ⟨store, []⟩
    rw [given] at sent
    exact (each request sent key sorting).mpr (leads key sorting)
  · exact sortEntries_map fun key sorting => kept key.path (supplied key sorting)

/-- Items with all their addresses, sorted by the second one, by their sizes and by what identifies
them. The addresses are asked for as a whole, the sizes are added, and what identifies an item comes
anyway. So it makes no difference what else an item has. -/
theorem sort_paths_fetched_addresses :
    let keys : List SortKey := [⟨⟨"email_addresses", some "EmailAddress2", none⟩, false⟩,
      ⟨.ofField "size", true⟩, ⟨.ofField "item_id", false⟩]
    let asked : List FieldPath := [.ofField "email_addresses", .ofField "size"]
    ∃ shown set, (ofFolders Catalog.standard []).only ["email_addresses"] = .ok shown ∧
      shown.orderBy ["email_addresses__EmailAddress2", "-size", "item_id"] = .ok set ∧
      set.projection = some [.ofField "email_addresses"] ∧ set.sortKeys = keys ∧
      (set.request none 0 none 100).projection = some asked ∧
      (∀ store : Memory, ∀ request ∈ (set.fetch ⟨store, []⟩).2.requests, ∀ key ∈ keys,
        set.Supplies request key.path) ∧
      ∀ entries : List (Entry Item), sortEntries keys (entries.map (·.map (Item.part asked)))
        = (sortEntries keys entries).map (·.map (Item.part asked)) := by
  rw [Catalog.standard_eq]
  intro keys asked
  let catalog : Catalog := ⟨"Item", Catalog.standardFields⟩
  have paths : ["email_addresses"].mapM (FieldPath.ofText catalog)
      = .ok [.ofField "email_addresses"] := eq_ok_of_toOption (by decide +kernel)
  have sorting : ["email_addresses__EmailAddress2", "-size", "item_id"].mapM
      (SortKey.ofText catalog) = .ok keys := eq_ok_of_toOption (by decide +kernel)
  let shown := (ofFolders catalog []).project [.ofField "email_addresses"] .entities
  let set : QuerySet := { shown with ordering := keys }
  have identify : set.catalog.AttributesIdentify := by
    show ∀ field ∈ Catalog.standardFields, _
    decide +kernel
  have leads : ∀ key ∈ set.sortKeys, set.LeadsTo [.ofField "email_addresses"] key.path := by
    intro key member
    have member : key ∈ keys := member
    simp only [keys, List.mem_cons, List.not_mem_nil, or_false] at member
    rcases member with rfl | rfl | rfl
    · exact .covered List.mem_cons_self ⟨rfl, nofun, nofun⟩
    · exact .added (by decide)
    · exact .unasked (by decide +kernel)
  have projected : set.projection = some [.ofField "email_addresses"] := rfl
  obtain ⟨-, -, supplies, sorts⟩ := sort_paths_fetched (σ := Memory) projected
  refine ⟨shown, set, bind_eq_ok_iff.mpr ⟨_, paths, rfl⟩, bind_eq_ok_iff.mpr ⟨_, sorting, rfl⟩,
    projected, rfl, by decide +kernel, fun store => ?_,
    sorts (set.request none 0 none 100) (fun key member => ?_) _ fun path supplied => ?_⟩
  · exact (supplies none rfl (Option.some_ne_none _) rfl store).mpr leads
  · exact (supplies_iff projected none 0 none 100 member).mpr (leads key member)
  · exact supplied.valueAt_part identify

/-- **Entries are sorted by what was not asked for.** Of the addresses only the first is projected,
and the order is that of the second ones. The path of the second has the field of the first and is
not added, so that the request does not cover it. A store that returns no more than what is asked
for brings nothing to sort by, and the items stay as they came, though the second addresses stand
the other way round. -/
theorem sort_path_not_fetched :
    let first : FieldPath := ⟨"email_addresses", some "EmailAddress1", none⟩
    let second : FieldPath := ⟨"email_addresses", some "EmailAddress2", none⟩
    let item (id one other : String) : Item := ⟨⟨id, none⟩, [("email_addresses",
      .list [.labeled "EmailAddress1" (.text one), .labeled "EmailAddress2" (.text other)])]⟩
    let entries : List (Entry Item) := [.ok (item "a" "x" "z"), .ok (item "b" "x" "y")]
    let session : Session Memory := ⟨⟨entries, none⟩, []⟩
    ∃ shown set,
      (ofFolders Catalog.standard []).only ["email_addresses__EmailAddress1"] = .ok shown ∧
      shown.orderBy ["email_addresses__EmailAddress2"] = .ok set ∧
      set.sortKeys = [⟨second, false⟩] ∧
      set.request none 0 none 100 ∈ (set.fetch session).2.requests ∧
      (set.request none 0 none 100).projection = some [first] ∧
      ¬set.Supplies (set.request none 0 none 100) second ∧
      sortEntries set.sortKeys entries = [.ok (item "b" "x" "y"), .ok (item "a" "x" "z")] ∧
      sortEntries set.sortKeys (entries.map (·.map (Item.part [first])))
        = entries.map (·.map (Item.part [first])) := by
  rw [Catalog.standard_eq]
  intro first second item entries session
  let catalog : Catalog := ⟨"Item", Catalog.standardFields⟩
  have paths : ["email_addresses__EmailAddress1"].mapM (FieldPath.ofText catalog)
      = .ok [first] := eq_ok_of_toOption (by decide +kernel)
  have sorting : ["email_addresses__EmailAddress2"].mapM (SortKey.ofText catalog)
      = .ok [⟨second, false⟩] := eq_ok_of_toOption (by decide +kernel)
  let shown := (ofFolders catalog []).project [first] .entities
  let set : QuerySet := { shown with ordering := [⟨second, false⟩] }
  have sent : (set.request none 0 none 100).projection = some [first] := by decide +kernel
  refine ⟨shown, set, bind_eq_ok_iff.mpr ⟨_, paths, rfl⟩, bind_eq_ok_iff.mpr ⟨_, sorting, rfl⟩, rfl,
    ?_, sent, ?_, rfl, rfl⟩
  · have asked : set.restriction = .ok none := rfl
    rw [fetch_eq_pass rfl (Option.some_ne_none _) asked]
    exact Cursor.mem_requests_drain (Option.some_ne_none 0).symm _
  · rintro (found | ⟨asked, member, covers⟩)
    · exact absurd found (by decide +kernel)
    · rw [sent] at member
      cases List.mem_singleton.mp member
      exact absurd (covers.label "EmailAddress1" rfl) (by decide)

end QuerySet

end Sift
