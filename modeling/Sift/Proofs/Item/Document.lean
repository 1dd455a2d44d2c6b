/-
**Items are read back from their documents.**

The identity of an item stands beside its fields in one object. It cannot be confused with them, as
the fields are an object of their own, whatever their names are.

* `Item.IsStorable` — an item with fields that are read back, under names in order.
* `Item.ofJson?_toJson` — it is read back from its document.
* `Item.listOfText?_text` — many are, from the text of an array of their documents.
* `Item.documents_readBack` — values, items and stores of items are read back from what is written of
  them.
-/

import Sift.Proofs.Value.Document
import Sift.Store.Memory

namespace Sift

namespace Item

/-- Whether the fields of an item are values that are read back, under names in order. -/
structure IsStorable (item : Item) : Prop where
  sorted : Named.Sorted item.fields
  values : Value.AreStorableFields item.fields

theorem identityOfMembers?_toJson (id : ItemId) (fields : Json) :
    identityOfMembers? (identityMembers id.id id.changeKey ++ [("fields", fields)]) =
      some (id.id, id.changeKey) := by
  obtain ⟨id, _ | key⟩ := id <;>
    simp [identityOfMembers?, identityMembers, Value.textUnder?, Json.only?, Json.valuesOf,
      Json.string?, optionalText?]

/-- The members beside the fields are texts, and the fields stand once. -/
theorem members_toJson (id : ItemId) (fields : Json) :
    Json.areReadableMembers ((identityMembers id.id id.changeKey ++ [("fields", fields)]).filter
      fun member => member.1 != "fields") = true ∧
    Json.only? "fields" (identityMembers id.id id.changeKey ++ [("fields", fields)]) =
      some (some fields) := by
  obtain ⟨id, _ | key⟩ := id <;>
    simp [identityMembers, Json.areReadableMembers, Json.isReadable, Json.only?, Json.valuesOf]

/-- **An item is read back from its document.** -/
theorem ofJson?_toJson {item : Item} (storable : item.IsStorable) :
    ofJson? item.toJson = some item := by
  have named : Named.ofList item.fields = item.fields := Named.ofList_of_sorted storable.sorted
  have read : Value.ofFields? (Value.toJsonFields item.fields) = some item.fields :=
    Value.readFields?_toJsonFields storable.values
  obtain ⟨others, fields⟩ := members_toJson item.id (.object (Value.toJsonFields item.fields))
  simp only [ofJson?, toJson, Json.members?, Option.bind_eq_bind, Option.bind_some, others, fields,
    identityOfMembers?_toJson, read, named]
  rfl

/-- The document of an item has nothing but what is read back from text. -/
theorem isPlain_toJson (item : Item) : item.toJson.isPlain = true := by
  have fields := Value.arePlainMembers_toJsonFields item.fields
  obtain ⟨⟨id, _ | key⟩, fields⟩ := item <;>
    simpa [toJson, identityMembers, Json.isPlain, Json.arePlainMembers] using fields

theorem isPlain_array (items : List Item) : (Json.array (items.map toJson)).isPlain = true := by
  rw [Json.isPlain]
  induction items with
  | nil => rfl
  | cons item items ih => rw [List.map_cons, Json.arePlain, isPlain_toJson, ih, Bool.and_self]

theorem mapM_ofJson?_toJson {items : List Item} (storable : ∀ item ∈ items, item.IsStorable) :
    (items.map toJson).mapM ofJson? = some items := by
  induction items with
  | nil => rfl
  | cons item items ih =>
    have first := ofJson?_toJson (storable item List.mem_cons_self)
    have others := ih fun other member => storable other (List.mem_cons_of_mem item member)
    rw [List.map_cons, List.mapM_cons, first, others]
    rfl

/-- **Items are read back from the text of an array of their documents**, in order. -/
theorem listOfText?_text {items : List Item} (storable : ∀ item ∈ items, item.IsStorable)
    (shallow : (Json.array (items.map toJson)).nesting < Json.depthLimit) :
    listOfText? (Json.array (items.map toJson)).text = some items := by
  rw [listOfText?, Json.parse?_text (isPlain_array items) shallow]
  exact mapM_ofJson?_toJson storable

/-- **Values, items and stores of items are read back from what is written of them**: as documents
however deeply they nest, and as texts if they nest less deeply than documents may. -/
theorem documents_readBack :
    (∀ value : Value, value.IsStorable →
      Value.ofJson? value.toJson = some value ∧
      (value.toJson.nesting < Json.depthLimit →
        (Json.parse? value.toJson.text).bind Value.ofJson? = some value)) ∧
    (∀ item : Item, item.IsStorable →
      ofJson? item.toJson = some item ∧
      (item.toJson.nesting < Json.depthLimit →
        (Json.parse? item.toJson.text).bind ofJson? = some item)) ∧
    ∀ items : List Item, (∀ item ∈ items, item.IsStorable) →
      (Json.array (items.map toJson)).nesting < Json.depthLimit →
      Memory.ofText? (Json.array (items.map toJson)).text = some (Memory.ofItems items) := by
  refine ⟨fun value storable => ⟨Value.ofJson?_toJson storable, fun shallow => ?_⟩,
    fun item storable => ⟨ofJson?_toJson storable, fun shallow => ?_⟩,
    fun items storable shallow => ?_⟩
  · rw [value.parse?_toJson shallow]
    exact Value.ofJson?_toJson storable
  · rw [Json.parse?_text item.isPlain_toJson shallow]
    exact ofJson?_toJson storable
  · rw [Memory.ofText?, listOfText?_text storable shallow]
    rfl

/-- An item with a labeled record, which has a decimal of two places, and a whole number. -/
theorem documents_readBack_address :
    let tax : Decimal := ⟨1230, 2, by decide, by decide⟩
    let address : Value :=
      .labeled "Home" (.record [("city", .text "Oslo"), ("tax", .decimal tax)])
    let item : Item := ⟨⟨"a", some "1"⟩, [("addresses", .list [address, .null]), ("size", .int 7)]⟩
    Value.ofJson? address.toJson = some address ∧ ofJson? item.toJson = some item ∧
      Memory.ofText? (Json.array [item.toJson]).text = some (Memory.ofItems [item]) := by
  intro tax address item
  have names : Named.Sorted [("city", Value.text "Oslo"), ("tax", .decimal tax)] :=
    List.pairwise_pair.mpr (by decide)
  have addressStorable : address.IsStorable := ⟨names, trivial, ⟨by decide, by decide⟩, trivial⟩
  have itemStorable : item.IsStorable :=
    ⟨List.pairwise_pair.mpr (by decide), ⟨addressStorable, trivial, trivial⟩, trivial, trivial⟩
  refine ⟨(documents_readBack.1 address addressStorable).1,
    (documents_readBack.2.1 item itemStorable).1, documents_readBack.2.2 [item] ?_ (by decide)⟩
  exact fun other member => List.mem_singleton.mp member ▸ itemStorable

end Item

end Sift
