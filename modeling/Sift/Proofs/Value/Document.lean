/-
**Values are read back from their documents.**

A value is read back as it is, scales of decimals and offsets of timestamps included, if each of its
decimals is one that can be read at all. The names in its records stand in order, as they do in any
record.

* `Value.IsStorable` — the values that this is about.
* `Value.read?_toJson`, `Value.ofJson?_toJson` — they are read back from their documents.
* `Value.isPlain_toJson` — these documents have nothing but what is read back from text.
-/

import Mathlib.Data.List.Induction
import Sift.Proofs.Calendar.LooseReading
import Sift.Proofs.Decimal.Grammar
import Sift.Proofs.Json.Reading
import Sift.Value.Document

namespace Sift

/-! ### Names in order -/

namespace Named

variable {α : Type}

/-- What is put behind all names that are there stands at the end. -/
theorem put_of_forall_lt {name : String} (value : α) {named : Named α}
    (behind : ∀ entry ∈ named, entry.1 < name) : put name value named = named ++ [(name, value)] := by
  induction named with
  | nil => rfl
  | cons entry named ih =>
    have first : entry.1 < name := behind entry List.mem_cons_self
    have notBefore : ¬ name < entry.1 := fun before => String.lt_irrefl _ (String.lt_trans before first)
    have differ : entry.1 ≠ name := fun same => String.lt_irrefl _ (same ▸ first)
    rw [put, if_neg notBefore, if_neg differ, ih fun other member => behind other (.tail _ member)]
    rfl

/-- Pairs whose names are in order are the map they make. -/
theorem ofList_of_sorted {named : Named α} (sorted : named.Sorted) : ofList named = named := by
  induction named using List.reverseRecOn with
  | nil => rfl
  | append_singleton named last ih =>
    obtain ⟨before, -, behind⟩ := List.pairwise_append.mp sorted
    rw [ofList, List.foldl_append, ← ofList, ih before]
    exact put_of_forall_lt last.2 fun entry member => behind entry member last (List.mem_singleton_self _)

end Named

namespace Value

mutual

/-- Whether each decimal in a value can be read, and the names of each record in it are in order. -/
def IsStorable : Value → Prop
  | .decimal value => value.scale ≤ Decimal.maxScale ∧ -Decimal.limit < value.mantissa
  | .list values => AreStorable values
  | .labeled _ value => IsStorable value
  | .record fields => Named.Sorted fields ∧ AreStorableFields fields
  | _ => True

def AreStorable : List Value → Prop
  | [] => True
  | value :: rest => IsStorable value ∧ AreStorable rest

def AreStorableFields : List (String × Value) → Prop
  | [] => True
  | (_, value) :: rest => IsStorable value ∧ AreStorableFields rest

end

/-! ### Documents -/

theorem int64?_whole (value : Int64) : (Json.whole value.toInt).int64? = some value := by
  have inRange : Int64.minValue.toInt ≤ value.toInt ∧ value.toInt ≤ Int64.maxValue.toInt :=
    ⟨value.minValue_le_toInt, value.toInt_le⟩
  show (if _ then some (Int64.ofInt value.toInt) else none) = _
  rw [if_pos (by simpa using inRange), Int64.ofInt_toInt]

theorem read?_tagged (type : String) (content : Json) :
    read? false (tagged type content) = readContent? false type content := by
  simp [tagged, read?, Json.only?, Json.valuesOf, typeOfJson?, Json.word?, readMembers?]

mutual

/-- **A value is read back from its document.** -/
theorem read?_toJson : ∀ {value : Value}, value.IsStorable → read? false value.toJson = some value
  | .null, _ => by
    simp [toJson, read?, Json.only?, Json.valuesOf, typeOfJson?, Json.word?, readMembers?]
  | .bool value, _ => by
    rw [toJson, read?_tagged]
    rfl
  | .int value, _ => by
    rw [toJson, read?_tagged]
    exact congrArg (Option.map Value.int) (int64?_whole value)
  | .decimal value, storable => by
    rw [toJson, read?_tagged]
    show (Decimal.parse? value.text).map Value.decimal = _
    rw [Decimal.parse?_text_of_isReadable (Decimal.isReadable_iff.mpr storable)]
    rfl
  | .text value, _ => by
    rw [toJson, read?_tagged]
    rfl
  | .timestamp value, _ => by
    rw [toJson, read?_tagged]
    exact congrArg (Option.map Value.timestamp) value.parseLoose?_text
  | .dateTime value, _ => by
    rw [toJson, read?_tagged]
    exact congrArg (Option.map Value.dateTime) value.parseLoose?_text
  | .date value, _ => by
    rw [toJson, read?_tagged]
    exact congrArg (Option.map Value.date) value.parseLoose?_text
  | .list values, storable => by
    rw [toJson, read?_tagged]
    exact congrArg (Option.map Value.list) (readElements?_toJsonAll storable)
  | .labeled label value, storable => by
    rw [toJson, read?_tagged]
    have inner : readLabeled? false [("label", .string label), ("value", value.toJson)] = some value :=
      read?_toJson storable
    simp [readContent?, textUnder?, Json.only?, Json.valuesOf, Json.string?, inner]
  | .record fields, storable => by
    rw [toJson, read?_tagged]
    have inner := readFields?_toJsonFields storable.2
    simp [readContent?, inner, Named.ofList_of_sorted storable.1]

theorem readElements?_toJsonAll : ∀ {values : List Value}, AreStorable values →
    readElements? false (toJsonAll values) = some values
  | [], _ => rfl
  | value :: rest, storable => by
    rw [toJsonAll, readElements?, read?_toJson storable.1, readElements?_toJsonAll storable.2]
    rfl

theorem readFields?_toJsonFields : ∀ {fields : List (String × Value)}, AreStorableFields fields →
    readFields? false (toJsonFields fields) = some fields
  | [], _ => rfl
  | (name, value) :: rest, storable => by
    rw [toJsonFields, readFields?, read?_toJson storable.1, readFields?_toJsonFields storable.2]
    rfl

end

theorem ofJson?_toJson {value : Value} (storable : value.IsStorable) :
    ofJson? value.toJson = some value :=
  read?_toJson storable

/-! ### Their text -/

theorem isPlain_tagged {type : String} {content : Json} (plain : content.isPlain = true) :
    (tagged type content).isPlain = true := by
  simp [tagged, Json.isPlain, Json.arePlainMembers, plain]

mutual

/-- The document of a value has nothing but what is read back from text. -/
theorem isPlain_toJson : ∀ value : Value, value.toJson.isPlain = true
  | .null => rfl
  | .bool _ => rfl
  | .int value => by
    have range : UInt64.size = 2 ^ 64 := rfl
    have least := value.le_toInt
    have most := value.toInt_lt
    exact isPlain_tagged (decide_eq_true (by omega))
  | .decimal _ => rfl
  | .text _ => rfl
  | .timestamp _ => rfl
  | .dateTime _ => rfl
  | .date _ => rfl
  | .list values => isPlain_tagged (arePlain_toJsonAll values)
  | .labeled label value => isPlain_tagged (by
      simp [Json.isPlain, Json.arePlainMembers, isPlain_toJson value])
  | .record fields => isPlain_tagged (arePlainMembers_toJsonFields fields)

theorem arePlain_toJsonAll : ∀ values : List Value, Json.arePlain (toJsonAll values) = true
  | [] => rfl
  | value :: rest => by
    rw [toJsonAll, Json.arePlain, isPlain_toJson value, arePlain_toJsonAll rest, Bool.and_self]

theorem arePlainMembers_toJsonFields : ∀ fields : List (String × Value),
    Json.arePlainMembers (toJsonFields fields) = true
  | [] => rfl
  | (name, value) :: rest => by
    rw [toJsonFields, Json.arePlainMembers, isPlain_toJson value, arePlainMembers_toJsonFields rest,
      Bool.and_self]

end

/-- **A value is read back from the text of its document**, if that does not nest too deeply. -/
theorem parse?_toJson (value : Value) (shallow : value.toJson.nesting < Json.depthLimit) :
    Json.parse? value.toJson.text = some value.toJson :=
  Json.parse?_text (isPlain_toJson value) shallow

end Value

end Sift
