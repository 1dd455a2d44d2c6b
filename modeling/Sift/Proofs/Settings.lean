/-
**Which settings their file holds.**

Settings are written as a document of four plain lines, and read back from it: no key is missing, so
that no default is used, and valid settings are of the current version already. Only a number that a
document cannot hold is not written, and nothing is written then at all; from the empty document the
defaults are read.

* `Settings.validate_eq_ok_iff` — the settings that are valid, and what becomes of them.
* `Settings.parse_text_of_writable`, `Settings.parse_text_of_not_writable` — what is read from the
  text of settings.
* `Settings.text_readBack` — which valid settings are read back.
-/

import Sift.Proofs.Toml.Reading
import Sift.Settings

namespace Sift

namespace Settings

variable {settings : Settings}

/-- Settings are valid if their sizes are not zero and their version is not too new. Only the
version is changed, to the current one. -/
theorem validate_eq_ok_iff {checked : Settings} :
    settings.validate = .ok checked ↔
      settings.pageSize ≠ 0 ∧ settings.countPageSize ≠ 0 ∧ settings.version ≤ currentVersion ∧
        { settings with version := currentVersion } = checked := by
  unfold validate
  by_cases pages : settings.pageSize = 0
  · simp [pages]
  by_cases idPages : settings.countPageSize = 0
  · simp [pages, idPages]
  by_cases new : currentVersion < settings.version
  · simp [pages, idPages, new, Nat.not_le.mpr new]
  · simp [pages, idPages, new, Nat.not_lt.mp new]

/-! ### What is written -/

theorem isWritable_iff {n : Nat} : isWritable n = true ↔ n < 2 ^ 63 := by
  have most : Int64.maxValue.toInt = 2 ^ 63 - 1 := by decide
  rw [isWritable, decide_eq_true_eq, most]
  omega

/-- Whether all numbers of settings can be written. -/
def IsWritable (settings : Settings) : Prop :=
  settings.version < 2 ^ 63 ∧ settings.pageSize < 2 ^ 63 ∧ settings.countPageSize < 2 ^ 63

theorem all_isWritable_iff :
    [settings.version, settings.pageSize, settings.countPageSize].all Settings.isWritable = true ↔
      settings.IsWritable := by
  simp [isWritable_iff, IsWritable]

/-- The lines of settings. -/
def lines (settings : Settings) : List Toml.Line :=
  [.ofNat "version" settings.version, .ofNat "page_size" settings.pageSize,
    .ofNat "count_page_size" settings.countPageSize, .ofString "depth" settings.depth.name]

theorem text_of_writable (writable : settings.IsWritable) :
    settings.text = String.ofList (settings.lines.flatMap Toml.Line.chars) := by
  rw [text, if_pos (all_isWritable_iff.mpr writable), ← String.toList_inj]
  simp [lines, Toml.Line.chars, Toml.Line.ofNat, Toml.Line.ofString, Text.natText]

theorem text_of_not_writable (excess : ¬ settings.IsWritable) : settings.text = "" :=
  if_neg (mt all_isWritable_iff.mp excess)

/-! ### What is read -/

theorem name_plain (depth : Depth) :
    depth.name.toList ≠ [] ∧ ∀ c ∈ depth.name.toList, Toml.standsForItself c = true := by
  rw [← List.all_eq_true]
  cases depth <;> decide +kernel

theorem ofName?_name (depth : Depth) : Depth.ofName? depth.name = some depth := by
  cases depth <;> decide +kernel

theorem isPlain_of_mem_lines (writable : settings.IsWritable) :
    ∀ line ∈ settings.lines, line.IsPlain := by
  obtain ⟨version, pages, idPages⟩ := writable
  have small {n : Nat} (fits : n < 2 ^ 63) : (n : Int) ≤ Int64.maxValue.toInt :=
    of_decide_eq_true (isWritable_iff.mpr fits)
  have name := name_plain settings.depth
  have bare {key : String} (all : key.toList.all Toml.isBareKey = true) :
      ∀ c ∈ key.toList, Toml.isBareKey c = true := List.all_eq_true.mp all
  simp only [lines, List.forall_mem_cons, List.not_mem_nil, false_implies, implies_true, and_true]
  refine ⟨?_, ?_, ?_, ?_⟩
  · exact Toml.Line.isPlain_ofNat (by decide +kernel) (bare (by decide +kernel)) (small version)
  · exact Toml.Line.isPlain_ofNat (by decide +kernel) (bare (by decide +kernel)) (small pages)
  · exact Toml.Line.isPlain_ofNat (by decide +kernel) (bare (by decide +kernel)) (small idPages)
  · exact Toml.Line.isPlain_ofString (by decide +kernel) (bare (by decide +kernel)) name.1 name.2

theorem natUnder?_of_find? {entries : Toml.Entries} {key : String} {n bound : Nat} (default : Nat)
    (found : entries.find? key = some (.integer n)) (small : n < bound) :
    natUnder? entries key bound default = some n := by
  simp [natUnder?, found, small]

theorem depthUnder?_of_find? {entries : Toml.Entries} {key : String} {depth : Depth}
    (default : Depth) (found : entries.find? key = some (.string depth.name)) :
    depthUnder? entries key default = some depth := by
  simp [depthUnder?, found, word?, ofName?_name]

/-- The table of the lines of settings has these settings in it. -/
theorem ofEntries?_entries (version : settings.version < UInt32.size)
    (pages : settings.pageSize < UInt64.size) (idPages : settings.countPageSize < UInt64.size) :
    ofEntries? (settings.lines.map Toml.Line.entry) = some settings := by
  simp only [ofEntries?]
  rw [natUnder?_of_find? _ rfl version, natUnder?_of_find? _ rfl pages,
    natUnder?_of_find? _ rfl idPages, depthUnder?_of_find? _ rfl]
  rfl

/-- Settings that can be written are read from their text as they are, and then validated. -/
theorem parse_text_of_writable (writable : settings.IsWritable)
    (version : settings.version < UInt32.size) : parse settings.text = settings.validate := by
  have pages : settings.pageSize < UInt64.size := Nat.lt_trans writable.2.1 (by decide)
  have idPages : settings.countPageSize < UInt64.size := Nat.lt_trans writable.2.2 (by decide)
  have keys : (settings.lines.map Toml.Line.key).Nodup := by
    show ["version", "page_size", "count_page_size", "depth"].Nodup
    decide +kernel
  have read : Toml.parse? settings.text = some (settings.lines.map Toml.Line.entry) := by
    rw [text_of_writable writable]
    exact Toml.parse?_chars (isPlain_of_mem_lines writable) keys
  rw [parse, read, Option.bind_some, ofEntries?_entries version pages idPages]

/-- **Settings that cannot be written are read as the defaults**, since nothing is written of
them. -/
theorem parse_text_of_not_writable (excess : ¬ settings.IsWritable) :
    parse settings.text = .ok {} := by
  have empty : Toml.parse? "" = some [] := rfl
  rw [text_of_not_writable excess, parse, empty]
  rfl

/-- **Valid settings are read back from their text** exactly if a document can hold their sizes. All
other valid settings are read as the defaults, without an error. -/
theorem text_readBack (valid : settings.validate = .ok settings) :
    (parse settings.text = .ok settings ↔
      settings.pageSize < 2 ^ 63 ∧ settings.countPageSize < 2 ^ 63) ∧
    (parse settings.text = .ok settings ∨ parse settings.text = .ok {}) := by
  have current : settings.version = currentVersion :=
    congrArg version (validate_eq_ok_iff.mp valid).2.2.2.symm
  have small : settings.version < 2 ^ 63 := by
    rw [current]
    decide
  have writable_iff : settings.IsWritable ↔
      settings.pageSize < 2 ^ 63 ∧ settings.countPageSize < 2 ^ 63 := and_iff_right small
  by_cases writable : settings.IsWritable
  · have short : settings.version < UInt32.size := by
      rw [current]
      decide
    have back := (parse_text_of_writable writable short).trans valid
    exact ⟨iff_of_true back (writable_iff.mp writable), .inl back⟩
  · have lost := parse_text_of_not_writable writable
    refine ⟨iff_of_false (fun back => ?_) (mt writable_iff.mpr writable), .inr lost⟩
    -- The defaults themselves can be written.
    cases lost.symm.trans back
    exact writable (by simp [IsWritable])

/-- The largest sizes that a document holds are read back. -/
theorem text_readBack_largest :
    let settings : Settings := { pageSize := 2 ^ 63 - 1, depth := .softDeleted }
    settings.validate = .ok settings ∧ parse settings.text = .ok settings := by
  have valid : ({ pageSize := 2 ^ 63 - 1, depth := .softDeleted } : Settings).validate
      = .ok { pageSize := 2 ^ 63 - 1, depth := .softDeleted } := rfl
  exact ⟨valid, (text_readBack valid).1.mpr (by decide)⟩

/-- **A valid page size of 64 bits can be forgotten.** It is one too large for a document, and what
is read back without an error are the defaults. -/
theorem large_size_forgotten :
    let settings : Settings := { pageSize := 2 ^ 63 }
    settings.validate = .ok settings ∧ settings.pageSize < UInt64.size ∧
      parse settings.text = .ok {} ∧ parse settings.text ≠ .ok settings := by
  have lost : parse ({ pageSize := 2 ^ 63 } : Settings).text = .ok {} :=
    parse_text_of_not_writable fun writable => absurd writable.2.1 (by decide)
  refine ⟨rfl, by decide, lost, fun back => ?_⟩
  cases lost.symm.trans back

end Settings

end Sift
