/-
**Settings of queries, and the file that holds them.**

* `Settings.parse` — the settings of a TOML text: absent ones have their defaults, unknown keys are
  ignored, and what is out of range is refused.
* `Settings.text` — the TOML text of settings.
* `Settings.defaultPath` — where the file is looked for.
-/

import Sift.Item.Document
import Sift.Toml.Reader

namespace Sift

/-- The settings that apply to queries. They are numbers of 64 bits; only `Settings.validate`
refuses the ones that make no sense. -/
structure Settings where
  version : Nat := 1
  /-- Items asked for at a time. -/
  pageSize : Nat := 100
  /-- Items asked for at a time where only identities are fetched. -/
  countPageSize : Nat := 1000
  depth : Depth := .shallow
  deriving DecidableEq

/-- What can be wrong with settings. -/
inductive SettingsError where
  | missingFile
  /-- The text is no TOML, or a setting has the wrong type. -/
  | malformed
  | zeroPageSize
  | zeroCountPageSize
  | tooNew (version : Nat)
  deriving DecidableEq

namespace Settings

/-- The version that settings are written in. -/
def currentVersion : Nat := 1

end Settings

namespace SettingsError

def message : SettingsError → String
  | .missingFile => "failed to read config file"
  | .malformed => "failed to parse config"
  | .zeroPageSize => "invalid config: page_size must be at least 1"
  | .zeroCountPageSize => "invalid config: count_page_size must be at least 1"
  | .tooNew version =>
    "invalid config: config version " ++ Text.natText version ++
      " is newer than supported version " ++ Text.natText Settings.currentVersion

end SettingsError

namespace Settings

/-- Refuses settings that are out of range, and brings the version up to the current one. -/
def validate (settings : Settings) : Except SettingsError Settings :=
  if settings.pageSize = 0 then .error .zeroPageSize
  else if settings.countPageSize = 0 then .error .zeroCountPageSize
  else if currentVersion < settings.version then .error (.tooNew settings.version)
  else .ok { settings with version := currentVersion }

/-! ### Reading -/

/-- A number below `bound` under a key, or a default. -/
def natUnder? (entries : Toml.Entries) (key : String) (bound default : Nat) : Option Nat :=
  match entries.find? key with
  | none => some default
  | some (.integer value) => if 0 ≤ value && value < bound then some value.toNat else none
  | some _ => none

/-- The word that a value is: a string, or the only key of a table, with nothing under it. -/
def word? : Toml → Option String
  | .string word => some word
  | .table _ [(word, .table _ [])] => some word
  | .table _ [(word, .array [])] => some word
  | _ => none

/-- The depth under a key, or a default. -/
def depthUnder? (entries : Toml.Entries) (key : String) (default : Depth) : Option Depth :=
  match entries.find? key with
  | none => some default
  | some value => do Depth.ofName? (← word? value)

/-- The settings of a document. -/
def ofEntries? (entries : Toml.Entries) : Option Settings := do
  let defaults : Settings := {}
  return {
    version := ← natUnder? entries "version" UInt32.size defaults.version
    pageSize := ← natUnder? entries "page_size" UInt64.size defaults.pageSize
    countPageSize := ← natUnder? entries "count_page_size" UInt64.size defaults.countPageSize
    depth := ← depthUnder? entries "depth" defaults.depth }

def parse (text : String) : Except SettingsError Settings :=
  match (Toml.parse? text).bind ofEntries? with
  | some settings => settings.validate
  | none => .error .malformed

/-- The settings of a file, given by its content if it exists. -/
def load : Option String → Except SettingsError Settings
  | some content => parse content
  | none => .error .missingFile

/-- The settings of the default file: the defaults where it does not exist. -/
def loadDefault : Option String → Except SettingsError Settings
  | some content => parse content
  | none => .ok {}

/-- The settings of a JSON object, or of an array in the order of the settings. They are not yet
validated. -/
def ofJson? (json : Json) : Option Settings := do
  let members ← json.membersOr? ["version", "page_size", "count_page_size", "depth"]
  let defaults : Settings := {}
  let natUnder (key : String) (bound default : Nat) : Option Nat := do
    match ← Json.only? key members with
    | none => some default
    | some value => value.natBelow? bound
  return {
    version := ← natUnder "version" UInt32.size defaults.version
    pageSize := ← natUnder "page_size" UInt64.size defaults.pageSize
    countPageSize := ← natUnder "count_page_size" UInt64.size defaults.countPageSize
    depth := ← do
      match ← Json.only? "depth" members with
      | none => some defaults.depth
      | some value => Depth.ofJson? value }

/-! ### Writing -/

/-- Whether a number can be written: TOML has whole numbers of 63 bits and a sign. -/
def isWritable (n : Nat) : Bool :=
  n ≤ Int64.maxValue.toInt

/-- The TOML text of settings, empty where a number cannot be written. -/
def text (settings : Settings) : String :=
  if [settings.version, settings.pageSize, settings.countPageSize].all isWritable then
    "version = " ++ Text.natText settings.version ++
      "\npage_size = " ++ Text.natText settings.pageSize ++
      "\ncount_page_size = " ++ Text.natText settings.countPageSize ++
      "\ndepth = \"" ++ settings.depth.name ++ "\"\n"
  else ""

/-! ### The file -/

/-- A path continued by a part, with one slash between them. -/
def joinPath (base part : String) : String :=
  if base.isEmpty || base.toList.getLast? == some '/' then base ++ part else base ++ "/" ++ part

/-- Where the settings file is: the path given for it, or a place in the directory for settings,
which is the one given, if it is absolute, or else the usual one in the home directory. -/
def defaultPath (override configHome : Option String) (home : String) : String :=
  match override with
  | some path => path
  | none =>
    let base :=
      match configHome with
      | some base => if base.toList.head? == some '/' then base else joinPath home ".config"
      | none => joinPath home ".config"
    joinPath base "itemstore/query.toml"

end Settings

end Sift
