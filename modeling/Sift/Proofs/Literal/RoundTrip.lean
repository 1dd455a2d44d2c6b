/-
**Literals are read back from their text on the wire.**

`Literal.parse_wireText`: what was checked against a kind has a text on the wire, and reading that
text gives the literal itself, scale included, exactly where the literal is readable. Texts, truth
values, whole numbers and days always are. A timestamp is where its year has four digits, and a
decimal where its digits are not too many; other literals of these two kinds are written in a form
that is refused when it is read.
-/

import Sift.Proofs.Calendar.Reading
import Sift.Proofs.Decimal.Text
import Sift.Proofs.Predicate.Resolved

namespace Sift

/-- Whether a scalar can be read back from its text on the wire. -/
def Value.isReadable : Value → Bool
  | .decimal value => value.isReadable
  | .timestamp value => value.hasShortYear
  | _ => true

namespace Literal

/-- A decimal literal is read as its decimal is. -/
theorem read?_decimal (value : Decimal) :
    read? .decimal value.text
      = if (Value.decimal value).isReadable then some (.decimal value) else none := by
  show (Decimal.parse? value.text).map Value.decimal = _
  rw [Decimal.parse?_text, apply_ite (Option.map Value.decimal)]
  rfl

/-- What reading makes of the text of a checked literal, before it is checked again. -/
theorem read?_of_coerce {field : String} {kind : FieldKind} {value literal : Value}
    (coerced : coerce field kind value = .ok literal) :
    ∃ text, wireText? literal = some text ∧
      read? kind text = if literal.isReadable then some literal else none := by
  unfold coerce at coerced
  split at coerced
  case h_2 choices text =>
    split at coerced <;> cases coerced
    exact ⟨text, rfl, rfl⟩
  case h_3 value =>
    cases coerced
    refine ⟨_, rfl, ?_⟩
    cases value <;> rfl
  case h_4 value =>
    cases coerced
    exact ⟨_, rfl, congrArg (Option.map Value.int) (Text.parseInt64?_intText value)⟩
  case h_7 value =>
    cases coerced
    refine ⟨_, rfl, ?_⟩
    show (Timestamp.parse? (value.toUtc.toUtc.text true)).map Value.timestamp = _
    rw [Timestamp.parse?_text, apply_ite (Option.map Value.timestamp)]
    rfl
  case h_9 value =>
    cases coerced
    exact ⟨_, rfl, congrArg (Option.map Value.date) (Date.parse?_text value)⟩
  all_goals cases coerced
  · exact ⟨_, rfl, rfl⟩
  · exact ⟨_, rfl, read?_decimal _⟩
  · exact ⟨_, rfl, read?_decimal _⟩

/-- The text of a checked literal is read as that literal, or refused. -/
theorem parse_of_coerce {field : String} {kind : FieldKind} {value literal : Value}
    (coerced : coerce field kind value = .ok literal) {text : String}
    (written : wireText? literal = some text) (name : String) :
    parse name kind text =
      if literal.isReadable then .ok literal
      else .error (.invalidLiteral name text (.unreadable kind.name)) := by
  obtain ⟨other, same, read⟩ := read?_of_coerce coerced
  cases written.symm.trans same
  rw [parse, read]
  by_cases readable : literal.isReadable = true
  · simp only [readable, if_true]
    exact (checked_of_coerce coerced).again name
  · simp only [readable]
    rfl

/-- **A checked literal is read back from its text on the wire exactly where it is readable.** The
text is there in any case, and what is read is the literal itself. -/
theorem parse_wireText {field : String} {kind : FieldKind} {value literal : Value}
    (coerced : coerce field kind value = .ok literal) (name : String) :
    ∃ text, wireText name literal = .ok text ∧
      parse name kind text =
        if literal.isReadable then .ok literal
        else .error (.invalidLiteral name text (.unreadable kind.name)) := by
  obtain ⟨text, written, -⟩ := read?_of_coerce coerced
  exact ⟨text, by rw [wireText, written], parse_of_coerce coerced written name⟩

/-- A price with two digits after the point. -/
def priceSample : Decimal := ⟨-1250, 2, by decide, by decide⟩

theorem parse_wireText_priceSample :
    coerce "price" .decimal (.decimal priceSample) = .ok (.decimal priceSample) ∧
      ∃ text, wireText "price" (.decimal priceSample) = .ok text ∧
        parse "price" .decimal text = .ok (.decimal priceSample) := by
  have coerced : coerce "price" .decimal (.decimal priceSample) = .ok (.decimal priceSample) := rfl
  obtain ⟨text, written, read⟩ := parse_wireText coerced "price"
  have readable : (Value.decimal priceSample).isReadable = true := by decide
  rw [if_pos readable] at read
  exact ⟨coerced, text, written, read⟩

/-- The first moment whose year has five digits. -/
def longYearSample : Timestamp := .ofUtc ⟨⟨10000, 1, 1, by decide⟩, ⟨0, 0, 0⟩⟩

/-- A decimal with more digits after the point than are read. -/
def longFractionSample : Decimal := ⟨1, 29, by decide, by decide⟩

/-- **The text of a checked literal may be refused when it is read**: that of a moment after the year
9999, and that of a decimal with many digits after the point. -/
theorem parse_wireText_refused :
    (coerce "start" .timestamp (.timestamp longYearSample) = .ok (.timestamp longYearSample) ∧
      wireText "start" (.timestamp longYearSample) = .ok "+10000-01-01T00:00:00Z" ∧
      parse "start" .timestamp "+10000-01-01T00:00:00Z"
        = .error (.invalidLiteral "start" "+10000-01-01T00:00:00Z" (.unreadable "datetime"))) ∧
    (coerce "price" .decimal (.decimal longFractionSample) = .ok (.decimal longFractionSample) ∧
      wireText "price" (.decimal longFractionSample) = .ok "0.00000000000000000000000000001" ∧
      parse "price" .decimal "0.00000000000000000000000000001"
        = .error (.invalidLiteral "price" "0.00000000000000000000000000001"
            (.unreadable "decimal"))) := by
  have year : coerce "start" .timestamp (.timestamp longYearSample)
      = .ok (.timestamp longYearSample) := rfl
  have yearText : wireText? (.timestamp longYearSample) = some "+10000-01-01T00:00:00Z" :=
    congrArg some (by decide +kernel)
  have fraction : coerce "price" .decimal (.decimal longFractionSample)
      = .ok (.decimal longFractionSample) := rfl
  have fractionText : wireText? (.decimal longFractionSample)
      = some "0.00000000000000000000000000001" := congrArg some (by decide +kernel)
  refine ⟨⟨year, ?_, ?_⟩, ⟨fraction, ?_, ?_⟩⟩
  · rw [wireText, yearText]
  · exact parse_of_coerce year yearText "start"
  · rw [wireText, fractionText]
  · exact parse_of_coerce fraction fractionText "price"

end Literal

end Sift
