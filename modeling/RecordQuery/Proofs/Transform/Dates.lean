import RecordQuery.Proofs.Instant.Rendering
import RecordQuery.Proofs.Transform.Arrays

/-!
# Dates that are written and read again

* `Value.ComesBackAs`: what is read from the text of a date.
* `Value.dates_come_back`: a date comes back from its text and from its formats.
-/

namespace RecordQuery.Value

variable (functions : Functions)

/-- A projection writes a date as a text, and an instant is read from this text. -/
def ComesBackAs (t : Instant) (name : String) (options : Value) (found : Instant) : Prop :=
  ∃ text : String, projected? functions (.date t) name options = some (.string text) ∧
    ∀ reading : Value, projected? functions (.string text) "$toDate" reading = some (.date found)

variable {functions} {t found : Instant} {options : Value}

theorem projected?_toDate {text : String} (h : Instant.read? text = some found) (reading : Value) :
    projected? functions (.string text) "$toDate" reading = some (.date found) :=
  projected?_of_eq_some rfl rfl rfl (by dsimp only; rw [toInstant?, h]; rfl) nofun

theorem comesBackAs_toString (h : Instant.readChars? t.textChars = some found) (options : Value) :
    ComesBackAs functions t "$toString" options found := by
  refine ⟨(Value.date t).text, projected?_of_eq_some rfl rfl rfl rfl nofun,
    projected?_toDate ?_⟩
  rw [Instant.read?, Value.text, String.toList_ofList]
  exact h

theorem comesBackAs_dateFormat {form : String}
    (hform : (options.textOption? "format").getD "YYYY-MM-DD" = form)
    (h : Instant.readChars? (t.formatChars [] form.toList) = some found) :
    ComesBackAs functions t "$dateFormat" options found := by
  refine ⟨t.format form, projected?_of_eq_some rfl rfl rfl ?_ nofun, projected?_toDate ?_⟩
  · rw [hform]
    rfl
  · rwa [Instant.read?, Instant.format, String.toList_ofList]

/-- **Dates come back from what is written of them.**  For every instant of the years 0 to 9999 that
is no leap second, a date is read from its text and from the format with all its fields as the same
instant without what is behind its milliseconds, and from the default format, which has no time of
day, as midnight at the beginning of its day. -/
theorem dates_come_back (functions : Functions) {t : Instant} (hlow : 0 ≤ t.toCivil.year)
    (hhigh : t.toCivil.year ≤ 9999) (hleap : t.nanos < 1000000000) :
    (∀ options, ComesBackAs functions t "$toString" options t.wholeMillis) ∧
    (∀ options : Value, options.textOption? "format" = some "YYYY-MM-DD HH:mm:ss.SSS" →
      ComesBackAs functions t "$dateFormat" options t.wholeMillis) ∧
    ∀ options : Value, options.textOption? "format" = none →
      ComesBackAs functions t "$dateFormat" options t.midnight := by
  have ht : t.Common := ⟨hlow, hhigh, hleap⟩
  refine ⟨comesBackAs_toString ht.readChars?_textChars, fun options h => ?_, fun options h => ?_⟩
  · exact comesBackAs_dateFormat (by rw [h]; rfl) ht.readChars?_dateTime
  · exact comesBackAs_dateFormat (by rw [h]; rfl) ht.readChars?_date

/-- A date in the year 7, a part of a second in front of midnight. -/
theorem dates_come_back_early :
    let functions : Functions := fun _ _ => .undefined
    let t : Instant := ⟨-61941110401, 987654321⟩
    let options : Value := .record [("format", .string "YYYY-MM-DD HH:mm:ss.SSS")]
    t.toCivil.year = 7 ∧ t.nanos < 1000000000 ∧
      options.textOption? "format" = some "YYYY-MM-DD HH:mm:ss.SSS" ∧
      (Value.record []).textOption? "format" = none ∧
      ComesBackAs functions t "$toString" (.record []) ⟨-61941110401, 987000000⟩ ∧
      ComesBackAs functions t "$dateFormat" options ⟨-61941110401, 987000000⟩ ∧
      ComesBackAs functions t "$dateFormat" (.record []) ⟨-61941196800, 0⟩ := by
  intro functions t options
  have hyear : t.toCivil.year = 7 := by decide
  have hnanos : t.nanos < 1000000000 := by decide
  have hform : options.textOption? "format" = some "YYYY-MM-DD HH:mm:ss.SSS" := rfl
  have hnone : (Value.record []).textOption? "format" = none := rfl
  have hwhole : t.wholeMillis = ⟨-61941110401, 987000000⟩ := by decide
  have hmidnight : t.midnight = ⟨-61941196800, 0⟩ := by decide
  obtain ⟨htext, hfull, hday⟩ := dates_come_back functions (by omega) (by omega) hnanos
  rw [← hwhole, ← hmidnight]
  exact ⟨hyear, hnanos, hform, hnone, htext _, hfull _ hform, hday _ hnone⟩

end RecordQuery.Value
