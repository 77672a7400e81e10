import LoadScript.Log.Format
import LoadScript.Proofs.Json.Characters
import LoadScript.Proofs.Json.Reading
import LoadScript.Proofs.Log.Years

/-!
Records as lines of JSON. Whatever their texts hold, each is one line, and reading the line gives the texts back.
-/

namespace LoadScript.Log

theorem jsonFields_eq (shown : String) (record : Record) (cause : Option Cause) :
    jsonFields shown record cause =
      [("time", .string shown), ("level", .string record.level.name), ("logger", .string record.channel),
        ("msg", .string record.message)] ++
        (cause.map fun cause => ("exc", Json.string cause.text)).toList := by
  cases cause with
  | none => rfl
  | some cause => rfl

theorem jsonFields_isReadable (reader : Json.Reader) (shown : String) (record : Record) (cause : Option Cause) :
    Json.IsReadable reader 0 (.object (jsonFields shown record cause)) := by
  have roomy := reader.roomy
  cases cause with
  | none =>
      have apart : ["time", "level", "logger", "msg"].Nodup := by decide
      exact ⟨by omega, apart, trivial, trivial, trivial, trivial, trivial⟩
  | some cause =>
      have apart : ["time", "level", "logger", "msg", "exc"].Nodup := by decide
      exact ⟨by omega, apart, trivial, trivial, trivial, trivial, trivial, trivial⟩

/-- A record is one line of JSON without control characters, and reading the line gives its texts back, whatever
they hold. There is no line only where its time lies outside of the years 1 to 9999. -/
theorem json_text_outcome (reader : Json.Reader) (time : Time) (record : Record) (cause : Option Cause) :
    match Format.json.text time record cause with
    | .ok line =>
        time.HasFullYear ∧ (∀ character ∈ line.toList, 0x20 ≤ character.toNat) ∧
          ∃ shown, Json.parse reader line = .ok (.object (
            [("time", .string shown), ("level", .string record.level.name),
              ("logger", .string record.channel), ("msg", .string record.message)] ++
              (cause.map fun cause => ("exc", Json.string cause.text)).toList))
    | .error _ => ¬ time.HasFullYear := by
  have fullYear := time.exists_exactText_iff
  rw [Format.text]
  cases found : Format.json.timeText time with
  | error fault =>
      intro full
      obtain ⟨shown, shows⟩ := fullYear.mpr full
      cases found.symm.trans shows
  | ok shown =>
      refine ⟨fullYear.mp ⟨shown, found⟩, Json.printed_render rfl _, shown, ?_⟩
      rw [← jsonFields_eq]
      exact Json.parse_render _ (jsonFields_isReadable reader shown record cause)

/-- The first second of the year 10000. -/
theorem json_text_year10000 :
    Format.json.text (.whole 253402300800) ⟨.info, rootChannel, "x"⟩ none = .error (.yearOutOfRange 10000) :=
  rfl

end LoadScript.Log
