import HttpServer.Proofs.Response.Faithful

/-! The length and the date of a written response. A response that stores neither is given both. If
one is stored it counts as given even when it is left out for the octets in it, and then the written
response lacks it; that is the only way to lack it. -/
namespace HttpServer.Response

/-- Fields are stored under a name, but none whose value does not break its line. -/
def Loses (response : Response) (name : String) : Prop :=
  (∃ field ∈ response.headers.fields, field.isNamed name = true) ∧
    ¬ ∃ field ∈ response.headers.fields, field.isNamed name = true ∧ Unbroken field.value

theorem not_loses_iff {response : Response} {name : String} : ¬ response.Loses name ↔
    (∃ field ∈ response.headers.fields, field.isNamed name = true ∧ Unbroken field.value) ∨
      ¬ ∃ field ∈ response.headers.fields, field.isNamed name = true := by
  rw [Loses, Classical.not_and_iff_not_or_not, Classical.not_not, or_comm]

theorem exists_stored_iff {name : String} (writable : isWritable ⟨name, ""⟩ = true)
    (other : Text.sameName name "connection" = false) (fields : List Field) :
    (∃ field ∈ fields.filter (fun field => !field.isNamed "connection" && isWritable field),
        field.isNamed name = true) ↔
      ∃ field ∈ fields, field.isNamed name = true ∧ Unbroken field.value := by
  constructor
  · rintro ⟨field, written, named⟩
    obtain ⟨stored, keeps⟩ := List.mem_filter.mp written
    rw [Bool.and_eq_true] at keeps
    exact ⟨field, stored, named, (isWritable_iff.mp keeps.2).2.2⟩
  · rintro ⟨field, stored, named, unbroken⟩
    have keeps : isWritable field = true := isWritable_of_sameName named writable unbroken
    refine ⟨field, List.mem_filter.mpr ⟨stored, ?_⟩, named⟩
    rw [Field.not_isNamed other named, keeps]
    rfl

theorem exists_added_iff {P : Prop} [Decidable P] {own value name : String} :
    (∃ field ∈ if P then [] else [(⟨own, value⟩ : Field)], field.isNamed name = true) ↔
      ¬ P ∧ Text.sameName own name = true := by
  by_cases holds : P
  · simp [holds]
  · simp [holds, Field.isNamed]

variable (date : String) (response : Response)

theorem exists_written_iff {name : String} (writable : isWritable ⟨name, ""⟩ = true)
    (other : Text.sameName name "connection" = false) :
    (∃ field ∈ response.writtenFields date, field.isNamed name = true) ↔
      (∃ field ∈ response.headers.fields, field.isNamed name = true ∧ Unbroken field.value) ∨
      (¬ (Status.isBodiless response.status = true ∨
          ∃ field ∈ response.headers.fields, field.isNamed "content-length" = true) ∧
        Text.sameName "Content-Length" name = true) ∨
      ((¬ ∃ field ∈ response.headers.fields, field.isNamed "date" = true) ∧
        Text.sameName "Date" name = true) := by
  have last : Field.isNamed ⟨"Connection", "close"⟩ name = false := by
    rw [Field.isNamed, Text.sameName_symm,
      Text.sameName_congr (show Text.sameName "Connection" "connection" = true by decide)]
    exact other
  rw [writtenFields_eq, sentFields]
  simp only [List.mem_append, or_and_right, exists_or, exists_added_iff, List.mem_singleton,
    exists_eq_left, last, Bool.false_eq_true, or_false, exists_stored_iff writable other, or_assoc]

theorem exists_length_iff (bodied : Status.isBodiless response.status = false) :
    (∃ field ∈ response.writtenFields date, field.isNamed "content-length" = true) ↔
      ¬ response.Loses "content-length" := by
  have length : Text.sameName "Content-Length" "content-length" = true := by decide
  have day : Text.sameName "Date" "content-length" = false := by decide
  rw [exists_written_iff date response (by decide) (by decide), not_loses_iff]
  simp only [bodied, length, day, Bool.false_eq_true, false_or, and_true, and_false, or_false]

theorem exists_date_iff :
    (∃ field ∈ response.writtenFields date, field.isNamed "date" = true) ↔
      ¬ response.Loses "date" := by
  have length : Text.sameName "Content-Length" "date" = false := by decide
  have day : Text.sameName "Date" "date" = true := by decide
  rw [exists_written_iff date response (by decide) (by decide), not_loses_iff]
  simp only [length, day, Bool.false_eq_true, and_true, and_false, false_or]

theorem encodeInto_append (buffer : Bytes) (headOnly : Bool) :
    response.encodeInto buffer date headOnly = buffer ++ response.encode date headOnly := by
  rw [encode, encodeInto_eq, encodeInto_eq, List.nil_append]

/-- What is put at the end of a buffer has a length, if the status allows a body, and a date, but
for responses that store one and lose it. -/
theorem mandatory_encodeInto (headOnly : Bool) (buffer : Bytes) (dated : Unbroken date) :
    ∃ sent reading, response.encodeInto buffer date headOnly = buffer ++ sent ∧
      read sent = some reading ∧
      (Status.isBodiless response.status = false →
        ((∃ field ∈ reading.fields, field.isNamed "content-length" = true) ↔
          ¬ response.Loses "content-length")) ∧
      ((∃ field ∈ reading.fields, field.isNamed "date" = true) ↔ ¬ response.Loses "date") := by
  refine ⟨_, _, encodeInto_append _ response buffer headOnly,
    read_encode response dated headOnly, ?_, ?_⟩
  · exact exists_length_iff date response
  · exact exists_date_iff date response

/-- The length that is stored counts, and the date that is stored under another case. -/
theorem mandatory_stored :
    let response : Response := { headers := ⟨[⟨"content-LENGTH", "9"⟩, ⟨"DATE", "today"⟩]⟩ }
    Unbroken (HttpDate.ofSeconds 0) ∧
      ∃ sent reading, response.encodeInto [] (HttpDate.ofSeconds 0) true = [] ++ sent ∧
        read sent = some reading ∧
        (∃ field ∈ reading.fields, field.isNamed "content-length" = true) ∧
        ∃ field ∈ reading.fields, field.isNamed "date" = true := by
  intro response
  obtain ⟨sent, reading, same, found, length, day⟩ :=
    mandatory_encodeInto (HttpDate.ofSeconds 0) response true [] (unbroken_date 0)
  have keepsLength : ¬ response.Loses "content-length" :=
    not_loses_iff.mpr (.inl ⟨⟨"content-LENGTH", "9"⟩, by decide, by decide, by decide⟩)
  have keepsDate : ¬ response.Loses "date" :=
    not_loses_iff.mpr (.inl ⟨⟨"DATE", "today"⟩, by decide, by decide, by decide⟩)
  exact ⟨unbroken_date 0, sent, reading, same, found, (length rfl).mpr keepsLength,
    day.mpr keepsDate⟩

def brokenResponse : Response where
  headers := ⟨[⟨"Content-Length", "2\r"⟩, ⟨"date", "\n"⟩]⟩
  body := Bytes.ofText "hi"

/-- It is written with neither of them, and nothing is given in their place. -/
theorem read_brokenResponse :
    Status.isBodiless brokenResponse.status = false ∧
      read (brokenResponse.encode (HttpDate.ofSeconds 0) false) =
        some ⟨"HTTP/1.1 200 OK", [⟨"Connection", "close"⟩], Bytes.ofText "hi"⟩ ∧
      Field.isNamed ⟨"Connection", "close"⟩ "content-length" = false ∧
      Field.isNamed ⟨"Connection", "close"⟩ "date" = false := by
  refine ⟨by decide, ?_, by decide, by decide⟩
  rw [read_encode brokenResponse (unbroken_date 0)]
  decide +kernel

end HttpServer.Response
