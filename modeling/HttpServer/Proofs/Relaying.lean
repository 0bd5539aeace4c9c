import HttpServer.Proofs.Head.Announcing
import HttpServer.Proofs.Response.Mandatory

/-! Header fields of a request that are copied into a response. The name of a field that was accepted
can always be written. A carriage return or a NUL that stands inside its value is accepted all the
same, and such a field is left out of the response; every other one is written as it came. -/
namespace HttpServer

/-- A value that may stand in a response: no carriage return and no NUL is in it. -/
def Relayable (value : String) : Prop := 13 ∉ Bytes.ofText value ∧ 0 ∉ Bytes.ofText value

instance (value : String) : Decidable (Relayable value) := inferInstanceAs (Decidable (_ ∧ _))

theorem Response.unbroken_iff {value : String} (noLine : 10 ∉ Bytes.ofText value) :
    Unbroken value ↔ Relayable value := by
  constructor
  · intro unbroken
    refine ⟨unbroken.not_mem, ?_⟩
    intro member
    exact absurd (unbroken 0 member) (by decide)
  · rintro ⟨noReturn, noNul⟩ b member
    rw [breaksLine, Bool.or_eq_false_iff, Bool.or_eq_false_iff]
    refine ⟨⟨?_, ?_⟩, ?_⟩ <;> rw [beq_eq_false_iff_ne] <;> rintro rfl
    · exact noReturn member
    · exact noLine member
    · exact noNul member

namespace Head

variable {limits : Limits} {buffer rest : Bytes} {request : Request} {framing : Framing}

theorem field_of_decode (h : decode limits buffer = (.complete request framing, rest))
    {field : Field} (stored : field ∈ request.headers.fields) :
    Text.isToken (Bytes.ofText field.name) = true ∧ IsValue field.value := by
  obtain ⟨size, _, _, _, parsed⟩ := parsed_of_decode h
  obtain ⟨parts, wellFormed, _, rfl, _⟩ := parts_of_parse parsed
  exact ⟨wellFormed.names field stored, wellFormed.values field stored⟩

/-- Of a field that was accepted, only carriage returns and NULs keep it from being written. -/
theorem isWritable_of_decode (h : decode limits buffer = (.complete request framing, rest))
    {field : Field} (stored : field ∈ request.headers.fields) :
    Response.isWritable field = true ↔ Relayable field.value := by
  obtain ⟨token, value⟩ := field_of_decode h stored
  obtain ⟨filled, octets⟩ := Text.isToken_iff.mp token
  rw [Response.isWritable_iff, Response.unbroken_iff value.unbroken]
  constructor
  · exact fun writable => writable.2.2
  · intro relayable
    exact ⟨filled, fun b member => Text.isGraphicByte_of_isTokenByte (octets b member), relayable⟩

end Head

namespace Response

variable {name value : String} (response : Response)

theorem ownFields_appendHeader (other : Text.sameName name "connection" = false) :
    (response.appendHeader name value).ownFields = response.ownFields ++ [⟨name, value⟩] := by
  simp [ownFields, appendHeader, Headers.append, Field.isNamed, other]

theorem writtenFields_appendHeader (date : String)
    (other : Text.sameName name "connection" = false) :
    (response.appendHeader name value).writtenFields date =
      response.ownFields.filter isWritable ++
        (if isWritable ⟨name, value⟩ = true then [⟨name, value⟩] else []) ++
        ((response.appendHeader name value).lengthField ++
          (response.appendHeader name value).dateField date ++ [⟨"Connection", "close"⟩]) := by
  rw [writtenFields, ownFields_appendHeader response other, List.filter_append, List.filter_cons,
    List.filter_nil]
  simp only [List.append_assoc]

theorem notices_appendHeader (other : Text.sameName name "connection" = false) :
    (response.appendHeader name value).notices = response.notices ++
      if isWritable ⟨name, value⟩ = true then [] else [.headerDropped name] := by
  rw [notices, ownFields_appendHeader response other, List.filter_append, List.map_append, notices,
    List.filter_cons, List.filter_nil]
  cases isWritable ⟨name, value⟩ <;> rfl

end Response

/-- A field of a request, unless it is about the connection, is copied into a response: a reader finds
it behind those that were stored already, if its value has no carriage return and no NUL in it, and
otherwise it is left out, with a report. A line feed is never in it. -/
theorem relays_decoded {limits : Limits} {buffer rest : Bytes} {request : Request} {framing : Framing}
    (h : Head.decode limits buffer = (.complete request framing, rest)) {field : Field}
    (stored : field ∈ request.headers.fields) (other : field.isNamed "connection" = false)
    (response : Response) (headOnly : Bool) (already : Bytes) {date : String}
    (dated : Response.Unbroken date) :
    10 ∉ Bytes.ofText field.value ∧
    ∃ sent reading,
      (response.appendHeader field.name field.value).encodeInto already date headOnly =
        already ++ sent ∧
      Response.read sent = some reading ∧
      reading.fields = response.ownFields.filter Response.isWritable ++
        (if Relayable field.value then [field] else []) ++
        ((response.appendHeader field.name field.value).lengthField ++
          (response.appendHeader field.name field.value).dateField date ++
          [⟨"Connection", "close"⟩]) ∧
      (response.appendHeader field.name field.value).notices = response.notices ++
        (if Relayable field.value then [] else [.headerDropped field.name]) := by
  have writable := Head.isWritable_of_decode h stored
  refine ⟨(Head.field_of_decode h stored).2.unbroken, _, _,
    Response.encodeInto_append _ _ already headOnly,
    Response.read_encode _ dated headOnly, ?_, ?_⟩
  · rw [Response.writtenFields_appendHeader response _ other]
    simp only [writable]
  · rw [Response.notices_appendHeader response other]
    simp only [writable]

def tabbedHead : Bytes := Bytes.ofText "GET / HTTP/1.1\r\nx-note: \ta\t:b \r\n\r\n"

def tabbedRequest : Request where
  method := .get
  uri := "/"
  headers := ⟨[⟨"x-note", "a\t:b"⟩]⟩

theorem relays_tabbed :
    Head.decode {} tabbedHead = (.complete tabbedRequest .empty, []) ∧
      Response.Unbroken (HttpDate.ofSeconds 0) ∧
      ∃ reading, Response.read ((Response.ok []).appendHeader "x-note" "a\t:b" |>.encodeInto []
          (HttpDate.ofSeconds 0) true) = some reading ∧
        reading.fields = [⟨"Content-Type", "text/plain"⟩, ⟨"x-note", "a\t:b"⟩,
          ⟨"Content-Length", "0"⟩, ⟨"Date", HttpDate.ofSeconds 0⟩, ⟨"Connection", "close"⟩] := by
  have read : Head.decode {} tabbedHead = (.complete tabbedRequest .empty, []) := by decide
  obtain ⟨_, sent, reading, same, found, fields, _⟩ :=
    relays_decoded read (List.mem_singleton_self _) (by decide) (Response.ok []) true []
      (Response.unbroken_date 0)
  refine ⟨read, Response.unbroken_date 0, reading, ?_, ?_⟩
  · rw [same, List.nil_append, found]
  · rw [fields]
    decide +kernel

def nulRequest : Request where
  method := .get
  uri := "/"
  headers := ⟨[⟨"X-Note", "a\x00b"⟩]⟩

/-- The NUL is accepted, and the field is left out of a response into which it is copied. -/
theorem nul_accepted_not_written :
    Head.decode {} (Bytes.ofText "GET / HTTP/1.1\r\nX-Note: a\x00b\r\n\r\n") =
        (.complete nulRequest .empty, []) ∧
      (⟨"X-Note", "a\x00b"⟩ : Field) ∈ nulRequest.headers.fields ∧
      Response.read ((Response.ok []).appendHeader "X-Note" "a\x00b" |>.encode
          (HttpDate.ofSeconds 0) false) =
        some ⟨"HTTP/1.1 200 OK", [⟨"Content-Type", "text/plain"⟩, ⟨"Content-Length", "0"⟩,
          ⟨"Date", HttpDate.ofSeconds 0⟩, ⟨"Connection", "close"⟩], []⟩ := by
  refine ⟨by decide, List.mem_singleton_self _, ?_⟩
  rw [Response.read_encode _ (Response.unbroken_date 0)]
  decide +kernel

end HttpServer
