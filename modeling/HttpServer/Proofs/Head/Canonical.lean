import HttpServer.Proofs.Head.Printing

/-! Heads that are accepted. Their lines may end in bare line feeds and their values may stand
among blanks, but what is read out of them is well-formed, and the canonical print of it is
read as the same request. -/
namespace HttpServer

theorem exists_of_bind_ok {ε α β : Type} {x : Except ε α} {f : α → Except ε β} {r : β}
    (h : x >>= f = .ok r) : ∃ a, x = .ok a ∧ f a = .ok r := by
  cases x with
  | error e => cases h
  | ok a => exact ⟨a, rfl, h⟩

namespace Head

theorem isTarget_of_target {octets : Bytes} {uri : String} (noSpace : 32 ∉ octets)
    (h : target octets = .ok uri) : IsTarget uri := by
  unfold target at h
  split at h
  · cases h
  · next free =>
    split at h
    · next text =>
      cases h
      have same := Bytes.text?_eq_some_iff.mp text
      subst same
      simp only [Bool.or_eq_true, not_or, List.isEmpty_iff, List.any_eq_true, not_exists] at free
      constructor
      · rintro rfl
        exact free.1 rfl
      · intro b member
        refine ⟨fun same => noSpace (same ▸ member), ?_⟩
        have other := free.2 b
        simpa [member] using other
    · cases h

theorem parts_of_requestLine {line : Bytes} {request : Request}
    (h : requestLine line = .ok request) :
    ∃ method uri version, Text.isToken (Bytes.ofText method) = true ∧ IsTarget uri ∧
      request = { method := .ofName method, uri, version } := by
  unfold requestLine at h
  split at h
  · next octets uri protocol parts =>
    split at h
    · next token =>
      -- A token is ASCII, so reading it as text loses nothing.
      have noSpace : 32 ∉ uri := by
        have member : uri ∈ line.splitOn 32 := by simp [parts]
        exact Bytes.not_mem_of_mem_splitOn member
      have ascii := Text.ascii_of_isToken token
      obtain ⟨text, read, h⟩ := exists_of_bind_ok h
      obtain ⟨version, _, h⟩ := exists_of_bind_ok h
      cases h
      refine ⟨Text.ofAscii octets, text, version, ?_, isTarget_of_target noSpace read, ?_⟩
      · rwa [Text.ofText_ofAscii ascii]
      · rw [Method.ofBytes, Text.decodeLossy_ascii ascii]
    · cases h
  · cases h

theorem field_of_headerLine {line : Bytes} {field : Field} (unbroken : 10 ∉ line)
    (h : headerLine line = .ok field) :
    Text.isToken (Bytes.ofText field.name) = true ∧ IsValue field.value := by
  unfold headerLine at h
  split at h
  · next colon value name behind before =>
    split at h
    · next token =>
      split at h
      · next text read =>
        cases h
        rw [Bytes.text?_eq_some_iff.mp before] at token
        have octets := Bytes.text?_eq_some_iff.mp read
        refine ⟨token, ?_, ?_⟩
        · intro member
          rw [← octets] at member
          have inside : 10 ∈ line.dropWhile (· != 58) := by
            rw [behind]
            exact List.mem_cons_of_mem colon (Bytes.mem_of_mem_trimBy member)
          exact unbroken ((List.dropWhile_suffix _).subset inside)
        · rw [← octets]
          exact Bytes.trimmed_trimBy Text.isBlankByte value
      · cases h
    · cases h
  · cases h

theorem fields_of_headerLines {room : Nat} {lines : List Bytes} {fields : List Field}
    (unbroken : ∀ line ∈ lines, 10 ∉ line) (h : headerLines room lines = .ok fields) :
    fields.length ≤ room ∧
      ∀ field ∈ fields, Text.isToken (Bytes.ofText field.name) = true ∧ IsValue field.value := by
  induction lines generalizing room fields with
  | nil =>
      cases room <;> cases h <;> exact ⟨Nat.zero_le _, fun _ member => nomatch member⟩
  | cons line lines ih =>
      rw [List.forall_mem_cons] at unbroken
      cases room with
      | zero => cases h
      | succ room =>
          obtain ⟨field, read, h⟩ := exists_of_bind_ok h
          obtain ⟨more, later, h⟩ := exists_of_bind_ok h
          cases h
          obtain ⟨few, all⟩ := ih unbroken.2 later
          refine ⟨Nat.succ_le_succ few, ?_⟩
          rw [List.forall_mem_cons]
          exact ⟨field_of_headerLine unbroken.1 read, all⟩

theorem not_mem_of_mem_lines {head line : Bytes}
    (member : line ∈ (head.splitOn 10).map dropReturn) : 10 ∉ line := by
  obtain ⟨part, split, rfl⟩ := List.mem_map.mp member
  intro inside
  exact Bytes.not_mem_of_mem_splitOn split (mem_of_mem_dropReturn inside)

theorem lines_of_parse {maxHeaders : Nat} {head : Bytes} {request : Request} {framing : Framing}
    (h : parse maxHeaders head = .ok (request, framing)) :
    ∃ first lines start fields, (head.splitOn 10).map dropReturn = first :: lines ∧
      requestLine first = .ok start ∧ headerLines maxHeaders lines = .ok fields ∧
      request = { start with headers := ⟨fields⟩ } ∧ Framing.ofHeaders ⟨fields⟩ = .ok framing := by
  unfold parse at h
  split at h
  · cases h
  · next first lines divides =>
    obtain ⟨start, begins, h⟩ := exists_of_bind_ok h
    obtain ⟨fields, follow, h⟩ := exists_of_bind_ok h
    obtain ⟨framed, frames, h⟩ := exists_of_bind_ok h
    cases h
    exact ⟨first, lines, start, fields, divides, begins, follow, rfl, frames⟩

theorem parts_of_parse {maxHeaders : Nat} {head : Bytes} {request : Request} {framing : Framing}
    (h : parse maxHeaders head = .ok (request, framing)) :
    ∃ parts : Parts, parts.WellFormed ∧ parts.fields.length ≤ maxHeaders ∧
      request = parts.request ∧ Framing.ofHeaders ⟨parts.fields⟩ = .ok framing := by
  obtain ⟨first, lines, start, fields, divides, begins, follow, rfl, frames⟩ := lines_of_parse h
  have unbroken := @not_mem_of_mem_lines head
  rw [divides] at unbroken
  obtain ⟨method, uri, version, token, target, rfl⟩ := parts_of_requestLine begins
  obtain ⟨few, all⟩ :=
    fields_of_headerLines (fun line member => unbroken (List.mem_cons_of_mem first member)) follow
  refine ⟨⟨method, uri, version, fields⟩, ⟨token, target, ?_, ?_⟩, few, rfl, frames⟩
  · exact fun field stored => (all field stored).1
  · exact fun field stored => (all field stored).2

theorem Parts.reading_complete {parts : Parts} {framing : Framing} {maxHeaders : Nat}
    (few : parts.fields.length ≤ maxHeaders)
    (frames : Framing.ofHeaders ⟨parts.fields⟩ = .ok framing) :
    parts.reading maxHeaders = .complete parts.request framing := by
  rw [reading, if_neg (Nat.not_lt_of_le few), frames]

theorem decode_canonical {parts : Parts} (wellFormed : parts.WellFormed) {framing : Framing}
    (frames : Framing.ofHeaders ⟨parts.fields⟩ = .ok framing) {limits : Limits}
    (room : (parts.print []).length ≤ limits.maxHeadBytes)
    (few : parts.fields.length ≤ limits.maxHeaders) :
    decode limits (parts.print []) = (.complete parts.request framing, []) := by
  have none : IsGap [] := fun _ member => nomatch member
  have read := decode_printed none wellFormed limits 0 []
  rw [if_neg (Nat.not_lt_of_le room), Parts.reading_complete few frames, List.append_nil] at read
  exact read

theorem parsed_of_decode {limits : Limits} {buffer rest : Bytes} {request : Request}
    {framing : Framing} (h : decode limits buffer = (.complete request framing, rest)) :
    ∃ size, Bytes.FirstAt Bytes.blankLine (dropEmptyLines buffer) size ∧
      size + 4 ≤ limits.maxHeadBytes ∧ rest = (dropEmptyLines buffer).drop (size + 4) ∧
      parse limits.maxHeaders ((dropEmptyLines buffer).take size) = .ok (request, framing) := by
  cases position : Bytes.position? Bytes.blankLine (dropEmptyLines buffer) with
  | none =>
      rw [decode_missing limits position] at h
      split at h <;> cases h
  | some size =>
      have found := (Bytes.position?_eq_some_iff (by decide)).mp position
      rw [decode_found limits found] at h
      split at h
      · cases h
      · next room =>
        obtain ⟨reading, rfl⟩ := Prod.mk.inj h
        refine ⟨size, found, Nat.le_of_not_lt room, rfl, ?_⟩
        cases parsed : parse limits.maxHeaders ((dropEmptyLines buffer).take size) with
        | error reason =>
            rw [parsed] at reading
            cases reading
        | ok pair =>
            rw [parsed] at reading
            cases reading
            rfl

/-- What a head that is accepted takes out of the buffer: empty lines, and then lines up to
the first empty one. -/
theorem consumed_of_decode {limits : Limits} {buffer rest : Bytes} {request : Request}
    {framing : Framing} (h : decode limits buffer = (.complete request framing, rest)) :
    ∃ empties lines, buffer = emptyLines empties ++ (lines ++ Bytes.blankLine) ++ rest ∧
      Bytes.FirstAt Bytes.blankLine (lines ++ Bytes.blankLine ++ rest) lines.length ∧
      (lines ++ Bytes.blankLine).length ≤ limits.maxHeadBytes ∧
      parse limits.maxHeaders lines = .ok (request, framing) := by
  obtain ⟨empties, same, _⟩ := exists_emptyLines buffer
  obtain ⟨size, found, room, rfl, parsed⟩ := parsed_of_decode h
  have length : ((dropEmptyLines buffer).take size).length = size := by
    have fits := found.fits (by decide)
    rw [List.length_take]
    omega
  refine ⟨empties, (dropEmptyLines buffer).take size, ?_, ?_, ?_, parsed⟩
  · conv => lhs; rw [same, found.divides]
    rw [List.append_assoc (emptyLines empties)]
    rfl
  · rw [length]
    exact found.replace (by decide) _
  · rw [List.length_append, length]
    exact room

/-- A head that is accepted is well-formed and keeps the limits, and the canonical print of
its request is read as that request, whatever form the head itself had. -/
theorem wellFormed_of_decode {limits : Limits} {buffer rest : Bytes} {request : Request}
    {framing : Framing} (h : decode limits buffer = (.complete request framing, rest)) :
    (∃ empties lines, buffer = emptyLines empties ++ (lines ++ Bytes.blankLine) ++ rest ∧
      Bytes.FirstAt Bytes.blankLine (lines ++ Bytes.blankLine ++ rest) lines.length ∧
      (lines ++ Bytes.blankLine).length ≤ limits.maxHeadBytes) ∧
    request.parts.WellFormed ∧ request.headers.fields.length ≤ limits.maxHeaders ∧
    ∀ other : Limits, (request.parts.print []).length ≤ other.maxHeadBytes →
      request.headers.fields.length ≤ other.maxHeaders →
      decode other (request.parts.print []) = (.complete request framing, []) := by
  obtain ⟨empties, lines, same, found, room, parsed⟩ := consumed_of_decode h
  obtain ⟨parts, wellFormed, few, rfl, frames⟩ := parts_of_parse parsed
  rw [parts_request]
  refine ⟨⟨empties, lines, same, found, room⟩, wellFormed, few, ?_⟩
  intro other wide many
  exact decode_canonical wellFormed frames wide many

/-- A head behind empty lines that ends a line in a bare line feed, and blanks a value. -/
def looseHead : Bytes := Bytes.ofText "\r\n\r\nGET /a?b HTTP/1.1\nHost:\t x:1 \r\r\n\r\nrest"

def looseRequest : Request where
  method := .get
  uri := "/a?b"
  headers := ⟨[⟨"Host", "x:1"⟩]⟩

theorem wellFormed_looseRequest :
    decode { maxHeaders := 1 } looseHead =
        (.complete looseRequest .empty, Bytes.ofText "rest") ∧
      looseRequest.parts.WellFormed ∧
      decode { maxHeadBytes := (looseRequest.parts.print []).length, maxHeaders := 1 }
          (looseRequest.parts.print []) = (.complete looseRequest .empty, []) := by
  have read : decode { maxHeaders := 1 } looseHead =
      (.complete looseRequest .empty, Bytes.ofText "rest") := by decide
  obtain ⟨_, wellFormed, few, canonical⟩ := wellFormed_of_decode read
  exact ⟨read, wellFormed, canonical _ (Nat.le_refl _) few⟩

end Head
end HttpServer
