import HttpServer.Proofs.Ascii
import HttpServer.Proofs.Head.Lines
import HttpServer.Proofs.Trimming

/-! Heads as a client prints them. Whatever parts a head may have, reading the printed head
gives these parts back, and takes out of the buffer just what was printed. -/
namespace HttpServer

theorem Method.name_ofName (name : String) : (Method.ofName name).name = name := by
  unfold Method.ofName
  split <;> rfl

namespace Request

theorem path_append_query (request : Request) :
    request.path ++ request.query.elim "" ("?" ++ ·) = request.uri := by
  have whole := List.takeWhile_append_dropWhile (p := (· != '?')) (l := request.uri.toList)
  apply String.toList_injective
  rw [String.toList_append, path, String.toList_ofList]
  conv => rhs; rw [← whole]
  congr 1
  unfold query
  split
  · next none => simp [none]
  · next c rest found =>
    have mark : c = '?' := by
      have starts := List.head?_dropWhile_not (· != '?') request.uri.toList
      rw [found] at starts
      simpa using starts
    simp [found, mark]

theorem not_mem_path (request : Request) : '?' ∉ request.path.toList := by
  rw [path, String.toList_ofList]
  intro member
  have passed := List.all_eq_true.mp List.all_takeWhile '?' member
  simp at passed

end Request

namespace Head

/-- What the head of a request says. -/
structure Parts where
  method : String
  uri : String
  version : Version
  fields : List Field
  deriving DecidableEq, Repr

/-- A target: not empty, and without spaces and controls. -/
structure IsTarget (uri : String) : Prop where
  filled : uri ≠ ""
  free : ∀ b ∈ Bytes.ofText uri, b ≠ 32 ∧ Text.isControlByte b = false

/-- A header value: without line feeds, and without blanks at its ends. -/
structure IsValue (value : String) : Prop where
  unbroken : 10 ∉ Bytes.ofText value
  trimmed : Bytes.Trimmed Text.isBlankByte (Bytes.ofText value)

namespace Parts

structure WellFormed (parts : Parts) : Prop where
  method : Text.isToken (Bytes.ofText parts.method) = true
  target : IsTarget parts.uri
  names : ∀ field ∈ parts.fields, Text.isToken (Bytes.ofText field.name) = true
  values : ∀ field ∈ parts.fields, IsValue field.value

/-- The request that a head announces; its body is still to come. -/
def request (parts : Parts) : Request :=
  { method := .ofName parts.method, uri := parts.uri, version := parts.version,
    headers := ⟨parts.fields⟩ }

def requestText (parts : Parts) : Bytes :=
  Bytes.ofText parts.method ++ [32] ++ Bytes.ofText parts.uri ++ [32] ++
    Bytes.ofText parts.version.name

end Parts
end Head

def Request.parts (request : Request) : Head.Parts :=
  ⟨request.method.name, request.uri, request.version, request.headers.fields⟩

namespace Head

theorem parts_request (parts : Parts) : parts.request.parts = parts := by
  rw [Request.parts, Parts.request, Method.name_ofName]

/-- A header line without its line end; `gap` stands before the value. -/
def fieldText (gap : Bytes) (field : Field) : Bytes :=
  Bytes.ofText field.name ++ [58] ++ gap ++ Bytes.ofText field.value

namespace Parts

def lines (gap : Bytes) (parts : Parts) : List Bytes :=
  parts.requestText :: parts.fields.map (fieldText gap)

def print (gap : Bytes) (parts : Parts) : Bytes :=
  (parts.lines gap).flatMap (· ++ Bytes.crlf) ++ Bytes.crlf

theorem print_eq (gap : Bytes) (parts : Parts) :
    parts.print gap = Bytes.joinLines (parts.lines gap) ++ Bytes.blankLine := by
  rw [print, lines, Bytes.flatMap_crlf, List.append_assoc]
  rfl

end Parts

/-- What may stand between a colon and a value: spaces and tabs. -/
def IsGap (gap : Bytes) : Prop := ∀ b ∈ gap, b = 32 ∨ b = 9

theorem IsGap.blank {gap : Bytes} (h : IsGap gap) : ∀ b ∈ gap, Text.isBlankByte b = true := by
  intro b member
  rcases h b member with rfl | rfl <;> decide

theorem IsTarget.not_mem {uri : String} (target : IsTarget uri) {b : UInt8}
    (other : b = 32 ∨ Text.isControlByte b = true) : b ∉ Bytes.ofText uri := by
  intro member
  obtain ⟨noSpace, noControl⟩ := target.free b member
  rcases other with rfl | control
  · exact noSpace rfl
  · rw [control] at noControl
    cases noControl

theorem ofText_ne_nil {text : String} (filled : text ≠ "") : Bytes.ofText text ≠ [] := by
  intro empty
  exact filled (Bytes.ofText_injective (empty.trans rfl))

theorem not_mem_version (version : Version) :
    10 ∉ Bytes.ofText version.name ∧ 32 ∉ Bytes.ofText version.name := by
  cases version <;> decide

theorem last_version (version : Version) :
    ∃ b, (Bytes.ofText version.name).getLast? = some b ∧ b ≠ 13 := by
  cases version with
  | http10 => exact ⟨48, by decide, by decide⟩
  | http11 => exact ⟨49, by decide, by decide⟩

theorem stands_requestText {parts : Parts} (wellFormed : parts.WellFormed) :
    Stands parts.requestText := by
  have method := Text.not_mem_of_isToken wellFormed.method (show Text.isTokenByte 10 = false by decide)
  have target := wellFormed.target.not_mem (b := 10) (.inr (by decide))
  refine ⟨by simp [Parts.requestText], ?_, ?_⟩
  · simp [Parts.requestText, method, target, (not_mem_version parts.version).1]
  · obtain ⟨b, last, other⟩ := last_version parts.version
    rw [Parts.requestText, List.getLast?_append, last]
    simpa using other

theorem stands_fieldText {gap : Bytes} (isGap : IsGap gap) {field : Field}
    (name : Text.isToken (Bytes.ofText field.name) = true) (value : IsValue field.value) :
    Stands (fieldText gap field) := by
  have unbroken := Text.not_mem_of_isToken name (show Text.isTokenByte 10 = false by decide)
  have gapUnbroken : 10 ∉ gap := fun member => by
    rcases isGap 10 member with same | same <;> cases same
  refine ⟨by simp [fieldText], by simp [fieldText, unbroken, gapUnbroken, value.unbroken], ?_⟩
  intro last
  rw [fieldText, List.getLast?_append] at last
  -- The line ends in its value, or in the gap if the value is empty, or else in the colon.
  cases ends : (Bytes.ofText field.value).getLast? with
  | some b =>
      rw [ends] at last
      have keeps := value.trimmed.last b ends
      cases last
      cases keeps
  | none =>
      rw [ends, List.getLast?_append] at last
      cases gapEnds : gap.getLast? with
      | some b =>
          rw [gapEnds] at last
          cases last
          rcases isGap 13 (List.mem_of_getLast? gapEnds) with same | same <;> cases same
      | none =>
          rw [gapEnds, List.getLast?_concat] at last
          cases last

theorem stands_lines {gap : Bytes} (isGap : IsGap gap) {parts : Parts}
    (wellFormed : parts.WellFormed) : ∀ line ∈ parts.lines gap, Stands line := by
  intro line member
  rcases List.mem_cons.mp member with rfl | member
  · exact stands_requestText wellFormed
  · obtain ⟨field, stored, rfl⟩ := List.mem_map.mp member
    exact stands_fieldText isGap (wellFormed.names field stored) (wellFormed.values field stored)

theorem target_ofText {uri : String} (isTarget : IsTarget uri) :
    target (Bytes.ofText uri) = .ok uri := by
  have filled : (Bytes.ofText uri).isEmpty = false := by
    simpa using ofText_ne_nil isTarget.filled
  have free : (Bytes.ofText uri).any Text.isControlByte = false := by
    rw [List.any_eq_false]
    intro b member
    simp [(isTarget.free b member).2]
  rw [target, filled, free]
  simp

theorem version_name (protocol : Version) : version (Bytes.ofText protocol.name) = .ok protocol := by
  cases protocol <;> rfl

theorem ofBytes_ofText {method : String} (token : Text.isToken (Bytes.ofText method) = true) :
    Method.ofBytes (Bytes.ofText method) = .ofName method := by
  rw [Method.ofBytes, Text.decodeLossy_ofText (Text.ascii_of_isToken token)]

theorem requestLine_requestText {parts : Parts} (wellFormed : parts.WellFormed) :
    requestLine parts.requestText = .ok { parts.request with headers := {} } := by
  have method := Text.not_mem_of_isToken wellFormed.method (show Text.isTokenByte 32 = false by decide)
  have uri := wellFormed.target.not_mem (b := 32) (.inl rfl)
  have divided : parts.requestText.splitOn 32 =
      [Bytes.ofText parts.method, Bytes.ofText parts.uri, Bytes.ofText parts.version.name] := by
    simp only [Parts.requestText, List.append_assoc, List.cons_append, List.nil_append]
    rw [Bytes.splitOn_line method, Bytes.splitOn_line uri,
      List.splitOn_eq_singleton (not_mem_version parts.version).2]
  simp only [requestLine, divided, wellFormed.method, if_true, target_ofText wellFormed.target,
    version_name, ofBytes_ofText wellFormed.method]
  rfl

theorem headerLine_fieldText {gap : Bytes} (isGap : IsGap gap) {field : Field}
    (name : Text.isToken (Bytes.ofText field.name) = true) (value : IsValue field.value) :
    headerLine (fieldText gap field) = .ok field := by
  have passed : ∀ b ∈ Bytes.ofText field.name, (b != 58) = true := by
    intro b member
    have inside := Text.isGraphicByte_of_isTokenByte ((Text.isToken_iff.mp name).2 b member)
    simpa using inside.2
  have split : fieldText gap field =
      Bytes.ofText field.name ++ 58 :: (gap ++ Bytes.ofText field.value) := by
    simp [fieldText]
  have before : (fieldText gap field).takeWhile (· != 58) = Bytes.ofText field.name := by
    rw [split, List.takeWhile_append_of_pos passed]
    simp
  have behind : (fieldText gap field).dropWhile (· != 58) =
      58 :: (gap ++ Bytes.ofText field.value) := by
    rw [split, List.dropWhile_append_of_pos passed]
    simp
  simp only [headerLine, before, behind, Bytes.text?_ofText, name, if_true,
    Bytes.trimBy_of_trimmed isGap.blank value.trimmed]

theorem headerLines_fieldText {gap : Bytes} (isGap : IsGap gap) {fields : List Field}
    (names : ∀ field ∈ fields, Text.isToken (Bytes.ofText field.name) = true)
    (values : ∀ field ∈ fields, IsValue field.value) (room : Nat) :
    headerLines room (fields.map (fieldText gap)) =
      if room < fields.length then .error .tooManyHeaders else .ok fields := by
  induction fields generalizing room with
  | nil =>
      simp [headerLines]
  | cons field fields ih =>
      rw [List.forall_mem_cons] at names values
      cases room with
      | zero => simp [headerLines]
      | succ room =>
          rw [List.map_cons, headerLines, headerLine_fieldText isGap names.1 values.1,
            ih names.2 values.2 room]
          by_cases many : room < fields.length
          · simp [many, bind, Except.bind]
          · simp [many, bind, Except.bind, pure, Except.pure]

/-- The reading that parts call for where there may be `maxHeaders` fields. -/
def Parts.reading (maxHeaders : Nat) (parts : Parts) : Reading :=
  if maxHeaders < parts.fields.length then .rejected .tooManyHeaders
  else match Framing.ofHeaders ⟨parts.fields⟩ with
    | .error reason => .rejected reason
    | .ok framing => .complete parts.request framing

theorem parse_lines {gap : Bytes} (isGap : IsGap gap) {parts : Parts}
    (wellFormed : parts.WellFormed) (maxHeaders : Nat) :
    Reading.ofParsed (parse maxHeaders (Bytes.joinLines (parts.lines gap))) =
      parts.reading maxHeaders := by
  have stands := stands_lines isGap wellFormed
  rw [parse, Parts.lines, lines_joinLines stands]
  simp only [requestLine_requestText wellFormed,
    headerLines_fieldText isGap wellFormed.names wellFormed.values, bind, Except.bind]
  rw [Parts.reading]
  by_cases many : maxHeaders < parts.fields.length
  · simp only [many, if_true]
    rfl
  · simp only [many, if_false]
    cases Framing.ofHeaders ⟨parts.fields⟩ <;> rfl

theorem firstAt_print {gap : Bytes} (isGap : IsGap gap) {parts : Parts}
    (wellFormed : parts.WellFormed) (rest : Bytes) :
    Bytes.FirstAt Bytes.blankLine (parts.print gap ++ rest)
      (Bytes.joinLines (parts.lines gap)).length := by
  rw [Parts.print_eq]
  apply Bytes.firstAt_blankLine
  intro line member
  have stands := stands_lines isGap wellFormed line member
  exact .of_not_mem_lf stands.filled stands.unbroken

theorem dropEmptyLines_print {gap : Bytes} (isGap : IsGap gap) {parts : Parts}
    (wellFormed : parts.WellFormed) (empties : Nat) (rest : Bytes) :
    dropEmptyLines (emptyLines empties ++ parts.print gap ++ rest) = parts.print gap ++ rest := by
  have stands := stands_lines isGap wellFormed parts.requestText List.mem_cons_self
  have undivided : Bytes.Undivided parts.requestText :=
    .of_not_mem_lf stands.filled stands.unbroken
  rw [List.append_assoc, dropEmptyLines_emptyLines]
  apply dropEmptyLines_of_filled
  rw [Parts.print_eq, Parts.lines]
  obtain ⟨tail, starts⟩ :=
    Bytes.joinLines_starts parts.requestText (parts.fields.map (fieldText gap)) rest
  rw [starts]
  exact undivided.not_starts_crlf tail

theorem decode_printed {gap : Bytes} (isGap : IsGap gap) {parts : Parts}
    (wellFormed : parts.WellFormed) (limits : Limits) (empties : Nat) (rest : Bytes) :
    decode limits (emptyLines empties ++ parts.print gap ++ rest) =
      if limits.maxHeadBytes < (parts.print gap).length then
        (.rejected .headTooLarge, parts.print gap ++ rest)
      else (parts.reading limits.maxHeaders, rest) := by
  have found := firstAt_print isGap wellFormed rest
  have dropped := dropEmptyLines_print isGap wellFormed empties rest
  rw [← dropped] at found
  have size : (parts.print gap).length = (Bytes.joinLines (parts.lines gap)).length + 4 := by
    rw [Parts.print_eq, List.length_append]
    rfl
  have head : (parts.print gap ++ rest).take (Bytes.joinLines (parts.lines gap)).length =
      Bytes.joinLines (parts.lines gap) := by
    rw [Parts.print_eq, List.append_assoc, List.take_left]
  rw [decode_found limits found, dropped, ← size, List.drop_left, head,
    parse_lines isGap wellFormed]

/-- Reading a printed head undoes printing, up to the limits, which hold exactly. -/
theorem decode_print {parts : Parts} (wellFormed : parts.WellFormed) (limits : Limits)
    (empties : Nat) (rest : Bytes) :
    decode limits (emptyLines empties ++ parts.print [32] ++ rest) =
        (if limits.maxHeadBytes < (parts.print [32]).length then
          (.rejected .headTooLarge, parts.print [32] ++ rest)
        else if limits.maxHeaders < parts.fields.length then (.rejected .tooManyHeaders, rest)
        else match Framing.ofHeaders ⟨parts.fields⟩ with
          | .error reason => (.rejected reason, rest)
          | .ok framing => (.complete parts.request framing, rest)) ∧
      parts.request.parts = parts ∧
      parts.request.path ++ parts.request.query.elim "" ("?" ++ ·) = parts.uri ∧
      '?' ∉ parts.request.path.toList := by
  have space : IsGap [32] := by
    intro b member
    exact .inl (List.mem_singleton.mp member)
  refine ⟨?_, parts_request parts, parts.request.path_append_query, parts.request.not_mem_path⟩
  rw [decode_printed space wellFormed, Parts.reading]
  split
  · rfl
  · split
    · rfl
    · cases Framing.ofHeaders ⟨parts.fields⟩ <;> rfl

/-- A head with a carriage return inside a value, letters beyond ASCII, and an empty value. -/
def noteParts : Parts where
  method := "PUT"
  uri := "/é?a=?"
  version := .http10
  fields := [⟨"X-Note", "a:\rb—c"⟩, ⟨"content-length", "007"⟩, ⟨"Empty", ""⟩]

theorem wellFormed_noteParts : noteParts.WellFormed := by
  have target : IsTarget noteParts.uri := ⟨by decide, by decide +kernel⟩
  have note : IsValue "a:\rb—c" := ⟨by decide +kernel, by decide +kernel, by decide +kernel⟩
  have length : IsValue "007" := ⟨by decide, by decide +kernel, by decide +kernel⟩
  have empty : IsValue "" := ⟨by decide, by decide +kernel, by decide +kernel⟩
  refine ⟨by decide, target, by decide +kernel, ?_⟩
  simp only [noteParts, List.forall_mem_cons]
  exact ⟨note, length, empty, fun _ member => nomatch member⟩

theorem decode_print_noteParts :
    noteParts.WellFormed ∧
      decode { maxHeadBytes := (noteParts.print [32]).length, maxHeaders := 3 }
          (emptyLines 2 ++ noteParts.print [32] ++ Bytes.blankLine) =
        (.complete noteParts.request (.length 7), Bytes.blankLine) := by
  refine ⟨wellFormed_noteParts, ?_⟩
  have framing : Framing.ofHeaders ⟨noteParts.fields⟩ = .ok (.length 7) := by rfl
  have read := (decode_print wellFormed_noteParts
    { maxHeadBytes := (noteParts.print [32]).length, maxHeaders := 3 } 2 Bytes.blankLine).1
  rw [if_neg (Nat.lt_irrefl _), if_neg (by decide), framing] at read
  exact read

end Head
end HttpServer
