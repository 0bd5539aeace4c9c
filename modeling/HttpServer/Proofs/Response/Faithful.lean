import HttpServer.HttpDate
import HttpServer.Proofs.Ascii
import HttpServer.Proofs.Headers
import HttpServer.Proofs.Response.ReadBack

/-! What a reader finds in a written response: the status, the stored fields that can be
written, the fields that are added, and the body. No stored text makes it find another
line, or the end of the head elsewhere. -/
namespace HttpServer.Response

theorem unbroken_append {first second : String} :
    Unbroken (first ++ second) ↔ Unbroken first ∧ Unbroken second := by
  simp only [Unbroken, Bytes.ofText_append, List.forall_mem_append]

theorem breaksLine_ascii {octet : UInt8} (digit : (Text.charOf octet).isDigit = true) :
    ∀ b ∈ String.utf8EncodeChar (Text.charOf octet), breaksLine b = false := by
  revert octet
  apply Text.forall_byte
  decide +kernel

theorem breaksLine_digit {c : Char} (digit : c.isDigit = true) {b : UInt8}
    (member : b ∈ String.utf8EncodeChar c) : breaksLine b = false := by
  obtain ⟨_, below⟩ := Char.isDigit_iff_toNat.mp digit
  obtain ⟨octet, rfl⟩ := Text.exists_charOf (Nat.lt_of_le_of_lt below (by decide))
  exact breaksLine_ascii digit b member

theorem unbroken_toString (n : Nat) : Unbroken (toString n) := by
  intro b member
  have digits : toString n = String.ofList (Nat.toDigits 10 n) := rfl
  rw [digits, Bytes.ofText_ofList, List.mem_flatMap] at member
  obtain ⟨c, digit, member⟩ := member
  exact breaksLine_digit (Nat.isDigit_of_mem_toDigits (by decide) (by decide) digit) member

theorem unbroken_twoDigits (n : Nat) : Unbroken (HttpDate.twoDigits n) := by
  rw [HttpDate.twoDigits, unbroken_append]
  refine ⟨?_, unbroken_toString n⟩
  split <;> decide

theorem unbroken_getD {texts : List String} (all : ∀ text ∈ texts, Unbroken text) (index : Nat) :
    Unbroken (texts[index]?.getD "") := by
  cases found : texts[index]? with
  | none => decide
  | some text => exact all text (List.mem_of_getElem? found)

theorem unbroken_line (weekday day month year hour minute second : Nat) :
    Unbroken (HttpDate.line weekday day month year hour minute second) := by
  have weekdays := @unbroken_getD HttpDate.weekdays (by decide)
  have months := @unbroken_getD HttpDate.months (by decide)
  have separators : ∀ text ∈ [", ", " ", ":", " GMT"], Unbroken text := by decide
  simp only [List.forall_mem_cons] at separators
  obtain ⟨comma, space, colon, zone, -⟩ := separators
  simp only [HttpDate.line, unbroken_append, weekdays, months, comma, space, colon, zone,
    unbroken_twoDigits, unbroken_toString, and_self]

theorem unbroken_date (seconds : Nat) : Unbroken (HttpDate.ofSeconds seconds) :=
  unbroken_line _ _ _ _ _ _ _

theorem unbroken_reason (status : Nat) : Unbroken (Status.reason status) := by
  unfold Status.reason
  split <;> decide

def statusText (response : Response) : String :=
  "HTTP/1.1 " ++ toString response.status ++ " " ++ response.reason

theorem isLine_statusText (response : Response) : IsLine (Bytes.ofText response.statusText) := by
  have version : Bytes.ofText "HTTP/1.1 " ≠ [] := by decide
  refine ⟨?_, Unbroken.not_mem ?_⟩
  · simp [statusText, Bytes.ofText_append, version]
  · simp only [statusText, unbroken_append]
    exact ⟨⟨⟨by decide, unbroken_toString _⟩, by decide⟩, unbroken_reason _⟩

/-- The fields that a reader is to find: the stored ones in their order, but for those
about the connection and those that cannot be written, and then the added ones. -/
def sentFields (date : String) (response : Response) : List Field :=
  let stored := response.headers.fields
  stored.filter (fun field => !field.isNamed "connection" && isWritable field)
    ++ (if Status.isBodiless response.status ∨ ∃ field ∈ stored, field.isNamed "content-length"
      then [] else [⟨"Content-Length", toString response.body.length⟩])
    ++ (if ∃ field ∈ stored, field.isNamed "date" then [] else [⟨"Date", date⟩])
    ++ [⟨"Connection", "close"⟩]

theorem contains_iff {headers : Headers} {name : String} :
    headers.contains name = true ↔ ∃ field ∈ headers.fields, field.isNamed name = true := by
  rw [Headers.contains, Headers.get?, Option.isSome_map, List.find?_isSome]

theorem writtenFields_eq (date : String) (response : Response) :
    response.writtenFields date = response.sentFields date := by
  simp only [writtenFields, ownFields, lengthField, dateField, sentFields, List.filter_filter,
    Bool.or_eq_true, contains_iff]
  simp only [Bool.and_comm]

def IsNameChar (c : Char) : Prop :=
  ∀ b ∈ String.utf8EncodeChar c, Text.isGraphicByte b = true ∧ b ≠ 58

instance : DecidablePred IsNameChar := fun c => List.decidableBAll _ (String.utf8EncodeChar c)

theorem isNameChar_capital {b : UInt8} (capital : (Text.charOf b).isUpper = true) :
    IsNameChar (Text.charOf b) ∧ IsNameChar (Text.charOf b).toLower := by
  revert b
  apply Text.forall_byte
  decide +kernel

theorem isNameChar_toLower (c : Char) : IsNameChar c.toLower ↔ IsNameChar c := by
  by_cases capital : c.isUpper = true
  · have range : 'A'.val ≤ c.val ∧ c.val ≤ 'Z'.val := of_decide_eq_true capital
    have small : c.toNat < 256 :=
      Nat.lt_of_le_of_lt (UInt32.le_iff_toNat_le.mp range.2) (by decide)
    obtain ⟨b, rfl⟩ := Text.exists_charOf small
    obtain ⟨upper, lower⟩ := isNameChar_capital capital
    exact ⟨fun _ => upper, fun _ => lower⟩
  · have other : ¬('A'.val ≤ c.val ∧ c.val ≤ 'Z'.val) := fun range => capital (decide_eq_true range)
    have kept : c.toLower = c := dif_neg other
    rw [kept]

theorem forall_caseless (name : String) : (∀ c ∈ Text.caseless name, IsNameChar c) ↔
    ∀ b ∈ Bytes.ofText name, Text.isGraphicByte b = true ∧ b ≠ 58 := by
  have octets : Bytes.ofText name = name.toList.flatMap String.utf8EncodeChar := by
    rw [← Bytes.ofText_ofList, String.ofList_toList]
  rw [octets, List.forall_mem_flatMap, Text.caseless, List.forall_mem_map]
  simp only [isNameChar_toLower]
  exact Iff.rfl

theorem isWritable_of_sameName {spelling name value : String}
    (same : Text.sameName spelling name = true) (named : isWritable ⟨name, ""⟩ = true)
    (unbroken : Unbroken value) : isWritable ⟨spelling, value⟩ = true := by
  obtain ⟨filled, octets, _⟩ := isWritable_iff.mp named
  rw [Text.sameName_iff] at same
  rw [← forall_caseless, ← same, forall_caseless] at octets
  refine isWritable_iff.mpr ⟨?_, octets, unbroken⟩
  intro empty
  have none : spelling = "" := Bytes.ofText_injective (empty.trans rfl)
  rw [none, eq_comm] at same
  have alsoNone : name = "" := String.toList_eq_nil_iff.mp (List.map_eq_nil_iff.mp same)
  exact filled (congrArg Bytes.ofText alsoNone)

theorem isWritable_of_unbroken {name value : String} (named : isWritable ⟨name, ""⟩ = true)
    (unbroken : Unbroken value) : isWritable ⟨name, value⟩ = true :=
  isWritable_of_sameName (Text.sameName_refl name) named unbroken

/-- What is written of a field whose name can be written depends on its value alone. -/
theorem filter_isWritable {name : String} (named : isWritable ⟨name, ""⟩ = true) (value : String) :
    [(⟨name, value⟩ : Field)].filter isWritable =
      if Unbroken value then [⟨name, value⟩] else [] := by
  by_cases unbroken : Unbroken value
  · rw [if_pos unbroken, List.filter_cons_of_pos (isWritable_of_unbroken named unbroken),
      List.filter_nil]
  · rw [if_neg unbroken, List.filter_cons_of_neg, List.filter_nil]
    exact fun writable => unbroken (isWritable_iff.mp writable).2.2

theorem isWritable_writtenFields {response : Response} {date : String} (unbroken : Unbroken date)
    {field : Field} (written : field ∈ response.writtenFields date) : isWritable field = true := by
  simp only [writtenFields, List.mem_append, List.mem_singleton] at written
  rcases written with ((stored | length) | date) | rfl
  · exact (List.mem_filter.mp stored).2
  · rw [lengthField] at length
    split at length
    · cases length
    · rw [List.mem_singleton.mp length]
      exact isWritable_of_unbroken (by decide) (unbroken_toString _)
  · rw [dateField] at date
    split at date
    · cases date
    · rw [List.mem_singleton.mp date]
      exact isWritable_of_unbroken (by decide) unbroken
  · decide

theorem filter_added {P : Prop} [Decidable P] {own value name : String}
    (differs : Text.sameName own name = false) :
    (if P then [] else [(⟨own, value⟩ : Field)]).filter (·.isNamed name) = [] := by
  split
  · rfl
  · simp [Field.isNamed, differs]

theorem filter_sentFields (date : String) (response : Response) {name : String}
    (other : ∀ own ∈ ["Content-Length", "Date", "Connection"], Text.sameName own name = false) :
    (response.sentFields date).filter (·.isNamed name) =
      (response.headers.fields.filter (·.isNamed name)).filter isWritable := by
  simp only [List.forall_mem_cons] at other
  obtain ⟨length, day, connection, -⟩ := other
  have stored (field : Field) :
      (field.isNamed name && (!field.isNamed "connection" && isWritable field)) =
        (isWritable field && field.isNamed name) := by
    cases named : field.isNamed name with
    | false => simp
    | true =>
        have differs : field.isNamed "connection" = false := by
          rw [Field.isNamed_congr (show Text.sameName "connection" "Connection" = true by decide)]
          exact Field.not_isNamed (Text.sameName_symm _ _ ▸ connection) named
        simp [differs]
  have last : [(⟨"Connection", "close"⟩ : Field)].filter (·.isNamed name) = [] := by
    simp [Field.isNamed, connection]
  simp only [sentFields, List.filter_append, List.filter_filter, stored, filter_added length,
    filter_added day, last, List.append_nil]

theorem connection_sentFields (date : String) (response : Response) :
    (response.sentFields date).filter (·.isNamed "connection") = [⟨"Connection", "close"⟩] := by
  have stored : ∀ fields : List Field,
      (fields.filter (fun field => !field.isNamed "connection" && isWritable field)).filter
        (·.isNamed "connection") = [] := by
    intro fields
    rw [List.filter_filter, List.filter_eq_nil_iff]
    intro field _
    cases field.isNamed "connection" <;> simp
  simp only [sentFields, List.filter_append, stored,
    filter_added (show Text.sameName "Content-Length" "connection" = false by decide),
    filter_added (show Text.sameName "Date" "connection" = false by decide), List.nil_append]
  decide

/-- A response with a body, in which no stored field is about what is added, is written with all
its own fields that can be written and with the three that are added. -/
theorem writtenFields_of_plain {response : Response}
    (bodied : Status.isBodiless response.status = false)
    (plain : ∀ name ∈ response.headers.fields.map (·.name),
      ∀ own ∈ ["connection", "content-length", "date"], Text.sameName name own = false)
    (date : String) : response.writtenFields date =
      response.headers.fields.filter isWritable ++
        [⟨"Content-Length", toString response.body.length⟩, ⟨"Date", date⟩,
          ⟨"Connection", "close"⟩] := by
  have other {field : Field} (stored : field ∈ response.headers.fields) (own : String)
      (member : own ∈ ["connection", "content-length", "date"]) : field.isNamed own = false :=
    plain field.name (List.mem_map_of_mem stored) own member
  have unnamed (own : String) (member : own ∈ ["connection", "content-length", "date"]) :
      ¬ ∃ field ∈ response.headers.fields, field.isNamed own = true := by
    rintro ⟨field, stored, named⟩
    rw [other stored own member] at named
    cases named
  have own : response.headers.fields.filter
      (fun field => !field.isNamed "connection" && isWritable field) =
      response.headers.fields.filter isWritable := by
    refine List.filter_congr fun field stored => ?_
    rw [other stored "connection" (by decide), Bool.not_false, Bool.true_and]
  have length := unnamed "content-length" (by decide)
  have day := unnamed "date" (by decide)
  rw [writtenFields_eq, sentFields]
  simp only [own, bodied, length, day, Bool.false_eq_true, or_self, if_false, List.append_assoc,
    List.cons_append, List.nil_append]

theorem encodeInto_eq (buffer : Bytes) (date : String) (headOnly : Bool) (response : Response) :
    response.encodeInto buffer date headOnly = buffer ++
      (Bytes.ofText response.statusText ++ Bytes.crlf ++
        (response.writtenFields date).flatMap fieldLine ++ Bytes.crlf ++
        response.writtenBody headOnly) := by
  rw [encodeInto, List.foldl_append_eq_append]
  simp only [List.append_assoc]
  rfl

theorem read_encode (response : Response) {date : String} (unbroken : Unbroken date)
    (headOnly : Bool) : read (response.encode date headOnly) =
      some ⟨response.statusText, response.writtenFields date, response.writtenBody headOnly⟩ := by
  rw [encode, encodeInto_eq, List.nil_append]
  exact read_lines response.isLine_statusText
    (fun _ written => isWritable_writtenFields unbroken written) _

/-- A response is put after what the buffer holds, and a reader finds in it the status,
the fields that are to be found, and the body if there is to be one. One field only is
about the connection. -/
theorem read_encodeInto (response : Response) (headOnly : Bool) (buffer : Bytes) {date : String}
    (dated : Unbroken date) :
    ∃ sent, response.encodeInto buffer date headOnly = buffer ++ sent ∧
      read sent = some
        { statusLine := "HTTP/1.1 " ++ toString response.status ++ " " ++ response.reason
          fields := response.sentFields date
          body :=
            if headOnly = true ∨ Status.isBodiless response.status = true then []
            else response.body } ∧
      (response.sentFields date).filter (·.isNamed "connection") = [⟨"Connection", "close"⟩] := by
  refine ⟨_, encodeInto_eq _ _ _ _, ?_, connection_sentFields _ _⟩
  have writable := fun field => @isWritable_writtenFields response _ dated field
  rw [read_lines response.isLine_statusText writable, writtenFields_eq]
  simp only [writtenBody, Bool.or_eq_true]
  rfl

/-- A response with a field that would break its line, one about the connection, and a body that its
status does not allow. -/
def unruly : Response where
  status := 204
  headers := ⟨[⟨"X-Note", "a\r\nb"⟩, ⟨"connection", "keep-alive"⟩, ⟨"Via", "proxy"⟩]⟩
  body := Bytes.ofText "hi"

theorem read_unruly : Unbroken (HttpDate.ofSeconds 0) ∧
    ∃ sent, unruly.encodeInto (Bytes.ofText "before") (HttpDate.ofSeconds 0) false =
        Bytes.ofText "before" ++ sent ∧
      read sent = some
        { statusLine := "HTTP/1.1 204 No Content"
          fields := [⟨"Via", "proxy"⟩, ⟨"Date", HttpDate.ofSeconds 0⟩, ⟨"Connection", "close"⟩]
          body := [] } := by
  obtain ⟨sent, after, found, -⟩ :=
    read_encodeInto unruly false (Bytes.ofText "before") (unbroken_date 0)
  refine ⟨unbroken_date 0, sent, after, ?_⟩
  rw [found]
  decide +kernel

end HttpServer.Response
