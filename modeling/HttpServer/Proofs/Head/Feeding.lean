import HttpServer.Connection.Inbound
import HttpServer.Proofs.Head.Lines

/-! A head that arrives in segments. The decoder drops empty lines whenever it is called, and
it tests the size of a head in two ways, with and without its end in sight; neither makes the
cuts between the segments matter. -/
namespace HttpServer.Head

theorem decode_congr (limits : Limits) {first second : Bytes}
    (same : dropEmptyLines first = dropEmptyLines second) :
    decode limits first = decode limits second := by
  simp only [decode, same]

/-- A decoder that waits keeps all that it needs of the octets it has seen. -/
theorem decode_waiting {limits : Limits} {buffer rest : Bytes}
    (waits : decode limits buffer = (.incomplete, rest)) (more : Bytes) :
    decode limits (buffer ++ more) = decode limits (rest ++ more) := by
  have kept : rest = dropEmptyLines buffer := by
    cases position : Bytes.position? Bytes.blankLine (dropEmptyLines buffer) with
    | none =>
        rw [decode_missing limits position] at waits
        exact (Prod.mk.inj waits).2.symm
    | some size =>
        have found := (Bytes.position?_eq_some_iff (by decide)).mp position
        rw [decode_found limits found] at waits
        split at waits
        · cases waits
        · have reading := (Prod.mk.inj waits).1
          cases parsed : parse limits.maxHeaders ((dropEmptyLines buffer).take size) <;>
            rw [parsed] at reading <;> cases reading
  rw [kept]
  exact decode_congr limits (dropEmptyLines_append buffer more)

/-- A buffer that has outgrown the limit stays refused, wherever its head may end. -/
theorem decode_outgrown {limits : Limits} (room : 1 ≤ limits.maxHeadBytes) {buffer : Bytes}
    (missing : Bytes.position? Bytes.blankLine (dropEmptyLines buffer) = none)
    (outgrown : limits.maxHeadBytes < (dropEmptyLines buffer).length) (more : Bytes) :
    decode limits (buffer ++ more) = (.rejected .headTooLarge, dropEmptyLines buffer ++ more) := by
  have two : 2 ≤ (dropEmptyLines buffer).length := by omega
  have dropped := dropEmptyLines_append_of_two two more
  cases position : Bytes.position? Bytes.blankLine (dropEmptyLines (buffer ++ more)) with
  | none =>
      have long : limits.maxHeadBytes < (dropEmptyLines buffer ++ more).length := by
        rw [List.length_append]
        omega
      rw [decode_missing limits position, dropped, if_pos long]
  | some size =>
      have found := (Bytes.position?_eq_some_iff (by decide)).mp position
      rw [dropped] at position
      -- The end of the head lies beyond the octets that are too many already.
      have reach := Bytes.position?_append_of_none (by decide) missing position
      have late : limits.maxHeadBytes < size + 4 := Nat.lt_trans outgrown reach
      rw [decode_found limits found, if_pos late, dropped]

/-- What is decided stays decided, and later octets are left unread. -/
theorem decode_settled {limits : Limits} (room : 1 ≤ limits.maxHeadBytes) {buffer rest : Bytes}
    {reading : Reading} (h : decode limits buffer = (reading, rest))
    (settled : reading ≠ .incomplete) (more : Bytes) :
    decode limits (buffer ++ more) = (reading, rest ++ more) := by
  cases position : Bytes.position? Bytes.blankLine (dropEmptyLines buffer) with
  | none =>
      rw [decode_missing limits position] at h
      obtain ⟨rfl, rfl⟩ := Prod.mk.inj h
      by_cases outgrown : limits.maxHeadBytes < (dropEmptyLines buffer).length
      · rw [if_pos outgrown]
        exact decode_outgrown room position outgrown more
      · rw [if_neg outgrown] at settled
        exact absurd rfl settled
  | some size =>
      have found := (Bytes.position?_eq_some_iff (by decide)).mp position
      have fits : size + 4 ≤ (dropEmptyLines buffer).length := found.fits (by decide)
      have two : 2 ≤ (dropEmptyLines buffer).length := by omega
      have dropped := dropEmptyLines_append_of_two two more
      have again : Bytes.FirstAt Bytes.blankLine (dropEmptyLines buffer ++ more) size :=
        (Bytes.firstAt_append fits).mpr found
      rw [← dropped] at again
      rw [decode_found limits found] at h
      rw [decode_found limits again, dropped, List.take_append_of_le_length (by omega),
        List.drop_append_of_le_length fits]
      split at h
      · next large =>
        cases h
        rw [if_pos large]
      · next small =>
        cases h
        rw [if_neg small]

/-- What feeding segments to the decoder comes to; the segments after the one that settled
the head are left unfed. -/
structure Fed where
  reading : Reading
  rest : Bytes
  unfed : List Bytes
  deriving DecidableEq

def Fed.unread (fed : Fed) : Bytes := fed.rest ++ fed.unfed.flatten

/-- Feeds segments one after another, decoding after each, as long as the head is incomplete. -/
def feed (limits : Limits) (buffer : Bytes) : List Bytes → Fed
  | [] => ⟨.incomplete, buffer, []⟩
  | segment :: more =>
      match decode limits (buffer ++ segment) with
      | (.incomplete, rest) => feed limits rest more
      | (reading, rest) => ⟨reading, rest, more⟩

theorem feed_waiting {limits : Limits} {buffer segment rest : Bytes}
    (waits : decode limits (buffer ++ segment) = (.incomplete, rest)) (more : List Bytes) :
    feed limits buffer (segment :: more) = feed limits rest more := by
  rw [feed, waits]

theorem feed_settled {limits : Limits} {buffer segment rest : Bytes} {reading : Reading}
    (h : decode limits (buffer ++ segment) = (reading, rest)) (settled : reading ≠ .incomplete)
    (more : List Bytes) : feed limits buffer (segment :: more) = ⟨reading, rest, more⟩ := by
  cases reading with
  | incomplete => exact absurd rfl settled
  | rejected reason => rw [feed, h]
  | complete request framing => rw [feed, h]

/-- A head that is complete in the end was decoded from some buffer, and segments that come after
it do not matter. -/
theorem feed_complete {limits : Limits} {buffer rest : Bytes} {segments unfed : List Bytes}
    {request : Request} {framing : Framing}
    (h : feed limits buffer segments = ⟨.complete request framing, rest, unfed⟩) :
    ∃ taken whole, segments = taken ++ unfed ∧
      decode limits whole = (.complete request framing, rest) ∧
      (∀ more, decode limits (buffer ++ (taken.flatten ++ more)) = decode limits (whole ++ more)) ∧
      ∀ other, feed limits buffer (taken ++ other) = ⟨.complete request framing, rest, other⟩ := by
  induction segments generalizing buffer with
  | nil => cases h
  | cons segment segments ih =>
      cases decoded : decode limits (buffer ++ segment) with
      | mk reading left =>
          by_cases waits : reading = .incomplete
          · subst waits
            rw [feed_waiting decoded] at h
            obtain ⟨taken, whole, rfl, complete, same, again⟩ := ih h
            refine ⟨segment :: taken, whole, rfl, complete, fun more => ?_, fun other => ?_⟩
            · rw [← same, ← decode_waiting decoded, List.flatten_cons, List.append_assoc,
                List.append_assoc]
            · rw [List.cons_append, feed_waiting decoded]
              exact again other
          · rw [feed_settled decoded waits] at h
            cases h
            refine ⟨[segment], buffer ++ segment, rfl, decoded, fun more => ?_, fun other => ?_⟩
            · rw [List.flatten_singleton, List.append_assoc]
            · exact feed_settled decoded waits other

def Fed.opening : Fed → Inbound.Opening
  | ⟨.complete request framing, rest, unfed⟩ => .complete request framing rest unfed
  | ⟨.rejected reason, _, _⟩ => .rejected reason
  | ⟨.incomplete, _, _⟩ => .cut

theorem Fed.opening_incomplete {fed : Fed} (waits : fed.reading = .incomplete) :
    fed.opening = .cut := by
  obtain ⟨reading, rest, unfed⟩ := fed
  cases waits
  rfl

theorem Fed.opening_rejected {fed : Fed} {reason : ParseError}
    (rejected : fed.reading = .rejected reason) : fed.opening = .rejected reason := by
  obtain ⟨reading, rest, unfed⟩ := fed
  cases rejected
  rfl

theorem readHead_append (limits : Limits) (buffer first : Bytes) (more : List Bytes) :
    Inbound.readHead limits (buffer ++ first) more = (feed limits buffer (first :: more)).opening := by
  induction more generalizing buffer first with
  | nil =>
      rw [Inbound.readHead, feed]
      cases decode limits (buffer ++ first) with
      | mk reading rest => cases reading <;> rfl
  | cons next more ih =>
      rw [Inbound.readHead, feed]
      cases decode limits (buffer ++ first) with
      | mk reading rest =>
          cases reading with
          | complete request framing => rfl
          | rejected reason => rfl
          | incomplete => exact ih rest next

theorem decode_nil (limits : Limits) : decode limits [] = (.incomplete, []) := by
  rw [decode_missing limits rfl]
  exact congrArg (·, []) (if_neg (Nat.not_lt_zero _))

/-- A connection reads its head by feeding. -/
theorem readHead_eq_feed (limits : Limits) (segments : List Bytes) :
    Inbound.readHead limits [] segments = (feed limits [] segments).opening := by
  rw [Inbound.readHead, decode_nil]
  cases segments with
  | nil => rfl
  | cons first more => exact readHead_append limits [] first more

theorem feed_buffer {limits : Limits} (room : 1 ≤ limits.maxHeadBytes) (buffer first : Bytes)
    (more : List Bytes) :
    ((feed limits buffer (first :: more)).reading, (feed limits buffer (first :: more)).unread) =
      decode limits (buffer ++ (first :: more).flatten) := by
  induction more generalizing buffer first with
  | nil =>
      have one : [first].flatten = first := List.append_nil first
      rw [one]
      cases h : decode limits (buffer ++ first) with
      | mk reading rest =>
          have unread : rest ++ ([] : List Bytes).flatten = rest := List.append_nil rest
          by_cases waits : reading = .incomplete
          · subst waits
            rw [feed_waiting h, feed, Fed.unread, unread]
          · rw [feed_settled h waits, Fed.unread, unread]
  | cons next more ih =>
      rw [List.flatten_cons, ← List.append_assoc]
      cases h : decode limits (buffer ++ first) with
      | mk reading rest =>
          by_cases waits : reading = .incomplete
          · subst waits
            rw [feed_waiting h, decode_waiting h]
            exact ih rest next
          · rw [feed_settled h waits, decode_settled room h waits]
            rfl

theorem feed_of_decode {limits : Limits} (room : 1 ≤ limits.maxHeadBytes)
    {segments : List Bytes} {request : Request} {framing : Framing} {rest : Bytes}
    (decoded : decode limits segments.flatten = (.complete request framing, rest)) :
    ∃ buffer more, (buffer :: more).flatten = rest ∧
      feed limits [] segments = ⟨.complete request framing, buffer, more⟩ := by
  cases segments with
  | nil =>
      rw [List.flatten_nil, decode_nil] at decoded
      cases decoded
  | cons first more =>
      have same := feed_buffer room [] first more
      rw [List.nil_append, decoded] at same
      cases fed : feed limits [] (first :: more) with
      | mk reading buffer unfed =>
          rw [fed] at same
          cases same
          exact ⟨buffer, unfed, rfl, rfl⟩

/-- Feeding a head in segments comes to the same as decoding it at once: the reading is the
same, and so are the octets that are left unread. -/
theorem feed_eq_decode {limits : Limits} (room : 1 ≤ limits.maxHeadBytes) (first : Bytes)
    (more : List Bytes) :
    (feed limits [] (first :: more)).reading = (decode limits (first :: more).flatten).1 ∧
      (feed limits [] (first :: more)).unread = (decode limits (first :: more).flatten).2 := by
  have same := feed_buffer room [] first more
  rw [List.nil_append] at same
  exact ⟨congrArg Prod.fst same, congrArg Prod.snd same⟩

/-- The cuts fall between the two octets of an empty line and inside the end of the head, and
the head has just the length that it may have. -/
theorem feed_cutEnds :
    1 ≤ ({ maxHeadBytes := 18 } : Limits).maxHeadBytes ∧
      (feed { maxHeadBytes := 18 } []
          (["\r", "\nGET / HTTP/1.1\r", "\n\r", "\nre", "st"].map Bytes.ofText)).reading =
        .complete { method := .get, uri := "/" } .empty ∧
      (feed { maxHeadBytes := 18 } []
          (["\r", "\nGET / HTTP/1.1\r", "\n\r", "\nre", "st"].map Bytes.ofText)).unread =
        Bytes.ofText "rest" := by
  have room : 1 ≤ ({ maxHeadBytes := 18 } : Limits).maxHeadBytes := by decide
  have same := feed_eq_decode room (Bytes.ofText "\r")
    (["\nGET / HTTP/1.1\r", "\n\r", "\nre", "st"].map Bytes.ofText)
  have atOnce : decode { maxHeadBytes := 18 } (Bytes.ofText "\r\nGET / HTTP/1.1\r\n\r\nrest") =
      (.complete { method := .get, uri := "/" } .empty, Bytes.ofText "rest") := by
    decide
  have joined : (Bytes.ofText "\r" ::
      ["\nGET / HTTP/1.1\r", "\n\r", "\nre", "st"].map Bytes.ofText).flatten =
      Bytes.ofText "\r\nGET / HTTP/1.1\r\n\r\nrest" := by
    decide
  rw [joined, atOnce] at same
  exact ⟨room, same⟩

/-- Without room for a single octet the cuts do matter: half an empty line is too much then,
though a whole one is dropped. -/
theorem feed_ne_decode_of_no_room {limits : Limits} (noRoom : limits.maxHeadBytes = 0) :
    (feed limits [] [[13], [10]]).reading ≠ (decode limits [13, 10]).1 := by
  have half : decode limits ([] ++ [13]) = (.rejected .headTooLarge, [13]) := by
    rw [decode_missing limits (by decide), noRoom]
    rfl
  have whole : decode limits [13, 10] = (.incomplete, []) := by
    rw [decode_missing limits (by decide), noRoom]
    rfl
  have settled : Reading.rejected .headTooLarge ≠ .incomplete := nofun
  rw [feed_settled half settled, whole]
  exact settled

end HttpServer.Head
