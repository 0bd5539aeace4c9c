import HttpServer.Proofs.Body.Chunks
import HttpServer.Proofs.Body.Feeding

/-! Bodies that are read in every segmentation. All that a run of the decoder over the first octets
of such a body can come to is that it waits, and then the rest is read from where it waits. -/
namespace HttpServer.Body

/-- From a state, these octets are read as these data, to their end. The lines among them are short
enough to be waited for wherever they are cut. -/
inductive Reads : State → Bytes → Bytes → Prop
  | ended {state} (stops : ∀ buffer, move state buffer = .report (.stop .finished) .done buffer) :
      Reads state [] []
  | data {after left piece rest data} (passes : Passes after) (pos : 0 < left)
      (full : piece.length = left) (later : Reads (after 0) rest data) :
      Reads (after left) (piece ++ rest) (piece ++ data)
  | line {state next line rest data} (awaits : state.AwaitsLine) (unbroken : 10 ∉ line)
      (short : line.length < maxLine)
      (goes : ∀ more, move state (line ++ Bytes.crlf ++ more) = .goOn next more)
      (later : Reads next rest data) :
      Reads state (line ++ Bytes.crlf ++ rest) data
  | lineEnd {rest data} (later : Reads .chunkSize rest data) :
      Reads .chunkEnd (Bytes.crlf ++ rest) data

/-- What a run over the first octets of a body comes to if `more` follow them. -/
inductive Reached (drained : Drained) (more data : Bytes) : Prop
  | waits {later} (stop : drained.stop = .needMore) (due : more ≠ [])
      (same : data = drained.payload ++ later)
      (reads : Reads drained.state (drained.rest ++ more) later) : Reached drained more data
  | ended (stop : drained.stop = .finished) (same : data = drained.payload) :
      Reached drained more data

theorem Reached.after {drained : Drained} {more data : Bytes} (h : Reached drained more data)
    (pieces : List Bytes) : Reached (drained.after pieces) more (pieces.flatten ++ data) := by
  cases h with
  | waits stop due same reads =>
      refine .waits stop due ?_ reads
      rw [same, Drained.payload_after, List.append_assoc]
  | ended stop same => exact .ended stop (by rw [same, Drained.payload_after])

theorem takeLine_incomplete {line buffer more rest : Bytes} (unbroken : 10 ∉ line)
    (short : line.length < maxLine) (cut : buffer.length < (line ++ Bytes.crlf).length)
    (same : line ++ Bytes.crlf ++ rest = buffer ++ more) : takeLine buffer = .incomplete := by
  rw [List.length_append] at cut
  have missing : Bytes.position? Bytes.crlf buffer = none := by
    cases found : Bytes.position? Bytes.crlf buffer with
    | none => rfl
    | some size =>
        have fits := ((Bytes.position?_eq_some_iff (by decide)).mp found).fits (by decide)
        have again := Bytes.position?_append (by decide) found more
        rw [← same, Bytes.position?_eq_some_iff (by decide)] at again
        rw [again.unique (Bytes.firstAt_crlf unbroken rest)] at fits
        omega
  have fits : ¬ maxLine < buffer.length := by
    have two : Bytes.crlf.length = 2 := rfl
    omega
  rw [takeLine, missing]
  exact if_neg fits

theorem move_of_incomplete {state : State} (awaits : state.AwaitsLine) {buffer : Bytes}
    (waits : takeLine buffer = .incomplete) :
    move state buffer = .report (.stop .needMore) state buffer := by
  cases state with
  | chunkSize => simp only [move, waits]
  | trailers => simp only [move, waits]
  | counted | chunkData | chunkEnd | done => exact False.elim awaits

theorem reach_or_stop {first rest buffer more : Bytes} (same : first ++ rest = buffer ++ more) :
    (∃ tail, buffer = first ++ tail ∧ rest = tail ++ more) ∨
      ∃ tail, tail ≠ [] ∧ first = buffer ++ tail ∧ more = tail ++ rest := by
  rcases List.append_eq_append_iff.mp same with ⟨tail, reach, left⟩ | ⟨tail, stop, left⟩
  · exact .inl ⟨tail, reach, left⟩
  · by_cases empty : tail = []
    · subst empty
      exact .inl ⟨[], by simpa using stop.symm, left.symm⟩
    · exact .inr ⟨tail, empty, stop, left⟩

theorem Reached.ofWaiting {state : State} {buffer more data : Bytes}
    (waits : move state buffer = .report (.stop .needMore) state buffer) (due : more ≠ [])
    (reads : Reads state (buffer ++ more) data) : Reached (drain state buffer) more data := by
  rw [drain_stop waits]
  exact .waits rfl due rfl reads

theorem Reached.ofPart {after : Nat → State} (passes : Passes after) {buffer tail rest data : Bytes}
    (due : tail ≠ []) (later : Reads (after 0) rest data) :
    Reached (drain (after (buffer ++ tail).length) buffer) (tail ++ rest)
      (buffer ++ tail ++ data) := by
  have pos : 0 < tail.length := List.length_pos_iff.mpr due
  have goesOn : tail ++ rest ≠ [] := List.append_ne_nil_of_left_ne_nil due rest
  have reads : Reads (after tail.length) (tail ++ rest) (tail ++ data) :=
    .data passes pos rfl later
  by_cases empty : buffer = []
  · subst empty
    exact .ofWaiting (passes.wait pos) goesOn reads
  · have short : buffer.length < (buffer ++ tail).length := by
      rw [List.length_append]
      omega
    rw [drain_passing passes short empty, List.length_append, Nat.add_sub_cancel_left]
    refine .waits rfl goesOn ?_ reads
    rw [Drained.payload, List.flatten_singleton, List.append_assoc]

/-- A run over the first octets of a body waits for the rest of it, or all of it has been read. -/
theorem Reads.reached {state : State} {octets data : Bytes} (h : Reads state octets data)
    {buffer more : Bytes} (same : octets = buffer ++ more) :
    Reached (drain state buffer) more data := by
  induction h generalizing buffer with
  | ended stops =>
      rw [drain_stop (stops buffer)]
      exact .ended rfl rfl
  | @data after left piece rest data passes pos full later ih =>
      rcases reach_or_stop same with ⟨tail, rfl, rfl⟩ | ⟨tail, due, rfl, rfl⟩
      · rw [drain_passing_full passes pos full]
        have reached := (ih rfl).after [piece]
        rwa [List.flatten_singleton] at reached
      · rw [← full]
        exact .ofPart passes due later
  | @line state next line rest data awaits unbroken short goes later ih =>
      rcases reach_or_stop same with ⟨tail, rfl, rfl⟩ | ⟨tail, due, cut, rfl⟩
      · rw [drain_goOn (goes tail)]
        exact ih rfl
      · have inside : buffer.length < (line ++ Bytes.crlf).length := by
          have := List.length_pos_iff.mpr due
          rw [cut, List.length_append]
          omega
        have waits := move_of_incomplete awaits (takeLine_incomplete unbroken short inside same)
        refine .ofWaiting waits (List.append_ne_nil_of_left_ne_nil due rest) ?_
        rw [← same]
        exact .line awaits unbroken short goes later
  | lineEnd later ih =>
      rcases reach_or_stop same with ⟨tail, rfl, rfl⟩ | ⟨tail, due, cut, rfl⟩
      · rw [drain_goOn rfl]
        exact ih rfl
      · have waits : move .chunkEnd buffer = .report (.stop .needMore) .chunkEnd buffer := by
          match buffer with
          | [] => rfl
          | [b] => cases cut; rfl
          | b :: c :: more => simp [Bytes.crlf, due] at cut
        refine .ofWaiting waits (List.append_ne_nil_of_left_ne_nil due _) ?_
        rw [← same]
        exact .lineEnd later

/-- However a body is cut into segments, feeding them comes to its data and to its end. -/
theorem Reads.feed {state : State} {buffer first : Bytes} {more : List Bytes} {data : Bytes}
    (h : Reads state (buffer ++ (first :: more).flatten) data) :
    (feed state buffer (first :: more)).stop = .finished ∧
      (feed state buffer (first :: more)).payload = data := by
  induction more generalizing state buffer first data with
  | nil =>
      rw [feed_cons]
      cases h.reached (List.append_assoc buffer first [].flatten).symm with
      | waits stop due same reads => exact absurd rfl due
      | ended stop same =>
          rw [Drained.feedOn_stopped (stop ▸ nofun)]
          exact ⟨stop, same.symm⟩
  | cons second more ih =>
      rw [feed_cons]
      cases h.reached (List.append_assoc buffer first (second :: more).flatten).symm with
      | waits stop due same reads =>
          obtain ⟨ended, payload⟩ := ih reads
          rw [Drained.feedOn_waiting stop, Fed.payload_after, payload, same]
          exact ⟨ended, rfl⟩
      | ended stop same =>
          rw [Drained.feedOn_stopped (stop ▸ nofun)]
          exact ⟨stop, same.symm⟩

theorem reads_counted (body : Bytes) : Reads (.counted body.length) body body := by
  have ended : Reads (.counted 0) [] [] := .ended fun _ => rfl
  rcases Nat.eq_zero_or_pos body.length with empty | pos
  · rw [List.length_eq_zero_iff.mp empty]
    exact ended
  · have reads := Reads.data passes_counted pos rfl ended
    rwa [List.append_nil] at reads

/-- No size line and no trailer is of the greatest length that a line may have. -/
structure Chunked.Short (body : Chunked) : Prop where
  sizes : ∀ chunk ∈ body.chunks, chunk.size.octets.length < maxLine
  last : body.last.octets.length < maxLine
  trailers : ∀ trailer ∈ body.trailers, trailer.line.length < maxLine

def Chunked.data (body : Chunked) : Bytes := body.chunks.flatMap (·.data)

theorem reads_trailers {trailers : List Trailer}
    (short : ∀ trailer ∈ trailers, trailer.line.length < maxLine) :
    Reads .trailers (trailers.flatMap (·.line ++ Bytes.crlf) ++ Bytes.crlf) [] := by
  induction trailers with
  | nil =>
      have empty : ([] : Bytes).length < maxLine := by decide
      have ended : Reads .done [] [] := .ended fun _ => rfl
      exact @Reads.line .trailers _ [] _ _ trivial List.not_mem_nil empty move_emptyLine ended
  | cons trailer trailers ih =>
      rw [List.forall_mem_cons] at short
      rw [List.flatMap_cons, List.append_assoc]
      exact .line trivial trailer.unbroken short.1 (move_trailer trailer) (ih short.2)

theorem Chunk.reads {chunk : Chunk} (short : chunk.size.octets.length < maxLine)
    {rest data : Bytes} (later : Reads .chunkSize rest data) :
    Reads .chunkSize (chunk.encode ++ rest) (chunk.data ++ data) := by
  have pos : 0 < chunk.data.length := List.length_pos_iff.mpr chunk.filled
  have size : State.ofSize chunk.data.length = .inChunk chunk.data.length := by
    rw [State.ofSize, dif_pos pos, inChunk_pos pos]
  have goes := move_sizeLine chunk.size chunk.small
  rw [size] at goes
  have encoded : chunk.encode ++ rest =
      chunk.size.octets ++ Bytes.crlf ++ (chunk.data ++ (Bytes.crlf ++ rest)) := by
    simp only [encode, List.append_assoc]
  rw [encoded]
  exact .line trivial chunk.size.unbroken_octets short goes
    (.data passes_inChunk pos rfl (.lineEnd later))

theorem reads_chunks {chunks : List Chunk}
    (short : ∀ chunk ∈ chunks, chunk.size.octets.length < maxLine) {rest : Bytes}
    (last : Reads .chunkSize rest []) :
    Reads .chunkSize (chunks.flatMap Chunk.encode ++ rest) (chunks.flatMap (·.data)) := by
  induction chunks with
  | nil => exact last
  | cons chunk chunks ih =>
      rw [List.forall_mem_cons] at short
      rw [List.flatMap_cons, List.flatMap_cons, List.append_assoc]
      exact Chunk.reads short.1 (ih short.2)

theorem Chunked.reads {body : Chunked} (short : body.Short) :
    Reads .chunkSize body.encode body.data := by
  have last : Reads .chunkSize (body.last.octets ++ Bytes.crlf ++
      (body.trailers.flatMap (·.line ++ Bytes.crlf) ++ Bytes.crlf)) [] :=
    .line trivial body.last.unbroken_octets short.last (move_sizeLine body.last (by decide))
      (reads_trailers short.trailers)
  have reads := reads_chunks short.sizes last
  rw [encode, data]
  simpa only [List.append_assoc] using reads

end HttpServer.Body
