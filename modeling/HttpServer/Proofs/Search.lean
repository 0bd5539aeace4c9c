import HttpServer.Bytes

/-! The search for a mark finds its first occurrence. From that alone follows what
octets that arrive later can change: an occurrence that was found stays, and a new one
reaches beyond the octets that were there. -/
namespace HttpServer.Bytes

/-- A mark stands after `size` octets, and nowhere before. -/
structure FirstAt (mark bytes : Bytes) (size : Nat) : Prop where
  here : mark <+: bytes.drop size
  free : ∀ i < size, ¬ mark <+: bytes.drop i

theorem FirstAt.unique {mark bytes : Bytes} {first second : Nat} (h : FirstAt mark bytes first)
    (g : FirstAt mark bytes second) : first = second := by
  rcases Nat.lt_trichotomy first second with less | same | more
  · exact False.elim (g.free first less h.here)
  · exact same
  · exact False.elim (h.free second more g.here)

theorem FirstAt.fits {mark bytes : Bytes} {size : Nat} (h : FirstAt mark bytes size)
    (nonempty : mark ≠ []) : size + mark.length ≤ bytes.length := by
  have short := h.here.length_le
  have pos := List.length_pos_iff.mpr nonempty
  rw [List.length_drop] at short
  omega

theorem firstAt_cons {mark rest : Bytes} {b : UInt8} {size : Nat}
    (elsewhere : ¬ mark <+: b :: rest) :
    FirstAt mark (b :: rest) (size + 1) ↔ FirstAt mark rest size := by
  constructor
  · intro h
    exact ⟨h.here, fun i before => h.free (i + 1) (Nat.succ_lt_succ before)⟩
  · intro h
    refine ⟨h.here, ?_⟩
    intro i before
    cases i with
    | zero => exact elsewhere
    | succ i => exact h.free i (Nat.lt_of_succ_lt_succ before)

theorem firstAt_zero {mark bytes : Bytes} (starts : mark <+: bytes) : FirstAt mark bytes 0 :=
  ⟨starts, fun _ before => absurd before (Nat.not_lt_zero _)⟩

theorem positionFrom_eq_some_iff {mark : Bytes} (nonempty : mark ≠ []) {bytes : Bytes}
    {offset found : Nat} : positionFrom mark offset bytes = some found ↔
      ∃ size, found = offset + size ∧ FirstAt mark bytes size := by
  induction bytes generalizing offset with
  | nil =>
      simp only [positionFrom, nonempty, if_false, reduceCtorEq, false_iff]
      rintro ⟨size, _, h⟩
      have := h.fits nonempty
      have := List.length_pos_iff.mpr nonempty
      simp only [List.length_nil] at *
      omega
  | cons b rest ih =>
      by_cases starts : mark <+: b :: rest
      · simp only [positionFrom, List.isPrefixOf_iff_prefix, starts, if_true, Option.some.injEq]
        constructor
        · rintro rfl
          exact ⟨0, rfl, firstAt_zero starts⟩
        · rintro ⟨size, rfl, h⟩
          rw [h.unique (firstAt_zero starts)]
          rfl
      · simp only [positionFrom, List.isPrefixOf_iff_prefix, starts, if_false]
        rw [ih]
        constructor
        · rintro ⟨size, rfl, h⟩
          exact ⟨size + 1, by omega, (firstAt_cons starts).mpr h⟩
        · rintro ⟨size, rfl, h⟩
          cases size with
          | zero => exact False.elim (starts h.here)
          | succ size => exact ⟨size, by omega, (firstAt_cons starts).mp h⟩

theorem position?_eq_some_iff {mark : Bytes} (nonempty : mark ≠ []) {bytes : Bytes}
    {size : Nat} : position? mark bytes = some size ↔ FirstAt mark bytes size := by
  rw [position?, positionFrom_eq_some_iff nonempty]
  constructor
  · rintro ⟨_, rfl, h⟩
    rwa [Nat.zero_add]
  · intro h
    exact ⟨size, (Nat.zero_add size).symm, h⟩

theorem prefix_drop_append {mark bytes more : Bytes} {size : Nat}
    (fits : size + mark.length ≤ bytes.length) :
    mark <+: (bytes ++ more).drop size ↔ mark <+: bytes.drop size := by
  rw [List.drop_append_of_le_length (by omega)]
  have longer : mark.length ≤ (bytes.drop size).length := by
    rw [List.length_drop]
    omega
  exact ⟨fun starts => List.prefix_of_prefix_length_le starts (List.prefix_append _ _) longer,
    fun starts => starts.trans (List.prefix_append _ _)⟩

theorem firstAt_append {mark bytes more : Bytes} {size : Nat}
    (fits : size + mark.length ≤ bytes.length) :
    FirstAt mark (bytes ++ more) size ↔ FirstAt mark bytes size := by
  constructor
  · intro h
    refine ⟨(prefix_drop_append fits).mp h.here, ?_⟩
    intro i before starts
    exact h.free i before ((prefix_drop_append (by omega)).mpr starts)
  · intro h
    refine ⟨(prefix_drop_append fits).mpr h.here, ?_⟩
    intro i before starts
    exact h.free i before ((prefix_drop_append (by omega)).mp starts)

theorem position?_append {mark : Bytes} (nonempty : mark ≠ []) {bytes : Bytes} {size : Nat}
    (found : position? mark bytes = some size) (more : Bytes) :
    position? mark (bytes ++ more) = some size := by
  rw [position?_eq_some_iff nonempty] at found ⊢
  exact (firstAt_append (found.fits nonempty)).mpr found

theorem position?_append_of_none {mark : Bytes} (nonempty : mark ≠ []) {bytes more : Bytes}
    {size : Nat} (missing : position? mark bytes = none)
    (found : position? mark (bytes ++ more) = some size) : bytes.length < size + mark.length := by
  apply Nat.lt_of_not_le
  intro fits
  rw [position?_eq_some_iff nonempty, firstAt_append fits, ← position?_eq_some_iff nonempty,
    missing] at found
  cases found

theorem FirstAt.divides {mark bytes : Bytes} {size : Nat} (h : FirstAt mark bytes size) :
    bytes = bytes.take size ++ mark ++ bytes.drop (size + mark.length) := by
  obtain ⟨rest, same⟩ := h.here
  have dropped : bytes.drop (size + mark.length) = rest := by
    rw [← List.drop_drop, ← same, List.drop_left]
  rw [dropped, List.append_assoc, same, List.take_append_drop]

theorem FirstAt.replace {mark bytes : Bytes} {size : Nat} (h : FirstAt mark bytes size)
    (nonempty : mark ≠ []) (rest : Bytes) : FirstAt mark (bytes.take size ++ mark ++ rest) size := by
  have fits := h.fits nonempty
  have head : (bytes.take size ++ mark).length = size + mark.length := by
    rw [List.length_append, List.length_take]
    omega
  rw [h.divides, firstAt_append (Nat.le_of_eq head.symm)] at h
  exact (firstAt_append (Nat.le_of_eq head.symm)).mpr h

theorem position?_eq_none_of_not_mem {mark bytes : Bytes} {b : UInt8} (inMark : b ∈ mark)
    (missing : b ∉ bytes) : position? mark bytes = none := by
  have nonempty : mark ≠ [] := List.ne_nil_of_mem inMark
  cases found : position? mark bytes with
  | none => rfl
  | some size =>
      have here := ((position?_eq_some_iff nonempty).mp found).here
      exact False.elim (missing (List.mem_of_mem_drop (here.subset inMark)))

theorem not_infix_of_positionFrom {mark bytes : Bytes} {offset : Nat}
    (missing : positionFrom mark offset bytes = none) : ¬ mark <:+: bytes := by
  induction bytes generalizing offset with
  | nil =>
      rw [positionFrom] at missing
      split at missing
      · cases missing
      · next nonempty => exact fun inside => nonempty (List.eq_nil_of_infix_nil inside)
  | cons b rest ih =>
      rw [positionFrom] at missing
      split at missing
      · cases missing
      · next elsewhere =>
        rw [List.infix_cons_iff]
        rintro (starts | inside)
        · exact elsewhere (List.isPrefixOf_iff_prefix.mpr starts)
        · exact ih missing inside

theorem FirstAt.after {b : UInt8} {mark bytes : Bytes} {size : Nat}
    (h : FirstAt (b :: mark) bytes size) {passed : Bytes} (missing : b ∉ passed) :
    FirstAt (b :: mark) (passed ++ bytes) (passed.length + size) := by
  induction passed with
  | nil => rwa [List.length_nil, Nat.zero_add]
  | cons c passed ih =>
      rw [List.mem_cons, not_or] at missing
      have elsewhere : ¬ b :: mark <+: c :: (passed ++ bytes) := by
        rw [List.cons_prefix_cons]
        exact fun starts => missing.1 starts.1
      rw [List.length_cons, Nat.add_right_comm, List.cons_append, firstAt_cons elsewhere]
      exact ih missing.2

theorem firstAt_crlf {line : Bytes} (unbroken : 10 ∉ line) (rest : Bytes) :
    FirstAt crlf (line ++ crlf ++ rest) line.length := by
  constructor
  · rw [List.append_assoc, List.drop_left]
    exact List.prefix_append _ _
  · intro i before starts
    obtain ⟨tail, same⟩ := starts
    have second : (line ++ crlf ++ rest)[i + 1]? = some 10 := by
      have := congrArg (·[1]?) same
      simpa only [List.getElem?_drop, crlf, List.cons_append, List.getElem?_cons_succ,
        List.getElem?_cons_zero, Eq.comm] using this
    rw [List.append_assoc] at second
    by_cases inside : i + 1 < line.length
    · rw [List.getElem?_append_left inside] at second
      exact unbroken (List.mem_of_getElem? second)
    · have last : i + 1 = line.length := by omega
      rw [last, List.getElem?_append_right (Nat.le_refl _), Nat.sub_self] at second
      simp [crlf] at second

end HttpServer.Bytes
