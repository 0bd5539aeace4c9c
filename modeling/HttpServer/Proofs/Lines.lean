import HttpServer.Proofs.Search

/-! Lines that are put together with line ends. If no line is empty and none holds a line
end, then the first empty line is the one that is put after them. -/
namespace HttpServer.Bytes

/-- Lines with a line end between every two. -/
def joinLines : List Bytes → Bytes
  | [] => []
  | [line] => line
  | line :: lines => line ++ crlf ++ joinLines lines

theorem joinLines_cons (line next : Bytes) (lines : List Bytes) :
    joinLines (line :: next :: lines) = line ++ crlf ++ joinLines (next :: lines) := rfl

theorem flatMap_crlf (line : Bytes) (lines : List Bytes) :
    (line :: lines).flatMap (· ++ crlf) = joinLines (line :: lines) ++ crlf := by
  induction lines generalizing line with
  | nil => rw [List.flatMap_cons, List.flatMap_nil, List.append_nil, joinLines]
  | cons next lines ih =>
      rw [List.flatMap_cons, ih, joinLines_cons]
      simp only [List.append_assoc]

theorem joinLines_starts (line : Bytes) (lines : List Bytes) (rest : Bytes) :
    ∃ tail, joinLines (line :: lines) ++ blankLine ++ rest = line ++ crlf ++ tail := by
  cases lines with
  | nil =>
      refine ⟨crlf ++ rest, ?_⟩
      simp [joinLines, crlf, blankLine]
  | cons next lines =>
      refine ⟨joinLines (next :: lines) ++ blankLine ++ rest, ?_⟩
      simp only [joinLines_cons, List.append_assoc]

/-- A line that is not empty, and that ends at the line end put after it. -/
structure Undivided (line : Bytes) : Prop where
  filled : line ≠ []
  ends : ∀ rest, FirstAt crlf (line ++ crlf ++ rest) line.length

theorem Undivided.of_not_mem_lf {line : Bytes} (filled : line ≠ []) (missing : 10 ∉ line) :
    Undivided line := ⟨filled, firstAt_crlf missing⟩

theorem Undivided.of_not_mem_cr {line : Bytes} (filled : line ≠ []) (missing : 13 ∉ line) :
    Undivided line := by
  refine ⟨filled, fun rest => ?_⟩
  have start : FirstAt crlf (crlf ++ rest) 0 := firstAt_zero (List.prefix_append _ _)
  have passed := start.after missing
  rwa [Nat.add_zero, ← List.append_assoc] at passed

theorem Undivided.not_starts_crlf {line : Bytes} (h : Undivided line) (rest : Bytes) :
    ¬ crlf <+: line ++ crlf ++ rest :=
  (h.ends rest).free 0 (List.length_pos_iff.mpr h.filled)

theorem Undivided.passed {line rest : Bytes} {size : Nat} (h : Undivided line)
    (follows : ¬ crlf <+: rest) (later : FirstAt blankLine rest size) :
    FirstAt blankLine (line ++ crlf ++ rest) (line.length + 2 + size) := by
  have beyond (n : Nat) : (line ++ crlf ++ rest).drop (line.length + 2 + n) = rest.drop n := by
    rw [List.append_assoc, Nat.add_assoc, ← List.drop_drop, List.drop_left, ← List.drop_drop]
    rfl
  constructor
  · rw [beyond]
    exact later.here
  · intro i before starts
    have lineEnd : crlf <+: (line ++ crlf ++ rest).drop i :=
      List.IsPrefix.trans ⟨crlf, rfl⟩ starts
    -- No line end starts inside the line, none follows its own, and none starts at a line feed.
    rcases Nat.lt_trichotomy i line.length with inside | rfl | outside
    · exact (h.ends rest).free i inside lineEnd
    · rw [List.append_assoc, List.drop_left] at starts
      exact follows ((List.prefix_append_right_inj crlf).mp starts)
    · by_cases second : i = line.length + 1
      · rw [second, List.append_assoc, ← List.drop_drop, List.drop_left, crlf, List.cons_append,
          List.drop_one, List.tail_cons, List.cons_append, List.cons_prefix_cons] at lineEnd
        exact absurd lineEnd.1 (by decide)
      · obtain ⟨n, rfl⟩ : ∃ n, i = line.length + 2 + n := ⟨i - (line.length + 2), by omega⟩
        rw [beyond] at starts
        exact later.free n (by omega) starts

theorem firstAt_blankLine {line : Bytes} {lines : List Bytes}
    (all : ∀ l ∈ line :: lines, Undivided l) (rest : Bytes) :
    FirstAt blankLine (joinLines (line :: lines) ++ blankLine ++ rest)
      (joinLines (line :: lines)).length := by
  induction lines generalizing line with
  | nil =>
      have first := (all line List.mem_cons_self).ends (crlf ++ rest)
      constructor
      · rw [joinLines, List.append_assoc, List.drop_left]
        exact List.prefix_append _ _
      · intro i before starts
        refine first.free i before (List.IsPrefix.trans ⟨crlf, rfl⟩ ?_)
        simpa [joinLines, crlf, blankLine] using starts
  | cons next lines ih =>
      rw [List.forall_mem_cons] at all
      obtain ⟨tail, starts⟩ := joinLines_starts next lines rest
      have follows : ¬ crlf <+: joinLines (next :: lines) ++ blankLine ++ rest := by
        rw [starts]
        exact (all.2 next List.mem_cons_self).not_starts_crlf tail
      have whole := all.1.passed follows (ih all.2)
      have size : (joinLines (line :: next :: lines)).length =
          line.length + 2 + (joinLines (next :: lines)).length := by
        rw [joinLines_cons, List.length_append, List.length_append]
        rfl
      rw [size, joinLines_cons]
      simpa only [List.append_assoc] using whole

theorem splitOn_line {mark : UInt8} {line : Bytes} (missing : mark ∉ line) (rest : Bytes) :
    (line ++ mark :: rest).splitOn mark = line :: rest.splitOn mark := by
  rw [List.splitOn_append_cons_self, List.splitOn_eq_singleton missing]
  rfl

theorem not_mem_of_mem_splitOn {mark : UInt8} {bytes part : Bytes}
    (member : part ∈ bytes.splitOn mark) : mark ∉ part := by
  induction bytes generalizing part with
  | nil =>
      rw [List.splitOn_nil, List.mem_singleton] at member
      rw [member]
      exact List.not_mem_nil
  | cons b bytes ih =>
      rw [List.splitOn_cons_eq_if_modifyHead] at member
      split at member
      · rcases List.mem_cons.mp member with rfl | later
        · exact List.not_mem_nil
        · exact ih later
      · next other =>
        cases parts : bytes.splitOn mark with
        | nil => exact absurd parts (List.splitOn_ne_nil mark bytes)
        | cons first more =>
            rw [parts] at member ih
            rcases List.mem_cons.mp member with rfl | later
            · have tail := ih List.mem_cons_self
              simp only [beq_iff_eq] at other
              rw [List.mem_cons, not_or]
              exact ⟨fun same => other same.symm, tail⟩
            · exact ih (List.mem_cons_of_mem first later)

end HttpServer.Bytes
