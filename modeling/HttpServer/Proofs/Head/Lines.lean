import HttpServer.Head
import HttpServer.Proofs.Lines

/-! The lines of a head as its decoder finds them: the empty ones in front are dropped, the
others are divided at line feeds. What decoding comes to depends on where the first empty line
after that is found, if there is one. -/
namespace HttpServer.Head

def emptyLines (count : Nat) : Bytes := (List.replicate count Bytes.crlf).flatten

theorem emptyLines_succ (count : Nat) (rest : Bytes) :
    emptyLines (count + 1) ++ rest = 13 :: 10 :: (emptyLines count ++ rest) := rfl

theorem dropEmptyLines_emptyLines (count : Nat) (buffer : Bytes) :
    dropEmptyLines (emptyLines count ++ buffer) = dropEmptyLines buffer := by
  induction count with
  | zero => rfl
  | succ count ih => rw [emptyLines_succ, dropEmptyLines, ih]

theorem dropEmptyLines_of_filled {buffer : Bytes} (filled : ¬ Bytes.crlf <+: buffer) :
    dropEmptyLines buffer = buffer := by
  unfold dropEmptyLines
  split
  · next rest => exact absurd ⟨rest, rfl⟩ filled
  · rfl

theorem exists_emptyLines (buffer : Bytes) :
    ∃ count, buffer = emptyLines count ++ dropEmptyLines buffer ∧
      ¬ Bytes.crlf <+: dropEmptyLines buffer := by
  fun_induction dropEmptyLines buffer with
  | case1 rest ih =>
      obtain ⟨count, same, filled⟩ := ih
      refine ⟨count + 1, ?_, filled⟩
      rw [emptyLines_succ, ← same]
  | case2 buffer other =>
      refine ⟨0, rfl, ?_⟩
      rintro ⟨rest, rfl⟩
      exact other rest rfl

theorem dropEmptyLines_append (buffer more : Bytes) :
    dropEmptyLines (buffer ++ more) = dropEmptyLines (dropEmptyLines buffer ++ more) := by
  obtain ⟨count, same, _⟩ := exists_emptyLines buffer
  conv => lhs; rw [same, List.append_assoc]
  exact dropEmptyLines_emptyLines count _

theorem dropEmptyLines_append_of_two {buffer : Bytes} (two : 2 ≤ (dropEmptyLines buffer).length)
    (more : Bytes) : dropEmptyLines (buffer ++ more) = dropEmptyLines buffer ++ more := by
  obtain ⟨_, _, filled⟩ := exists_emptyLines buffer
  rw [dropEmptyLines_append]
  apply dropEmptyLines_of_filled
  intro starts
  exact filled (List.prefix_of_prefix_length_le starts (List.prefix_append _ _) two)

theorem dropReturn_return (line : Bytes) : dropReturn (line ++ [13]) = line := by
  rw [dropReturn, List.getLast?_concat, if_pos rfl, List.dropLast_concat]

theorem mem_of_mem_dropReturn {line : Bytes} {b : UInt8} (member : b ∈ dropReturn line) :
    b ∈ line := by
  unfold dropReturn at member
  split at member
  · exact List.dropLast_subset line member
  · exact member

/-- A line as it can stand in a head: no line feed is in it, and no carriage return ends it. -/
structure Stands (line : Bytes) : Prop where
  filled : line ≠ []
  unbroken : 10 ∉ line
  last : line.getLast? ≠ some 13

theorem lines_joinLines {line : Bytes} {lines : List Bytes} (all : ∀ l ∈ line :: lines, Stands l) :
    ((Bytes.joinLines (line :: lines)).splitOn 10).map dropReturn = line :: lines := by
  induction lines generalizing line with
  | nil =>
      have stands := all line List.mem_cons_self
      rw [Bytes.joinLines, List.splitOn_eq_singleton stands.unbroken, List.map_singleton,
        dropReturn, if_neg stands.last]
  | cons next lines ih =>
      rw [List.forall_mem_cons] at all
      have ended : (10 : UInt8) ∉ line ++ [13] := by
        simp [all.1.unbroken]
      have joined : Bytes.joinLines (line :: next :: lines) =
          line ++ [13] ++ 10 :: Bytes.joinLines (next :: lines) := by
        simp [Bytes.joinLines_cons, Bytes.crlf]
      rw [joined, Bytes.splitOn_line ended, List.map_cons, dropReturn_return, ih all.2]

def Reading.ofParsed : Except ParseError (Request × Framing) → Reading
  | .ok (request, framing) => .complete request framing
  | .error reason => .rejected reason

theorem decode_found (limits : Limits) {buffer : Bytes} {size : Nat}
    (found : Bytes.FirstAt Bytes.blankLine (dropEmptyLines buffer) size) :
    decode limits buffer =
      if limits.maxHeadBytes < size + 4 then (.rejected .headTooLarge, dropEmptyLines buffer)
      else (.ofParsed (parse limits.maxHeaders ((dropEmptyLines buffer).take size)),
        (dropEmptyLines buffer).drop (size + 4)) := by
  rw [decode, (Bytes.position?_eq_some_iff (by decide)).mpr found]
  dsimp only
  split
  · rfl
  · cases parse limits.maxHeaders ((dropEmptyLines buffer).take size) <;> rfl

theorem decode_missing (limits : Limits) {buffer : Bytes}
    (missing : Bytes.position? Bytes.blankLine (dropEmptyLines buffer) = none) :
    decode limits buffer =
      (if limits.maxHeadBytes < (dropEmptyLines buffer).length then .rejected .headTooLarge
        else .incomplete, dropEmptyLines buffer) := by
  rw [decode, missing]

end HttpServer.Head
