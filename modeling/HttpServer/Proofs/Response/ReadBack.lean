import HttpServer.Proofs.Lines
import HttpServer.Response.Summary

/-! A reader of responses, which knows nothing of how responses are written: it cuts the
octets at the first empty line, the head at its line ends, and a header line at the first
colon that a space follows. Out of writable fields it reads just these fields. -/
namespace HttpServer.Response

structure Reading where
  statusLine : String
  fields : List Field
  body : Bytes
  deriving DecidableEq, Repr

def splitLines : Bytes → List Bytes
  | [] => [[]]
  | 13 :: 10 :: rest => [] :: splitLines rest
  | b :: rest =>
      match splitLines rest with
      | [] => [[b]]
      | line :: lines => (b :: line) :: lines

/-- Divides a header line at its first colon that a space follows. -/
def readField (line : Bytes) : Option Field := do
  let size ← Bytes.position? [58, 32] line
  let name ← Bytes.text? (line.take size)
  let value ← Bytes.text? (line.drop (size + 2))
  return ⟨name, value⟩

/-- Reads a response, whose head ends at the first empty line. -/
def read (octets : Bytes) : Option Reading := do
  let size ← Bytes.position? Bytes.blankLine octets
  match splitLines (octets.take size) with
  | [] => none
  | status :: lines =>
      let statusLine ← Bytes.text? status
      let fields ← lines.mapM readField
      return ⟨statusLine, fields, octets.drop (size + 4)⟩

/-- A line that can stand in a head: it is not empty, and nothing in it ends it. -/
structure IsLine (line : Bytes) : Prop where
  filled : line ≠ []
  unbroken : 13 ∉ line

theorem splitLines_line {line : Bytes} (unbroken : 13 ∉ line) : splitLines line = [line] := by
  induction line with
  | nil => rfl
  | cons b line ih =>
      rw [List.mem_cons, not_or] at unbroken
      rw [splitLines, ih unbroken.2]
      intro rest same
      exact fun _ => unbroken.1 same.symm

theorem splitLines_crlf {line : Bytes} (unbroken : 13 ∉ line) (rest : Bytes) :
    splitLines (line ++ Bytes.crlf ++ rest) = line :: splitLines rest := by
  induction line with
  | nil => rfl
  | cons b line ih =>
      rw [List.mem_cons, not_or] at unbroken
      rw [List.cons_append, List.cons_append, splitLines, ih unbroken.2]
      intro rest same
      exact fun _ => unbroken.1 same.symm

theorem splitLines_joinLines {line : Bytes} {lines : List Bytes}
    (all : ∀ l ∈ line :: lines, IsLine l) :
    splitLines (Bytes.joinLines (line :: lines)) = line :: lines := by
  induction lines generalizing line with
  | nil => exact splitLines_line (all line List.mem_cons_self).unbroken
  | cons next lines ih =>
      rw [Bytes.joinLines_cons, splitLines_crlf (all line List.mem_cons_self).unbroken,
        ih fun l member => all l (List.mem_cons_of_mem line member)]

def bareLine (field : Field) : Bytes :=
  Bytes.ofText field.name ++ [58, 32] ++ Bytes.ofText field.value

/-- A text that does not break the line on which it stands. -/
def Unbroken (text : String) : Prop := ∀ b ∈ Bytes.ofText text, breaksLine b = false

instance : DecidablePred Unbroken := fun text => List.decidableBAll _ (Bytes.ofText text)

theorem Unbroken.not_mem {text : String} (h : Unbroken text) : 13 ∉ Bytes.ofText text :=
  fun member => absurd (h 13 member) (by decide)

theorem isWritable_iff {field : Field} : isWritable field = true ↔
    Bytes.ofText field.name ≠ [] ∧
      (∀ b ∈ Bytes.ofText field.name, Text.isGraphicByte b = true ∧ b ≠ 58) ∧
      Unbroken field.value := by
  have filled : field.name.isEmpty = false ↔ Bytes.ofText field.name ≠ [] := by
    rw [← Bool.not_eq_true, Bytes.isEmpty_iff_ofText]
  simp [isWritable, filled, Unbroken, and_assoc]

theorem isLine_bareLine {field : Field} (writable : isWritable field = true) :
    IsLine (bareLine field) := by
  obtain ⟨_, name, value⟩ := isWritable_iff.mp writable
  refine ⟨by simp [bareLine], ?_⟩
  simp only [bareLine, List.mem_append, not_or]
  refine ⟨⟨?_, by decide⟩, value.not_mem⟩
  intro member
  exact absurd (name 13 member).1 (by decide)

theorem readField_bareLine {field : Field} (writable : isWritable field = true) :
    readField (bareLine field) = some field := by
  obtain ⟨_, name, _⟩ := isWritable_iff.mp writable
  have noColon : 58 ∉ Bytes.ofText field.name := fun member => (name 58 member).2 rfl
  have start : Bytes.FirstAt [58, 32] ([58, 32] ++ Bytes.ofText field.value) 0 :=
    Bytes.firstAt_zero (List.prefix_append _ _)
  have found := start.after noColon
  rw [Nat.add_zero, ← List.append_assoc, ← Bytes.position?_eq_some_iff (by decide)] at found
  rw [readField, bareLine, found]
  simp only [Option.bind_eq_bind, Option.bind_some]
  rw [List.append_assoc, List.take_left, Bytes.text?_ofText, ← List.drop_drop, List.drop_left]
  simp [Bytes.text?_ofText]

theorem mapM_readField {fields : List Field} (writable : ∀ field ∈ fields, isWritable field = true) :
    (fields.map bareLine).mapM readField = some fields := by
  induction fields with
  | nil => rfl
  | cons field fields ih =>
      rw [List.map_cons, List.mapM_cons, readField_bareLine (writable field List.mem_cons_self),
        ih fun f member => writable f (List.mem_cons_of_mem field member)]
      rfl

theorem read_lines {status : String} {fields : List Field} (line : IsLine (Bytes.ofText status))
    (writable : ∀ field ∈ fields, isWritable field = true) (body : Bytes) :
    read (Bytes.ofText status ++ Bytes.crlf ++ fields.flatMap fieldLine ++ Bytes.crlf ++ body) =
      some ⟨status, fields, body⟩ := by
  have lines : ∀ l ∈ Bytes.ofText status :: fields.map bareLine, IsLine l := by
    intro l member
    rcases List.mem_cons.mp member with rfl | member
    · exact line
    · obtain ⟨field, stored, rfl⟩ := List.mem_map.mp member
      exact isLine_bareLine (writable field stored)
  have joined : Bytes.ofText status ++ Bytes.crlf ++ fields.flatMap fieldLine ++ Bytes.crlf =
      Bytes.joinLines (Bytes.ofText status :: fields.map bareLine) ++ Bytes.blankLine := by
    have ended := Bytes.flatMap_crlf (Bytes.ofText status) (fields.map bareLine)
    rw [List.flatMap_cons, List.flatMap_map] at ended
    calc
      _ = Bytes.joinLines (Bytes.ofText status :: fields.map bareLine) ++ Bytes.crlf ++
          Bytes.crlf :=
        congrArg (· ++ Bytes.crlf) ended
      _ = _ := by rw [List.append_assoc]; rfl
  rw [joined]
  have undivided : ∀ l ∈ Bytes.ofText status :: fields.map bareLine, Bytes.Undivided l :=
    fun l member => .of_not_mem_cr (lines l member).filled (lines l member).unbroken
  have found := Bytes.firstAt_blankLine undivided body
  rw [← Bytes.position?_eq_some_iff (by decide)] at found
  rw [read, found]
  simp only [Option.bind_eq_bind, Option.bind_some]
  rw [List.append_assoc, List.take_left, splitLines_joinLines lines]
  simp only [Bytes.text?_ofText, mapM_readField writable, Option.bind_some]
  rw [← List.drop_drop, List.drop_left]
  rfl

end HttpServer.Response
