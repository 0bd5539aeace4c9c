import HttpServer.Bytes
import HttpServer.Text.Unicode
import Mathlib.Data.List.TakeWhile

/-! Trimming. What is left has nothing at its ends that is to be dropped, and what has nothing
such is left as it is. -/
namespace HttpServer

theorem dropWhile_of_head {α : Type} {drops : α → Bool} {items : List α}
    (first : ∀ item ∈ items.head?, drops item = false) : items.dropWhile drops = items := by
  cases items with
  | nil => rfl
  | cons item items =>
      have keeps := first item rfl
      exact List.dropWhile_cons_of_neg (by simp [keeps])

theorem head_dropWhile {α : Type} (drops : α → Bool) (items : List α) :
    ∀ item ∈ (items.dropWhile drops).head?, drops item = false := by
  intro item starts
  have kept := List.head?_dropWhile_not drops items
  rw [Option.mem_def.mp starts] at kept
  exact kept

section Ends

variable {α : Type} {drops : α → Bool}

theorem trim_among {before inner after : List α} (opens : ∀ item ∈ before, drops item = true)
    (filled : ∀ item ∈ inner, drops item = false) (closes : ∀ item ∈ after, drops item = true) :
    (((before ++ inner ++ after).dropWhile drops).reverse.dropWhile drops).reverse = inner := by
  have last : ∀ item ∈ inner.reverse.head?, drops item = false := by
    intro item ends
    exact filled item (List.mem_reverse.mp (List.mem_of_head? ends))
  have reversed : ∀ item ∈ after.reverse, drops item = true := by
    intro item member
    exact closes item (List.mem_reverse.mp member)
  rw [List.append_assoc, List.dropWhile_append_of_pos opens]
  cases inner with
  | nil =>
      have none : after.dropWhile drops = [] := List.dropWhile_eq_nil_iff.mpr closes
      rw [List.nil_append, none]
      rfl
  | cons item inner =>
      have keeps := filled item List.mem_cons_self
      rw [List.cons_append, List.dropWhile_cons_of_neg (by simp [keeps]), ← List.cons_append,
        List.reverse_append, List.dropWhile_append_of_pos reversed, dropWhile_of_head last,
        List.reverse_reverse]

theorem exists_ends (drops : α → Bool) (items : List α) :
    ∃ before after,
      items = before ++ ((items.dropWhile drops).reverse.dropWhile drops).reverse ++ after ∧
      (∀ item ∈ before, drops item = true) ∧ ∀ item ∈ after, drops item = true := by
  refine ⟨items.takeWhile drops, ((items.dropWhile drops).reverse.takeWhile drops).reverse,
    ?_, ?_, ?_⟩
  · rw [List.append_assoc, ← List.reverse_append, List.takeWhile_append_dropWhile,
      List.reverse_reverse, List.takeWhile_append_dropWhile]
  · intro item member
    exact List.mem_takeWhile_imp member
  · intro item member
    exact List.mem_takeWhile_imp (List.mem_reverse.mp member)

end Ends

namespace Bytes

/-- Octets with none at either end that is to be dropped. -/
structure Trimmed (drops : UInt8 → Bool) (bytes : Bytes) : Prop where
  first : ∀ b ∈ bytes.head?, drops b = false
  last : ∀ b ∈ bytes.getLast?, drops b = false

theorem trimBy_of_trimmed {drops : UInt8 → Bool} {gap bytes : Bytes}
    (blank : ∀ b ∈ gap, drops b = true) (trimmed : Trimmed drops bytes) :
    trimBy drops (gap ++ bytes) = bytes := by
  have last : ∀ b ∈ bytes.reverse.head?, drops b = false := by
    rw [List.head?_reverse]
    exact trimmed.last
  rw [trimBy, List.dropWhile_append_of_pos blank, dropWhile_of_head trimmed.first,
    dropWhile_of_head last, List.reverse_reverse]

theorem trimmed_trimBy (drops : UInt8 → Bool) (bytes : Bytes) :
    Trimmed drops (trimBy drops bytes) := by
  constructor
  · intro b starts
    rw [trimBy, List.head?_reverse] at starts
    -- The second pass drops at the other end, so it keeps the octet the first pass stopped at.
    obtain ⟨front, whole⟩ := List.dropWhile_suffix drops (l := (bytes.dropWhile drops).reverse)
    have ends : b ∈ (bytes.dropWhile drops).reverse.getLast? := by
      rw [← whole, List.getLast?_append, Option.mem_def.mp starts]
      rfl
    rw [List.getLast?_reverse] at ends
    exact head_dropWhile drops bytes b ends
  · intro b ends
    rw [trimBy, List.getLast?_reverse] at ends
    exact head_dropWhile drops _ b ends

theorem mem_of_mem_trimBy {drops : UInt8 → Bool} {bytes : Bytes} {b : UInt8}
    (member : b ∈ trimBy drops bytes) : b ∈ bytes := by
  rw [trimBy, List.mem_reverse] at member
  have inner := (List.dropWhile_suffix drops).subset member
  rw [List.mem_reverse] at inner
  exact (List.dropWhile_suffix drops).subset inner

end Bytes

theorem Text.trimChars_of_filled {chars : List Char} (filled : ∀ c ∈ chars, isBlank c = false) :
    trimChars chars = chars := by
  have first : ∀ c ∈ chars.head?, isBlank c = false := by
    intro c starts
    exact filled c (List.mem_of_head? starts)
  have last : ∀ c ∈ chars.reverse.head?, isBlank c = false := by
    intro c starts
    exact filled c (List.mem_reverse.mp (List.mem_of_head? starts))
  rw [trimChars, dropWhile_of_head first, dropWhile_of_head last, List.reverse_reverse]

end HttpServer
