import HttpServer.Proofs.Head.Canonical
import HttpServer.Proofs.Headers
import Mathlib.Data.List.TakeWhile
import Mathlib.Logic.Relation

/-! The framing that header fields announce. It is stated apart from how the fields are gone
through: no fields announce two framings, fields that announce none are refused, and what has
nothing to do with the framing can be changed without changing it. -/
namespace HttpServer

namespace Framing

/-- A value that declares a number: without its outer blanks it is a number of 64 bits. -/
def IsNumber (value : String) (n : Nat) : Prop :=
  Numeral.natural 10 Numeral.max64 (Text.trim value) = .ok n

/-- The framing that fields announce: chunks if `chunked` is the last element of the last transfer
coding and there is no length, and a length on which all values agree if there is no transfer
coding. -/
inductive Announces (headers : Headers) : Framing → Prop
  | chunked {value : String} {coding : List Char}
      (last : (headers.getAll "transfer-encoding").getLast? = some value)
      (element : (value.toList.splitOn ',').getLast? = some coding)
      (named : Text.sameName (Text.trim (String.ofList coding)) "chunked" = true)
      (unmeasured : headers.getAll "content-length" = []) : Announces headers .chunked
  | length {n : Nat} (uncoded : headers.getAll "transfer-encoding" = [])
      (measured : headers.getAll "content-length" ≠ [])
      (agree : ∀ value ∈ headers.getAll "content-length", IsNumber value n) (pos : 0 < n) :
      Announces headers (.length n)
  | empty (uncoded : headers.getAll "transfer-encoding" = [])
      (agree : ∀ value ∈ headers.getAll "content-length", IsNumber value 0) :
      Announces headers .empty

theorem declared_iff {value : String} {n : Nat} : declared value = .ok n ↔ IsNumber value n := by
  rw [declared, IsNumber]
  cases Numeral.natural 10 Numeral.max64 (Text.trim value) <;> simp

theorem declared_error {value : String} {reason : ParseError} (h : declared value = .error reason) :
    reason = .invalidFraming := by
  unfold declared at h
  split at h
  · cases h
  · cases h
    rfl

theorem agreed_error {seen : Option Nat} {values : List String} {reason : ParseError}
    (h : agreed seen values = .error reason) : reason = .invalidFraming := by
  induction values generalizing seen with
  | nil => cases h
  | cons value values ih =>
      unfold agreed at h
      split at h
      · next refused =>
        cases h
        exact declared_error refused
      · exact ih h
      · split at h
        · exact ih h
        · cases h
          rfl

theorem agreed_some_iff {n : Nat} {values : List String} {size : Option Nat} :
    agreed (some n) values = .ok size ↔ size = some n ∧ ∀ value ∈ values, IsNumber value n := by
  induction values with
  | nil =>
      have ended : agreed (some n) [] = .ok (some n) := rfl
      rw [ended, Except.ok.injEq, eq_comm]
      simp
  | cons value values ih =>
      rw [List.forall_mem_cons, ← declared_iff]
      unfold agreed
      cases number : declared value with
      | error reason => simp
      | ok m =>
          by_cases same : n = m
          · subst same
            simp [ih]
          · have other : ¬ m = n := fun back => same back.symm
            simp [same, other]

theorem agreed_none_iff {values : List String} {size : Option Nat} :
    agreed none values = .ok size ↔
      (values = [] ∧ size = none) ∨
        values ≠ [] ∧ ∃ n, size = some n ∧ ∀ value ∈ values, IsNumber value n := by
  cases values with
  | nil =>
      have ended : agreed none [] = .ok none := rfl
      rw [ended, Except.ok.injEq, eq_comm]
      simp
  | cons value values =>
      simp only [List.forall_mem_cons, ← @declared_iff value, ne_eq, List.cons_ne_nil, false_and,
        not_false_eq_true, true_and, false_or]
      unfold agreed
      cases declared value with
      | error reason => simp
      | ok m =>
          simp only [agreed_some_iff, Except.ok.injEq]
          constructor
          · rintro ⟨rfl, agree⟩
            exact ⟨m, rfl, rfl, agree⟩
          · rintro ⟨n, rfl, rfl, agree⟩
            exact ⟨rfl, agree⟩

theorem ne_comma {chars : List Char} (missing : ',' ∉ chars) : ∀ c ∈ chars, (c != ',') = true := by
  intro c member
  rw [bne_iff_ne]
  rintro rfl
  exact missing member

/-- What stands after the last comma is the last of the elements. -/
theorem getLast?_splitOn (chars : List Char) :
    (chars.splitOn ',').getLast? = some (lastElement chars) := by
  by_cases comma : ',' ∈ chars
  · -- The last comma is the first one of the characters in reverse.
    obtain ⟨behind, before, split, missing⟩ :=
      List.eq_append_cons_of_mem (List.mem_reverse.mpr comma)
    have whole : chars = before.reverse ++ ',' :: behind.reverse := by
      rw [← List.reverse_reverse chars, split]
      simp
    have element : lastElement chars = behind.reverse := by
      rw [lastElement, split, List.takeWhile_append_of_pos (ne_comma missing)]
      simp
    rw [element, whole, List.splitOn_append_cons_self,
      List.splitOn_eq_singleton (fun member => missing (List.mem_reverse.mp member)),
      List.getLast?_append]
    rfl
  · have passed := ne_comma (mt List.mem_reverse.mp comma)
    rw [List.splitOn_eq_singleton comma, lastElement, List.takeWhile_eq_self_iff.mpr passed,
      List.reverse_reverse]
    rfl

theorem endsChunked_iff {value : String} : endsChunked value = true ↔
    ∃ coding, (value.toList.splitOn ',').getLast? = some coding ∧
      Text.sameName (Text.trim (String.ofList coding)) "chunked" = true := by
  have lowered : Text.caseless "chunked" = "chunked".toList := by decide
  simp only [getLast?_splitOn, Option.some.injEq, exists_eq_left', Text.sameName_iff, lowered]
  rw [endsChunked, beq_iff_eq, Text.caseless, Text.trim]
  simp only [String.toList_ofList]

variable {headers : Headers} {framing : Framing}

theorem Announces.ofHeaders (h : Announces headers framing) : ofHeaders headers = .ok framing := by
  cases h with
  | @chunked value coding last element named unmeasured =>
      have agrees := agreed_none_iff.mpr (.inl ⟨unmeasured, rfl⟩)
      rw [Framing.ofHeaders, agrees, last]
      exact if_pos (endsChunked_iff.mpr ⟨coding, element, named⟩)
  | @length n uncoded measured agree pos =>
      have agrees := agreed_none_iff.mpr (.inr ⟨measured, n, rfl, agree⟩)
      rw [Framing.ofHeaders, agrees, uncoded]
      cases n with
      | zero => exact absurd pos (Nat.lt_irrefl 0)
      | succ n => rfl
  | empty uncoded agree =>
      by_cases measured : headers.getAll "content-length" = []
      · rw [Framing.ofHeaders, agreed_none_iff.mpr (.inl ⟨measured, rfl⟩), uncoded]
        rfl
      · rw [Framing.ofHeaders, agreed_none_iff.mpr (.inr ⟨measured, 0, rfl, agree⟩), uncoded]
        rfl

theorem announces_of_ofHeaders (h : ofHeaders headers = .ok framing) : Announces headers framing := by
  unfold ofHeaders at h
  split at h
  · cases h
  · next size agrees =>
    rw [agreed_none_iff] at agrees
    split at h
    · next _ value last =>
      split at h
      · next ends =>
        cases h
        obtain ⟨coding, element, named⟩ := endsChunked_iff.mp ends
        obtain ⟨none, _⟩ | ⟨_, _, absurd, _⟩ := agrees
        · exact .chunked last element named none
        · cases absurd
      · cases h
    · cases h
    · next uncoded =>
      cases h
      obtain ⟨none, _⟩ | ⟨_, _, absurd, _⟩ := agrees
      · exact .empty (List.getLast?_eq_none_iff.mp uncoded) (by simp [none])
      · cases absurd
    · next uncoded =>
      cases h
      obtain ⟨_, absurd⟩ | ⟨_, _, same, agree⟩ := agrees
      · cases absurd
      · cases same
        exact .empty (List.getLast?_eq_none_iff.mp uncoded) agree
    · next n pos uncoded =>
      cases h
      obtain ⟨_, absurd⟩ | ⟨measured, _, same, agree⟩ := agrees
      · cases absurd
      · cases same
        exact .length (List.getLast?_eq_none_iff.mp uncoded) measured agree (Nat.pos_of_ne_zero pos)

theorem ofHeaders_error {reason : ParseError} (h : ofHeaders headers = .error reason) :
    reason = .invalidFraming := by
  unfold ofHeaders at h
  split at h
  · next refused =>
    cases h
    exact agreed_error refused
  · split at h
    · split at h <;> cases h
      rfl
    all_goals cases h
    rfl

theorem ofHeaders_refused_iff :
    ofHeaders headers = .error .invalidFraming ↔ ∀ framing, ¬ Announces headers framing := by
  constructor
  · intro refused framing announced
    rw [announced.ofHeaders] at refused
    cases refused
  · intro none
    cases read : ofHeaders headers with
    | ok framing => exact absurd (announces_of_ofHeaders read) (none framing)
    | error reason => rw [ofHeaders_error read]

/-- A change to fields that does not bear on where the body ends. -/
inductive Edit : List Field → List Field → Prop
  | reordered {before after : List Field} (perm : before.Perm after)
      (codings : before.filter (·.isNamed "transfer-encoding") =
        after.filter (·.isNamed "transfer-encoding")) : Edit before after
  | inserted {early late : List Field} {field : Field}
      (codes : field.isNamed "transfer-encoding" = false)
      (measures : field.isNamed "content-length" = false) :
      Edit (early ++ late) (early ++ field :: late)
  | deleted {early late : List Field} {field : Field}
      (codes : field.isNamed "transfer-encoding" = false)
      (measures : field.isNamed "content-length" = false) :
      Edit (early ++ field :: late) (early ++ late)
  | respelt {early late : List Field} {field : Field} {name : String}
      (same : Text.sameName name field.name = true) :
      Edit (early ++ field :: late) (early ++ ⟨name, field.value⟩ :: late)
  | repeated {early late : List Field} {field : Field} (stored : field ∈ early ++ late)
      (measures : field.isNamed "content-length" = true) :
      Edit (early ++ late) (early ++ field :: late)

/-- Fields with the same transfer codings in the same order, and with the same lengths in whatever
order and number. -/
structure Alike (first second : List Field) : Prop where
  codings : Headers.getAll ⟨first⟩ "transfer-encoding" = Headers.getAll ⟨second⟩ "transfer-encoding"
  lengths : ∀ value, value ∈ Headers.getAll ⟨first⟩ "content-length" ↔
    value ∈ Headers.getAll ⟨second⟩ "content-length"

theorem Alike.symm {first second : List Field} (h : Alike first second) : Alike second first :=
  ⟨h.codings.symm, fun value => (h.lengths value).symm⟩

theorem Alike.announces {first second : List Field} (h : Alike first second)
    (announced : Announces ⟨first⟩ framing) : Announces ⟨second⟩ framing := by
  have none : Headers.getAll ⟨first⟩ "content-length" = [] ↔
      Headers.getAll ⟨second⟩ "content-length" = [] := by
    simp only [List.eq_nil_iff_forall_not_mem, h.lengths]
  cases announced with
  | chunked last element named unmeasured =>
      rw [h.codings] at last
      exact .chunked last element named (none.mp unmeasured)
  | length uncoded measured agree pos =>
      rw [h.codings] at uncoded
      refine .length uncoded (mt none.mpr measured) ?_ pos
      intro value member
      exact agree value ((h.lengths value).mpr member)
  | empty uncoded agree =>
      rw [h.codings] at uncoded
      refine .empty uncoded ?_
      intro value member
      exact agree value ((h.lengths value).mpr member)

theorem Alike.ofHeaders {first second : List Field} (h : Alike first second) :
    ofHeaders ⟨second⟩ = ofHeaders ⟨first⟩ := by
  cases read : Framing.ofHeaders ⟨first⟩ with
  | ok framing => exact (h.announces (announces_of_ofHeaders read)).ofHeaders
  | error reason =>
      obtain rfl := ofHeaders_error read
      rw [ofHeaders_refused_iff] at read ⊢
      exact fun framing announced => read framing (h.symm.announces announced)

theorem getAll_middle (early late : List Field) (field : Field) (name : String) :
    Headers.getAll ⟨early ++ field :: late⟩ name = Headers.getAll ⟨early⟩ name ++
      ((if field.isNamed name = true then [field.value] else []) ++ Headers.getAll ⟨late⟩ name) := by
  simp only [Headers.getAll, List.filter_append, List.map_append, List.filter_cons]
  split <;> simp

theorem getAll_around (early late : List Field) (name : String) :
    Headers.getAll ⟨early ++ late⟩ name =
      Headers.getAll ⟨early⟩ name ++ Headers.getAll ⟨late⟩ name := by
  simp only [Headers.getAll, List.filter_append, List.map_append]

theorem alike_inserted {early late : List Field} {field : Field}
    (codes : field.isNamed "transfer-encoding" = false)
    (measures : field.isNamed "content-length" = false) :
    Alike (early ++ late) (early ++ field :: late) := by
  constructor
  · rw [getAll_middle, getAll_around, codes]
    rfl
  · intro value
    rw [getAll_middle, getAll_around, measures]
    rfl

theorem alike_respelt {early late : List Field} {field : Field} {name : String}
    (same : Text.sameName name field.name = true) :
    Alike (early ++ field :: late) (early ++ ⟨name, field.value⟩ :: late) := by
  have named (other : String) :
      Field.isNamed ⟨name, field.value⟩ other = field.isNamed other := by
    rw [Field.isNamed, Field.isNamed, Text.sameName_symm, Text.sameName_congr same,
      Text.sameName_symm]
  constructor
  · rw [getAll_middle, getAll_middle, named]
  · intro value
    rw [getAll_middle, getAll_middle, named]

theorem alike_repeated {early late : List Field} {field : Field} (stored : field ∈ early ++ late)
    (measures : field.isNamed "content-length" = true) :
    Alike (early ++ late) (early ++ field :: late) := by
  have differs : Text.sameName "content-length" "transfer-encoding" = false := by decide
  have codes := Field.not_isNamed differs measures
  have already : field.value ∈ Headers.getAll ⟨early ++ late⟩ "content-length" :=
    List.mem_map_of_mem (List.mem_filter.mpr ⟨stored, measures⟩)
  rw [getAll_around, List.mem_append] at already
  constructor
  · rw [getAll_middle, getAll_around, codes]
    rfl
  · intro value
    rw [getAll_middle, getAll_around, if_pos measures]
    simp only [List.mem_append, List.mem_singleton]
    constructor
    · rintro (before | behind)
      · exact .inl before
      · exact .inr (.inr behind)
    · rintro (before | rfl | behind)
      · exact .inl before
      · exact already
      · exact .inr behind

theorem Edit.alike {before after : List Field} (h : Edit before after) : Alike before after := by
  cases h with
  | reordered perm codings =>
      refine ⟨congrArg (List.map Field.value) codings, ?_⟩
      intro value
      exact ((perm.filter _).map _).mem_iff
  | inserted codes measures => exact alike_inserted codes measures
  | deleted codes measures => exact (alike_inserted codes measures).symm
  | respelt same => exact alike_respelt same
  | repeated stored measures => exact alike_repeated stored measures

end Framing

namespace Head

variable {limits : Limits} {buffer rest : Bytes} {request : Request} {framing : Framing}

/-- A buffer begins with a head that is within the limits and whose lines are well-formed, and
`rest` is left behind it. What its fields say of a body is left aside. -/
inductive Carries (limits : Limits) (buffer : Bytes) : Request → Bytes → Prop
  | intro {size : Nat} {first : Bytes} {lines : List Bytes} {start : Request} {fields : List Field}
      (ends : Bytes.FirstAt Bytes.blankLine (dropEmptyLines buffer) size)
      (room : size + 4 ≤ limits.maxHeadBytes)
      (divides : (((dropEmptyLines buffer).take size).splitOn 10).map dropReturn = first :: lines)
      (begins : requestLine first = .ok start)
      (follow : headerLines limits.maxHeaders lines = .ok fields) :
      Carries limits buffer { start with headers := ⟨fields⟩ }
        ((dropEmptyLines buffer).drop (size + 4))

theorem Carries.decode (h : Carries limits buffer request rest) :
    decode limits buffer =
      (match Framing.ofHeaders request.headers with
        | .ok framing => .complete request framing
        | .error reason => .rejected reason, rest) := by
  obtain ⟨ends, room, divides, begins, follow⟩ := h
  rw [decode_found limits ends, if_neg (Nat.not_lt_of_le room), parse, divides]
  simp only [begins, follow, bind, Except.bind]
  cases Framing.ofHeaders _ <;> rfl

theorem carries_of_decode (h : decode limits buffer = (.complete request framing, rest)) :
    Carries limits buffer request rest ∧ Framing.ofHeaders request.headers = .ok framing := by
  obtain ⟨size, ends, room, rfl, parsed⟩ := parsed_of_decode h
  obtain ⟨_, _, _, _, divides, begins, follow, rfl, frames⟩ := lines_of_parse parsed
  exact ⟨.intro ends room divides begins follow, frames⟩

end Head

end HttpServer
