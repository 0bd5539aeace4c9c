import HttpServer.Proofs.Headers
import Mathlib.Logic.Function.Basic

/-! Header fields as an ordered multimap. What counts for the values is the case class of a name,
and each change acts on one class: the fields of all others stay as they are, in their order and
spelling, and a value that is put under a name stands where the first field of that name stood. -/
namespace HttpServer

namespace Headers

inductive Change where
  | append (name value : String)
  | insert (name value : String)
  | remove (name : String)
  deriving DecidableEq, Repr

def Change.name : Change → String
  | .append name _ | .insert name _ | .remove name => name

def change (headers : Headers) : Change → Headers
  | .append name value => headers.append name value
  | .insert name value => headers.insert name value
  | .remove name => headers.remove name

def replay (headers : Headers) : List Change → Headers
  | [] => headers
  | change :: rest => (headers.change change).replay rest

/-- The values under every case class of names. -/
abbrev Multimap := List Char → List String

/-- What a change makes of the values under its own name. -/
def Change.values (old : List String) : Change → List String
  | .append _ value => old ++ [value]
  | .insert _ value => [value]
  | .remove _ => []

def Multimap.change (values : Multimap) (change : Change) : Multimap :=
  Function.update values (Text.caseless change.name)
    (change.values (values (Text.caseless change.name)))

/-- The multimap that header fields stand for. -/
def multimap (headers : Headers) : Multimap := fun letters =>
  (headers.fields.filter (Text.caseless ·.name == letters)).map (·.value)

theorem multimap_caseless (headers : Headers) (name : String) :
    headers.multimap (Text.caseless name) = headers.getAll name := rfl

section Changing

variable (headers : Headers) (name value : String)

theorem get?_eq_head? : headers.get? name = (headers.getAll name).head? := by
  rw [get?, getAll, List.head?_map, List.head?_filter]

theorem contains_eq_true_iff : headers.contains name = true ↔ headers.getAll name ≠ [] := by
  rw [contains, get?_eq_head?, List.isSome_head?]

theorem getAll_remove : (headers.remove name).getAll name = [] := by
  have none : (headers.fields.filter (!·.isNamed name)).filter (·.isNamed name) = [] := by
    simp [List.filter_filter]
  rw [getAll, remove, none, List.map_nil]

theorem filter_not_put (fields : List Field) :
    (put name value fields).filter (!·.isNamed name) = fields.filter (!·.isNamed name) := by
  induction fields with
  | nil => simp [put, Field.isNamed]
  | cons field rest ih =>
      by_cases named : field.isNamed name = true
      · have renamed : Field.isNamed ⟨field.name, value⟩ name = true := named
        rw [put, if_pos named]
        simp [named, renamed, List.filter_filter]
      · rw [put, if_neg named, List.filter_cons, List.filter_cons, ih]

theorem put_of_found {field : Field} {before after : List Field}
    (named : field.isNamed name = true)
    (first : ∀ earlier ∈ before, earlier.isNamed name = false) :
    put name value (before ++ field :: after) =
      before ++ ⟨field.name, value⟩ :: after.filter (!·.isNamed name) := by
  induction before with
  | nil => rw [List.nil_append, put, if_pos named, List.nil_append]
  | cons earlier before ih =>
      rw [List.forall_mem_cons] at first
      rw [List.cons_append, put, if_neg (by simp [first.1]), ih first.2, List.cons_append]

end Changing

section SameName

variable {name other : String} (same : Text.sameName name other = true)
include same

theorem put_put (first second : String) (fields : List Field) :
    put other second (put name first fields) = put name second fields := by
  have alike (field : Field) : field.isNamed other = field.isNamed name :=
    (Field.isNamed_congr same field).symm
  induction fields with
  | nil =>
      rw [put, put, put, alike, Field.isNamed, if_pos (Text.sameName_refl name), List.filter_nil]
  | cons field rest ih =>
      by_cases named : field.isNamed name = true
      · have renamed : Field.isNamed ⟨field.name, first⟩ other = true := (alike _).trans named
        rw [put, if_pos named, put, if_pos renamed, put, if_pos named, List.filter_filter]
        simp only [alike, Bool.and_self]
      · have unnamed : ¬ field.isNamed other = true := alike field ▸ named
        rw [put, if_neg named, put, if_neg unnamed, ih, put, if_neg named]

theorem insert_insert (headers : Headers) (first second : String) :
    (headers.insert name first).insert other second = headers.insert name second := by
  rw [insert, insert, put_put same, insert]

theorem remove_insert (headers : Headers) (value : String) :
    (headers.insert name value).remove other = headers.remove other := by
  have alike (field : Field) : field.isNamed other = field.isNamed name :=
    (Field.isNamed_congr same field).symm
  simp only [remove, insert, alike, filter_not_put]

end SameName

theorem filter_not_change (headers : Headers) (change : Change) :
    (headers.change change).fields.filter (!·.isNamed change.name) =
      headers.fields.filter (!·.isNamed change.name) := by
  cases change with
  | append name value => simp [Headers.change, append, Change.name, Field.isNamed]
  | insert name value => exact filter_not_put name value headers.fields
  | remove name => simp [Headers.change, remove, Change.name, List.filter_filter]

theorem getAll_change (headers : Headers) (change : Change) :
    (headers.change change).getAll change.name =
      change.values (headers.getAll change.name) := by
  cases change with
  | append name value =>
      exact (headers.getAll_append name value name).trans
        (congrArg _ (if_pos (Text.sameName_refl name)))
  | insert name value => exact headers.getAll_insert name value
  | remove name => exact headers.getAll_remove name

/-- The values of another case class are found among the fields of the other names. -/
theorem multimap_of_ne (headers : Headers) {name : String} {letters : List Char}
    (other : letters ≠ Text.caseless name) : headers.multimap letters =
      ((headers.fields.filter (!·.isNamed name)).filter
        (Text.caseless ·.name == letters)).map (·.value) := by
  rw [multimap, List.filter_filter]
  congr 2
  funext field
  by_cases found : Text.caseless field.name = letters
  · have unnamed : field.isNamed name = false := by
      rw [Field.isNamed, Text.sameName, beq_eq_false_iff_ne, found]
      exact other
    simp [unnamed]
  · simp [found]

/-- A change of fields is a change of the multimap for which they stand. -/
theorem multimap_change (headers : Headers) (change : Change) :
    (headers.change change).multimap = headers.multimap.change change := by
  funext letters
  by_cases own : letters = Text.caseless change.name
  · rw [own, Multimap.change, Function.update_self, multimap_caseless, multimap_caseless,
      getAll_change]
  · rw [Multimap.change, Function.update_of_ne own, multimap_of_ne _ own, filter_not_change,
      ← multimap_of_ne _ own]

theorem multimap_replay (headers : Headers) (changes : List Change) :
    (headers.replay changes).multimap = changes.foldl Multimap.change headers.multimap := by
  induction changes generalizing headers with
  | nil => rfl
  | cons change rest ih => rw [replay, ih, multimap_change, List.foldl_cons]

/-- What makes header fields an ordered multimap whose names have no letter case. -/
structure IsMultimap (headers : Headers) : Prop where
  /-- Without fields there are no values. -/
  empty : ∀ letters, Headers.multimap {} letters = []
  /-- After any changes, the values under a name are those of the multimap after these changes. -/
  values : ∀ changes name, (headers.replay changes).getAll name =
    changes.foldl Multimap.change headers.multimap (Text.caseless name)
  /-- The first of the values is the one that is found. -/
  first : ∀ name, headers.get? name = (headers.getAll name).head?
  present : ∀ name, headers.contains name = true ↔ headers.getAll name ≠ []
  /-- No change has to do with the fields of other names. -/
  others : ∀ change, (headers.change change).fields.filter (!·.isNamed change.name) =
    headers.fields.filter (!·.isNamed change.name)
  /-- A value takes the place and the spelling of the first field of its name. -/
  placed : ∀ before field after, headers.fields = before ++ field :: after →
    ∀ name, field.isNamed name = true → (∀ earlier ∈ before, earlier.isNamed name = false) →
      ∀ value, (headers.insert name value).fields =
        before ++ ⟨field.name, value⟩ :: after.filter (!·.isNamed name)
  /-- The value of a new name goes to the end. -/
  added : ∀ name, headers.contains name = false →
    ∀ value, (headers.insert name value).fields = headers.fields ++ [⟨name, value⟩]
  /-- Of two values under one name the second is left, as if the first had never been there. -/
  overwritten : ∀ name other, Text.sameName name other = true → ∀ first second,
    (headers.insert name first).insert other second = headers.insert name second
  removed : ∀ name other, Text.sameName name other = true → ∀ value,
    (headers.insert name value).remove other = headers.remove other

theorem isMultimap (headers : Headers) : headers.IsMultimap where
  empty _ := rfl
  values changes name := by rw [← multimap_replay, multimap_caseless]
  first := headers.get?_eq_head?
  present := headers.contains_eq_true_iff
  others := headers.filter_not_change
  placed before field after stored name named first value := by
    rw [insert, stored]
    exact put_of_found name value named first
  added name missing value := by
    refine put_of_missing value ?_
    rw [List.forall_mem_map]
    intro field stored
    rw [contains, get?, Option.isSome_map, ← Bool.not_eq_true, List.find?_isSome] at missing
    exact Bool.eq_false_iff.mpr fun named => missing ⟨field, stored, named⟩
  overwritten _ _ same := headers.insert_insert same
  removed _ _ same := headers.remove_insert same

example : (Headers.insert ⟨[⟨"A", "1"⟩, ⟨"b", "2"⟩, ⟨"a", "3"⟩, ⟨"A", "4"⟩]⟩ "a" "5").fields =
    [⟨"A", "5"⟩, ⟨"b", "2"⟩] := by
  decide

end Headers
end HttpServer
