import HttpServer.Headers

/-! Header fields under one name. Letter case plays no part in finding them, and giving a name a
value leaves one field under that name and all fields under other names. -/
namespace HttpServer

theorem Text.sameName_congr {first second : String} (same : sameName first second = true)
    (other : String) : sameName other first = sameName other second := by
  rw [sameName, sameName, sameName_iff.mp same]

theorem Field.isNamed_congr {first second : String} (same : Text.sameName first second = true)
    (field : Field) : field.isNamed first = field.isNamed second :=
  Text.sameName_congr same field.name

theorem Field.not_isNamed {field : Field} {name other : String}
    (differs : Text.sameName name other = false) (named : field.isNamed name = true) :
    field.isNamed other = false := by
  rw [isNamed, Text.sameName_symm, Text.sameName_congr named, Text.sameName_symm]
  exact differs

namespace Headers

variable {name value other : String}

/-- A value that is put under a name is in the only field of that name, however it is spelt. -/
theorem filter_put (name value : String) (fields : List Field) :
    ∃ spelling, Text.sameName spelling name = true ∧
      (put name value fields).filter (·.isNamed name) = [⟨spelling, value⟩] := by
  induction fields with
  | nil => exact ⟨name, Text.sameName_refl name, by simp [put, Field.isNamed]⟩
  | cons field rest ih =>
      by_cases named : field.isNamed name = true
      · have gone : (rest.filter (!·.isNamed name)).filter (·.isNamed name) = [] := by
          simp [List.filter_filter]
        refine ⟨field.name, named, ?_⟩
        rw [put, if_pos named, List.filter_cons, gone]
        exact if_pos named
      · obtain ⟨spelling, same, found⟩ := ih
        refine ⟨spelling, same, ?_⟩
        rw [put, if_neg named, List.filter_cons, found]
        exact if_neg named

theorem put_of_missing {fields : List Field} (value : String)
    (missing : ∀ stored ∈ fields.map (·.name), Text.sameName stored name = false) :
    put name value fields = fields ++ [⟨name, value⟩] := by
  induction fields with
  | nil => rfl
  | cons field rest ih =>
      rw [List.map_cons, List.forall_mem_cons] at missing
      rw [put, Field.isNamed, if_neg (by simp [missing.1]), ih missing.2, List.cons_append]

theorem getAll_insert (headers : Headers) (name value : String) :
    (headers.insert name value).getAll name = [value] := by
  obtain ⟨spelling, _, found⟩ := filter_put name value headers.fields
  rw [getAll, insert, found]
  rfl

theorem getAll_append (headers : Headers) (name value other : String) :
    (headers.append name value).getAll other =
      headers.getAll other ++ if Text.sameName name other = true then [value] else [] := by
  rw [getAll, append, List.filter_append, List.map_append]
  by_cases same : Text.sameName name other = true
  · simp [getAll, Field.isNamed, same]
  · simp [getAll, Field.isNamed, same]

theorem filter_of_getAll {headers : Headers} (single : headers.getAll name = [value]) :
    ∃ spelling, Text.sameName spelling name = true ∧
      headers.fields.filter (·.isNamed name) = [⟨spelling, value⟩] := by
  obtain ⟨field, found, rfl⟩ := List.map_eq_singleton_iff.mp single
  have member : field ∈ headers.fields.filter (·.isNamed name) := by
    rw [found]
    exact List.mem_singleton_self field
  exact ⟨field.name, (List.mem_filter.mp member).2, found⟩

end Headers
end HttpServer
