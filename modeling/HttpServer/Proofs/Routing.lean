import HttpServer.Routes

/-! Routing. A sequence of additions leaves a table that holds each route once, longer paths
before shorter ones and equally long ones in the order of their addition. So the first route
that begins a target has the longest path, and among equal paths it was added first. The order
in which different paths are added plays no part. -/
namespace HttpServer.RouteTable

universe u

variable {α : Type u} {table : RouteTable α} {added : List (Route α)} {route other : Route α}
  {uri : String}

theorem covers_iff : covers route uri = true ↔ route.path.toList <+: uri.toList :=
  List.isPrefixOf_iff_prefix

theorem eq_of_begins {first second : String} (starts : first.toList <+: second.toList)
    (level : first.utf8ByteSize = second.utf8ByteSize) : first = second := by
  obtain ⟨tail, same⟩ := starts
  have longer : second = first ++ String.ofList tail := by
    rw [← String.toList_inj, String.toList_append, String.toList_ofList, same]
  rw [longer, String.utf8ByteSize_append] at level
  have empty : String.ofList tail = "" := String.utf8ByteSize_eq_zero_iff.mp (by omega)
  rw [longer, empty, String.append_empty]

theorem path_eq_of_begins {first second : String} (begins : first.toList <+: uri.toList)
    (alsoBegins : second.toList <+: uri.toList)
    (level : first.utf8ByteSize = second.utf8ByteSize) : first = second := by
  rcases List.prefix_or_prefix_of_prefix begins alsoBegins with starts | starts
  · exact eq_of_begins starts level
  · exact (eq_of_begins starts level.symm).symm

/-- The order of a table: no path comes after a shorter one. -/
def Descending (routes : List (Route α)) : Prop :=
  routes.Pairwise fun earlier later => later.path.utf8ByteSize ≤ earlier.path.utf8ByteSize

theorem place_perm (route : Route α) (routes : List (Route α)) :
    (place route routes).Perm (route :: routes) := by
  induction routes with
  | nil => exact .refl _
  | cons other rest ih =>
      rw [place]
      split
      · exact .refl _
      · exact (ih.cons other).trans (.swap route other rest)

theorem Descending.place {routes : List (Route α)} (h : Descending routes) (route : Route α) :
    Descending (place route routes) := by
  induction routes with
  | nil => exact List.pairwise_singleton _ _
  | cons other rest ih =>
      obtain ⟨first, later⟩ := List.pairwise_cons.mp h
      rw [RouteTable.place]
      split
      · next shorter =>
        refine List.pairwise_cons.mpr ⟨?_, h⟩
        intro next member
        rcases List.mem_cons.mp member with rfl | member
        · exact Nat.le_of_lt shorter
        · exact Nat.le_trans (first next member) (Nat.le_of_lt shorter)
      · next shorter =>
        refine List.pairwise_cons.mpr ⟨?_, ih later⟩
        intro next member
        rcases List.mem_cons.mp ((place_perm route rest).mem_iff.mp member) with rfl | member
        · exact Nat.le_of_not_lt shorter
        · exact first next member

/-- Among the paths of one length, a route is placed last. -/
theorem filter_place {routes : List (Route α)} (h : Descending routes) (route : Route α)
    (size : Nat) :
    (place route routes).filter (·.path.utf8ByteSize = size) =
      (routes ++ [route]).filter (·.path.utf8ByteSize = size) := by
  induction routes with
  | nil => rfl
  | cons other rest ih =>
      obtain ⟨first, later⟩ := List.pairwise_cons.mp h
      rw [place]
      split
      · next shorter =>
        -- Everything behind the route is shorter than it, so it stands alone in its length.
        rw [← List.singleton_append, List.filter_append, List.filter_append]
        by_cases same : route.path.utf8ByteSize = size
        · have alone : (other :: rest).filter (·.path.utf8ByteSize = size) = [] := by
            rw [List.filter_eq_nil_iff]
            intro next member
            rw [decide_eq_true_eq, ← same]
            rcases List.mem_cons.mp member with rfl | member
            · exact Nat.ne_of_lt shorter
            · exact Nat.ne_of_lt (Nat.lt_of_le_of_lt (first next member) shorter)
          rw [alone, List.append_nil, List.nil_append]
        · have absent : [route].filter (·.path.utf8ByteSize = size) = [] := by simp [same]
          rw [absent, List.append_nil, List.nil_append]
      · rw [List.cons_append, List.filter_cons, List.filter_cons, ih later]

/-- A table in order, with the routes that were added to it in the order of their addition. -/
structure Arranged (table : RouteTable α) (added : List (Route α)) : Prop where
  complete : table.routes.Perm added
  descending : Descending table.routes
  stable : ∀ size, table.routes.filter (·.path.utf8ByteSize = size) =
    added.filter (·.path.utf8ByteSize = size)

theorem Arranged.add (h : Arranged table added) (path : String) (target : α) :
    Arranged (table.add path target) (added ++ [⟨table.baseUri ++ path, target⟩]) := by
  constructor
  · exact (place_perm _ _).trans ((h.complete.cons _).trans (List.perm_append_singleton _ _).symm)
  · exact h.descending.place _
  · intro size
    rw [RouteTable.add, filter_place h.descending, List.filter_append, List.filter_append,
      h.stable]

def build (baseUri : String) (additions : List (String × α)) : RouteTable α :=
  additions.foldl (fun table addition => table.add addition.1 addition.2) { baseUri }

def below (baseUri : String) (additions : List (String × α)) : List (Route α) :=
  additions.map fun addition => ⟨baseUri ++ addition.1, addition.2⟩

theorem Arranged.foldl (h : Arranged table added) (additions : List (String × α)) :
    Arranged (additions.foldl (fun table addition => table.add addition.1 addition.2) table)
      (added ++ below table.baseUri additions) := by
  induction additions generalizing table added with
  | nil =>
      rw [below, List.map_nil, List.append_nil]
      exact h
  | cons addition rest ih =>
      have further := ih (h.add addition.1 addition.2)
      rw [List.append_assoc] at further
      exact further

theorem arranged_build (baseUri : String) (additions : List (String × α)) :
    Arranged (build baseUri additions) (below baseUri additions) := by
  have empty : Arranged ({ baseUri } : RouteTable α) [] := ⟨.nil, .nil, fun _ => rfl⟩
  exact empty.foldl additions

/-- The route that leads on from a target: its path begins the target, no longer path does,
and no route was added earlier under the same path. -/
structure Leads (added : List (Route α)) (uri : String) (route : Route α) : Prop where
  begins : route.path.toList <+: uri.toList
  longest : ∀ other ∈ added, other.path.toList <+: uri.toList →
    other.path.utf8ByteSize ≤ route.path.utf8ByteSize
  earliest : added.find? (·.path = route.path) = some route

theorem Leads.unique (first : Leads added uri route) (second : Leads added uri other) :
    route = other := by
  have level : route.path.utf8ByteSize = other.path.utf8ByteSize :=
    Nat.le_antisymm (second.longest route (List.mem_of_find?_eq_some first.earliest) first.begins)
      (first.longest other (List.mem_of_find?_eq_some second.earliest) second.begins)
  have same := path_eq_of_begins first.begins second.begins level
  have earliest := first.earliest
  rw [same, second.earliest] at earliest
  exact (Option.some.inj earliest).symm

theorem Arranged.find?_path (h : Arranged table added) (path : String) :
    table.routes.find? (·.path = path) = added.find? (·.path = path) := by
  have narrow (routes : List (Route α)) : routes.find? (·.path = path) =
      (routes.filter (·.path.utf8ByteSize = path.utf8ByteSize)).find? (·.path = path) := by
    rw [List.find?_filter]
    congr 1
    funext route
    by_cases same : route.path = path <;> simp [same]
  rw [narrow, h.stable, ← narrow]

theorem Arranged.leads_of_find? (h : Arranged table added) (found : table.find? uri = some route) :
    Leads added uri route := by
  obtain ⟨covered, before, behind, same, missed⟩ := List.find?_eq_some_iff_append.mp found
  have begins := covers_iff.mp covered
  have passed {next : Route α} (member : next ∈ before) : ¬ next.path.toList <+: uri.toList := by
    intro starts
    have missed := missed next member
    rw [covers_iff.mpr starts] at missed
    cases missed
  refine ⟨begins, ?_, ?_⟩
  · intro next member starts
    rw [← h.complete.mem_iff, same] at member
    have descending := h.descending
    rw [same, Descending, List.pairwise_append, List.pairwise_cons] at descending
    rcases List.mem_append.mp member with member | member
    · exact absurd starts (passed member)
    · rcases List.mem_cons.mp member with rfl | member
      · exact Nat.le_refl _
      · exact descending.2.1.1 next member
  · rw [← h.find?_path, List.find?_eq_some_iff_append]
    refine ⟨decide_eq_true rfl, before, behind, same, ?_⟩
    intro next member
    have other : next.path ≠ route.path := by
      intro equal
      exact passed member (equal ▸ begins)
    simpa using other

theorem Arranged.find?_isSome_iff (h : Arranged table added) :
    (table.find? uri).isSome = true ↔ ∃ route ∈ added, route.path.toList <+: uri.toList := by
  rw [find?, List.find?_isSome]
  constructor
  · rintro ⟨route, member, covered⟩
    exact ⟨route, h.complete.mem_iff.mp member, covers_iff.mp covered⟩
  · rintro ⟨route, member, begins⟩
    exact ⟨route, h.complete.mem_iff.mpr member, covers_iff.mpr begins⟩

theorem Arranged.find?_iff (h : Arranged table added) :
    table.find? uri = some route ↔ Leads added uri route := by
  constructor
  · exact h.leads_of_find?
  · intro leads
    have member := List.mem_of_find?_eq_some leads.earliest
    obtain ⟨found, same⟩ :=
      Option.isSome_iff_exists.mp (h.find?_isSome_iff.mpr ⟨route, member, leads.begins⟩)
    rw [same, leads.unique (h.leads_of_find? same)]

/-- Two sequences of the same additions, in which those under one path come in the same order. -/
def SamePerPath (first second : List (String × α)) : Prop :=
  ∀ path, first.filter (·.1 = path) = second.filter (·.1 = path)

theorem SamePerPath.perm {first second : List (String × α)} (h : SamePerPath first second) :
    first.Perm second := by
  classical
  rw [List.perm_iff_count]
  intro addition
  have count (additions : List (String × α)) : additions.count addition =
      (additions.filter (·.1 = addition.1)).count addition := by
    rw [List.count_filter]
    exact decide_eq_true rfl
  rw [count first, count second, h]

theorem samePerPath_swap {first second : String × α} (differ : first.1 ≠ second.1)
    (rest : List (String × α)) :
    SamePerPath (first :: second :: rest) (second :: first :: rest) := by
  intro path
  by_cases same : first.1 = path
  · have other : second.1 ≠ path := fun equal => differ (same.trans equal.symm)
    simp only [List.filter_cons, same, other, decide_true, decide_false, if_true, Bool.false_eq_true,
      if_false]
  · simp only [List.filter_cons, same, decide_false, Bool.false_eq_true, if_false]

theorem SamePerPath.find?_below {first second : List (String × α)} (h : SamePerPath first second)
    (baseUri path : String) : (below baseUri first).find? (·.path = path) =
      (below baseUri second).find? (·.path = path) := by
  rw [below, below, List.find?_map, List.find?_map, ← List.head?_filter, ← List.head?_filter]
  congr 2
  by_cases lies : ∃ rest, baseUri ++ rest = path
  · obtain ⟨rest, rfl⟩ := lies
    simpa [Function.comp_def, String.append_right_inj] using h rest
  · have none (additions : List (String × α)) :
        additions.filter ((fun route : Route α => decide (route.path = path)) ∘
          fun addition => ⟨baseUri ++ addition.1, addition.2⟩) = [] := by
      rw [List.filter_eq_nil_iff]
      intro addition _ same
      exact lies ⟨addition.1, of_decide_eq_true same⟩
    rw [none, none]

theorem SamePerPath.leads {first second : List (String × α)} (h : SamePerPath first second)
    {baseUri : String} (leads : Leads (below baseUri first) uri route) :
    Leads (below baseUri second) uri route := by
  refine ⟨leads.begins, ?_, ?_⟩
  · intro other member begins
    obtain ⟨addition, added, rfl⟩ := List.mem_map.mp member
    exact leads.longest _ (List.mem_map_of_mem (h.perm.mem_iff.mpr added)) begins
  · rw [← h.find?_below]
    exact leads.earliest

/-- What a sequence of additions makes of the table, and which route it makes lead on from a
target: the one of the longest path, whatever the order in which different paths are added. -/
theorem find?_build (baseUri : String) (additions : List (String × α)) :
    Arranged (build baseUri additions) (below baseUri additions) ∧
    (∀ uri, ((build baseUri additions).find? uri).isSome = true ↔
      ∃ addition ∈ additions, (baseUri ++ addition.1).toList <+: uri.toList) ∧
    (∀ uri route, (build baseUri additions).find? uri = some route ↔
      Leads (below baseUri additions) uri route) ∧
    ∀ others, SamePerPath additions others →
      ∀ uri, (build baseUri others).find? uri = (build baseUri additions).find? uri := by
  have arranged := arranged_build baseUri additions
  refine ⟨arranged, ?_, fun uri route => arranged.find?_iff, ?_⟩
  · intro uri
    rw [arranged.find?_isSome_iff]
    constructor
    · rintro ⟨route, member, begins⟩
      obtain ⟨addition, added, rfl⟩ := List.mem_map.mp member
      exact ⟨addition, added, begins⟩
    · rintro ⟨addition, added, begins⟩
      exact ⟨_, List.mem_map_of_mem added, begins⟩
  · intro others same uri
    have back : SamePerPath others additions := fun path => (same path).symm
    apply Option.ext
    intro route
    rw [(arranged_build baseUri others).find?_iff, arranged.find?_iff]
    exact ⟨back.leads, same.leads⟩

theorem find?_build_exchanged :
    SamePerPath [("/a", 1), ("/a/b", 2), ("/a", 3)] [("/a/b", 2), ("/a", 1), ("/a", 3)] ∧
    (build "/v" [("/a/b", 2), ("/a", 1), ("/a", 3)]).find? "/v/a/x" =
      (build "/v" [("/a", 1), ("/a/b", 2), ("/a", 3)]).find? "/v/a/x" := by
  have same : SamePerPath [("/a", 1), ("/a/b", 2), ("/a", 3)]
      [("/a/b", 2), ("/a", 1), ("/a", 3)] := samePerPath_swap (by decide) _
  exact ⟨same, (find?_build "/v" _).2.2.2 _ same "/v/a/x"⟩

end HttpServer.RouteTable
