import HttpServer.Dispatcher

/-! What a part of serving a connection comes to when it is run from a state, and how the
parts put together come to what they do. The reports made meanwhile are left open. -/
namespace HttpServer

namespace Work

variable {σ α τ : Type} {state after : σ} {notices : List Notice}

theorem contain_eq {work : Work σ α} {value : Option α}
    (ran : work state = ⟨value, after, notices⟩) (callback : Callback) (uri : String) :
    ∃ reports, contain callback uri work state = ⟨some value, after, reports⟩ := by
  cases value with
  | none => exact ⟨notices ++ [.panicked callback uri], by rw [contain, ran]⟩
  | some value => exact ⟨notices, by rw [contain, ran]⟩

theorem holding_eq {work : Work (σ × τ) α} {held left : τ} {value : Option α}
    (ran : work (state, held) = ⟨value, (after, left), notices⟩) :
    holding work held state = ⟨value.map (·, left), after, notices⟩ := by
  cases value <;> rw [holding, ran] <;> rfl

theorem amend_eq {change : Work (σ × Response) Unit} {response left : Response}
    {value : Option Unit} (ran : change (state, response) = ⟨value, (after, left), notices⟩)
    (callback : Callback) (uri : String) :
    ∃ reports, amend callback uri change response state =
      ⟨some ((value.map fun _ => left).getD .internalError), after, reports⟩ := by
  obtain ⟨reports, contained⟩ := contain_eq (holding_eq ran) callback uri
  refine ⟨reports ++ [], ?_⟩
  show Work.bind _ _ state = _
  rw [Work.bind, contained]
  cases value <;> rfl

end Work

namespace Serving

variable {σ α β : Type} {state mid after : σ} {calls more : List Call}

theorem bind_pure_right (part : Serving σ α) : Serving.bind part Serving.pure = part := by
  funext state
  rcases ran : part state with ⟨value, after, calls, notices⟩
  cases value with
  | none => rw [Serving.bind, ran]
  | some value =>
      rw [Serving.bind, ran]
      simp only [Serving.pure, List.append_nil]

theorem bind_bind {γ : Type} (part : Serving σ α) (next : α → Serving σ β)
    (last : β → Serving σ γ) : Serving.bind (Serving.bind part next) last =
      Serving.bind part fun value => Serving.bind (next value) last := by
  funext state
  rcases ran : part state with ⟨value, mid, calls, notices⟩
  cases value with
  | none => simp only [Serving.bind, ran]
  | some value =>
      rcases ranNext : next value mid with ⟨result, after, more, reports⟩
      cases result with
      | none => simp only [Serving.bind, ran, ranNext]
      | some result => simp only [Serving.bind, ran, ranNext, List.append_assoc]

instance : LawfulMonad (Serving σ) :=
  LawfulMonad.mk' _ bind_pure_right (fun _ _ => rfl) bind_bind

/-- A part makes these calls and yields this value, if any, and this state. -/
def Yields (part : Serving σ α) (state : σ) (calls : List Call) (value : Option α) (after : σ) :
    Prop :=
  ∃ notices, part state = ⟨value, after, calls, notices⟩

theorem Yields.unique {part : Serving σ α} {value value' : Option α} {calls' : List Call}
    {after' : σ} (h : part.Yields state calls value after)
    (h' : part.Yields state calls' value' after') :
    calls = calls' ∧ value = value' ∧ after = after' := by
  obtain ⟨notices, ran⟩ := h
  obtain ⟨notices', ran'⟩ := h'
  rw [ran] at ran'
  cases ran'
  exact ⟨rfl, rfl, rfl⟩

theorem yields_pure (value : α) (state : σ) :
    (pure value : Serving σ α).Yields state [] (some value) state := ⟨[], rfl⟩

theorem Yields.bind {part : Serving σ α} {next : α → Serving σ β} {value : α}
    {result : Option β} (h : part.Yields state calls (some value) mid)
    (later : (next value).Yields mid more result after) :
    (part >>= next).Yields state (calls ++ more) result after := by
  obtain ⟨notices, ran⟩ := h
  obtain ⟨notices', ran'⟩ := later
  refine ⟨notices ++ notices', ?_⟩
  show Serving.bind part next state = _
  rw [Serving.bind, ran]
  simp only [ran']

theorem Yields.bind_none {part : Serving σ α} (h : part.Yields state calls none after)
    (next : α → Serving σ β) : (part >>= next).Yields state calls none after := by
  obtain ⟨notices, ran⟩ := h
  refine ⟨notices, ?_⟩
  show Serving.bind part next state = _
  rw [Serving.bind, ran]

theorem Yields.bind_pure {part : Serving σ α} {next : α → Serving σ β} {value : α} {result : β}
    (h : part.Yields state calls (some value) after) (last : next value = pure result) :
    (part >>= next).Yields state calls (some result) after := by
  have both := h.bind (last ▸ yields_pure result after)
  rwa [List.append_nil] at both

theorem Yields.map {part : Serving σ α} {value : Option α}
    (h : part.Yields state calls value after) (change : α → β) :
    (do return change (← part) : Serving σ β).Yields state calls (value.map change) after := by
  cases value with
  | none => exact h.bind_none _
  | some value => exact h.bind_pure rfl

theorem yields_perform {work : Work σ α} {value : Option α} {notices : List Notice}
    (ran : work state = ⟨value, after, notices⟩) (calls : List Call) :
    (perform calls work).Yields state calls value after := by
  refine ⟨notices, ?_⟩
  rw [perform, ran]

theorem yields_contain {work : Work σ α} {value : Option α} {notices : List Notice}
    (ran : work state = ⟨value, after, notices⟩) (calls : List Call) (callback : Callback)
    (uri : String) :
    (perform calls (work.contain callback uri)).Yields state calls (some value) after := by
  obtain ⟨reports, contained⟩ := Work.contain_eq ran callback uri
  exact yields_perform contained calls

theorem yields_holding {τ : Type} {work : Work (σ × τ) α} {held left : τ} {value : Option α}
    {notices : List Notice} (ran : work (state, held) = ⟨value, (after, left), notices⟩)
    (calls : List Call) (callback : Callback) (uri : String) :
    (perform calls ((work.holding held).contain callback uri)).Yields state calls
      (some (value.map (·, left))) after :=
  yields_contain (Work.holding_eq ran) calls callback uri

end Serving
end HttpServer
