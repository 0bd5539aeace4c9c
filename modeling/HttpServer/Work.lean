import HttpServer.Notice
import HttpServer.Response

/-! Code that is run on behalf of others. It works on a state of theirs, may panic,
and its panics can be contained; what it changed before a panic stays changed. -/
namespace HttpServer

/-- What a piece of work leaves behind: its value unless it panicked, the state, and
the reports made meanwhile. -/
structure Ran (σ α : Type) where
  value : Option α
  state : σ
  notices : List Notice

def Work (σ α : Type) : Type := σ → Ran σ α

namespace Work

variable {σ α β : Type}

protected def pure (value : α) : Work σ α := fun state => ⟨some value, state, []⟩

def panic : Work σ α := fun state => ⟨none, state, []⟩

/-- One piece of work after another; a panic ends both. -/
protected def bind (work : Work σ α) (next : α → Work σ β) : Work σ β := fun state =>
  match work state with
  | ⟨none, state, notices⟩ => ⟨none, state, notices⟩
  | ⟨some value, state, notices⟩ =>
      let ran := next value state
      { ran with notices := notices ++ ran.notices }

instance : Monad (Work σ) where
  pure := Work.pure
  bind := Work.bind

def get : Work σ σ := fun state => ⟨some state, state, []⟩

def modify (change : σ → σ) : Work σ Unit := fun state => ⟨some (), change state, []⟩

/-- Changes the value next to the state. -/
def edit {τ : Type} (change : τ → τ) : Work (σ × τ) Unit :=
  modify fun (state, value) => (state, change value)

/-- Contains a panic, which is reported against a target. -/
def contain (callback : Callback) (uri : String) (work : Work σ α) : Work σ (Option α) :=
  fun state =>
    match work state with
    | ⟨some value, state, notices⟩ => ⟨some (some value), state, notices⟩
    | ⟨none, state, notices⟩ => ⟨some none, state, notices ++ [.panicked callback uri]⟩

/-- Lets work change a value next to the state. The value comes back as the work
left it, together with what the work yielded; after a panic it is gone. -/
def holding {τ : Type} (work : Work (σ × τ) α) (value : τ) : Work σ (α × τ) := fun state =>
  match work (state, value) with
  | ⟨some result, (state, value), notices⟩ => ⟨some (result, value), state, notices⟩
  | ⟨none, (state, _), notices⟩ => ⟨none, state, notices⟩

/-- Lets work amend a response. What it did counts only if it does not panic; else
the response becomes an internal error. -/
def amend (callback : Callback) (uri : String) (change : Work (σ × Response) Unit)
    (response : Response) : Work σ Response := do
  match ← contain callback uri (holding change response) with
  | some ((), response) => return response
  | none => return .internalError

end Work
end HttpServer
