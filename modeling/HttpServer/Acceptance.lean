import HttpServer.Connection

/-! Accepting connections one after another. No error of the listener ends the
acceptance, unless the guard ends the process over it. The loop that accepts them is
given by its steps; `run` is what it does if it is never told to end. -/
namespace HttpServer

inductive Arrival where
  | connection (connection : Connection)
  | failed (error : IoError)
  deriving Repr

/-- What is done about an arrival. `paused` tells that the next one is waited for only
after a pause. -/
inductive Reaction (σ : Type) where
  | served (served : Served σ)
  | reported (notices : List Notice) (paused : Bool)

/-- What a run of arrivals comes to. `aborted` tells that the process ended over the
last arrival reacted to. -/
structure Acceptance (σ : Type) where
  reactions : List (Reaction σ)
  state : σ
  aborted : Bool

namespace Acceptance

variable {σ : Type}

/-- The reaction to one arrival, the state after it, and whether the process ends. -/
def react (guard : Guard) (dispatcher : Dispatcher σ) (state : σ) :
    Arrival → Reaction σ × σ × Bool
  | .connection connection =>
      let served := connection.serve guard dispatcher state
      (.served served, served.state, served.aborted)
  | .failed error =>
      (.reported (guard.notices "accept" error) (guard.assess error = .degrade), state,
        guard.assess error = .abort)

/-- Reacts to arrivals in order, up to one that ends the process. -/
def run (guard : Guard) (dispatcher : Dispatcher σ) (state : σ) : List Arrival → Acceptance σ
  | [] => ⟨[], state, false⟩
  | arrival :: rest =>
      match react guard dispatcher state arrival with
      | (reaction, state, true) => ⟨[reaction], state, true⟩
      | (reaction, state, false) =>
          let more := run guard dispatcher state rest
          { more with reactions := reaction :: more.reactions }

end Acceptance

inductive Acceptance.Event (σ : Type) where
  | asked
  | served (served : Served σ)
  | logged (level : Level) (message : String)
  | paused
  | returned
  | aborted

def Reaction.events : Reaction σ → List (Acceptance.Event σ)
  | .served answer => [.served answer]
  | .reported notices paused =>
      notices.map (fun notice => .logged notice.level notice.message) ++
        if paused then [.paused] else []

def Reaction.pauses : Reaction σ → Bool
  | .served _ => false
  | .reported _ paused => paused

namespace Acceptance

inductive Stage where
  | choosing
  | waiting
  | pausing
  | returned
  | aborted
  deriving DecidableEq, Repr

/-- The loop at some time: whether it has been told to end, what the listener is going to yield,
and what has been seen so far. -/
structure Loop (σ : Type) where
  stage : Stage
  told : Bool
  pending : List Arrival
  state : σ
  trace : List (Event σ)

namespace Loop

def begun (state : σ) (arrivals : List Arrival) : Loop σ := ⟨.choosing, false, arrivals, state, []⟩

def take (loop : Loop σ) (rest : List Arrival) : Reaction σ × σ × Bool → Loop σ
  | (reaction, state, aborted) =>
      { loop with
        stage := if aborted then .aborted else if reaction.pauses then .pausing else .choosing
        pending := rest
        state
        trace := loop.trace ++ (reaction.events ++ if aborted then [.aborted] else []) }

/-- What happens next. The loop can be told to end at any time, and does so where it chooses or
waits; it then leaves the listener alone. -/
inductive Step (guard : Guard) (dispatcher : Dispatcher σ) : Loop σ → Loop σ → Prop
  | ask {loop : Loop σ} (chooses : loop.stage = .choosing) (untold : loop.told = false) :
      Step guard dispatcher loop
        { loop with stage := .waiting, trace := loop.trace ++ [.asked] }
  | yield {loop : Loop σ} {arrival : Arrival} {rest : List Arrival} (waits : loop.stage = .waiting)
      (untold : loop.told = false) (yields : loop.pending = arrival :: rest) :
      Step guard dispatcher loop (loop.take rest (react guard dispatcher loop.state arrival))
  | resume {loop : Loop σ} (pauses : loop.stage = .pausing) :
      Step guard dispatcher loop { loop with stage := .choosing }
  | tell {loop : Loop σ} (untold : loop.told = false) :
      Step guard dispatcher loop { loop with told := true }
  | leave {loop : Loop σ} (chooses : loop.stage = .choosing ∨ loop.stage = .waiting)
      (told : loop.told = true) :
      Step guard dispatcher loop
        { loop with stage := .returned, trace := loop.trace ++ [.returned] }

end Loop
end Acceptance
end HttpServer
