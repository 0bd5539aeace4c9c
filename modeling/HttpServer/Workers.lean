/-! Counting the threads of an event loop without owning them. Slots are reserved for
the workers about to be made, so that a worker counts before its first step. -/
namespace HttpServer

/-- Threads that count as alive, and how many of these are only reserved. -/
structure Workers where
  live : Nat := 0
  reserved : Nat := 0
  deriving DecidableEq, Repr

namespace Workers

/-- Holds slots for threads about to be made. -/
def reserve (workers : Workers) (threads : Nat) : Workers :=
  ⟨workers.live + threads, workers.reserved + threads⟩

/-- Gives up the slots that no thread has taken. -/
def releaseUnclaimed (workers : Workers) : Workers := ⟨workers.live - workers.reserved, 0⟩

/-- A thread starts: it takes a slot, or counts itself if there is none. -/
def started (workers : Workers) : Workers :=
  if 0 < workers.reserved then { workers with reserved := workers.reserved - 1 }
  else { workers with live := workers.live + 1 }

def stopped (workers : Workers) : Workers := { workers with live := workers.live - 1 }

inductive Event where
  | reserve (threads : Nat)
  | releaseUnclaimed
  | started
  | stopped
  deriving DecidableEq, Repr

def update (workers : Workers) : Event → Workers
  | .reserve threads => workers.reserve threads
  | .releaseUnclaimed => workers.releaseUnclaimed
  | .started => workers.started
  | .stopped => workers.stopped

def replay (workers : Workers) (events : List Event) : Workers := events.foldl update workers

/-- Whether those who wait for the end may go on. -/
def isIdle (workers : Workers) (running : Bool) : Bool := !running && workers.live == 0

end Workers
end HttpServer
