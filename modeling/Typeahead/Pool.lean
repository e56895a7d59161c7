import Typeahead.Fault

namespace Typeahead

/-! A pool of workers that take items from one queue. A stop signal in the queue makes a worker leave once the
pool is shut down; the worker puts the signal back for the others. -/

inductive Worker (ι : Type) where
  | idle
  | busy (item : ι)
  | gone
  deriving DecidableEq, Repr

structure Pool (ι : Type) where
  /-- How many workers there may be. -/
  limit : Nat
  /-- Items, and signals to stop. -/
  queue : List (Option ι) := []
  workers : List (Worker ι) := []
  finished : List ι := []
  isShutDown : Bool := false

namespace Pool

variable {ι : Type}

def refusal : Fault := .failed "cannot schedule new futures after shutdown"

/-- Puts an item in the queue, with a further worker if there may be one. -/
def submit (item : ι) (pool : Pool ι) : Except Fault (Pool ι) :=
  if pool.isShutDown then .error refusal
  else .ok { pool with
    queue := pool.queue ++ [some item]
    workers := if pool.workers.length < pool.limit then pool.workers ++ [.idle] else pool.workers }

/-- Takes no more items; those in the queue are still done. -/
def shutdown (pool : Pool ι) : Pool ι := { pool with isShutDown := true, queue := pool.queue ++ [none] }

/-- A worker that is idle takes what is first in the queue. -/
def take? (index : Nat) (pool : Pool ι) : Option (Pool ι) :=
  match pool.workers[index]?, pool.queue with
  | some .idle, some item :: rest => some { pool with queue := rest, workers := pool.workers.set index (.busy item) }
  | some .idle, none :: rest =>
    some (if pool.isShutDown then { pool with queue := rest ++ [none], workers := pool.workers.set index .gone }
      else { pool with queue := rest })
  | _, _ => none

/-- A worker is through with its item. -/
def finish? (index : Nat) (pool : Pool ι) : Option (Pool ι) :=
  match pool.workers[index]? with
  | some (.busy item) =>
    some { pool with workers := pool.workers.set index .idle, finished := pool.finished ++ [item] }
  | _ => none

/-- One worker takes and finishes items, for at most a number of turns, until it leaves or the queue is
empty. -/
def serve (index : Nat) : Nat → Pool ι → Pool ι
  | 0, pool => pool
  | turns + 1, pool =>
    match pool.take? index with
    | none => pool
    | some taken => serve index turns ((taken.finish? index).getD taken)

/-- The items in the queue. -/
def waiting (pool : Pool ι) : List ι := pool.queue.filterMap id

/-- The items that workers are busy with. -/
def running (pool : Pool ι) : List ι := pool.workers.filterMap fun worker => match worker with
  | .busy item => some item
  | _ => none

end Pool

end Typeahead
