import Mathlib.Data.List.Induction
import Mathlib.Data.List.Nodup
import Typeahead.Pool

namespace Typeahead

/-! Pools with any steps of their users and workers in any order. Items stand before stop signals in the queue, since
nothing is submitted any more once there is a signal. A worker that leaves has met a signal first in the queue, so that
every item has been taken by then. -/

variable {ι : Type}

/-- What a worker is busy with. -/
def Worker.item? : Worker ι → Option ι
  | .busy item => some item
  | _ => none

namespace Pool

section Workers

variable {pool : Pool ι} {index : Nat} {worker : Worker ι}

theorem exists_split_of_getElem? (found : pool.workers[index]? = some worker) :
    ∃ before after, pool.workers = before ++ worker :: after ∧
      ∀ next, pool.workers.set index next = before ++ next :: after := by
  obtain ⟨within, same⟩ := List.getElem?_eq_some_iff.mp found
  refine ⟨pool.workers.take index, pool.workers.drop (index + 1), ?_, ?_⟩
  · rw [← same, List.getElem_cons_drop, List.take_append_drop]
  · intro next
    rw [List.set_eq_take_append_cons_drop, if_pos within]

/-- A worker that changes gives back the item it had and gets the item it is busy with from then on. -/
theorem running_set_perm (found : pool.workers[index]? = some worker) (next : Worker ι) :
    (worker.item?.toList ++ running { pool with workers := pool.workers.set index next }).Perm
      (next.item?.toList ++ pool.running) := by
  obtain ⟨before, after, split, replaced⟩ := exists_split_of_getElem? found
  let others := (before ++ after).filterMap Worker.item?
  have apart (one : Worker ι) : ((before ++ one :: after).filterMap Worker.item?).Perm (one.item?.toList ++ others) := by
    cases item : one.item? with
    | none => simp [others, item]
    | some busy => simp [others, item]
  have changed : (running { pool with workers := pool.workers.set index next }).Perm (next.item?.toList ++ others) := by
    rw [show running _ = (pool.workers.set index next).filterMap Worker.item? from rfl, replaced]
    exact apart next
  have unchanged : pool.running.Perm (worker.item?.toList ++ others) := by
    rw [show pool.running = pool.workers.filterMap Worker.item? from rfl, split]
    exact apart worker
  have swapped : (worker.item?.toList ++ (next.item?.toList ++ others)).Perm
      (next.item?.toList ++ (worker.item?.toList ++ others)) := List.perm_append_comm_assoc _ _ _
  exact ((changed.append_left _).trans swapped).trans (unchanged.append_left _).symm

theorem mem_workers_set {next : Worker ι} (gone : .gone ∈ pool.workers.set index next) (stays : next ≠ .gone) :
    .gone ∈ pool.workers :=
  (List.mem_or_eq_of_mem_set gone).resolve_right (Ne.symm stays)

end Workers

section Steps

variable {pool next : Pool ι} {index : Nat} {item : ι}

/-- What an accepted item changes in a pool. -/
structure Accepted (pool : Pool ι) (item : ι) (next : Pool ι) : Prop where
  isOpen : pool.isShutDown = false
  stays : next.isShutDown = pool.isShutDown
  queue : next.queue = pool.queue ++ [some item]
  running : next.running = pool.running
  finished : next.finished = pool.finished
  gone : .gone ∈ next.workers → .gone ∈ pool.workers
  limit : next.limit = pool.limit
  bounded : pool.workers.length ≤ pool.limit → next.workers.length ≤ pool.limit

theorem accepted_of_submit (accepted : pool.submit item = .ok next) : Accepted pool item next := by
  unfold submit at accepted
  cases closed : pool.isShutDown with
  | true => simp [closed] at accepted
  | false =>
      simp only [closed, Bool.false_eq_true, if_false, Except.ok.injEq] at accepted
      subst accepted
      by_cases room : pool.workers.length < pool.limit
      · simp only [room, if_true]
        constructor
        · exact closed
        · exact closed.symm
        · rfl
        · simp [Pool.running]
        · rfl
        · intro gone
          simpa using gone
        · rfl
        · intro _
          simpa using Nat.succ_le_of_lt room
      · simp only [room, if_false]
        exact ⟨closed, closed.symm, rfl, rfl, rfl, id, rfl, id⟩

/-- An idle worker takes an item, or a stop signal, at which it leaves if the pool is shut down. -/
theorem take?_eq_some (taking : pool.take? index = some next) :
    pool.workers[index]? = some .idle ∧
      ((∃ item rest, pool.queue = some item :: rest ∧
          next = { pool with queue := rest, workers := pool.workers.set index (.busy item) }) ∨
        ∃ rest, pool.queue = none :: rest ∧
          next = if pool.isShutDown then { pool with queue := rest ++ [none], workers := pool.workers.set index .gone }
            else { pool with queue := rest }) := by
  unfold take? at taking
  split at taking
  · rename_i item rest idle first
    cases taking
    exact ⟨idle, Or.inl ⟨item, rest, first, rfl⟩⟩
  · rename_i rest idle first
    cases taking
    exact ⟨idle, Or.inr ⟨rest, first, rfl⟩⟩
  · cases taking

theorem finish?_eq_some (finishing : pool.finish? index = some next) :
    ∃ item, pool.workers[index]? = some (.busy item) ∧
      next = { pool with workers := pool.workers.set index .idle, finished := pool.finished ++ [item] } := by
  unfold finish? at finishing
  split at finishing
  · rename_i item busy
    cases finishing
    exact ⟨item, busy, rfl⟩
  · cases finishing

end Steps

/-- A call that was submitted. Its number tells it from all others, also from those with the same task. -/
structure Job (ι : Type) where
  serial : Nat
  task : ι
  deriving DecidableEq

/-- One step of a user or of a worker. Workers are named by their place. -/
inductive Move (ι : Type) where
  | submit (task : ι)
  | shutdown
  | take (worker : Nat)
  | finish (worker : Nat)

/-- A pool, and what it has accepted and handed out so far. -/
structure History (ι : Type) where
  pool : Pool (Job ι)
  submitted : List (Job ι) := []
  /-- The jobs that were taken out of the queue, each with the worker that took it. -/
  taken : List (Nat × Job ι) := []

namespace History

variable {history : History ι} {limit : Nat}

def takenJobs (history : History ι) : List (Job ι) := history.taken.map (·.2)

/-- What a step does; a step that is refused or not due does nothing. -/
def step (history : History ι) : Move ι → History ι
  | .submit task =>
    let job : Job ι := ⟨history.submitted.length, task⟩
    match history.pool.submit job with
    | .ok pool => { history with pool, submitted := history.submitted ++ [job] }
    | .error _ => history
  | .shutdown => { history with pool := history.pool.shutdown }
  | .take worker =>
    match history.pool.take? worker with
    | some pool =>
      { history with pool, taken := history.taken ++ (history.pool.queue.head?.join.map (worker, ·)).toList }
    | none => history
  | .finish worker =>
    match history.pool.finish? worker with
    | some pool => { history with pool }
    | none => history

def run (moves : List (Move ι)) (history : History ι) : History ι := moves.foldl step history

theorem run_concat (moves : List (Move ι)) (move : Move ι) (history : History ι) :
    run (moves ++ [move]) history = (run moves history).step move := by
  simp [run]

structure Sound (history : History ι) (limit : Nat) : Prop where
  /-- Jobs leave the queue in the order in which they came. -/
  ordered : history.submitted = history.takenJobs ++ history.pool.waiting
  numbered : history.submitted.map Job.serial = List.range history.submitted.length
  accounted : history.takenJobs.Perm (history.pool.running ++ history.pool.finished)
  signalsLast : ∃ signals, history.pool.queue = history.pool.waiting.map some ++ List.replicate signals none ∧
    (history.pool.isShutDown = false → signals = 0)
  left : .gone ∈ history.pool.workers → history.pool.isShutDown = true ∧ history.pool.waiting = []
  limited : history.pool.limit = limit
  bounded : history.pool.workers.length ≤ limit

theorem sound_start (limit : Nat) : Sound ({ pool := { limit } } : History ι) limit where
  ordered := rfl
  numbered := rfl
  accounted := .refl _
  signalsLast := ⟨0, rfl, fun _ => rfl⟩
  left gone := by cases gone
  limited := rfl
  bounded := Nat.zero_le limit

/-- Where a stop signal is first, nothing but signals is left, and the pool is shut down. -/
theorem Sound.of_signal (sound : history.Sound limit) {rest : List (Option (Job ι))}
    (first : history.pool.queue = none :: rest) :
    history.pool.isShutDown = true ∧ history.pool.waiting = [] ∧ ∃ signals, rest = List.replicate signals none := by
  obtain ⟨signals, queue, early⟩ := sound.signalsLast
  rw [first] at queue
  cases waiting : history.pool.waiting with
  | cons job items => simp [waiting] at queue
  | nil =>
      cases signals with
      | zero => simp [waiting] at queue
      | succ signals =>
          have closed : history.pool.isShutDown = true := by
            by_contra isOpen
            have noSignals := early (Bool.eq_false_iff.mpr isOpen)
            omega
          simp only [waiting, List.map_nil, List.nil_append, List.replicate_succ, List.cons.injEq, true_and] at queue
          exact ⟨closed, rfl, signals, queue⟩

theorem Sound.submit (sound : history.Sound limit) (task : ι) : (history.step (.submit task)).Sound limit := by
  simp only [step]
  split
  · rename_i pool submitted
    have accepted := accepted_of_submit submitted
    obtain ⟨signals, queue, early⟩ := sound.signalsLast
    have noSignals : signals = 0 := early accepted.isOpen
    have waiting : pool.waiting = history.pool.waiting ++ [⟨history.submitted.length, task⟩] := by
      simp [Pool.waiting, accepted.queue]
    constructor
    · show history.submitted ++ _ = history.takenJobs ++ pool.waiting
      rw [waiting, ← List.append_assoc, ← sound.ordered]
    · simp [sound.numbered, List.range_succ]
    · simp only [accepted.running, accepted.finished]
      exact sound.accounted
    · exact ⟨0, by simp [waiting, accepted.queue, queue, noSignals], fun _ => rfl⟩
    · intro gone
      have closed := (sound.left (accepted.gone gone)).1
      rw [accepted.isOpen] at closed
      cases closed
    · exact accepted.limit.trans sound.limited
    · have within := accepted.bounded (by rw [sound.limited]; exact sound.bounded)
      rwa [sound.limited] at within
  · exact sound

theorem Sound.shutdown (sound : history.Sound limit) : (history.step .shutdown).Sound limit := by
  obtain ⟨signals, queue, _⟩ := sound.signalsLast
  have waiting : history.pool.shutdown.waiting = history.pool.waiting := by
    simp [Pool.waiting, Pool.shutdown]
  constructor
  · exact sound.ordered.trans (by rw [← waiting]; rfl)
  · exact sound.numbered
  · exact sound.accounted
  · refine ⟨signals + 1, ?_, nofun⟩
    show history.pool.queue ++ [none] = history.pool.shutdown.waiting.map some ++ _
    rw [waiting, List.replicate_succ', ← List.append_assoc, ← queue]
  · intro gone
    exact ⟨rfl, waiting.trans (sound.left gone).2⟩
  · exact sound.limited
  · exact sound.bounded

theorem Sound.takeItem (sound : history.Sound limit) {worker : Nat} {job : Job ι} {rest : List (Option (Job ι))}
    (idle : history.pool.workers[worker]? = some .idle) (first : history.pool.queue = some job :: rest) :
    Sound { history with
      pool := { history.pool with queue := rest, workers := history.pool.workers.set worker (.busy job) }
      taken := history.taken ++ [(worker, job)] } limit := by
  obtain ⟨signals, queue, early⟩ := sound.signalsLast
  have waiting : history.pool.waiting = job :: rest.filterMap id := by simp [Pool.waiting, first]
  have running : (history.pool.workers.set worker (.busy job)).filterMap Worker.item?
      |>.Perm (job :: history.pool.running) := running_set_perm idle (.busy job)
  constructor
  · show history.submitted = (history.taken ++ [(worker, job)]).map (·.2) ++ rest.filterMap id
    rw [sound.ordered, waiting]
    simp [takenJobs]
  · exact sound.numbered
  · show ((history.taken ++ [(worker, job)]).map (·.2)).Perm (List.filterMap Worker.item? _ ++ history.pool.finished)
    rw [List.map_append]
    have moved : (history.takenJobs ++ [job]).Perm (job :: (history.pool.running ++ history.pool.finished)) :=
      (List.perm_append_singleton job history.takenJobs).trans (sound.accounted.cons job)
    exact moved.trans (running.symm.append_right history.pool.finished)
  · refine ⟨signals, ?_, early⟩
    rw [first, waiting] at queue
    exact List.cons.inj queue |>.2
  · intro gone
    have none := (sound.left (mem_workers_set gone nofun)).2
    rw [waiting] at none
    cases none
  · exact sound.limited
  · simpa using sound.bounded

/-- A worker that leaves finds the queue without items, and leaves a signal for the others. -/
theorem Sound.leave (sound : history.Sound limit) {worker : Nat} {rest : List (Option (Job ι))}
    (idle : history.pool.workers[worker]? = some .idle) (first : history.pool.queue = none :: rest) :
    Sound { history with
      pool := { history.pool with queue := rest ++ [none], workers := history.pool.workers.set worker .gone } } limit := by
  obtain ⟨closed, noItems, signals, onlySignals⟩ := sound.of_signal first
  have waiting : (rest ++ [none]).filterMap id = [] := by simp [onlySignals]
  have running : ((history.pool.workers.set worker .gone).filterMap Worker.item?).Perm history.pool.running :=
    running_set_perm idle .gone
  constructor
  · show history.submitted = history.takenJobs ++ (rest ++ [none]).filterMap id
    rw [waiting, ← noItems]
    exact sound.ordered
  · exact sound.numbered
  · exact sound.accounted.trans (running.symm.append_right history.pool.finished)
  · refine ⟨signals + 1, ?_, ?_⟩
    · show rest ++ [none] = ((rest ++ [none]).filterMap id).map some ++ List.replicate (signals + 1) none
      rw [waiting, onlySignals, List.replicate_succ']
      rfl
    · intro isOpen
      rw [closed] at isOpen
      cases isOpen
  · intro _
    exact ⟨closed, waiting⟩
  · exact sound.limited
  · simpa using sound.bounded

theorem Sound.take (sound : history.Sound limit) (worker : Nat) : (history.step (.take worker)).Sound limit := by
  simp only [step]
  split
  · rename_i pool taking
    obtain ⟨idle, ⟨job, rest, first, next⟩ | ⟨rest, first, next⟩⟩ := take?_eq_some taking
    · subst next
      simpa [first] using sound.takeItem idle first
    · rw [if_pos (sound.of_signal first).1] at next
      subst next
      simpa [first] using sound.leave idle first
  · exact sound

theorem Sound.finish (sound : history.Sound limit) (worker : Nat) : (history.step (.finish worker)).Sound limit := by
  simp only [step]
  split
  · rename_i pool finishing
    obtain ⟨job, busy, next⟩ := finish?_eq_some finishing
    subst next
    have running : (job :: (history.pool.workers.set worker .idle).filterMap Worker.item?).Perm history.pool.running :=
      running_set_perm busy .idle
    constructor
    · exact sound.ordered
    · exact sound.numbered
    · show history.takenJobs.Perm (List.filterMap Worker.item? _ ++ (history.pool.finished ++ [job]))
      have moved := running.symm.append_right history.pool.finished
      have last := (List.perm_append_singleton job (List.filterMap Worker.item? (history.pool.workers.set worker .idle) ++
        history.pool.finished)).symm
      rw [List.append_assoc] at last
      exact (sound.accounted.trans moved).trans last
    · exact sound.signalsLast
    · intro gone
      exact sound.left (mem_workers_set gone nofun)
    · exact sound.limited
    · simpa using sound.bounded
  · exact sound

theorem Sound.step (sound : history.Sound limit) (move : Move ι) : (history.step move).Sound limit := by
  cases move with
  | submit task => exact sound.submit task
  | shutdown => exact sound.shutdown
  | take worker => exact sound.take worker
  | finish worker => exact sound.finish worker

theorem sound_run (limit : Nat) (moves : List (Move ι)) : (run moves { pool := { limit } }).Sound limit := by
  induction moves using List.reverseRecOn with
  | nil => exact sound_start limit
  | append_singleton moves move ih =>
      rw [run_concat]
      exact ih.step move

theorem Sound.pairwise_queue (sound : history.Sound limit) :
    history.pool.queue.Pairwise fun first second => first = none → second = none := by
  obtain ⟨signals, queue, _⟩ := sound.signalsLast
  rw [queue, List.pairwise_append]
  refine ⟨?_, ?_, ?_⟩
  · rw [List.pairwise_map]
    exact List.pairwise_of_forall fun _ _ isNone => nomatch isNone
  · exact List.pairwise_replicate.mpr (Or.inr fun _ => rfl)
  · intro _ _ second member _
    exact List.eq_of_mem_replicate member

theorem Sound.nodup_submitted (sound : history.Sound limit) : history.submitted.Nodup := by
  apply List.Nodup.of_map Job.serial
  rw [sound.numbered]
  exact List.nodup_range

/-- In every state that the steps of users and workers lead to, in whatever order: each submitted job is in the queue,
running or finished, and in one of these only; jobs are taken in the order of their submission, each at most once; no job
stands behind a stop signal; once a worker has left, the queue has no jobs and each submitted job has been taken by some
worker; and there are no more workers than allowed. -/
theorem shutdown_loses_no_work (limit : Nat) (moves : List (Move ι)) :
    let history := run moves { pool := { limit } }
    let pool := history.pool
    (history.submitted.Perm (pool.waiting ++ pool.running ++ pool.finished) ∧ history.submitted.Nodup) ∧
    (history.takenJobs <+: history.submitted ∧ history.takenJobs.Nodup) ∧
    (∀ before behind, pool.queue = before ++ none :: behind → ∀ job, some job ∉ behind) ∧
    (.gone ∈ pool.workers → pool.waiting = [] ∧ ∀ job ∈ history.submitted, ∃ worker, (worker, job) ∈ history.taken) ∧
    pool.workers.length ≤ limit := by
  intro history pool
  have sound : history.Sound limit := sound_run limit moves
  have inOrder : history.takenJobs <+: history.submitted := ⟨_, sound.ordered.symm⟩
  refine ⟨⟨?_, sound.nodup_submitted⟩, ⟨inOrder, sound.nodup_submitted.sublist inOrder.sublist⟩, ?_, ?_, ?_⟩
  · rw [sound.ordered, List.append_assoc]
    exact (sound.accounted.append_right _).trans List.perm_append_comm
  · intro before behind queue job isBehind
    have apart := sound.pairwise_queue
    rw [queue, List.pairwise_append, List.pairwise_cons] at apart
    exact nomatch apart.2.1.1 (some job) isBehind rfl
  · intro gone
    have empty := (sound.left gone).2
    refine ⟨empty, ?_⟩
    intro job member
    rw [sound.ordered, empty, List.append_nil] at member
    obtain ⟨entry, isTaken, same⟩ := List.mem_map.mp member
    exact ⟨entry.1, by rw [← same]; exact isTaken⟩
  · exact sound.bounded

/-- The second of two workers does one job and leaves while the first one is still busy. -/
theorem shutdown_loses_no_work_of_two :
    let moves : List (Move String) := [.submit "a", .submit "b", .take 0, .shutdown, .take 1, .finish 1, .take 1]
    let history := run moves { pool := { limit := 2 } }
    (.gone ∈ history.pool.workers ∧ history.pool.running = [⟨0, "a"⟩] ∧ history.pool.finished = [⟨1, "b"⟩]) ∧
      history.pool.waiting = [] ∧ ∀ job ∈ history.submitted, ∃ worker, (worker, job) ∈ history.taken := by
  intro moves history
  have gone : .gone ∈ history.pool.workers := by decide
  obtain ⟨_, _, _, left, _⟩ := shutdown_loses_no_work 2 moves
  exact ⟨⟨gone, by decide, by decide⟩, left gone⟩

/-- What one worker does in its turns is a run of its steps. -/
theorem exists_run_serve (history : History ι) (worker turns : Nat) :
    ∃ moves, (run moves history).pool = history.pool.serve worker turns := by
  induction turns generalizing history with
  | zero => exact ⟨[], rfl⟩
  | succ turns ih =>
      cases taking : history.pool.take? worker with
      | none => exact ⟨[], by simp [serve, taking, run]⟩
      | some taken =>
          obtain ⟨moves, served⟩ := ih (run [.take worker, .finish worker] history)
          refine ⟨[.take worker, .finish worker] ++ moves, ?_⟩
          have turn : (run [.take worker, .finish worker] history).pool = (taken.finish? worker).getD taken := by
            cases finishing : taken.finish? worker <;> simp [run, step, taking, finishing]
          rw [turn] at served
          simpa [serve, taking, run] using served

end History

end Pool

end Typeahead
