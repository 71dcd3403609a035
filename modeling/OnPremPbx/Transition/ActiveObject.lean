import OnPremPbx.Transition.Run

/-!
# Active objects

A queue with one worker thread. Any number of threads put jobs on the queue; the worker takes them
one at a time and looks at a flag in between. To stop the worker, a thread clears the flag, puts a
message without a job, which wakes the worker up, waits for its end, and releases what is left on
the queue. Whoever puts a message on a full queue waits.

A step is one access of one thread to what they share, so that the other threads may come between
any two.
-/

/-- Where the loop of the worker stands. -/
inductive Worker (J : Type) where
  | absent
  /-- at the condition of the loop -/
  | test
  /-- at the queue -/
  | getq
  /-- with the message it took -/
  | took (m : Option J)
  | exited
  deriving DecidableEq, Repr

def Worker.alive {J : Type} : Worker J → Bool
  | .absent => false
  | .exited => false
  | _       => true

/-- The messages that the worker takes before it looks at the flag again. -/
def Worker.toTake {J : Type} : Worker J → ℕ
  | .getq => 1
  | _     => 0

/-- How far `stop` has come, in the one call of it that goes on. -/
inductive Stopper where
  | idle
  | called
  /-- the flag is cleared -/
  | stored
  /-- the message is on the queue -/
  | poisoned
  /-- the worker has ended -/
  | joined
  | returned
  deriving DecidableEq, Repr

/-- The state, with a record of the messages put, taken and released, which no step looks at. -/
structure ActiveObject (J : Type) where
  continues : Bool := false
  queue : List (Option J) := []
  worker : Worker J := .absent
  stopper : Stopper := .idle
  /-- the jobs of the calls that have found the flag set, and not put them yet -/
  dispatching : List J := []
  put : List (Option J) := []
  taken : List (Option J) := []
  released : List (Option J) := []
  deriving DecidableEq, Repr

namespace ActiveObject

variable {J : Type}

inductive Event (J : Type) where
  /-- `start`, and whether there is a thread for the worker -/
  | start (ok : Bool)
  /-- a call with a job looks at the flag -/
  | dispatch (j : J)
  /-- one of the calls puts its job -/
  | putq (i : ℕ)
  /-- the worker -/
  | svc
  /-- a call of `stop` -/
  | stop
  /-- the call of `stop` that goes on -/
  | stopping
  deriving DecidableEq, Repr

/-- When the queue takes no more, and whether the loop ends at a message without a job at once. -/
structure Service (J : Type) where
  full : List (Option J) → Bool
  breaks : Bool

variable (v : Service J)

/-! ### Steps -/

def enqueue (m : Option J) (x : ActiveObject J) : ActiveObject J :=
  { x with queue := x.queue ++ [m], put := x.put ++ [m] }

def start (ok : Bool) (x : ActiveObject J) : ActiveObject J :=
  -- where there is a thread already, there is no other one
  if x.worker.alive then { x with continues := true }
  else if ok then { x with continues := true, worker := .test }
  else { x with continues := false }

def dispatch (j : J) (x : ActiveObject J) : ActiveObject J :=
  if x.continues then { x with dispatching := x.dispatching ++ [j] } else x

def putq (i : ℕ) (x : ActiveObject J) : ActiveObject J :=
  match x.dispatching[i]? with
  | none   => x
  | some j =>
    if v.full x.queue then x
    else { x.enqueue (some j) with dispatching := x.dispatching.eraseIdx i }

def svc (x : ActiveObject J) : ActiveObject J :=
  match x.worker with
  | .test          => { x with worker := if x.continues then .getq else .exited }
  | .getq          =>
    match x.queue with
    | []     => x
    | m :: q => { x with queue := q, worker := .took m, taken := x.taken ++ [m] }
  | .took (some _) => { x with worker := .test }
  | .took none     => { x with continues := false, worker := if v.breaks then .exited else .test }
  | _              => x

def stop (x : ActiveObject J) : ActiveObject J :=
  if x.stopper = .idle then { x with stopper := .called } else x

def stopping (x : ActiveObject J) : ActiveObject J :=
  match x.stopper with
  | .called   => { x with continues := false, stopper := .stored }
  | .stored   => if v.full x.queue then x else { x.enqueue none with stopper := .poisoned }
  | .poisoned =>
    match x.worker with
    | .absent => { x with stopper := .joined }
    | .exited => { x with stopper := .joined }
    | _       => x
  | .joined   =>
    match x.queue with
    | []     => { x with stopper := .returned }
    | m :: q => { x with queue := q, released := x.released ++ [m] }
  | _         => x

def next (x : ActiveObject J) : Event J → ActiveObject J
  | .start ok   => x.start ok
  | .dispatch j => x.dispatch j
  | .putq i     => x.putq v i
  | .svc        => x.svc v
  | .stop       => x.stop
  | .stopping   => x.stopping v

def run (x : ActiveObject J) (es : List (Event J)) : ActiveObject J := es.foldl (next v) x

@[simp] lemma next_svc (x : ActiveObject J) : x.next v .svc = x.svc v := rfl

@[simp] lemma next_stopping (x : ActiveObject J) : x.next v .stopping = x.stopping v := rfl

/-- `start` is not called any more once `stop` has been. -/
def InOrder (x : ActiveObject J) (e : Event J) : Prop :=
  match e with
  | .start _ => x.stopper = .idle
  | _        => True

instance (x : ActiveObject J) (e : Event J) : Decidable (x.InOrder e) := by
  unfold InOrder
  split <;> infer_instance

/-! ### The invariant -/

/-- Before the flag is cleared, it says whether the worker runs, and only jobs are put. -/
structure Open (x : ActiveObject J) : Prop where
  continues : x.continues = x.worker.alive
  jobs : none ∉ x.put
  worker : x.worker ≠ .exited
  absent : x.worker = .absent → x.put = [] ∧ x.dispatching = []
  released : x.released = []

/-- After that, the worker does not go back to the queue when it has taken the message without a
job, and nothing is released before it has ended. -/
structure Closed (x : ActiveObject J) : Prop where
  continues : x.continues = false
  poison : none ∈ x.put ↔ x.stopper ≠ .stored
  getq : x.worker = .getq → none ∉ x.taken
  released : x.stopper = .stored ∨ x.stopper = .poisoned → x.released = []
  joined : x.stopper = .joined ∨ x.stopper = .returned → x.worker.alive = false

structure Inv (x : ActiveObject J) : Prop where
  /-- Messages leave the queue in the order in which they were put. -/
  put : x.put = x.taken ++ x.released ++ x.queue
  took : ∀ m, x.worker = .took m → x.taken.getLast? = some m
  phase : if x.stopper = .idle ∨ x.stopper = .called then x.Open else x.Closed

variable {v} {x y : ActiveObject J} {e : Event J} {es : List (Event J)}

lemma Inv.open (hx : x.Inv) (h : x.stopper = .idle ∨ x.stopper = .called) : x.Open := by
  have hphase := hx.phase
  rwa [if_pos h] at hphase

lemma Inv.closed (hx : x.Inv) (h : ¬ (x.stopper = .idle ∨ x.stopper = .called)) : x.Closed := by
  have hphase := hx.phase
  rwa [if_neg h] at hphase

lemma Open.inv (hx : x.Open) (h : x.stopper = .idle ∨ x.stopper = .called)
    (hput : x.put = x.taken ++ x.queue)
    (htook : ∀ m, x.worker = .took m → x.taken.getLast? = some m) : x.Inv where
  put := by rw [hput, hx.released, List.append_nil]
  took := htook
  phase := by rwa [if_pos h]

lemma Closed.inv (hx : x.Closed) (h : ¬ (x.stopper = .idle ∨ x.stopper = .called))
    (hput : x.put = x.taken ++ x.released ++ x.queue)
    (htook : ∀ m, x.worker = .took m → x.taken.getLast? = some m) : x.Inv where
  put := hput
  took := htook
  phase := by rwa [if_neg h]

lemma Open.put (hx : x.Open) (h : x.Inv) : x.put = x.taken ++ x.queue := by
  rw [h.put, hx.released, List.append_nil]

lemma inv_init : ({} : ActiveObject J).Inv :=
  Open.inv ⟨rfl, by simp, by simp, fun _ => ⟨rfl, rfl⟩, rfl⟩ (.inl rfl) rfl (by simp)

lemma Inv.start (hx : x.Inv) (ok : Bool) (h : x.stopper = .idle) : (x.start ok).Inv := by
  have hopen := hx.open (.inl h)
  unfold ActiveObject.start
  split_ifs with halive hok
  · exact Open.inv ⟨halive.symm, hopen.jobs, hopen.worker, hopen.absent, hopen.released⟩ (.inl h)
      (hopen.put hx) hx.took
  · exact Open.inv ⟨rfl, hopen.jobs, by simp, by simp, hopen.released⟩ (.inl h)
      (hopen.put hx) (by simp)
  · refine Open.inv ⟨?_, hopen.jobs, hopen.worker, hopen.absent, hopen.released⟩ (.inl h)
      (hopen.put hx) hx.took
    simpa using halive

lemma Inv.dispatch (hx : x.Inv) (j : J) : (x.dispatch j).Inv := by
  unfold ActiveObject.dispatch
  split_ifs with hcontinues
  · by_cases h : x.stopper = .idle ∨ x.stopper = .called
    · have hopen := hx.open h
      refine Open.inv ⟨hopen.continues, hopen.jobs, hopen.worker, ?_, hopen.released⟩ h
        (hopen.put hx) hx.took
      intro hworker
      rw [hopen.continues, show x.worker = .absent from hworker] at hcontinues
      cases hcontinues
    · have hclosed := hx.closed h
      exact absurd (hclosed.continues.symm.trans hcontinues) (by decide)
  · exact hx

lemma Inv.putq (hx : x.Inv) (i : ℕ) : (x.putq v i).Inv := by
  unfold ActiveObject.putq
  split
  · exact hx
  · rename_i j hj
    split_ifs with hfull
    · exact hx
    · by_cases h : x.stopper = .idle ∨ x.stopper = .called
      · have hopen := hx.open h
        refine Open.inv ⟨hopen.continues, ?_, hopen.worker, ?_, hopen.released⟩ h ?_ hx.took
        · simpa [enqueue] using hopen.jobs
        · intro hworker
          rw [(hopen.absent hworker).2] at hj
          cases hj
        · simp [enqueue, hopen.put hx]
      · have hclosed := hx.closed h
        refine Closed.inv ⟨hclosed.continues, ?_, hclosed.getq, hclosed.released, hclosed.joined⟩ h
          ?_ hx.took
        · simpa [enqueue] using hclosed.poison
        · simp [enqueue, hx.put]

/-- While the worker runs, `stop` has not come to the end of its wait. -/
lemma Closed.stage (hx : x.Closed) (h : ¬ (x.stopper = .idle ∨ x.stopper = .called))
    (halive : x.worker.alive = true) : x.stopper = .stored ∨ x.stopper = .poisoned := by
  have hjoined := hx.joined
  rw [halive] at hjoined
  cases hstopper : x.stopper <;> simp_all

lemma Inv.svc (hx : x.Inv) : (x.svc v).Inv := by
  by_cases h : x.stopper = .idle ∨ x.stopper = .called
  · have hopen := hx.open h
    have hput := hopen.put hx
    unfold ActiveObject.svc
    split
    · rename_i hworker
      have hcontinues : x.continues = true := by
        rw [hopen.continues, hworker]
        rfl
      rw [if_pos hcontinues]
      exact Open.inv ⟨hcontinues, hopen.jobs, by simp, by simp, hopen.released⟩ h hput (by simp)
    · rename_i hworker
      split
      · exact hx
      · rename_i m q hqueue
        refine Open.inv ⟨?_, hopen.jobs, by simp, by simp, hopen.released⟩ h ?_ (by simp)
        · rw [hopen.continues, hworker]
          rfl
        · simp [hput, hqueue]
    · rename_i hworker
      refine Open.inv ⟨?_, hopen.jobs, by simp, by simp, hopen.released⟩ h hput (by simp)
      rw [hopen.continues, hworker]
      rfl
    · rename_i hworker
      have hlast := List.mem_of_getLast? (hx.took none hworker)
      exact absurd (hput ▸ List.mem_append_left _ hlast) hopen.jobs
    · exact hx
  · have hclosed := hx.closed h
    unfold ActiveObject.svc
    split
    · rename_i hworker
      rw [if_neg (by simp [hclosed.continues])]
      exact Closed.inv ⟨hclosed.continues, hclosed.poison, by simp, hclosed.released,
        fun _ => rfl⟩ h hx.put (by simp)
    · rename_i hworker
      split
      · exact hx
      · rename_i m q hqueue
        have hstage := hclosed.stage h (by rw [hworker]; rfl)
        refine Closed.inv ⟨hclosed.continues, hclosed.poison, by simp, hclosed.released, ?_⟩ h ?_
          (by simp)
        · intro hjoined
          rcases hstage with hstage | hstage <;> simp [hstage] at hjoined
        · simp [hx.put, hqueue, hclosed.released hstage]
    · rename_i hworker
      refine Closed.inv ⟨hclosed.continues, hclosed.poison, by simp, hclosed.released, ?_⟩ h hx.put
        (by simp)
      intro hjoined
      have hended := hclosed.joined hjoined
      rw [hworker] at hended
      cases hended
    · rename_i hworker
      refine Closed.inv ⟨rfl, hclosed.poison, ?_, hclosed.released, ?_⟩ h hx.put ?_
      · simp only
        split_ifs <;> simp
      · intro hjoined
        have hended := hclosed.joined hjoined
        rw [hworker] at hended
        cases hended
      · simp only
        split_ifs <;> simp
    · exact hx

lemma Inv.stop (hx : x.Inv) : x.stop.Inv := by
  unfold ActiveObject.stop
  split_ifs with h
  · have hopen := hx.open (.inl h)
    exact Open.inv ⟨hopen.continues, hopen.jobs, hopen.worker, hopen.absent, hopen.released⟩
      (.inr rfl) (hopen.put hx) hx.took
  · exact hx

lemma Inv.stopping (hx : x.Inv) : (x.stopping v).Inv := by
  unfold ActiveObject.stopping
  split
  · rename_i h
    have hopen := hx.open (.inr h)
    refine Closed.inv ⟨rfl, ?_, ?_, fun _ => hopen.released, by simp⟩ (by simp) hx.put hx.took
    · simpa using hopen.jobs
    · intro _ hnone
      exact hopen.jobs (hopen.put hx ▸ List.mem_append_left _ hnone)
  · rename_i h
    have hclosed := hx.closed (by simp [h])
    split_ifs
    · exact hx
    · refine Closed.inv ⟨hclosed.continues, by simp [enqueue], hclosed.getq,
        fun _ => hclosed.released (.inl h), by simp⟩ (by simp) (by simp [enqueue, hx.put]) hx.took
  · rename_i h
    have hclosed := hx.closed (by simp [h])
    have hended : x.worker.alive = false → ({ x with stopper := .joined } : ActiveObject J).Inv :=
      fun hworker => Closed.inv ⟨hclosed.continues, by simpa [h] using hclosed.poison, hclosed.getq,
        by simp, fun _ => hworker⟩ (by simp) hx.put hx.took
    split
    · rename_i hworker
      exact hended (by rw [hworker]; rfl)
    · rename_i hworker
      exact hended (by rw [hworker]; rfl)
    · exact hx
  · rename_i h
    have hclosed := hx.closed (by simp [h])
    split
    · exact Closed.inv ⟨hclosed.continues, by simpa [h] using hclosed.poison, hclosed.getq,
        by simp, fun _ => hclosed.joined (.inl h)⟩ (by simp) hx.put hx.took
    · rename_i m q hqueue
      exact Closed.inv ⟨hclosed.continues, hclosed.poison, hclosed.getq, by simp [h],
        fun _ => hclosed.joined (.inl h)⟩ (by simp [h]) (by simp [hx.put, hqueue]) hx.took
  · exact hx

theorem Inv.next (hx : x.Inv) (he : x.InOrder e) : (x.next v e).Inv := by
  cases e with
  | start ok => exact hx.start ok he
  | dispatch j => exact hx.dispatch j
  | putq i => exact hx.putq i
  | svc => exact hx.svc
  | stop => exact hx.stop
  | stopping => exact hx.stopping

theorem Inv.run (hx : x.Inv) (hes : Transition.Along (ActiveObject.next v) InOrder x es) : (x.run v es).Inv :=
  hes.invariant (fun _ _ he h => h.next he) hx

lemma svc_of_not_alive (h : x.worker.alive = false) : x.svc v = x := by
  unfold svc
  cases hworker : x.worker with
  | absent => rfl
  | exited => rfl
  | test => rw [hworker] at h; cases h
  | getq => rw [hworker] at h; cases h
  | took m => rw [hworker] at h; cases h

lemma stopper_svc (x : ActiveObject J) : (x.svc v).stopper = x.stopper := by
  unfold svc
  split
  · rfl
  · split <;> rfl
  all_goals rfl

/-- Only the worker takes messages, and only it goes on from where it is. -/
lemma worker_next_of_ne_svc (he : e ≠ .svc) (x : ActiveObject J) :
    (x.next v e).taken = x.taken ∧
      ((x.next v e).worker = x.worker ∨ x.worker.alive = false) := by
  cases e with
  | svc => exact absurd rfl he
  | start ok =>
    simp only [next, start]
    split_ifs with halive
    · exact ⟨rfl, .inl rfl⟩
    · exact ⟨rfl, .inr (by simpa using halive)⟩
    · exact ⟨rfl, .inl rfl⟩
  | dispatch j =>
    simp only [next, dispatch]
    split_ifs <;> exact ⟨rfl, .inl rfl⟩
  | putq i =>
    simp only [next, putq]
    split
    · exact ⟨rfl, .inl rfl⟩
    · split_ifs <;> exact ⟨rfl, .inl rfl⟩
  | stop =>
    simp only [next, stop]
    split_ifs <;> exact ⟨rfl, .inl rfl⟩
  | stopping =>
    simp only [next, stopping]
    split
    · exact ⟨rfl, .inl rfl⟩
    · split_ifs <;> exact ⟨rfl, .inl rfl⟩
    · split <;> exact ⟨rfl, .inl rfl⟩
    · split <;> exact ⟨rfl, .inl rfl⟩
    · exact ⟨rfl, .inl rfl⟩

lemma stopping_of_called (h : x.stopper = .called) :
    x.stopping v = { x with continues := false, stopper := .stored } := by
  unfold stopping
  rw [h]

/-! ### After the flag is cleared -/

/-- `stop` has cleared the flag. -/
def Stopped (x : ActiveObject J) : Prop := ¬ (x.stopper = .idle ∨ x.stopper = .called)

/-- What has become of the state `x` in which the flag was cleared. The calls that had found it set
put their jobs or still will, the worker takes one message more if it was at the queue and else
none, and all but the jobs of such calls is gone from the queue when `stop` returns. -/
structure Winds (x y : ActiveObject J) : Prop where
  stopped : y.Stopped
  put : ∃ late, y.put = x.put ++ late ∧ (late.filterMap id ++ y.dispatching).Perm x.dispatching
  taken : x.taken <+: y.taken
  length_taken : y.taken.length + y.worker.toTake ≤ x.taken.length + x.worker.toTake
  left : y.stopper = .returned → ∀ m ∈ y.queue, ∃ j ∈ x.dispatching, m = some j

lemma Winds.refl (h : x.stopper = .stored) : x.Winds x where
  stopped := by simp [Stopped, h]
  put := ⟨[], by simp, by simp⟩
  taken := List.prefix_rfl
  length_taken := le_rfl
  left := by simp [h]

lemma Winds.mem (h : x.Winds y) {j : J} (hj : j ∈ y.dispatching) : j ∈ x.dispatching := by
  obtain ⟨late, -, hperm⟩ := h.put
  exact hperm.subset (List.mem_append_right _ hj)

lemma Winds.next (h : x.Winds y) (hy : y.Inv) (he : y.InOrder e) : x.Winds (y.next v e) := by
  have hclosed := hy.closed h.stopped
  cases e with
  | start ok => exact absurd (.inl he) h.stopped
  | dispatch j =>
    have hsame : y.dispatch j = y := by simp [dispatch, hclosed.continues]
    simp only [ActiveObject.next, hsame]
    exact h
  | putq i =>
    simp only [ActiveObject.next, putq]
    split
    · exact h
    · rename_i j hj
      have hmem : j ∈ x.dispatching := h.mem (List.mem_of_getElem? hj)
      split_ifs
      · exact h
      · obtain ⟨late, hput, hperm⟩ := h.put
        refine ⟨h.stopped, ⟨late ++ [some j], by simp [enqueue, hput], ?_⟩, h.taken,
          h.length_taken, ?_⟩
        · refine .trans ?_ hperm
          obtain ⟨hlt, rfl⟩ := List.getElem?_eq_some_iff.mp hj
          rw [List.filterMap_append, List.append_assoc]
          exact List.Perm.append_left _ (List.getElem_cons_eraseIdx_perm hlt)
        · intro hreturned m hm
          rcases List.mem_append.mp hm with hm | hm
          · exact h.left hreturned m hm
          · exact ⟨j, hmem, List.mem_singleton.mp hm⟩
  | svc =>
    have hlength := h.length_taken
    simp only [ActiveObject.next, svc]
    split
    · rename_i hworker
      rw [if_neg (by simp [hclosed.continues])]
      exact ⟨h.stopped, h.put, h.taken, le_trans (by simp [Worker.toTake]) hlength, h.left⟩
    · rename_i hworker
      split
      · exact h
      · rename_i m q hqueue
        refine ⟨h.stopped, h.put, h.taken.trans (List.prefix_append _ _), ?_, ?_⟩
        · simpa [hworker, Worker.toTake] using hlength
        · exact fun hreturned m' hm' => h.left hreturned m' (hqueue ▸ List.mem_cons_of_mem _ hm')
    · rename_i hworker
      exact ⟨h.stopped, h.put, h.taken, le_trans (by simp [Worker.toTake]) hlength, h.left⟩
    · rename_i hworker
      refine ⟨h.stopped, h.put, h.taken, le_trans ?_ hlength, h.left⟩
      simp only
      split_ifs <;> simp [Worker.toTake]
    · exact h
  | stop =>
    have hsame : y.stop = y := by
      rw [stop, if_neg fun hidle => h.stopped (.inl hidle)]
    simp only [ActiveObject.next, hsame]
    exact h
  | stopping =>
    simp only [ActiveObject.next, stopping]
    split
    · rename_i hcalled
      exact absurd (.inr hcalled) h.stopped
    · split_ifs
      · exact h
      · obtain ⟨late, hput, hperm⟩ := h.put
        exact ⟨by simp [Stopped], ⟨late ++ [none], by simp [enqueue, hput], by simpa [enqueue] using hperm⟩,
          h.taken, h.length_taken, by simp⟩
    · have hjoined : x.Winds { y with stopper := .joined } :=
        ⟨by simp [Stopped], h.put, h.taken, h.length_taken, by simp⟩
      split
      · exact hjoined
      · exact hjoined
      · exact h
    · rename_i hjoined
      split
      · rename_i hqueue
        exact ⟨by simp [Stopped], h.put, h.taken, h.length_taken, by simp [hqueue]⟩
      · rename_i m q hqueue
        exact ⟨by simp [Stopped, hjoined], h.put, h.taken, h.length_taken, by simp [hjoined]⟩
    · exact h

/-- What comes after the flag was cleared in the state `x`. -/
theorem winds_run (hx : x.Inv) (h : x.stopper = .stored)
    (hes : Transition.Along (next v) InOrder x es) : x.Winds (x.run v es) := by
  have hboth : (x.run v es).Inv ∧ x.Winds (x.run v es) :=
    hes.invariant (P := fun y => y.Inv ∧ x.Winds y)
      (fun _ _ he hy => ⟨hy.1.next he, hy.2.next hy.1 he⟩) ⟨hx, .refl h⟩
  exact hboth.2

/-- Nothing is taken or released any more. -/
structure Frozen (x y : ActiveObject J) : Prop where
  stopper : y.stopper = .returned
  worker : y.worker = x.worker
  taken : y.taken = x.taken
  released : y.released = x.released

lemma Frozen.next (h : x.Frozen y) (hx : x.worker.alive = false) (he : y.InOrder e) :
    x.Frozen (y.next v e) := by
  obtain ⟨hstopper, hworker, htaken, hreleased⟩ := h
  cases e with
  | start ok =>
    have hidle : y.stopper = .idle := he
    rw [hstopper] at hidle
    cases hidle
  | dispatch j =>
    simp only [ActiveObject.next, dispatch]
    split_ifs <;> exact ⟨hstopper, hworker, htaken, hreleased⟩
  | putq i =>
    simp only [ActiveObject.next, putq]
    split
    · exact ⟨hstopper, hworker, htaken, hreleased⟩
    · split_ifs <;> exact ⟨hstopper, hworker, htaken, hreleased⟩
  | svc =>
    have hsame : y.svc v = y := svc_of_not_alive (hworker ▸ hx)
    simp only [ActiveObject.next, hsame]
    exact ⟨hstopper, hworker, htaken, hreleased⟩
  | stop =>
    have hsame : y.stop = y := by simp [stop, hstopper]
    simp only [ActiveObject.next, hsame]
    exact ⟨hstopper, hworker, htaken, hreleased⟩
  | stopping =>
    have hsame : y.stopping v = y := by simp [stopping, hstopper]
    simp only [ActiveObject.next, hsame]
    exact ⟨hstopper, hworker, htaken, hreleased⟩

/-- When `stop` has returned, the worker has ended and takes nothing any more. -/
theorem frozen_run (hx : x.Inv) (h : x.stopper = .returned)
    (hes : Transition.Along (next v) InOrder x es) : x.Frozen (x.run v es) := by
  have hended := (hx.closed (by simp [h])).joined (.inr h)
  exact hes.invariant (P := x.Frozen) (fun _ _ he hy => hy.next hended he) ⟨h, rfl, rfl, rfl⟩

/-! ### Whether `stop` returns -/

/-- The queue is full, and is so still when the worker ends. -/
def Blocked (v : Service J) (x : ActiveObject J) : Prop :=
  x.stopper = .stored ∧ v.full x.queue = true ∧ (x.worker = .getq → v.full x.queue.tail = true)

lemma Blocked.next (h : x.Blocked v) (hx : x.Inv) (he : x.InOrder e) : (x.next v e).Blocked v := by
  obtain ⟨hstored, hfull, htail⟩ := h
  have hclosed := hx.closed (by simp [hstored])
  cases e with
  | start ok =>
    have hidle : x.stopper = .idle := he
    rw [hstored] at hidle
    cases hidle
  | dispatch j =>
    have hsame : x.dispatch j = x := by simp [dispatch, hclosed.continues]
    simp only [ActiveObject.next, hsame]
    exact ⟨hstored, hfull, htail⟩
  | putq i =>
    have hsame : x.putq v i = x := by
      simp only [putq, hfull]
      split <;> rfl
    simp only [ActiveObject.next, hsame]
    exact ⟨hstored, hfull, htail⟩
  | svc =>
    simp only [ActiveObject.next, svc]
    split
    · rw [if_neg (by simp [hclosed.continues])]
      exact ⟨hstored, hfull, by simp⟩
    · rename_i hworker
      split
      · exact ⟨hstored, hfull, htail⟩
      · rename_i m q hqueue
        exact ⟨hstored, by simpa [hqueue] using htail hworker, by simp⟩
    · exact ⟨hstored, hfull, by simp⟩
    · refine ⟨hstored, hfull, ?_⟩
      simp only
      split_ifs <;> simp
    · exact ⟨hstored, hfull, htail⟩
  | stop =>
    have hsame : x.stop = x := by simp [stop, hstored]
    simp only [ActiveObject.next, hsame]
    exact ⟨hstored, hfull, htail⟩
  | stopping =>
    have hsame : x.stopping v = x := by simp [stopping, hstored, hfull]
    simp only [ActiveObject.next, hsame]
    exact ⟨hstored, hfull, htail⟩

theorem blocked_run (h : x.Blocked v) (hx : x.Inv)
    (hes : Transition.Along (next v) InOrder x es) : (x.run v es).Blocked v := by
  have hboth : (x.run v es).Inv ∧ (x.run v es).Blocked v :=
    hes.invariant (P := fun y => y.Inv ∧ y.Blocked v)
      (fun _ _ he hy => ⟨hy.1.next he, hy.2.next hy.1 he⟩) ⟨hx, h⟩
  exact hboth.2

/-- The worker and `stop` alone can get to where `stop` returns. -/
def Returns (v : Service J) (x : ActiveObject J) : Prop :=
  ∃ es, (∀ e ∈ es, e = .svc ∨ e = .stopping) ∧ (x.run v es).stopper = .returned

lemma Returns.of_next (he : e = .svc ∨ e = .stopping) (h : (x.next v e).Returns v) :
    x.Returns v := by
  obtain ⟨es, hes, hreturned⟩ := h
  exact ⟨e :: es, List.forall_mem_cons.mpr ⟨he, hes⟩, hreturned⟩

/-- The steps of the worker until the queue is empty. -/
def work (x : ActiveObject J) : ℕ :=
  3 * x.queue.length + match x.worker with
    | .test   => 1
    | .took _ => 2
    | _       => 0

lemma work_svc_lt (halive : x.worker.alive = true) (h : x.worker = .getq → x.queue ≠ []) :
    (x.svc v).work < x.work := by
  cases hworker : x.worker with
  | absent => simp [hworker, Worker.alive] at halive
  | exited => simp [hworker, Worker.alive] at halive
  | test =>
    simp only [svc, work, hworker]
    split_ifs <;> simp
  | getq =>
    obtain ⟨m, q, hqueue⟩ := List.exists_cons_of_ne_nil (h hworker)
    simp only [svc, work, hworker, hqueue, List.length_cons]
    omega
  | took m =>
    cases m with
    | some j =>
      simp only [svc, work, hworker]
      omega
    | none =>
      simp only [svc, work, hworker]
      split_ifs <;> simp

lemma returns_of_joined (h : x.stopper = .joined) : x.Returns v := by
  induction hqueue : x.queue generalizing x with
  | nil => exact ⟨[.stopping], by simp, by simp [run, next, stopping, h, hqueue]⟩
  | cons m q ih =>
    refine .of_next (e := .stopping) (.inr rfl) (ih ?_ ?_)
    · simp [next, stopping, h, hqueue]
    · simp [next, stopping, h, hqueue]

lemma Inv.returns_of_poisoned (hx : x.Inv) (h : x.stopper = .poisoned) : x.Returns v := by
  induction hwork : x.work using Nat.strong_induction_on generalizing x with
  | _ n ih =>
    subst hwork
    have hclosed := hx.closed (by simp [h])
    cases halive : x.worker.alive with
    | false =>
      refine .of_next (e := .stopping) (.inr rfl) (returns_of_joined ?_)
      cases hworker : x.worker <;> simp [hworker, Worker.alive] at halive <;>
        simp [ActiveObject.stopping, h, hworker]
    | true =>
      refine .of_next (e := .svc) (.inl rfl) (ih _ (work_svc_lt halive ?_) hx.svc ?_ rfl)
      · intro hgetq hempty
        have hnone := hclosed.poison.mpr (by simp [h])
        rw [hx.put, hclosed.released (.inr h), hempty, List.append_nil, List.append_nil] at hnone
        exact hclosed.getq hgetq hnone
      · rw [next_svc, stopper_svc, h]

lemma Inv.returns_of_room (hx : x.Inv) (h : x.stopper = .stored) (hroom : v.full x.queue = false) :
    x.Returns v := by
  refine .of_next (e := .stopping) (.inr rfl) (hx.stopping.returns_of_poisoned ?_)
  simp [ActiveObject.stopping, h, hroom]

lemma Inv.returns_of_stored (hx : x.Inv) (hempty : v.full [] = false) (h : x.stopper = .stored)
    (hblocked : ¬ x.Blocked v) : x.Returns v := by
  cases hfull : v.full x.queue with
  | false => exact hx.returns_of_room h hfull
  | true =>
    have htail : x.worker = .getq ∧ v.full x.queue.tail = false := by
      simpa [Blocked, h, hfull] using hblocked
    refine .of_next (e := .svc) (.inl rfl) (hx.svc.returns_of_room ?_ ?_)
    · rw [stopper_svc, h]
    · cases hqueue : x.queue with
      | nil => rw [hqueue, hempty] at hfull; cases hfull
      | cons m q => simpa [ActiveObject.svc, htail.1, hqueue] using htail.2

/-- While the flag is set the worker can empty the queue. -/
lemma Inv.returns_of_called (hx : x.Inv) (hempty : v.full [] = false) (h : x.stopper = .called) :
    x.Returns v := by
  induction hwork : x.work using Nat.strong_induction_on generalizing x with
  | _ n ih =>
    subst hwork
    have hopen := hx.open (.inr h)
    by_cases hqueue : x.queue = []
    · refine .of_next (e := .stopping) (.inr rfl) (hx.stopping.returns_of_room ?_ ?_)
      · simp [ActiveObject.stopping, h]
      · simp [ActiveObject.stopping, h, hqueue, hempty]
    · cases halive : x.worker.alive with
      | false =>
        have hput := hopen.put hx
        cases hworker : x.worker <;> simp [hworker, Worker.alive] at halive
        · rw [(hopen.absent hworker).1] at hput
          exact absurd (List.append_eq_nil_iff.mp hput.symm).2 hqueue
        · exact absurd hworker hopen.worker
      | true =>
        refine .of_next (e := .svc) (.inl rfl)
          (ih _ (work_svc_lt halive fun _ => hqueue) hx.svc ?_ rfl)
        rw [next_svc, stopper_svc, h]

/-- A call of `stop` that has begun can return, unless it waits at a full queue that the worker
leaves full. -/
theorem Inv.returns_iff (hx : x.Inv) (hempty : v.full [] = false) (h : x.stopper ≠ .idle) :
    x.Returns v ↔ ¬ x.Blocked v := by
  constructor
  · rintro ⟨es, hes, hreturned⟩ hblocked
    have horder : Transition.Along (ActiveObject.next v) InOrder x es := Transition.Along.of_forall (by
      intro e he y
      rcases hes e he with rfl | rfl <;> trivial) x
    have hstored := (blocked_run hblocked hx horder).1
    rw [hreturned] at hstored
    cases hstored
  · intro hblocked
    cases hstopper : x.stopper with
    | idle => exact absurd hstopper h
    | called => exact hx.returns_of_called hempty hstopper
    | stored => exact hx.returns_of_stored hempty hstopper hblocked
    | poisoned => exact hx.returns_of_poisoned hstopper
    | joined => exact returns_of_joined hstopper
    | returned => exact ⟨[], by simp, hstopper⟩

end ActiveObject
