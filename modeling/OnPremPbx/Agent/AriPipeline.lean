import OnPremPbx.Calls.AriClient
import OnPremPbx.Transition.ActiveObject

/-!
# From the events of Asterisk to the frames of the agent

The reactor thread reads the events and dispatches each as a job (`ari_dispatch_task.cpp`), and so
it does with the other calls of `AriClient`. One worker thread runs the jobs. The handlers that
`main` installs make frames of what the client publishes, which the worker must not send itself:
`ReactorFrameOutbox` (`main.cpp`) keeps them until the reactor thread is notified, which takes all
that have come and sends them one by one.
-/

open Transition

/-- An endpoint of the list that ARI answers with, and `none` for what is not an object. -/
abbrev ListedEndpoint := Option AriEndpoint

/-- A response to `list_endpoints`. There is no list in a body that is not an array. -/
structure EndpointsResponse where
  status : ℤ
  endpoints : Option (List ListedEndpoint)
  deriving DecidableEq, Repr

/-- A response to `get_endpoint`, with the `channel_ids` where they are an array. -/
structure EndpointResponse where
  status : ℤ
  channelIds : Option (List JsonField)
  deriving DecidableEq, Repr

namespace AriClient

/-- What the loop of `publish_register_snapshot` publishes, until `value` throws. -/
def snapshotFlags : List ListedEndpoint → List (String × Bool)
  | []              => []
  | none :: eps     => snapshotFlags eps
  | some ep :: eps  =>
    match ep.technology.value with
    | none      => []
    | some tech =>
      if tech ≠ "PJSIP" then snapshotFlags eps
      else
        match ep.resource.value with
        | none          => []
        | some resource =>
          if resource = "" then snapshotFlags eps
          else
            match ep.state.value with
            | none       => []
            | some state => (resource, decide (state = "online")) :: snapshotFlags eps

/-- What `publish_register_snapshot` publishes, if there is a handler for it. -/
def snapshotOf (r : EndpointsResponse) (s : AriClient) : List (String × Bool) :=
  if s.hasRegisterStateHandler ∧ isSuccess r.status then snapshotFlags (r.endpoints.getD []) else []

def publishRegisterSnapshot (r : EndpointsResponse) (s : AriClient) : AriClient :=
  (s.snapshotOf r).foldl (fun s flag => s.publish flag.1 flag.2) s

def revokeSubscriber (sipUsername : String) (r : EndpointResponse) (s : AriClient) : AriClient :=
  if sipUsername = "" ∨ ¬ isSuccess r.status then s
  else
    ((r.channelIds.getD []).filterMap JsonField.string?).foldl
      (fun s id => if id = "" then s else s.demand (.hangup id "normal")) s

end AriClient

/-- A call of the client that the reactor thread dispatches, with what the surroundings answer. -/
inductive AriJob where
  | onEvent (e : AriEvent) (script : AriClient.Script)
  | publishRegisterSnapshot (r : EndpointsResponse)
  | revokeSubscriber (sipUsername : String) (r : EndpointResponse) (script : AriClient.Script)

/-- The frames that the handlers of the client make. -/
inductive WorkerFrame where
  /-- `REGISTER_STATE` -/
  | registerState (sipUsername : String) (online : Bool)
  /-- `ASTERISK_STATUS` -/
  | asteriskStatus (connected : Bool)
  deriving DecidableEq, Repr

namespace AriJob

def registerStates (flags : List (String × Bool)) : List WorkerFrame :=
  flags.map fun flag => .registerState flag.1 flag.2

/-- A job: what becomes of the client, and the frames posted on the way. -/
def exec (s : AriClient) : AriJob → AriClient × List WorkerFrame
  | .onEvent e script                       =>
    let t := (s.setScript script).onEvent e
    (t, registerStates (t.published.drop s.published.length))
  | .publishRegisterSnapshot r              =>
    -- the status is reported before anything is read
    (s.publishRegisterSnapshot r,
      .asteriskStatus (isSuccess r.status) :: registerStates (s.snapshotOf r))
  | .revokeSubscriber sipUsername r script  =>
    ((s.setScript script).revokeSubscriber sipUsername r, [])

/-- One job after the other, without threads. -/
def execAll (s : AriClient) (jobs : List AriJob) : AriClient × List WorkerFrame :=
  jobs.foldl (fun x j => ((exec x.1 j).1, x.2 ++ (exec x.1 j).2)) (s, [])

lemma execAll_concat (s : AriClient) (jobs : List AriJob) (j : AriJob) :
    execAll s (jobs ++ [j]) = ((exec (execAll s jobs).1 j).1,
      (execAll s jobs).2 ++ (exec (execAll s jobs).1 j).2) := by
  simp [execAll]

end AriJob

namespace AriDispatchTask

/-- A block carries the pointer to a job. -/
def blockSize {J : Type} : Option J → ℕ
  | some _ => 8
  | none   => 0

/-- `svc` breaks at a stop message. A queue takes no more when it holds `highWater` bytes. -/
def service (J : Type) (highWater : ℕ) : ActiveObject.Service J where
  full q := highWater ≤ (q.map blockSize).sum
  breaks := true

end AriDispatchTask

/-- The worker, the client it runs, and the outbox. -/
structure AriPipeline where
  task : ActiveObject AriJob := {}
  client : AriClient
  /-- what the job that runs has still to post -/
  posting : List WorkerFrame := []
  /-- a frame is posted, and the reactor not notified of it yet -/
  notifying : Bool := false
  pending : List WorkerFrame := []
  /-- the notifications that the reactor has not handled -/
  notified : ℕ := 0
  /-- what `handle_exception` has still to send -/
  drained : List WorkerFrame := []
  sent : List WorkerFrame := []

namespace AriPipeline

inductive Event where
  /-- what the threads do with the task -/
  | task (e : ActiveObject.Event AriJob)
  /-- `post` puts a frame with the others -/
  | push
  /-- and notifies the reactor, which may fail -/
  | notify (ok : Bool)
  | handleException
  | sendFrame

/-- The worker, which runs a job when it has taken it and goes on when all is posted. -/
def work (highWater : ℕ) (x : AriPipeline) : AriPipeline :=
  if x.posting ≠ [] ∨ x.notifying then x
  else
    let y := { x with task := x.task.svc (AriDispatchTask.service AriJob highWater) }
    match x.task.worker, x.task.queue with
    | .getq, some j :: _ =>
      { y with client := (j.exec x.client).1, posting := (j.exec x.client).2 }
    | _, _               => y

def next (highWater : ℕ) (x : AriPipeline) : Event → AriPipeline
  | .task .svc       => x.work highWater
  | .task e          =>
    { x with task := x.task.next (AriDispatchTask.service AriJob highWater) e }
  | .push            =>
    match x.posting with
    | []      => x
    | f :: fs =>
      if x.notifying then x
      else { x with posting := fs, pending := x.pending ++ [f], notifying := true }
  | .notify ok       =>
    if x.notifying then
      { x with notifying := false, notified := if ok then x.notified + 1 else x.notified }
    else x
  | .handleException =>
    if 0 < x.notified ∧ x.drained = [] then
      { x with notified := x.notified - 1, drained := x.pending, pending := [] }
    else x
  | .sendFrame       =>
    match x.drained with
    | []      => x
    | f :: fs => { x with drained := fs, sent := x.sent ++ [f] }

def run (highWater : ℕ) (x : AriPipeline) (es : List Event) : AriPipeline :=
  es.foldl (next highWater) x

/-- `start` is not called any more once `stop` has been. -/
def InOrder (x : AriPipeline) : Event → Prop
  | .task e => x.task.InOrder e
  | _       => True

instance (x : AriPipeline) (e : Event) : Decidable (x.InOrder e) := by
  unfold InOrder
  split <;> infer_instance

/-- The jobs that the worker has taken, in that order. -/
def begun (x : AriPipeline) : List AriJob := x.task.taken.filterMap id

/-- The jobs for which `dispatch` has returned true, in the order in which they were put. -/
def accepted (x : AriPipeline) : List AriJob := x.task.put.filterMap id

/-! ### Steps -/

variable {highWater : ℕ} {x y : AriPipeline} {e : Event} {es : List Event}

/-- What the worker does: it is held up by a frame, it takes a job and runs it, or only its place
changes. -/
lemma work_cases (highWater : ℕ) (x : AriPipeline) :
    x.work highWater = x ∨
    (∃ j q, x.task.worker = .getq ∧ x.task.queue = some j :: q ∧ x.posting = [] ∧
      x.notifying = false ∧ x.work highWater = { x with
        task := x.task.svc (AriDispatchTask.service AriJob highWater)
        client := (j.exec x.client).1
        posting := (j.exec x.client).2 }) ∨
    ((∀ j q, x.task.worker = .getq → x.task.queue ≠ some j :: q) ∧ x.posting = [] ∧
      x.notifying = false ∧
      x.work highWater = { x with
        task := x.task.svc (AriDispatchTask.service AriJob highWater) }) := by
  unfold work
  split_ifs with hheld
  · exact .inl rfl
  · obtain ⟨hposting, hnotifying⟩ : x.posting = [] ∧ x.notifying = false := by
      simpa using hheld
    right
    dsimp only
    split
    · rename_i j q hworker hqueue
      exact .inl ⟨j, q, hworker, hqueue, hposting, hnotifying, rfl⟩
    · rename_i hnone
      exact .inr ⟨fun j q hworker hqueue => hnone j q hworker hqueue, hposting, hnotifying, rfl⟩

lemma next_task (highWater : ℕ) (x : AriPipeline) {t : ActiveObject.Event AriJob} (ht : t ≠ .svc) :
    x.next highWater (.task t) =
      { x with task := x.task.next (AriDispatchTask.service AriJob highWater) t } := by
  cases t with
  | svc => exact absurd rfl ht
  | _ => rfl

/-- Each step is a step of the task, or leaves it as it is. -/
lemma task_next (highWater : ℕ) (x : AriPipeline) (he : x.InOrder e) :
    (x.next highWater e).task = x.task ∨ ∃ t, x.task.InOrder t ∧
      (x.next highWater e).task = x.task.next (AriDispatchTask.service AriJob highWater) t := by
  cases e with
  | task t =>
    by_cases hsvc : t = .svc
    · subst hsvc
      rcases work_cases highWater x with h | ⟨j, q, -, -, -, -, h⟩ | ⟨-, -, -, h⟩
      · exact .inl (by rw [next, h])
      · exact .inr ⟨.svc, trivial, by rw [next, h]; rfl⟩
      · exact .inr ⟨.svc, trivial, by rw [next, h]; rfl⟩
    · exact .inr ⟨t, he, by rw [next_task highWater x hsvc]⟩
  | push =>
    left
    simp only [next]
    split
    · rfl
    · split_ifs <;> rfl
  | notify ok =>
    left
    simp only [next]
    split_ifs <;> rfl
  | handleException =>
    left
    simp only [next]
    split_ifs <;> rfl
  | sendFrame =>
    left
    simp only [next]
    split <;> rfl

/-- What the task keeps, the pipeline keeps. -/
lemma task_run {P : ActiveObject AriJob → Prop}
    (hstep : ∀ t u, t.InOrder u → P t → P (t.next (AriDispatchTask.service AriJob highWater) u))
    (hx : P x.task) (hes : Along (next highWater) InOrder x es) : P (x.run highWater es).task := by
  refine hes.invariant (P := fun y => P y.task) (fun y e he hy => ?_) hx
  rcases task_next highWater y he with h | ⟨t, ht, h⟩
  · rwa [h]
  · rw [h]
    exact hstep _ t ht hy

/-! ### The invariant -/

/-- What has been done for the client `c` is what the jobs begun do one after the other: the frames
are sent, or on their way in their order. -/
structure Follows (x : AriPipeline) (c : AriClient) : Prop where
  task : x.task.Inv
  client : x.client = (AriJob.execAll c x.begun).1
  frames : x.sent ++ x.drained ++ x.pending ++ x.posting = (AriJob.execAll c x.begun).2
  /-- Between jobs everything is posted. -/
  idle : (∀ j, x.task.worker ≠ .took (some j)) → x.posting = [] ∧ x.notifying = false

variable {c : AriClient}

/-- The worker has begun no job where it has taken none. -/
lemma taken_svc {v : ActiveObject.Service AriJob} {t : ActiveObject AriJob}
    (h : ∀ j q, t.worker = .getq → t.queue ≠ some j :: q) :
    (t.svc v).taken.filterMap id = t.taken.filterMap id := by
  unfold ActiveObject.svc
  split
  · rfl
  · rename_i hworker
    split
    · rfl
    · rename_i m q hqueue
      cases m with
      | none => simp
      | some j => exact absurd hqueue (h j q hworker)
  all_goals rfl

lemma Follows.work (hx : x.Follows c) : (x.work highWater).Follows c := by
  have hsvc := hx.task.svc (v := AriDispatchTask.service AriJob highWater)
  rcases work_cases highWater x with h | ⟨j, q, hworker, hqueue, hposting, hnotifying, h⟩ |
    ⟨hnone, hposting, hnotifying, h⟩
  · rwa [h]
  · have htaken : (x.task.svc (AriDispatchTask.service AriJob highWater)) =
        { x.task with queue := q, worker := .took (some j), taken := x.task.taken ++ [some j] } := by
      simp [ActiveObject.svc, hworker, hqueue]
    have hbegun : (x.work highWater).begun = x.begun ++ [j] := by
      simp [h, begun, htaken]
    have hframes := hx.frames
    rw [hposting, List.append_nil] at hframes
    refine ⟨h ▸ hsvc, ?_, ?_, ?_⟩
    · rw [hbegun, AriJob.execAll_concat, ← hx.client, h]
    · rw [hbegun, AriJob.execAll_concat, ← hx.client, ← hframes, h]
    · intro hidle
      rw [h, htaken] at hidle
      exact absurd rfl (hidle j)
  · have hbegun : (x.work highWater).begun = x.begun := by
      rw [h]
      exact taken_svc hnone
    refine ⟨h ▸ hsvc, ?_, ?_, ?_⟩
    · rw [hbegun, ← hx.client, h]
    · rw [hbegun, ← hx.frames, h]
    · rw [h]
      exact fun _ => ⟨hposting, hnotifying⟩

/-- A step of another thread at the task begins no job and ends none. -/
lemma Follows.other (hx : x.Follows c) {t : ActiveObject.Event AriJob} (ht : x.task.InOrder t)
    (hsvc : t ≠ .svc) : (x.next highWater (.task t)).Follows c := by
  obtain ⟨htaken, hworker⟩ := ActiveObject.worker_next_of_ne_svc
    (v := AriDispatchTask.service AriJob highWater) hsvc x.task
  have hnext := next_task highWater x hsvc
  have hbegun : (x.next highWater (.task t)).begun = x.begun := by simp [hnext, begun, htaken]
  refine ⟨?_, ?_, ?_, ?_⟩
  · rw [hnext]
    exact hx.task.next ht
  · rw [hbegun, ← hx.client, hnext]
  · rw [hbegun, ← hx.frames, hnext]
  · intro hidle
    rw [hnext] at hidle ⊢
    apply hx.idle
    rcases hworker with hworker | hworker
    · exact hworker ▸ hidle
    · intro j hj
      rw [hj] at hworker
      cases hworker

lemma Follows.next (hx : x.Follows c) (he : x.InOrder e) : (x.next highWater e).Follows c := by
  have hframes := hx.frames
  cases e with
  | task t =>
    by_cases hsvc : t = .svc
    · subst hsvc
      exact hx.work
    · exact hx.other he hsvc
  | push =>
    simp only [AriPipeline.next]
    split
    · exact hx
    · rename_i f fs hposting
      split_ifs
      · exact hx
      · refine ⟨hx.task, hx.client, ?_, ?_⟩
        · rw [hposting] at hframes
          simpa [begun] using hframes
        · intro hidle
          rw [(hx.idle hidle).1] at hposting
          cases hposting
  | notify ok =>
    simp only [AriPipeline.next]
    split_ifs
    · exact ⟨hx.task, hx.client, hframes, fun hidle => ⟨(hx.idle hidle).1, rfl⟩⟩
    · exact ⟨hx.task, hx.client, hframes, fun hidle => ⟨(hx.idle hidle).1, rfl⟩⟩
    · exact hx
  | handleException =>
    simp only [AriPipeline.next]
    split_ifs with hready
    · refine ⟨hx.task, hx.client, ?_, hx.idle⟩
      rw [hready.2] at hframes
      simpa [begun] using hframes
    · exact hx
  | sendFrame =>
    simp only [AriPipeline.next]
    split
    · exact hx
    · rename_i f fs hdrained
      refine ⟨hx.task, hx.client, ?_, hx.idle⟩
      rw [hdrained] at hframes
      simpa [begun] using hframes

lemma run_append (x : AriPipeline) (es es' : List Event) :
    x.run highWater (es ++ es') = (x.run highWater es).run highWater es' := List.foldl_append

lemma follows_init (c : AriClient) : ({ client := c } : AriPipeline).Follows c where
  task := ActiveObject.inv_init
  client := rfl
  frames := rfl
  idle := fun _ => ⟨rfl, rfl⟩

lemma follows_run (c : AriClient)
    (hes : Along (AriPipeline.next highWater) InOrder { client := c } es) :
    (({ client := c } : AriPipeline).run highWater es).Follows c :=
  hes.invariant (P := fun y => y.Follows c) (fun _ _ he hy => hy.next he) (follows_init c)

/-- Where no notification fails, the reactor is notified of what is pending or will be. -/
lemma notified_run (c : AriClient) (hok : .notify false ∉ es)
    (hpending : (({ client := c } : AriPipeline).run highWater es).pending ≠ []) :
    0 < (({ client := c } : AriPipeline).run highWater es).notified ∨
      (({ client := c } : AriPipeline).run highWater es).notifying = true := by
  induction es using List.reverseRecOn with
  | nil => exact absurd rfl hpending
  | append_singleton es e ih =>
    have hlast : e ≠ .notify false := fun h => hok (by simp [h])
    have hrest := ih fun h => hok (List.mem_append_left _ h)
    rw [run_append] at hpending ⊢
    generalize ({ client := c } : AriPipeline).run highWater es = x at *
    simp only [AriPipeline.run, List.foldl_cons, List.foldl_nil] at *
    cases e with
    | task t =>
      by_cases hsvc : t = .svc
      · subst hsvc
        rcases work_cases highWater x with h | ⟨j, q, -, -, -, -, h⟩ | ⟨-, -, -, h⟩ <;>
          · rw [AriPipeline.next, h] at hpending ⊢
            exact hrest hpending
      · rw [next_task highWater x hsvc] at hpending ⊢
        exact hrest hpending
    | push =>
      simp only [AriPipeline.next] at hpending ⊢
      split at hpending
      · exact hrest hpending
      · split_ifs at hpending ⊢ with hnotifying
        · exact .inr hnotifying
        · exact .inr rfl
    | notify ok =>
      cases ok with
      | false => exact absurd rfl hlast
      | true =>
        simp only [AriPipeline.next, if_true] at hpending ⊢
        split_ifs at hpending ⊢
        · exact .inl (Nat.succ_pos _)
        · exact hrest hpending
    | handleException =>
      simp only [AriPipeline.next] at hpending ⊢
      split_ifs at hpending ⊢
      · exact absurd rfl hpending
      · exact hrest hpending
    | sendFrame =>
      simp only [AriPipeline.next] at hpending ⊢
      split at hpending <;> exact hrest hpending

/-! ### The threads together -/

/-- Whatever the order of their steps, the threads do what the accepted jobs do one after the
other: those begun are the first of them, each once, the client is where they leave it, and the
frames they post are sent in that order. Where no notification fails, none is left behind. -/
theorem sends_in_order (highWater : ℕ) (c : AriClient) (es : List Event)
    (hes : Along (next highWater) InOrder { client := c } es) :
    let y := ({ client := c } : AriPipeline).run highWater es
    y.accepted = y.begun ++ (y.task.released ++ y.task.queue).filterMap id ∧
      y.client = (AriJob.execAll c y.begun).1 ∧
      y.sent ++ y.drained ++ y.pending ++ y.posting = (AriJob.execAll c y.begun).2 ∧
      (.notify false ∉ es → y.pending ≠ [] → 0 < y.notified ∨ y.notifying = true) := by
  intro y
  have hy : y.Follows c := follows_run c hes
  refine ⟨?_, hy.client, hy.frames, notified_run c⟩
  rw [accepted, hy.task.put, List.append_assoc, List.filterMap_append, begun]

/-- A phone registers, and its event goes all the way. -/
theorem sends_in_order_registered :
    let event := AriEvent.contactStatusChange
      (some { technology := .text "PJSIP", resource := .text "a" }) (some (.text "Created"))
    let es : List Event := [.task (.start true), .task (.dispatch (.onEvent event {})),
      .task (.putq 0), .task .svc, .task .svc, .push, .notify true, .task .svc, .handleException,
      .sendFrame]
    let y := ({ client := {} } : AriPipeline).run 0x4000 es
    y.sent = [.registerState "a" true] ∧ y.begun.length = 1 ∧
      y.sent ++ y.drained ++ y.pending ++ y.posting = (AriJob.execAll {} y.begun).2 := by
  intro event es y
  have hes : Along (next 0x4000) InOrder { client := {} } es := by
    simp only [es, Along, InOrder, ActiveObject.InOrder, and_true]
  exact ⟨by decide +kernel, by decide +kernel, (sends_in_order 0x4000 {} es hes).2.2.1⟩

/-- From where `stop` clears the flag, at most one job is begun, and only calls of `dispatch` that
had found the flag set put one. When `stop` has returned, all jobs are begun or released but those
of such calls, and no thread touches the client any more. -/
theorem ends_with_stop (highWater : ℕ) (c : AriClient) (first last : List Event)
    (hes : Along (next highWater) InOrder { client := c } (first ++ .task .stopping :: last))
    (hcalled : (({ client := c } : AriPipeline).run highWater first).task.stopper = .called) :
    let x := ({ client := c } : AriPipeline).run highWater (first ++ [.task .stopping])
    let y := x.run highWater last
    y.begun.length ≤ x.begun.length + 1 ∧
      (∃ late, y.accepted = x.accepted ++ late ∧
        (late ++ y.task.dispatching).Perm x.task.dispatching) ∧
      (y.task.stopper = .returned →
        (∀ j, some j ∈ y.task.queue → j ∈ x.task.dispatching) ∧
        ∀ es', Along (next highWater) InOrder y es' →
          (y.run highWater es').client = y.client ∧ (y.run highWater es').begun = y.begun ∧
            (y.run highWater es').posting = []) := by
  intro x y
  rw [List.append_cons] at hes
  obtain ⟨hfirst, hlast⟩ := along_append.mp hes
  have hx : x.Follows c := follows_run c hfirst
  have hstored : x.task.stopper = .stored := by
    have hnext : x = (({ client := c } : AriPipeline).run highWater first).next highWater
        (.task .stopping) := run_append _ _ _
    rw [hnext, next_task highWater _ (by simp), ActiveObject.next_stopping,
      ActiveObject.stopping_of_called hcalled]
  obtain ⟨hinv, hwinds⟩ : y.task.Inv ∧ x.task.Winds y.task :=
    task_run (P := fun t => t.Inv ∧ x.task.Winds t)
      (fun t u hu ht => ⟨ht.1.next hu, ht.2.next ht.1 hu⟩) ⟨hx.task, .refl hstored⟩ hlast
  refine ⟨?_, ?_, ?_⟩
  · obtain ⟨more, hmore⟩ := hwinds.taken
    have hlength : more.length ≤ 1 := by
      have hle := hwinds.length_taken
      have hone : x.task.worker.toTake ≤ 1 := by cases x.task.worker <;> simp [Worker.toTake]
      rw [← hmore, List.length_append] at hle
      omega
    rw [begun, begun, ← hmore, List.filterMap_append, List.length_append]
    exact Nat.add_le_add_left ((List.length_filterMap_le _ _).trans hlength) _
  · obtain ⟨late, hput, hperm⟩ := hwinds.put
    exact ⟨late.filterMap id, by rw [accepted, hput, List.filterMap_append, accepted], hperm⟩
  · intro hreturned
    refine ⟨?_, ?_⟩
    · intro j hj
      obtain ⟨j', hj', hsome⟩ := hwinds.left hreturned _ hj
      exact Option.some.inj hsome ▸ hj'
    · intro es' hes'
      have hended := (hinv.closed hwinds.stopped).joined (.inr hreturned)
      have hfrozen : y.task.Frozen (y.run highWater es').task :=
        task_run (P := y.task.Frozen) (fun t u hu ht => ht.next hended hu)
          ⟨hreturned, rfl, rfl, rfl⟩ hes'
      have hy : y.Follows c :=
        hlast.invariant (P := fun y => y.Follows c) (fun _ _ he h => h.next he) hx
      have hz : (y.run highWater es').Follows c :=
        hes'.invariant (P := fun y => y.Follows c) (fun _ _ he h => h.next he) hy
      have hbegun : (y.run highWater es').begun = y.begun := by
        rw [begun, begun, hfrozen.taken]
      refine ⟨?_, hbegun, (hz.idle ?_).1⟩
      · rw [hz.client, hbegun, hy.client]
      · intro j hj
        rw [← hfrozen.worker, hj] at hended
        cases hended

/-- A job is put when `stop` has returned already, by a call that had found the flag set. -/
theorem ends_with_stop_late :
    let job := AriJob.revokeSubscriber "" ⟨404, none⟩ {}
    let first : List Event := [.task (.start true), .task (.dispatch job), .task (.putq 0),
      .task .svc, .task .svc, .task (.dispatch job), .task .stop]
    let last : List Event := [.task .stopping, .task .svc, .task .svc, .task .stopping,
      .task .stopping, .task .stopping, .task (.putq 0)]
    let y := (({ client := {} } : AriPipeline).run 0x4000 (first ++ [.task .stopping])).run 0x4000
      last
    y.task.stopper = .returned ∧ y.begun.length = 1 ∧ y.task.queue.length = 1 ∧
      (y.run 0x4000 [.task .svc]).client = y.client := by
  intro job first last y
  have hreturned : y.task.stopper = .returned := by decide +kernel
  have hes : Along (next 0x4000) InOrder { client := {} } (first ++ .task .stopping :: last) := by
    simp only [first, last, Along, InOrder, ActiveObject.InOrder, List.cons_append, List.nil_append,
      and_true]
  have hend := ((ends_with_stop 0x4000 {} first last hes (by decide +kernel)).2.2 hreturned).2
  exact ⟨hreturned, by decide +kernel, by decide +kernel,
    (hend [.task .svc] ⟨trivial, trivial⟩).1⟩

end AriPipeline
