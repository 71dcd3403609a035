import Mathlib.Data.List.AList
import OnPremPbx.Database.DbProto
import OnPremPbx.Transition.Run

/-!
# The database server of the cloud

`WsDbServer` (`wsdbproxy.cpp`) with its threads: workers that call `dispatch`, the thread of `svc`
that serves one agent after the other, and the callers of `on_agent_connected`. A step is an access
to what the threads share, or a critical section that nothing can interrupt; what a thread does for
itself belongs to the next such step.

Agents are handed over; where the server accepts them itself, it does so in the thread of `svc`
while that thread waits. The end of the server (`close`) is left out. The fields `serving`,
`received`, `acts` and `writes` are read by no function.
-/

open Dbproto

/-- An agent connection. Each one that is handed over is a new one. -/
abbrev Conn := ℕ

/-- `InnerTlsServer`, with the connection that its handshake was completed on. -/
structure InnerTls where
  established : Option Conn := none
  deriving DecidableEq, Repr

/-- `PendingRequest`. -/
structure PendingRequest where
  response : Envelope := none
  ready : Bool := false
  failed : Bool := false
  deriving DecidableEq, Repr

/-- Where a call of `dispatch` is. -/
inductive DispatchPc where
  /-- before the test of `m_connected` -/
  | entered
  /-- before the request is registered in `m_pending` -/
  | registering
  /-- before the test of `m_innerTls` -/
  | testing
  /-- before the load of `m_innerTlsReady` -/
  | loading
  /-- before `m_innerTls->send` -/
  | sendingTls
  /-- before `ws_send` of a plain frame -/
  | sendingRaw
  /-- before the entry is erased because of a send that failed -/
  | notSent
  | waiting
  /-- before the entry is erased after the wait. The lock of the cell is held from the end of the
  wait to the return, so the response is what it was then; without one the wait has timed out. -/
  | waited (response : Option Envelope)
  | returned (response : Envelope)
  /-- after a call through a null pointer -/
  | undefined
  deriving DecidableEq, Repr

/-- A call of `dispatch`. -/
structure DispatchCall where
  bson : Envelope
  pc : DispatchPc := .entered
  cell : PendingRequest := {}
  deriving DecidableEq, Repr

namespace DispatchCall

/-- The reqid that `dispatch` reads. -/
def reqid (c : DispatchCall) : ℤ := (parseRequest c.bson).2.reqid

def returned? (c : DispatchCall) : Option Envelope :=
  match c.pc with
  | .returned response => some response
  | _                  => none

end DispatchCall

/-- The stores at the end of a session, in their order. -/
inductive CleanupPc where
  | connected
  | ready
  | innerTls
  | stream
  | handle
  deriving DecidableEq, Repr

/-- Where the thread of `svc` is. -/
inductive SvcPc where
  | waiting
  /-- before the `InnerTlsServer` is made -/
  | creating
  /-- before the first read of the handshake -/
  | created
  | accepting (peer : Option Conn)
  /-- before `m_innerTls` is reset because of a handshake that failed -/
  | acceptFailed
  /-- before `m_innerTlsReady` is set -/
  | readying
  /-- the stores after a setup that failed, not under `m_connectMu` -/
  | setupFailed (next : CleanupPc)
  /-- before the loop test of `run_session` -/
  | looping
  | receiving
  /-- before the lookup in `m_pending` -/
  | finding (reqid : ℤ) (response : Envelope)
  /-- before the response is put in the cell of the call -/
  | delivering (call : ℕ) (response : Envelope)
  /-- the stores at the end of `run_session`, under `m_connectMu` -/
  | cleanup (next : CleanupPc)
  /-- before `m_pending` is copied and cleared -/
  | failAll (reason : String)
  | failing (reason : String) (rest : List (ℤ × ℕ))
  deriving DecidableEq, Repr

/-- What a read of the session gives. -/
inductive Received where
  | failed
  /-- a ping, a pong or a record that is not complete -/
  | nothing
  | message (bytes : Envelope)
  deriving DecidableEq, Repr

/-- What a session does to a connection. -/
inductive ActKind where
  | reads
  | closes
  /-- `m_connected` is cleared -/
  | clears
  deriving DecidableEq, Repr

/-- What the session for `serving` did to the connection `on`, if there was one. -/
structure SessionAct where
  kind : ActKind
  serving : Option Conn
  on : Option Conn
  deriving DecidableEq, Repr

/-- A write of a request, by the call, to the connection, with the connection that the TLS session
it went through was established on. There is none for a plain frame. -/
structure RequestWrite where
  call : ℕ
  on : Conn
  through : Option Conn
  deriving DecidableEq, Repr

structure WsDbServer where
  /-- certificate and key are configured -/
  innerTlsConfigured : Bool
  connected : Bool := false
  agentHandle : Option Conn := none
  agentStream : Option Conn := none
  /-- the socket of `agentStream` has been shut down -/
  shut : Bool := false
  innerTls : Option InnerTls := none
  innerTlsReady : Bool := false
  pending : AList fun _ : ℤ => ℕ := ∅
  svc : SvcPc := .waiting
  /-- the number of calls of `dispatch` so far -/
  calls : ℕ := 0
  call : ℕ → DispatchCall := fun _ => { bson := none }
  /-- the number of connections so far -/
  conns : ℕ := 0
  /-- the connection of the session -/
  serving : Option Conn := none
  received : List Envelope := []
  acts : List SessionAct := []
  writes : List RequestWrite := []

namespace WsDbServer

def setCall (i : ℕ) (f : DispatchCall → DispatchCall) (s : WsDbServer) : WsDbServer :=
  { s with call := Function.update s.call i (f (s.call i)) }

@[simp] lemma call_setCall_self (i : ℕ) (f : DispatchCall → DispatchCall) (s : WsDbServer) :
    (s.setCall i f).call i = f (s.call i) := Function.update_self _ _ _

lemma call_setCall_of_ne {i j : ℕ} (h : j ≠ i) (f : DispatchCall → DispatchCall)
    (s : WsDbServer) : (s.setCall i f).call j = s.call j := Function.update_of_ne h _ _

def act (kind : ActKind) (on : Option Conn) (s : WsDbServer) : WsDbServer :=
  { s with acts := s.acts ++ [{ kind := kind, serving := s.serving, on := on }] }

/-- The connection that a send reaches. -/
def writable (s : WsDbServer) : Option Conn := if s.shut then none else s.agentStream

/-! ### `on_agent_connected` -/

/-- The thread of `svc` holds `m_connectMu`. -/
def locked (s : WsDbServer) : Bool :=
  match s.svc with
  | .cleanup _ => true
  | _          => false

/-- An agent connects while another one is there: the other one is shut down, and this one is told
to try again. -/
def evict (s : WsDbServer) : WsDbServer :=
  { s with connected := false, agentHandle := none, shut := true }

def accept (s : WsDbServer) : WsDbServer :=
  { s with
    connected := true
    agentHandle := some s.conns
    agentStream := some s.conns
    shut := false }

def onAgentConnected (s : WsDbServer) : WsDbServer :=
  if s.locked then s
  else { (if s.connected then s.evict else s.accept) with conns := s.conns + 1 }

lemma onAgentConnected_frame (s : WsDbServer) :
    s.onAgentConnected.call = s.call ∧ s.onAgentConnected.calls = s.calls := by
  rw [onAgentConnected]
  split_ifs <;> exact ⟨rfl, rfl⟩

/-! ### `svc` -/

/-- One of the stores at the end of a session, or after a setup that failed. -/
def cleanupStore (s : WsDbServer) : CleanupPc → WsDbServer
  | .connected =>
    { s.act .clears (if s.connected then s.agentHandle else none) with connected := false }
  | .ready     => { s with innerTlsReady := false }
  | .innerTls  => { s with innerTls := none }
  | .stream    => { s.act .closes s.agentStream with agentStream := none, shut := false }
  | .handle    => { s with agentHandle := none, serving := none }

/-- The next store of `run_session`. -/
def nextCleanup : CleanupPc → Option CleanupPc
  | .connected => some .ready
  | .ready     => some .innerTls
  | .innerTls  => some .stream
  | .stream    => some .handle
  | .handle    => none

/-- The next store after a setup that failed. -/
def nextFailed : CleanupPc → Option CleanupPc
  | .connected => some .stream
  | pc         => nextCleanup pc

/-- A message of the agent is parsed. -/
def onMessage (bytes : Envelope) (s : WsDbServer) : WsDbServer :=
  let s := { s with received := s.received ++ [bytes] }
  match parseResponse bytes with
  | (false, _)  => { s with svc := .looping }
  | (true, rsp) => { s with svc := .finding rsp.reqid bytes }

/-- The loop of `run_session` reads. -/
def receive (received : Received) (s : WsDbServer) : WsDbServer :=
  let t := s.act .reads s.agentStream
  if s.agentStream = none then { t with svc := .cleanup .connected }
  else
    match received with
    | .failed        => { t with svc := .cleanup .connected }
    | .nothing       => { t with svc := .looping }
    | .message bytes => t.onMessage bytes

/-- The response, or the error of `fail_all_pending`, is put in the cell of the call. -/
def put (i : ℕ) (cell : PendingRequest) (s : WsDbServer) : WsDbServer :=
  s.setCall i fun c => { c with cell := cell }

/-- The next step of `svc`, with whether what it asks for succeeds and what it reads. -/
def svcStep (ok : Bool) (received : Received) (s : WsDbServer) : WsDbServer :=
  match s.svc with
  | .waiting => if s.connected then { s with svc := .creating } else s
  | .creating =>
    if s.innerTlsConfigured then
      if ok then { s with innerTls := some {}, svc := .created }
      else { s with serving := s.agentStream, svc := .setupFailed .connected }
    else { s with serving := s.agentStream, svc := .looping }
  | .created => { s with serving := s.agentStream, svc := .accepting s.agentStream }
  | .accepting peer =>
    -- a handshake is with one peer from its begin to its end
    let t := s.act .reads s.agentStream
    if ok ∧ peer ≠ none ∧ s.agentStream = peer then
      { t with innerTls := some { established := peer }, svc := .readying }
    else { t with svc := .acceptFailed }
  | .acceptFailed => { s with innerTls := none, svc := .setupFailed .connected }
  | .readying => { s with innerTlsReady := true, svc := .looping }
  | .setupFailed pc =>
    { s.cleanupStore pc with
      svc := (nextFailed pc).elim (.failAll "inner TLS setup failed") .setupFailed }
  | .looping => { s with svc := if s.connected then .receiving else .cleanup .connected }
  | .receiving => s.receive received
  | .finding reqid response =>
    match s.pending.lookup reqid with
    | none   => { s with svc := .looping }
    | some i => { s with svc := .delivering i response }
  | .delivering i response =>
    { s.put i { (s.call i).cell with response := response, ready := true } with svc := .looping }
  | .cleanup pc =>
    { s.cleanupStore pc with svc := (nextCleanup pc).elim (.failAll "agent disconnected") .cleanup }
  | .failAll reason =>
    { s with
      pending := ∅
      svc := .failing reason (s.pending.entries.map fun e => (e.1, e.2)) }
  | .failing _ [] => { s with svc := .waiting }
  | .failing reason ((reqid, i) :: rest) =>
    { s.put i
        { response := some (makeErrorResponse reqid reason), ready := true, failed := true } with
      svc := .failing reason rest }

/-- What a step of the thread of `svc` does. -/
inductive SvcStep (s : WsDbServer) : WsDbServer → Prop where
  | idle (hsvc : s.svc = .waiting) : SvcStep s s
  | wake (hsvc : s.svc = .waiting) (hconnected : s.connected = true) :
    SvcStep s { s with svc := .creating }
  | create (hsvc : s.svc = .creating) : SvcStep s { s with innerTls := some {}, svc := .created }
  | begin {pc : SvcPc} (hsvc : s.svc = .creating)
      (hpc : pc = .setupFailed .connected ∨ pc = .looping) :
    SvcStep s { s with serving := s.agentStream, svc := pc }
  | handshake (hsvc : s.svc = .created) :
    SvcStep s { s with serving := s.agentStream, svc := .accepting s.agentStream }
  | establish {peer : Option Conn} (hsvc : s.svc = .accepting peer) (hpeer : s.agentStream = peer) :
    SvcStep s
      { s.act .reads s.agentStream with innerTls := some { established := peer }, svc := .readying }
  | refuse {peer : Option Conn} (hsvc : s.svc = .accepting peer) :
    SvcStep s { s.act .reads s.agentStream with svc := .acceptFailed }
  | reset (hsvc : s.svc = .acceptFailed) :
    SvcStep s { s with innerTls := none, svc := .setupFailed .connected }
  | ready (hsvc : s.svc = .readying) : SvcStep s { s with innerTlsReady := true, svc := .looping }
  | loop {pc : SvcPc} (hsvc : s.svc = .looping)
      (hpc : pc = .receiving ∨ pc = .cleanup .connected) : SvcStep s { s with svc := pc }
  | read {pc : SvcPc} (hsvc : s.svc = .receiving)
      (hpc : pc = .looping ∨ pc = .cleanup .connected) :
    SvcStep s { s.act .reads s.agentStream with svc := pc }
  | message {bytes : Envelope} {pc : SvcPc} (hsvc : s.svc = .receiving)
      (hpc : pc = .looping ∨ pc = .finding (parseResponse bytes).2.reqid bytes) :
    SvcStep s
      { s.act .reads s.agentStream with received := s.received ++ [bytes], svc := pc }
  | ignore {reqid : ℤ} {bytes : Envelope} (hsvc : s.svc = .finding reqid bytes) :
    SvcStep s { s with svc := .looping }
  | find {reqid : ℤ} {bytes : Envelope} {i : ℕ} (hsvc : s.svc = .finding reqid bytes)
      (hlookup : s.pending.lookup reqid = some i) : SvcStep s { s with svc := .delivering i bytes }
  | deliver {i : ℕ} {bytes : Envelope} (hsvc : s.svc = .delivering i bytes) :
    SvcStep s
      { s.put i { (s.call i).cell with response := bytes, ready := true } with svc := .looping }
  | failedStore (pc : CleanupPc) (hsvc : s.svc = .setupFailed pc) :
    SvcStep s
      { s.cleanupStore pc with
        svc := (nextFailed pc).elim (.failAll "inner TLS setup failed") .setupFailed }
  | store (pc : CleanupPc) (hsvc : s.svc = .cleanup pc) :
    SvcStep s
      { s.cleanupStore pc with
        svc := (nextCleanup pc).elim (.failAll "agent disconnected") .cleanup }
  | failAll {reason : String} (hsvc : s.svc = .failAll reason) :
    SvcStep s
      { s with
        pending := ∅
        svc := .failing reason (s.pending.entries.map fun e => (e.1, e.2)) }
  | failed {reason : String} (hsvc : s.svc = .failing reason []) :
    SvcStep s { s with svc := .waiting }
  | fail {reason : String} {reqid : ℤ} {i : ℕ} {rest : List (ℤ × ℕ)}
      (hsvc : s.svc = .failing reason ((reqid, i) :: rest)) :
    SvcStep s
      { s.put i
          { response := some (makeErrorResponse reqid reason), ready := true, failed := true } with
        svc := .failing reason rest }

lemma SvcStep.of_svcStep (ok : Bool) (received : Received) (s : WsDbServer) :
    SvcStep s (s.svcStep ok received) := by
  cases hsvc : s.svc with
  | waiting =>
    simp only [svcStep, hsvc]
    split_ifs with hconnected
    · exact .wake hsvc hconnected
    · exact .idle hsvc
  | creating =>
    simp only [svcStep, hsvc]
    split_ifs
    · exact .create hsvc
    · exact .begin hsvc (Or.inl rfl)
    · exact .begin hsvc (Or.inr rfl)
  | created =>
    simp only [svcStep, hsvc]
    exact .handshake hsvc
  | accepting peer =>
    simp only [svcStep, hsvc]
    split_ifs with hpeer
    · exact .establish hsvc hpeer.2.2
    · exact .refuse hsvc
  | acceptFailed =>
    simp only [svcStep, hsvc]
    exact .reset hsvc
  | readying =>
    simp only [svcStep, hsvc]
    exact .ready hsvc
  | setupFailed pc =>
    simp only [svcStep, hsvc]
    exact .failedStore pc hsvc
  | looping =>
    simp only [svcStep, hsvc]
    split_ifs
    · exact .loop hsvc (Or.inl rfl)
    · exact .loop hsvc (Or.inr rfl)
  | receiving =>
    simp only [svcStep, hsvc, receive]
    split_ifs
    · exact .read hsvc (Or.inr rfl)
    · cases received with
      | failed => exact .read hsvc (Or.inr rfl)
      | nothing => exact .read hsvc (Or.inl rfl)
      | message bytes =>
        dsimp only [onMessage]
        split
        · exact .message hsvc (Or.inl rfl)
        · rename_i rsp hparse
          exact .message hsvc (Or.inr (by rw [hparse]))
  | finding reqid bytes =>
    simp only [svcStep, hsvc]
    rcases hlookup : s.pending.lookup reqid with _ | i
    · exact .ignore hsvc
    · exact .find hsvc hlookup
  | delivering i bytes =>
    simp only [svcStep, hsvc]
    exact .deliver hsvc
  | cleanup pc =>
    simp only [svcStep, hsvc]
    exact .store pc hsvc
  | failAll reason =>
    simp only [svcStep, hsvc]
    exact .failAll hsvc
  | failing reason rest =>
    cases rest with
    | nil =>
      simp only [svcStep, hsvc]
      exact .failed hsvc
    | cons e rest =>
      simp only [svcStep, hsvc]
      exact .fail hsvc

lemma pc_put (i j : ℕ) (cell : PendingRequest) (s : WsDbServer) :
    ((s.put i cell).call j).pc = (s.call j).pc := by
  by_cases hij : j = i
  · rw [hij, put, call_setCall_self]
  · rw [put, call_setCall_of_ne hij]

/-- The thread of `svc` does not move the calls and writes no request. -/
lemma SvcStep.frame {s t : WsDbServer} (h : SvcStep s t) (j : ℕ) :
    (t.call j).pc = (s.call j).pc ∧ t.calls = s.calls ∧ t.writes = s.writes := by
  cases h with
  | deliver => exact ⟨pc_put _ j _ s, rfl, rfl⟩
  | fail => exact ⟨pc_put _ j _ s, rfl, rfl⟩
  | failedStore pc => cases pc <;> exact ⟨rfl, rfl, rfl⟩
  | store pc => cases pc <;> exact ⟨rfl, rfl, rfl⟩
  | _ => exact ⟨rfl, rfl, rfl⟩

/-! ### `dispatch` -/

def goto (i : ℕ) (pc : DispatchPc) (s : WsDbServer) : WsDbServer :=
  s.setCall i fun c => { c with pc := pc }

@[simp] lemma pc_goto (i : ℕ) (pc : DispatchPc) (s : WsDbServer) :
    ((s.goto i pc).call i).pc = pc := by rw [goto, call_setCall_self]

/-- `m_pending[req.reqid] = pending`. -/
def register (i : ℕ) (s : WsDbServer) : WsDbServer :=
  { s with pending := s.pending.insert (s.call i).reqid i }

/-- `m_pending.erase(req.reqid)`. -/
def unregister (i : ℕ) (s : WsDbServer) : WsDbServer :=
  { s with pending := s.pending.erase (s.call i).reqid }

def write (w : RequestWrite) (s : WsDbServer) : WsDbServer := { s with writes := s.writes ++ [w] }

/-- The request goes out on the connection that the stream is of, if it can. -/
def send (i : ℕ) (through : Option Conn) (ok : Bool) (s : WsDbServer) : WsDbServer :=
  match s.writable with
  | none    => s.goto i .notSent
  | some on =>
    (s.write { call := i, on := on, through := through }).goto i
      (if ok then .waiting else .notSent)

/-- The next step of the call `i`, with whether a send succeeds. A wait ends with the response or
with its time. -/
def dispatchStep (i : ℕ) (ok : Bool) (s : WsDbServer) : WsDbServer :=
  let c := s.call i
  match c.pc with
  | .entered =>
    if s.connected then s.goto i .registering
    else s.goto i (.returned (some (makeErrorResponse c.reqid "no agent connected")))
  | .registering =>
    if (parseRequest c.bson).1 then
      (s.register i).goto i .testing
    else s.goto i (.returned (some (makeErrorResponse (-1) "malformed request")))
  | .testing => s.goto i (if s.innerTls.isSome then .loading else .sendingRaw)
  | .loading => s.goto i (if s.innerTlsReady then .sendingTls else .notSent)
  | .sendingTls =>
    match s.innerTls with
    | none     => s.goto i .undefined
    | some tls => if tls.established.isSome then s.send i tls.established ok else s.goto i .notSent
  | .sendingRaw => s.send i none ok
  | .notSent =>
    (s.unregister i).goto i (.returned (some (makeErrorResponse c.reqid "send failed")))
  | .waiting => s.goto i (.waited (if c.cell.ready then some c.cell.response else none))
  | .waited response =>
    (s.unregister i).goto i
      (.returned (response.getD (some (makeErrorResponse c.reqid "dispatch timeout"))))
  | .returned _ => s
  | .undefined => s

/-- A step of a call changes where it is, its entry in `m_pending` and the writes. -/
lemma dispatchStep_eq (i : ℕ) (ok : Bool) (s : WsDbServer) : ∃ pc pending writes,
    s.dispatchStep i ok = { s.goto i pc with pending := pending, writes := writes } := by
  have hsame : s = { s.goto i (s.call i).pc with pending := s.pending, writes := s.writes } := by
    have hcall : Function.update s.call i { s.call i with pc := (s.call i).pc } = s.call :=
      Function.update_eq_self i s.call
    rw [goto, setCall, hcall]
  have hsend : ∀ through, ∃ pc pending writes,
      s.send i through ok = { s.goto i pc with pending := pending, writes := writes } := by
    intro through
    rw [send]
    split <;> exact ⟨_, _, _, rfl⟩
  cases hpc : (s.call i).pc with
  | entered =>
    simp only [dispatchStep, hpc]
    split_ifs <;> exact ⟨_, _, _, rfl⟩
  | registering =>
    simp only [dispatchStep, hpc]
    split_ifs <;> exact ⟨_, _, _, rfl⟩
  | sendingTls =>
    simp only [dispatchStep, hpc]
    split
    · exact ⟨_, _, _, rfl⟩
    · split_ifs
      · exact hsend _
      · exact ⟨_, _, _, rfl⟩
  | sendingRaw =>
    simp only [dispatchStep, hpc]
    exact hsend none
  | returned bytes =>
    simp only [dispatchStep, hpc]
    exact ⟨_, _, _, hsame⟩
  | undefined =>
    simp only [dispatchStep, hpc]
    exact ⟨_, _, _, hsame⟩
  | _ =>
    simp only [dispatchStep, hpc]
    exact ⟨_, _, _, rfl⟩

lemma call_dispatchStep_of_ne {i j : ℕ} (h : j ≠ i) (ok : Bool) (s : WsDbServer) :
    (s.dispatchStep i ok).call j = s.call j := by
  obtain ⟨pc, pending, writes, heq⟩ := dispatchStep_eq i ok s
  rw [heq]
  exact call_setCall_of_ne h (fun c => { c with pc := pc }) s

/-- A worker calls `dispatch`. -/
def enter (bson : Envelope) (s : WsDbServer) : WsDbServer :=
  { s with calls := s.calls + 1, call := Function.update s.call s.calls { bson := bson } }

lemma call_enter_self (bson : Envelope) (s : WsDbServer) :
    (s.enter bson).call s.calls = { bson := bson } := Function.update_self _ _ _

lemma call_enter_of_lt {i : ℕ} {s : WsDbServer} (h : i < s.calls) (bson : Envelope) :
    (s.enter bson).call i = s.call i := Function.update_of_ne h.ne _ _

end WsDbServer

/-- A step of one of the threads. -/
inductive ServerInput where
  | agentConnects
  | enter (bson : Envelope)
  | dispatch (call : ℕ) (ok : Bool)
  | svc (ok : Bool) (received : Received)
  deriving DecidableEq, Repr

namespace WsDbServer

def step (s : WsDbServer) : ServerInput → WsDbServer
  | .agentConnects   => s.onAgentConnected
  | .enter bson      => s.enter bson
  | .dispatch i ok   => if i < s.calls then s.dispatchStep i ok else s
  | .svc ok received => s.svcStep ok received

def init (innerTlsConfigured : Bool) : WsDbServer := { innerTlsConfigured := innerTlsConfigured }

def run (s : WsDbServer) (is : List ServerInput) : WsDbServer := is.foldl step s

/-- An agent connects and its TLS session is established. -/
def established : List ServerInput := .agentConnects :: List.replicate 5 (.svc true .nothing)

/-- A request. -/
def nextAwbnoRequest : BsonDocument := buildRequest 0 .nextAwbno [] [] [] [] [65]

end WsDbServer
