import OnPremPbx.Http.Parser
import OnPremPbx.Transition.Run

/-!
# The web server

The reactor thread of `WebServer` accepts connections, reads from them and cuts their requests
apart; each request goes to the next worker as a `WorkCtx` with the number of the descriptor it came
in on, and the worker writes the response to that descriptor. The operating system gives a number
that was closed to whatever is opened next.

Connections have an identity here, and requests a number on their connection. The code has neither:
they are there to say which connection a write is to, and no function reads them.
-/

/-- What a worker is given. -/
structure WorkCtx where
  handle : ℕ
  request : Bytes
  /-- the connection that the request was received on, and its number there -/
  conn : ℕ
  number : ℕ
  deriving DecidableEq, Repr

/-- An entry of the connection pool. -/
structure WebConnection where
  recvBuf : Bytes := []
  conn : ℕ
  received : ℕ := 0
  deriving DecidableEq, Repr

/-- What a worker does. -/
inductive Work where
  | idle
  /-- in `process_request`, before its call of `http_send` -/
  | processing (ctx : WorkCtx)
  /-- in the loop of `http_send`, with the bytes that are left -/
  | sending (ctx : WorkCtx) (rest : Bytes)
  deriving DecidableEq, Repr

/-- A worker with its message queue. -/
structure MicroService where
  queue : List WorkCtx := []
  work : Work := .idle
  deriving DecidableEq, Repr

/-- Bytes that `send` took. -/
structure Write where
  /-- the connection that the descriptor is open on -/
  conn : ℕ
  ctx : WorkCtx
  bytes : Bytes
  deriving DecidableEq, Repr

structure WebServer where
  /-- what each descriptor is open on -/
  sockets : ℕ → Option ℕ := fun _ => none
  /-- how many connections were opened -/
  opened : ℕ := 0
  connectionPool : ℕ → Option WebConnection := fun _ => none
  workerPool : List MicroService
  /-- none for the end of the pool -/
  current : Option ℕ := none
  /-- the descriptor whose `handle_input` the reactor is in -/
  reactor : Option ℕ := none
  writes : List Write := []

/-- What becomes of a request that `handle_input` cut off. -/
inductive Upgrade where
  /-- no upgrade: the request is for a worker -/
  | none
  /-- the descriptor is given to another stream, after what `send_n` sends of the response -/
  | handedOff (rsp : Bytes)
  /-- the response is sent and `handle_input` returns -1, so the reactor calls `handle_close` -/
  | refused (rsp : Bytes)
  deriving DecidableEq, Repr

inductive WebInput where
  /-- a client connects, and the system gives the descriptor -/
  | accept (fd : ℕ)
  /-- another part of the process opens a descriptor -/
  | opens (fd : ℕ)
  /-- and closes one -/
  | closes (fd : ℕ)
  /-- `recv` has bytes, or none where the peer has closed -/
  | recv (fd : ℕ) (bytes : Bytes)
  /-- an iteration of the loop of `handle_input` -/
  | next (upgrade : Upgrade)
  /-- a worker takes the first request of its queue -/
  | takes (i : ℕ)
  /-- it has made the response -/
  | responds (i : ℕ) (rsp : Bytes)
  /-- `send` takes some bytes -/
  | sends (i n : ℕ)
  /-- `send` fails -/
  | fails (i : ℕ)
  deriving DecidableEq, Repr

namespace WebServer

/-! ### The reactor -/

/-- Whether the descriptor is the one of an entry of the pool, and open on its connection. -/
def owns (s : WebServer) (fd : ℕ) : Bool :=
  match s.connectionPool fd with
  | none      => false
  | some conn => s.sockets fd == some conn.conn

/-- A descriptor is opened on something new. -/
def opens (s : WebServer) (fd : ℕ) : WebServer :=
  { s with sockets := Function.update s.sockets fd (some s.opened)
           opened := s.opened + 1 }

/-- `::close`. -/
def closes (s : WebServer) (fd : ℕ) : WebServer :=
  { s with sockets := Function.update s.sockets fd none }

/-- An entry of the pool is put in, or erased. -/
def setPool (s : WebServer) (fd : ℕ) (conn : Option WebConnection) : WebServer :=
  { s with connectionPool := Function.update s.connectionPool fd conn }

@[simp] lemma sockets_opens (s : WebServer) (fd : ℕ) :
    (s.opens fd).sockets = Function.update s.sockets fd (some s.opened) := rfl

@[simp] lemma sockets_closes (s : WebServer) (fd : ℕ) :
    (s.closes fd).sockets = Function.update s.sockets fd none := rfl

@[simp] lemma connectionPool_setPool (s : WebServer) (fd : ℕ) (conn : Option WebConnection) :
    (s.setPool fd conn).connectionPool = Function.update s.connectionPool fd conn := rfl

def setWorker (s : WebServer) (i : ℕ) (worker : MicroService) : WebServer :=
  { s with workerPool := s.workerPool.set i worker }

/-- `WebServer::handle_input`. An entry of the pool with the descriptor is stale: its handler is
registered no more. -/
def accept (s : WebServer) (fd : ℕ) : WebServer :=
  (s.opens fd).setPool fd (some { conn := s.opened })

/-- The begin of `WebConnection::handle_input`. -/
def recv (s : WebServer) (fd : ℕ) (bytes : Bytes) (conn : WebConnection) : WebServer :=
  -- the destructor of the entry removes the handler, which closes the descriptor
  if bytes = [] then (s.setPool fd none).closes fd
  else
    { s.setPool fd (some { conn with recvBuf := conn.recvBuf ++ bytes }) with reactor := some fd }

/-- `currentWorker`, in a pool that is not empty. -/
def nextWorker (s : WebServer) : ℕ :=
  match s.current with
  | none   => 0
  | some i => if i + 1 = s.workerPool.length then 0 else i + 1

/-- The request is put into the queue of the next worker, if there is one. -/
def dispatch (s : WebServer) (ctx : WorkCtx) : WebServer :=
  match s.workerPool[s.nextWorker]? with
  | none        => s
  | some worker =>
    { s.setWorker s.nextWorker { worker with queue := worker.queue ++ [ctx] } with
      current := some s.nextWorker }

/-- There is no whole request in the buffer. -/
def Incomplete (buf : Bytes) : Prop :=
  buf = [] ∨ Http.messageLength buf = 0 ∨ buf.length < Http.messageLength buf

instance (buf : Bytes) : Decidable (Incomplete buf) := inferInstanceAs (Decidable (_ ∨ _ ∨ _))

/-- The first request of the buffer of a connection. -/
def workCtx (fd : ℕ) (conn : WebConnection) : WorkCtx where
  handle := fd
  request := conn.recvBuf.take (Http.messageLength conn.recvBuf)
  conn := conn.conn
  number := conn.received

/-- The connection without it. -/
def cutRequest (conn : WebConnection) : WebConnection :=
  { conn with recvBuf := conn.recvBuf.drop (Http.messageLength conn.recvBuf)
              received := conn.received + 1 }

/-- The reactor answers the request itself. -/
def answer (s : WebServer) (ctx : WorkCtx) (rsp : Bytes) : WebServer :=
  match s.sockets ctx.handle with
  | none      => s
  | some conn => { s with writes := s.writes ++ [⟨conn, ctx, rsp⟩] }

/-- An iteration of the loop of `WebConnection::handle_input`. -/
def next (s : WebServer) (fd : ℕ) (conn : WebConnection) (upgrade : Upgrade) : WebServer :=
  if Incomplete conn.recvBuf then { s with reactor := none }
  else
    let ctx := workCtx fd conn
    let s := s.setPool fd (some (cutRequest conn))
    match upgrade with
    | .none          => s.dispatch ctx
    | .handedOff rsp => { (s.answer ctx rsp).setPool fd none with reactor := none }
    -- the entry stays in the pool
    | .refused rsp   => { (s.answer ctx rsp).closes fd with reactor := none }

/-! ### The workers -/

/-- The bytes that `http_send` sends: their number is a signed one of 32 bits. -/
def sendable (rsp : Bytes) : Bytes := rsp.take (BitVec.ofNat 32 rsp.length).toInt.toNat

/-- The loop of `http_send` with the bytes that are left. -/
def sending (ctx : WorkCtx) (rest : Bytes) : Work := if rest = [] then .idle else .sending ctx rest

/-- `svc` takes the first request of the queue. -/
def takes (s : WebServer) (i : ℕ) : WebServer :=
  match s.workerPool[i]? with
  | some ⟨ctx :: queue, .idle⟩ => s.setWorker i ⟨queue, .processing ctx⟩
  | _                          => s

/-- `process_request` has the response and calls `http_send`. -/
def responds (s : WebServer) (i : ℕ) (rsp : Bytes) : WebServer :=
  match s.workerPool[i]? with
  | some ⟨queue, .processing ctx⟩ => s.setWorker i ⟨queue, sending ctx (sendable rsp)⟩
  | _                             => s

/-- `::send` takes `n` bytes, or what is left. -/
def sends (s : WebServer) (i n : ℕ) : WebServer :=
  match s.workerPool[i]? with
  | some ⟨queue, .sending ctx rest⟩ =>
    match s.sockets ctx.handle with
    | none      => s
    | some conn =>
      { s.setWorker i ⟨queue, sending ctx (rest.drop n)⟩ with
        writes := s.writes ++ [⟨conn, ctx, rest.take n⟩] }
  | _                               => s

/-- `::send` fails. -/
def fails (s : WebServer) (i : ℕ) : WebServer :=
  match s.workerPool[i]? with
  | some ⟨queue, .sending _ _⟩ => s.setWorker i ⟨queue, .idle⟩
  | _                          => s

/-! ### Steps -/

/-- The reactor calls a handler only when it is in none, the system gives only a descriptor that is
not open, and only the pool closes the descriptors of its entries. -/
def step (s : WebServer) : WebInput → WebServer
  | .accept fd     => if s.reactor = none ∧ s.sockets fd = none then s.accept fd else s
  | .opens fd      => if s.sockets fd = none then s.opens fd else s
  | .closes fd     => if s.owns fd then s else s.closes fd
  | .recv fd bytes =>
    match s.connectionPool fd with
    | none      => s
    | some conn => if s.reactor = none ∧ s.owns fd then s.recv fd bytes conn else s
  | .next upgrade  =>
    match s.reactor with
    | none    => s
    | some fd =>
      match s.connectionPool fd with
      | none      => s
      | some conn => s.next fd conn upgrade
  | .takes i        => s.takes i
  | .responds i rsp => s.responds i rsp
  | .sends i n      => s.sends i n
  | .fails i        => s.fails i

/-- A server with a number of workers. -/
def init (workers : ℕ) : WebServer := { workerPool := List.replicate workers {} }

def run (workers : ℕ) (is : List WebInput) : WebServer := is.foldl step (init workers)

/-! ### What a step does -/

end WebServer

def Work.contexts : Work → List WorkCtx
  | .idle           => []
  | .processing ctx => [ctx]
  | .sending ctx _  => [ctx]

/-- The requests that a worker has and has not done, in the order in which it does them. -/
def MicroService.contexts (worker : MicroService) : List WorkCtx :=
  worker.work.contexts ++ worker.queue

namespace WebServer

variable {s t : WebServer}

def contexts (s : WebServer) (i : ℕ) : List WorkCtx :=
  (s.workerPool[i]?.map MicroService.contexts).getD []

lemma contexts_of_getElem? {i : ℕ} {worker : MicroService} (h : s.workerPool[i]? = some worker) :
    s.contexts i = worker.contexts := by rw [contexts, h]; rfl

lemma contexts_setWorker {i : ℕ} {worker : MicroService} (h : s.workerPool[i]? = some worker)
    (worker' : MicroService) :
    (s.setWorker i worker').contexts = Function.update s.contexts i worker'.contexts := by
  funext j
  rcases eq_or_ne j i with rfl | hne
  · rw [Function.update_self]
    refine contexts_of_getElem? ?_
    exact List.getElem?_set_self (List.getElem?_eq_some_iff.mp h).1
  · rw [Function.update_of_ne hne, contexts, contexts, setWorker]
    dsimp only
    rw [List.getElem?_set_ne hne.symm]

/-- What a worker does changes its requests and the writes only: it drops the first of its requests
at most, and writes for that one at most. -/
structure Works (s t : WebServer) : Prop where
  sockets : t.sockets = s.sockets
  opened : t.opened = s.opened
  connectionPool : t.connectionPool = s.connectionPool
  reactor : t.reactor = s.reactor
  contexts : ∀ i, t.contexts i <:+ s.contexts i
  writes : t.writes = s.writes ∨ ∃ i ctx conn bytes, (s.contexts i).head? = some ctx ∧
    s.sockets ctx.handle = some conn ∧ t.writes = s.writes ++ [⟨conn, ctx, bytes⟩]

lemma Works.refl (s : WebServer) : Works s s :=
  ⟨rfl, rfl, rfl, rfl, fun _ => List.suffix_refl _, .inl rfl⟩

/-- A worker with the first of its requests dropped, or with the same ones. -/
lemma Works.setWorker {i : ℕ} {worker worker' : MicroService}
    (h : s.workerPool[i]? = some worker) (hsuffix : worker'.contexts <:+ worker.contexts) :
    Works s (s.setWorker i worker') := by
  refine ⟨rfl, rfl, rfl, rfl, fun j => ?_, .inl rfl⟩
  rw [contexts_setWorker h]
  rcases eq_or_ne j i with rfl | hne
  · rw [Function.update_self, contexts_of_getElem? h]
    exact hsuffix
  · rw [Function.update_of_ne hne]

lemma sending_suffix (ctx : WorkCtx) (rest : Bytes) (queue : List WorkCtx) :
    MicroService.contexts ⟨queue, sending ctx rest⟩ <:+ ctx :: queue := by
  rw [sending]
  split_ifs
  · exact List.suffix_cons _ _
  · exact List.suffix_refl _

lemma works_takes (s : WebServer) (i : ℕ) : Works s (s.takes i) := by
  unfold takes
  split
  · rename_i ctx queue h
    exact .setWorker h (List.suffix_refl _)
  · exact .refl s

lemma works_responds (s : WebServer) (i : ℕ) (rsp : Bytes) : Works s (s.responds i rsp) := by
  unfold responds
  split
  · rename_i queue ctx h
    exact .setWorker h (sending_suffix ctx _ queue)
  · exact .refl s

lemma works_fails (s : WebServer) (i : ℕ) : Works s (s.fails i) := by
  unfold fails
  split
  · rename_i queue ctx rest h
    exact .setWorker h (List.suffix_cons _ _)
  · exact .refl s

/-- The bytes are written for the first request of the worker, to what its descriptor is open on. -/
lemma works_sends (s : WebServer) (i n : ℕ) : Works s (s.sends i n) := by
  unfold sends
  split
  · rename_i queue ctx rest h
    split
    · exact .refl s
    · rename_i conn hconn
      have hworks : Works s (s.setWorker i ⟨queue, sending ctx (rest.drop n)⟩) :=
        .setWorker h (sending_suffix ctx _ queue)
      refine ⟨rfl, rfl, rfl, rfl, hworks.contexts, .inr ⟨i, ctx, conn, rest.take n, ?_, hconn, rfl⟩⟩
      rw [contexts_of_getElem? h]
      rfl
  · exact .refl s

/-- A request is put at the end of the queue of the next worker, if there is one. -/
lemma dispatch_cases (s : WebServer) (ctx : WorkCtx) :
    s.dispatch ctx = s ∨
      (s.dispatch ctx).contexts =
          Function.update s.contexts s.nextWorker (s.contexts s.nextWorker ++ [ctx]) ∧
        (s.dispatch ctx).sockets = s.sockets ∧ (s.dispatch ctx).opened = s.opened ∧
        (s.dispatch ctx).connectionPool = s.connectionPool ∧
        (s.dispatch ctx).reactor = s.reactor ∧ (s.dispatch ctx).writes = s.writes := by
  rw [dispatch]
  cases h : s.workerPool[s.nextWorker]? with
  | none => exact .inl rfl
  | some worker =>
    refine .inr ⟨?_, rfl, rfl, rfl, rfl, rfl⟩
    have hset := contexts_setWorker h { worker with queue := worker.queue ++ [ctx] }
    rw [contexts_of_getElem? h]
    refine hset.trans ?_
    rw [MicroService.contexts, MicroService.contexts, List.append_assoc]

end WebServer
