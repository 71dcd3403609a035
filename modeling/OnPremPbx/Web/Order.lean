import OnPremPbx.Web.Responses

/-!
# The order of responses

A worker does its requests in the order in which they were put into its queue, one after the other.
The responses of a connection are in the order of its requests as long as one worker at a time has
requests of it.
-/

namespace WebServer

variable {s : WebServer}

/-- A request is given to a worker only while no other one has requests of its connection, and
answered by the reactor only while none has. -/
def OneWorker (s : WebServer) : WebInput → Prop
  | .next upgrade =>
    ∀ fd ∈ s.reactor, ∀ conn ∈ s.connectionPool fd, ¬ Incomplete conn.recvBuf →
      ∀ i < s.workerPool.length, (upgrade = .none → i ≠ s.nextWorker) →
        ∀ ctx ∈ s.contexts i, ctx.conn ≠ conn.conn
  | _ => True

instance (s : WebServer) (input : WebInput) : Decidable (s.OneWorker input) := by
  unfold OneWorker
  split <;> infer_instance

/-- One request comes before the other, where they are of one connection. -/
def Before (a b : WorkCtx) : Prop := a.conn = b.conn → a.number < b.number

/-- What was written for one request comes before what is written for the other. -/
def InOrder (v w : Write) : Prop := v.ctx.conn = w.ctx.conn → v.ctx.number ≤ w.ctx.number

instance (v w : Write) : Decidable (InOrder v w) := inferInstanceAs (Decidable (_ → _))

/-- The request was received: its connection has been opened, and has counted it if it is in the
pool still. -/
structure Received (s : WebServer) (ctx : WorkCtx) : Prop where
  opened : ctx.conn < s.opened
  number : ∀ fd conn, s.connectionPool fd = some conn → ctx.conn = conn.conn →
    ctx.number < conn.received

structure Ordered (s : WebServer) : Prop where
  opened : ∀ fd conn, s.connectionPool fd = some conn → conn.conn < s.opened
  distinct : ∀ fd fd' conn conn', s.connectionPool fd = some conn →
    s.connectionPool fd' = some conn' → conn.conn = conn'.conn → fd = fd'
  waiting : ∀ i, ∀ ctx ∈ s.contexts i, s.Received ctx
  written : ∀ w ∈ s.writes, s.Received w.ctx
  queues : ∀ i, (s.contexts i).Pairwise Before
  apart : ∀ i j, i ≠ j → ∀ a ∈ s.contexts i, ∀ b ∈ s.contexts j, a.conn ≠ b.conn
  before : ∀ w ∈ s.writes, ∀ i, ∀ ctx ∈ s.contexts i, w.ctx.conn = ctx.conn →
    w.ctx.number ≤ ctx.number
  writes : s.writes.Pairwise InOrder

/-- Only the pool and the number of connections matter for the requests that were received. -/
lemma Received.mono {t : WebServer} {ctx : WorkCtx} (h : s.Received ctx)
    (hopened : s.opened ≤ t.opened)
    (hpool : ∀ fd conn, t.connectionPool fd = some conn → conn.conn < s.opened →
      ∃ fd' conn', s.connectionPool fd' = some conn' ∧ conn'.conn = conn.conn ∧
        conn'.received ≤ conn.received) : t.Received ctx := by
  refine ⟨lt_of_lt_of_le h.opened hopened, fun fd conn hconn heq => ?_⟩
  obtain ⟨fd', conn', hconn', heq', hle⟩ := hpool fd conn hconn (heq ▸ h.opened)
  exact lt_of_lt_of_le (h.number fd' conn' hconn' (heq.trans heq'.symm)) hle

namespace Ordered

/-- A step that leaves the requests and the writes as they are. -/
lemma frame {t : WebServer} (hs : s.Ordered) (hcontexts : t.contexts = s.contexts)
    (hwrites : t.writes = s.writes) (hopened : s.opened ≤ t.opened)
    (hpool : ∀ fd conn, t.connectionPool fd = some conn → conn.conn < s.opened →
      ∃ fd' conn', s.connectionPool fd' = some conn' ∧ conn'.conn = conn.conn ∧
        conn'.received ≤ conn.received)
    (hbound : ∀ fd conn, t.connectionPool fd = some conn → conn.conn < t.opened)
    (hdistinct : ∀ fd fd' conn conn', t.connectionPool fd = some conn →
      t.connectionPool fd' = some conn' → conn.conn = conn'.conn → fd = fd') : t.Ordered where
  opened := hbound
  distinct := hdistinct
  waiting i ctx hctx := by
    rw [hcontexts] at hctx
    exact (hs.waiting i ctx hctx).mono hopened hpool
  written w hw := by
    rw [hwrites] at hw
    exact (hs.written w hw).mono hopened hpool
  queues := by rw [hcontexts]; exact hs.queues
  apart := by rw [hcontexts]; exact hs.apart
  before := by rw [hcontexts, hwrites]; exact hs.before
  writes := by rw [hwrites]; exact hs.writes

lemma setSockets (hs : s.Ordered) {sockets : ℕ → Option ℕ} {reactor : Option ℕ} {opened : ℕ}
    (hopened : s.opened ≤ opened) : Ordered { s with sockets, reactor, opened } :=
  hs.frame rfl rfl hopened (fun fd conn hconn _ => ⟨fd, conn, hconn, rfl, le_rfl⟩)
    (fun fd conn hconn => lt_of_lt_of_le (hs.opened fd conn hconn) hopened) hs.distinct

/-- An entry is taken out of the pool, or another one is put in for the same connection. -/
lemma setPool (hs : s.Ordered) {fd : ℕ} {entry : Option WebConnection}
    (h : ∀ conn, entry = some conn → ∃ conn₀, s.connectionPool fd = some conn₀ ∧
      conn₀.conn = conn.conn ∧ conn₀.received ≤ conn.received) : (s.setPool fd entry).Ordered := by
  have hpool : ∀ fd' conn, (s.setPool fd entry).connectionPool fd' = some conn →
      ∃ conn', s.connectionPool fd' = some conn' ∧ conn'.conn = conn.conn ∧
        conn'.received ≤ conn.received := by
    intro fd' conn hconn
    rw [connectionPool_setPool] at hconn
    rcases eq_or_ne fd' fd with rfl | hne
    · rw [Function.update_self] at hconn
      exact h conn hconn
    · rw [Function.update_of_ne hne] at hconn
      exact ⟨conn, hconn, rfl, le_rfl⟩
  refine hs.frame rfl rfl le_rfl (fun fd' conn hconn _ => ⟨fd', hpool fd' conn hconn⟩) ?_ ?_
  · intro fd' conn hconn
    obtain ⟨conn', hconn', heq, -⟩ := hpool fd' conn hconn
    rw [← heq]
    exact hs.opened fd' conn' hconn'
  · intro fd₁ fd₂ conn₁ conn₂ h₁ h₂ heq
    obtain ⟨conn₁', h₁', heq₁, -⟩ := hpool fd₁ conn₁ h₁
    obtain ⟨conn₂', h₂', heq₂, -⟩ := hpool fd₂ conn₂ h₂
    exact hs.distinct fd₁ fd₂ conn₁' conn₂' h₁' h₂' (heq₁.trans (heq.trans heq₂.symm))

/-- The entry of a new connection. -/
lemma accept (hs : s.Ordered) (fd : ℕ) : (s.accept fd).Ordered := by
  have hpool : ∀ fd' conn, (s.accept fd).connectionPool fd' = some conn →
      fd' = fd ∧ conn.conn = s.opened ∨ s.connectionPool fd' = some conn := by
    intro fd' conn hconn
    rw [WebServer.accept, connectionPool_setPool] at hconn
    rcases eq_or_ne fd' fd with rfl | hne
    · rw [Function.update_self] at hconn
      cases hconn
      exact .inl ⟨rfl, rfl⟩
    · rw [Function.update_of_ne hne] at hconn
      exact .inr hconn
  refine hs.frame rfl rfl (Nat.le_succ _) ?_ ?_ ?_
  · intro fd' conn hconn hlt
    rcases hpool fd' conn hconn with ⟨-, heq⟩ | hconn
    · exact absurd heq (Nat.ne_of_lt hlt)
    · exact ⟨fd', conn, hconn, rfl, le_rfl⟩
  · intro fd' conn hconn
    rcases hpool fd' conn hconn with ⟨-, heq⟩ | hconn
    · rw [heq]
      exact Nat.lt_succ_self _
    · exact Nat.lt_succ_of_lt (hs.opened fd' conn hconn)
  · intro fd₁ fd₂ conn₁ conn₂ h₁ h₂ heq
    rcases hpool fd₁ conn₁ h₁ with ⟨hfd₁, heq₁⟩ | hold₁ <;>
      rcases hpool fd₂ conn₂ h₂ with ⟨hfd₂, heq₂⟩ | hold₂
    · rw [hfd₁, hfd₂]
    · exact absurd (heq.symm.trans heq₁) (Nat.ne_of_lt (hs.opened fd₂ conn₂ hold₂))
    · exact absurd (heq.trans heq₂) (Nat.ne_of_lt (hs.opened fd₁ conn₁ hold₁))
    · exact hs.distinct fd₁ fd₂ conn₁ conn₂ hold₁ hold₂ heq

/-- A worker writes for the first of its requests. No other worker has requests of the connection,
and its own are later ones. -/
lemma write (hs : s.Ordered) {i : ℕ} {ctx : WorkCtx} (hhead : (s.contexts i).head? = some ctx)
    (conn : ℕ) (bytes : Bytes) : Ordered { s with writes := s.writes ++ [⟨conn, ctx, bytes⟩] } := by
  have hmem : ctx ∈ s.contexts i := List.mem_of_mem_head? hhead
  refine ⟨hs.opened, hs.distinct, fun j ctx' hctx => ?_, ?_, hs.queues, hs.apart, ?_, ?_⟩
  · exact ⟨(hs.waiting j ctx' hctx).opened, (hs.waiting j ctx' hctx).number⟩
  · intro w hw
    rcases List.mem_append.mp hw with hw | hw
    · exact ⟨(hs.written w hw).opened, (hs.written w hw).number⟩
    · rw [List.mem_singleton.mp hw]
      exact ⟨(hs.waiting i ctx hmem).opened, (hs.waiting i ctx hmem).number⟩
  · intro w hw j ctx' hctx heq
    rcases List.mem_append.mp hw with hw | hw
    · exact hs.before w hw j ctx' hctx heq
    · rw [List.mem_singleton.mp hw] at heq ⊢
      rcases eq_or_ne i j with rfl | hne
      · obtain ⟨rest, hrest⟩ := List.head?_eq_some_iff.mp hhead
        have hqueue := hs.queues i
        change ctx' ∈ s.contexts i at hctx
        rw [hrest] at hqueue hctx
        rcases List.mem_cons.mp hctx with rfl | hctx
        · exact le_rfl
        · exact ((List.pairwise_cons.mp hqueue).1 ctx' hctx heq).le
      · exact absurd heq (hs.apart i j hne ctx hmem ctx' hctx)
  · refine List.pairwise_append.mpr ⟨hs.writes, List.pairwise_singleton _ _, ?_⟩
    intro v hv w hw heq
    rw [List.mem_singleton.mp hw] at heq ⊢
    exact hs.before v hv i ctx hmem heq

/-- Requests that a worker has done are no longer waiting. -/
lemma shrink {t : WebServer} (hs : s.Ordered) (hopened : t.opened = s.opened)
    (hpool : t.connectionPool = s.connectionPool) (hwrites : t.writes = s.writes)
    (hcontexts : ∀ i, t.contexts i <:+ s.contexts i) : t.Ordered := by
  have hsub : ∀ i, ∀ ctx ∈ t.contexts i, ctx ∈ s.contexts i := fun i ctx hctx =>
    (hcontexts i).subset hctx
  have hreceived : ∀ ctx, s.Received ctx → t.Received ctx := by
    intro ctx hctx
    refine hctx.mono hopened.ge fun fd conn hconn _ => ?_
    rw [hpool] at hconn
    exact ⟨fd, conn, hconn, rfl, le_rfl⟩
  constructor
  · rw [hpool, hopened]
    exact hs.opened
  · rw [hpool]
    exact hs.distinct
  · exact fun i ctx hctx => hreceived ctx (hs.waiting i ctx (hsub i ctx hctx))
  · rw [hwrites]
    exact fun w hw => hreceived w.ctx (hs.written w hw)
  · exact fun i => (hs.queues i).sublist (hcontexts i).sublist
  · exact fun i j hne a ha b hb => hs.apart i j hne a (hsub i a ha) b (hsub j b hb)
  · rw [hwrites]
    exact fun w hw i ctx hctx => hs.before w hw i ctx (hsub i ctx hctx)
  · rw [hwrites]
    exact hs.writes

lemma works {t : WebServer} (hs : s.Ordered) (h : Works s t) : t.Ordered := by
  have hwrites : Ordered { s with writes := t.writes } := by
    rcases h.writes with heq | ⟨i, ctx, conn, bytes, hhead, -, heq⟩
    · rw [heq]
      exact hs
    · rw [heq]
      exact hs.write hhead conn bytes
  exact hwrites.shrink h.opened h.connectionPool rfl h.contexts

/-- The request is the latest of its connection, and the worker that gets it is the only one with
requests of the connection. -/
lemma dispatch (hs : s.Ordered) {ctx : WorkCtx} (hreceived : s.Received ctx)
    (hlater : ∀ i, ∀ ctx' ∈ s.contexts i, ctx'.conn = ctx.conn → ctx'.number < ctx.number)
    (hwritten : ∀ w ∈ s.writes, w.ctx.conn = ctx.conn → w.ctx.number < ctx.number)
    (hone : ∀ i, i ≠ s.nextWorker → ∀ ctx' ∈ s.contexts i, ctx'.conn ≠ ctx.conn) :
    (s.dispatch ctx).Ordered := by
  rcases s.dispatch_cases ctx with heq | ⟨hcontexts, -, hopened, hpool, -, hwrites⟩
  · rw [heq]
    exact hs
  · have hmem : ∀ i, ∀ ctx' ∈ (s.dispatch ctx).contexts i,
        ctx' ∈ s.contexts i ∨ i = s.nextWorker ∧ ctx' = ctx := by
      intro i ctx' hctx
      rw [hcontexts] at hctx
      rcases eq_or_ne i s.nextWorker with rfl | hne
      · rw [Function.update_self] at hctx
        rcases List.mem_append.mp hctx with hctx | hctx
        · exact .inl hctx
        · exact .inr ⟨rfl, List.mem_singleton.mp hctx⟩
      · rw [Function.update_of_ne hne] at hctx
        exact .inl hctx
    have hkeep : ∀ ctx', s.Received ctx' → (s.dispatch ctx).Received ctx' := by
      intro ctx' h
      refine h.mono hopened.ge fun fd conn hconn _ => ?_
      rw [hpool] at hconn
      exact ⟨fd, conn, hconn, rfl, le_rfl⟩
    constructor
    · rw [hpool, hopened]
      exact hs.opened
    · rw [hpool]
      exact hs.distinct
    · intro i ctx' hctx
      rcases hmem i ctx' hctx with hctx | ⟨-, rfl⟩
      · exact hkeep ctx' (hs.waiting i ctx' hctx)
      · exact hkeep ctx' hreceived
    · rw [hwrites]
      exact fun w hw => hkeep w.ctx (hs.written w hw)
    · intro i
      rw [hcontexts]
      rcases eq_or_ne i s.nextWorker with rfl | hne
      · rw [Function.update_self]
        refine List.pairwise_append.mpr ⟨hs.queues _, List.pairwise_singleton _ _, ?_⟩
        intro a ha b hb heq
        rw [List.mem_singleton.mp hb] at heq ⊢
        exact hlater _ a ha heq
      · rw [Function.update_of_ne hne]
        exact hs.queues i
    · intro i j hne a ha b hb
      rcases hmem i a ha with ha' | ⟨hi, ha'⟩ <;> rcases hmem j b hb with hb' | ⟨hj, hb'⟩
      · exact hs.apart i j hne a ha' b hb'
      · rw [hb']
        exact hone i (hj ▸ hne) a ha'
      · rw [ha']
        exact (hone j (hi ▸ hne.symm) b hb').symm
      · exact absurd (hi.trans hj.symm) hne
    · rw [hwrites]
      intro w hw i ctx' hctx heq
      rcases hmem i ctx' hctx with hctx | ⟨-, rfl⟩
      · exact hs.before w hw i ctx' hctx heq
      · exact (hwritten w hw heq).le
    · rw [hwrites]
      exact hs.writes

/-- The reactor answers a request while no worker has requests of its connection. -/
lemma answer (hs : s.Ordered) {ctx : WorkCtx} (hreceived : s.Received ctx)
    (hwritten : ∀ w ∈ s.writes, w.ctx.conn = ctx.conn → w.ctx.number < ctx.number)
    (hone : ∀ i, ∀ ctx' ∈ s.contexts i, ctx'.conn ≠ ctx.conn) (rsp : Bytes) :
    (s.answer ctx rsp).Ordered := by
  rw [WebServer.answer]
  split
  · exact hs
  · refine ⟨hs.opened, hs.distinct, fun i ctx' hctx => ?_, ?_, hs.queues, hs.apart, ?_, ?_⟩
    · exact ⟨(hs.waiting i ctx' hctx).opened, (hs.waiting i ctx' hctx).number⟩
    · intro w hw
      rcases List.mem_append.mp hw with hw | hw
      · exact ⟨(hs.written w hw).opened, (hs.written w hw).number⟩
      · rw [List.mem_singleton.mp hw]
        exact ⟨hreceived.opened, hreceived.number⟩
    · intro w hw i ctx' hctx heq
      rcases List.mem_append.mp hw with hw | hw
      · exact hs.before w hw i ctx' hctx heq
      · rw [List.mem_singleton.mp hw] at heq
        exact absurd heq.symm (hone i ctx' hctx)
    · refine List.pairwise_append.mpr ⟨hs.writes, List.pairwise_singleton _ _, ?_⟩
      intro v hv w hw heq
      rw [List.mem_singleton.mp hw] at heq ⊢
      exact (hwritten v hv heq).le

lemma next (hs : s.Ordered) {fd : ℕ} {conn : WebConnection} {upgrade : Upgrade}
    (hreactor : s.reactor = some fd) (hpool : s.connectionPool fd = some conn)
    (hok : s.OneWorker (.next upgrade)) : (s.next fd conn upgrade).Ordered := by
  unfold WebServer.next
  split_ifs with hincomplete
  · exact hs.setSockets le_rfl
  · have hcut : (s.setPool fd (some (cutRequest conn))).Ordered :=
      hs.setPool fun conn' hconn' => ⟨conn, hpool, by cases hconn'; rfl,
        by cases hconn'; exact Nat.le_succ _⟩
    have hreceived : (s.setPool fd (some (cutRequest conn))).Received (workCtx fd conn) := by
      refine ⟨hs.opened fd conn hpool, fun fd' conn' hconn' heq => ?_⟩
      -- no other entry is of this connection, and this one has counted the request
      have hself : (s.setPool fd (some (cutRequest conn))).connectionPool fd =
          some (cutRequest conn) := Function.update_self _ _ _
      have hfd := hcut.distinct fd fd' _ _ hself hconn' heq
      rw [← hfd, hself] at hconn'
      cases hconn'
      exact Nat.lt_succ_self _
    have hwritten : ∀ w ∈ s.writes, w.ctx.conn = conn.conn → w.ctx.number < conn.received :=
      fun w hw heq => (hs.written w hw).number fd conn hpool heq
    have hone : ∀ i, (upgrade = .none → i ≠ s.nextWorker) → ∀ ctx ∈ s.contexts i,
        ctx.conn ≠ conn.conn := by
      intro i hi ctx hctx
      rcases lt_or_ge i s.workerPool.length with hlt | hge
      · exact hok fd hreactor conn hpool hincomplete i hlt hi ctx hctx
      · rw [contexts, List.getElem?_eq_none hge] at hctx
        exact absurd hctx List.not_mem_nil
    cases upgrade with
    | none =>
      refine hcut.dispatch hreceived ?_ hwritten fun i hne => hone i fun _ => hne
      exact fun i ctx hctx heq => (hs.waiting i ctx hctx).number fd conn hpool heq
    | handedOff rsp =>
      have hanswer := hcut.answer hreceived hwritten (fun i => hone i fun h => by cases h) rsp
      exact Ordered.setSockets (hanswer.setPool fun conn' hconn' => by cases hconn') le_rfl
    | refused rsp =>
      have hanswer := hcut.answer hreceived hwritten (fun i => hone i fun h => by cases h) rsp
      exact hanswer.setSockets le_rfl

/-- Every step that keeps the requests of a connection with one worker keeps the order. -/
lemma step {input : WebInput} (hok : s.OneWorker input) (hs : s.Ordered) :
    (s.step input).Ordered := by
  cases input with
  | accept fd =>
    rw [WebServer.step]
    split_ifs
    · exact hs.accept fd
    · exact hs
  | opens fd =>
    rw [WebServer.step]
    split_ifs
    · exact hs.setSockets (Nat.le_succ _)
    · exact hs
  | closes fd =>
    rw [WebServer.step]
    split_ifs
    · exact hs
    · exact hs.setSockets le_rfl
  | recv fd bytes =>
    rw [WebServer.step]
    cases hpool : s.connectionPool fd with
    | none => exact hs
    | some conn =>
      dsimp only
      split_ifs
      · rw [WebServer.recv]
        split_ifs
        · exact (hs.setPool fun conn' hconn' => by cases hconn').setSockets le_rfl
        · refine Ordered.setSockets (hs.setPool fun conn' hconn' => ?_) le_rfl
          cases hconn'
          exact ⟨conn, hpool, rfl, le_rfl⟩
      · exact hs
  | next upgrade =>
    rw [WebServer.step]
    cases hreactor : s.reactor with
    | none => exact hs
    | some fd =>
      dsimp only
      cases hpool : s.connectionPool fd with
      | none => exact hs
      | some conn => exact hs.next hreactor hpool hok
  | takes i => exact hs.works (s.works_takes i)
  | responds i rsp => exact hs.works (s.works_responds i rsp)
  | sends i n => exact hs.works (s.works_sends i n)
  | fails i => exact hs.works (s.works_fails i)

end Ordered

lemma ordered_init (workers : ℕ) : (init workers).Ordered := by
  constructor
  · exact fun _ _ h => by cases h
  · exact fun _ _ _ _ h => by cases h
  · intro i ctx hctx
    rw [contexts_init] at hctx
    exact absurd hctx List.not_mem_nil
  · exact fun w hw => absurd hw List.not_mem_nil
  · intro i
    rw [contexts_init]
    exact List.Pairwise.nil
  · intro i j _ a ha
    rw [contexts_init] at ha
    exact absurd ha List.not_mem_nil
  · exact fun w hw => absurd hw List.not_mem_nil
  · exact List.Pairwise.nil

/-- While one worker at a time has requests of a connection, the responses to its requests are
written in the order of the requests, and each is written to its end before the next one starts. -/
theorem responses_in_order (workers : ℕ) (is : List WebInput)
    (hok : Transition.Along step OneWorker (init workers) is) :
    (run workers is).writes.Pairwise InOrder := by
  have hrun : (run workers is).Ordered :=
    hok.invariant (fun _ _ hi hs => hs.step hi) (ordered_init workers)
  exact hrun.writes

/-- The second request is received when the first one is done. -/
theorem responses_in_order_two :
    (run 2 [.accept 5, .recv 5 getRequest, .next .none, .next .none, .takes 0, .responds 0 [1, 2],
      .sends 0 1, .sends 0 1, .recv 5 getRequest, .next .none, .takes 1, .responds 1 [3],
      .sends 1 1]).writes.length = 3 ∧
    (run 2 [.accept 5, .recv 5 getRequest, .next .none, .next .none, .takes 0, .responds 0 [1, 2],
      .sends 0 1, .sends 0 1, .recv 5 getRequest, .next .none, .takes 1, .responds 1 [3],
      .sends 1 1]).writes.Pairwise InOrder :=
  ⟨by decide +kernel, responses_in_order 2 _ (by decide +kernel)⟩

/-- Two requests in one call of `recv` go to two workers, and the second is faster. -/
theorem second_response_first : ¬ ∀ workers is, (run workers is).writes.Pairwise InOrder := by
  intro hclaim
  have h := hclaim 2 [.accept 5, .recv 5 (getRequest ++ getRequest), .next .none, .next .none,
    .takes 1, .responds 1 [2], .sends 1 1, .takes 0, .responds 0 [1], .sends 0 1]
  revert h
  decide +kernel

end WebServer
