import OnPremPbx.Web.WebServer

/-!
# The connection of a response

A response goes to the connection of its request as long as no descriptor is given away again while
a worker has a request with its number.
-/

namespace WebServer

variable {s : WebServer}

/-- A descriptor is given to something new only while no worker has a request with its number. -/
def NotReused (s : WebServer) : WebInput → Prop
  | .accept fd | .opens fd =>
    ∀ worker ∈ s.workerPool, ∀ ctx ∈ worker.contexts, ctx.handle ≠ fd
  | _ => True

instance (s : WebServer) (input : WebInput) : Decidable (s.NotReused input) := by
  unfold NotReused
  split <;> infer_instance

/-- The descriptor of a request is closed, or open on the connection of the request still. -/
structure Owned (s : WebServer) : Prop where
  handle : ∀ i, ∀ ctx ∈ s.contexts i, ∀ conn, s.sockets ctx.handle = some conn → conn = ctx.conn
  reactor : ∀ fd, s.reactor = some fd → s.owns fd
  writes : ∀ w ∈ s.writes, w.conn = w.ctx.conn

lemma mem_contexts {i : ℕ} {ctx : WorkCtx} (h : ctx ∈ s.contexts i) :
    ∃ worker ∈ s.workerPool, ctx ∈ worker.contexts := by
  rw [contexts] at h
  cases hworker : s.workerPool[i]? with
  | none =>
    rw [hworker] at h
    exact absurd h List.not_mem_nil
  | some worker =>
    rw [hworker] at h
    exact ⟨worker, List.mem_of_getElem? hworker, h⟩

lemma owns_iff {fd : ℕ} :
    s.owns fd ↔ ∃ conn, s.connectionPool fd = some conn ∧ s.sockets fd = some conn.conn := by
  rw [owns]
  cases s.connectionPool fd with
  | none => simp
  | some conn => simp

namespace Owned

lemma opens (hs : s.Owned) {fd : ℕ} (hfd : s.sockets fd = none)
    (hnew : ∀ worker ∈ s.workerPool, ∀ ctx ∈ worker.contexts, ctx.handle ≠ fd) :
    (s.opens fd).Owned := by
  constructor
  · intro i ctx hctx conn hconn
    obtain ⟨worker, hworker, hmem⟩ := mem_contexts hctx
    rw [sockets_opens, Function.update_of_ne (hnew worker hworker ctx hmem)] at hconn
    exact hs.handle i ctx hctx conn hconn
  · intro fd' hreactor
    obtain ⟨conn, hpool, hsocket⟩ := owns_iff.mp (hs.reactor fd' hreactor)
    refine owns_iff.mpr ⟨conn, hpool, ?_⟩
    have hne : fd' ≠ fd := by
      rintro rfl
      rw [hfd] at hsocket
      cases hsocket
    rw [sockets_opens, Function.update_of_ne hne, hsocket]
  · exact hs.writes

lemma closes (hs : s.Owned) {fd : ℕ} (hfd : ∀ fd', s.reactor = some fd' → fd' ≠ fd) :
    (s.closes fd).Owned := by
  constructor
  · intro i ctx hctx conn hconn
    rw [sockets_closes] at hconn
    rcases eq_or_ne ctx.handle fd with heq | hne
    · rw [heq, Function.update_self] at hconn
      cases hconn
    · rw [Function.update_of_ne hne] at hconn
      exact hs.handle i ctx hctx conn hconn
  · intro fd' hreactor
    obtain ⟨conn, hpool, hsocket⟩ := owns_iff.mp (hs.reactor fd' hreactor)
    refine owns_iff.mpr ⟨conn, hpool, ?_⟩
    rw [sockets_closes, Function.update_of_ne (hfd fd' hreactor), hsocket]
  · exact hs.writes

/-- The pool changes while the reactor is in no handler, or keeps the connection of the entry. -/
lemma setPool (hs : s.Owned) {fd : ℕ} {entry : Option WebConnection}
    (h : s.reactor = none ∨ ∃ conn conn', s.connectionPool fd = some conn ∧ entry = some conn' ∧
      conn'.conn = conn.conn) : (s.setPool fd entry).Owned := by
  refine ⟨hs.handle, ?_, hs.writes⟩
  intro fd' hreactor
  change s.reactor = some fd' at hreactor
  obtain ⟨conn, hpool, hsocket⟩ := owns_iff.mp (hs.reactor fd' hreactor)
  rcases eq_or_ne fd' fd with rfl | hne
  · rcases h with hnone | ⟨conn₀, conn', hpool₀, rfl, heq⟩
    · rw [hnone] at hreactor
      cases hreactor
    · rw [hpool] at hpool₀
      cases hpool₀
      refine owns_iff.mpr ⟨conn', Function.update_self _ _ _, ?_⟩
      rw [heq]
      exact hsocket
  · refine owns_iff.mpr ⟨conn, ?_, hsocket⟩
    rw [connectionPool_setPool, Function.update_of_ne hne, hpool]

lemma setReactor (hs : s.Owned) {reactor : Option ℕ} (h : ∀ fd, reactor = some fd → s.owns fd) :
    Owned { s with reactor } := ⟨hs.handle, h, hs.writes⟩

lemma works {t : WebServer} (hs : s.Owned) (h : Works s t) : t.Owned := by
  constructor
  · intro i ctx hctx conn hconn
    rw [h.sockets] at hconn
    exact hs.handle i ctx ((h.contexts i).subset hctx) conn hconn
  · intro fd hreactor
    rw [h.reactor] at hreactor
    rw [owns, h.connectionPool, h.sockets]
    exact hs.reactor fd hreactor
  · rcases h.writes with heq | ⟨i, ctx, conn, bytes, hhead, hsocket, heq⟩
    · rw [heq]
      exact hs.writes
    · rw [heq]
      intro w hw
      rcases List.mem_append.mp hw with hw | hw
      · exact hs.writes w hw
      · rw [List.mem_singleton.mp hw]
        exact hs.handle i ctx (List.mem_of_mem_head? hhead) conn hsocket

/-- The request has the descriptor that the reactor reads from, which is open on its connection. -/
lemma dispatch (hs : s.Owned) {ctx : WorkCtx} (hctx : s.sockets ctx.handle = some ctx.conn) :
    (s.dispatch ctx).Owned := by
  rcases s.dispatch_cases ctx with heq | ⟨hcontexts, hsockets, -, hpool, hreactor, hwrites⟩
  · rw [heq]
    exact hs
  · constructor
    · intro i ctx' hmem conn hconn
      rw [hsockets] at hconn
      rw [hcontexts] at hmem
      rcases eq_or_ne i s.nextWorker with rfl | hne
      · rw [Function.update_self] at hmem
        rcases List.mem_append.mp hmem with hmem | hmem
        · exact hs.handle _ ctx' hmem conn hconn
        · rw [List.mem_singleton.mp hmem, hctx] at hconn
          rw [List.mem_singleton.mp hmem, Option.some.inj hconn]
      · rw [Function.update_of_ne hne] at hmem
        exact hs.handle i ctx' hmem conn hconn
    · intro fd hfd
      rw [hreactor] at hfd
      rw [owns, hpool, hsockets]
      exact hs.reactor fd hfd
    · rw [hwrites]
      exact hs.writes

lemma answer (hs : s.Owned) {ctx : WorkCtx} (hctx : s.sockets ctx.handle = some ctx.conn)
    (rsp : Bytes) : (s.answer ctx rsp).Owned := by
  rw [WebServer.answer, hctx]
  refine ⟨hs.handle, hs.reactor, fun w hw => ?_⟩
  rcases List.mem_append.mp hw with hw | hw
  · exact hs.writes w hw
  · rw [List.mem_singleton.mp hw]

lemma next (hs : s.Owned) {fd : ℕ} {conn : WebConnection} (hreactor : s.reactor = some fd)
    (hpool : s.connectionPool fd = some conn) (upgrade : Upgrade) :
    (s.next fd conn upgrade).Owned := by
  obtain ⟨conn', hpool', hsocket⟩ := owns_iff.mp (hs.reactor fd hreactor)
  rw [hpool] at hpool'
  cases hpool'
  have hcut : (s.setPool fd (some (cutRequest conn))).Owned :=
    hs.setPool (.inr ⟨conn, cutRequest conn, hpool, rfl, rfl⟩)
  have hanswer : ∀ rsp,
      ((s.setPool fd (some (cutRequest conn))).answer (workCtx fd conn) rsp).Owned :=
    hcut.answer hsocket
  unfold WebServer.next
  split_ifs with hincomplete
  · exact hs.setReactor fun _ h => by cases h
  · cases upgrade with
    | none => exact hcut.dispatch hsocket
    | handedOff rsp =>
      have hidle := (hanswer rsp).setReactor fun fd' (h : none = some fd') => by cases h
      exact hidle.setPool (.inl rfl)
    | refused rsp =>
      have hidle := (hanswer rsp).setReactor fun fd' (h : none = some fd') => by cases h
      exact hidle.closes fun _ h => by cases h

/-- Every step whose descriptor is not given away again keeps this. -/
lemma step {input : WebInput} (hok : s.NotReused input) (hs : s.Owned) :
    (s.step input).Owned := by
  cases input with
  | accept fd =>
    rw [WebServer.step]
    split_ifs with hfree
    · exact (hs.opens hfree.2 hok).setPool (.inl hfree.1)
    · exact hs
  | opens fd =>
    rw [WebServer.step]
    split_ifs with hfree
    · exact hs.opens hfree hok
    · exact hs
  | closes fd =>
    rw [WebServer.step]
    split_ifs with howned
    · exact hs
    · refine hs.closes fun fd' hreactor => ?_
      rintro rfl
      exact howned (hs.reactor fd' hreactor)
  | recv fd bytes =>
    rw [WebServer.step]
    cases hpool : s.connectionPool fd with
    | none => exact hs
    | some conn =>
      dsimp only
      split_ifs with hready
      · obtain ⟨hidle, howned⟩ := hready
        rw [WebServer.recv]
        split_ifs with hnil
        · exact (hs.setPool (.inl hidle)).closes fun fd' hreactor => by
            rw [show (s.setPool fd none).reactor = s.reactor from rfl, hidle] at hreactor
            cases hreactor
        · refine (hs.setPool (.inl hidle)).setReactor fun fd' hreactor => ?_
          cases hreactor
          obtain ⟨conn', hpool', hsocket⟩ := owns_iff.mp howned
          rw [hpool] at hpool'
          cases hpool'
          exact owns_iff.mpr ⟨_, Function.update_self _ _ _, hsocket⟩
      · exact hs
  | next upgrade =>
    rw [WebServer.step]
    cases hreactor : s.reactor with
    | none => exact hs
    | some fd =>
      dsimp only
      cases hpool : s.connectionPool fd with
      | none => exact hs
      | some conn => exact hs.next hreactor hpool upgrade
  | takes i => exact hs.works (s.works_takes i)
  | responds i rsp => exact hs.works (s.works_responds i rsp)
  | sends i n => exact hs.works (s.works_sends i n)
  | fails i => exact hs.works (s.works_fails i)

end Owned

lemma contexts_init (workers i : ℕ) : (init workers).contexts i = [] := by
  rw [contexts, init]
  dsimp only
  rw [List.getElem?_replicate]
  split_ifs <;> rfl

lemma owned_init (workers : ℕ) : (init workers).Owned := by
  constructor
  · intro i ctx hctx
    rw [contexts_init] at hctx
    exact absurd hctx List.not_mem_nil
  · intro fd hreactor
    cases hreactor
  · exact fun w hw => absurd hw List.not_mem_nil

/-- While no descriptor is given away again as long as a worker has a request with its number, what
is written for a request goes to the connection that it was received on. -/
theorem responses_reach_their_connection (workers : ℕ) (is : List WebInput)
    (hok : Transition.Along step NotReused (init workers) is) :
    ∀ w ∈ (run workers is).writes, w.conn = w.ctx.conn := by
  have hrun : (run workers is).Owned :=
    hok.invariant (fun _ _ hi hs => hs.step hi) (owned_init workers)
  exact hrun.writes

/-- A request of a client, and the call of `recv` that has it. -/
def getRequest : Bytes := Bytes.ofString "GET / HTTP/1.1\r\n\r\n"

theorem responses_reach_their_connection_reused :
    (run 2 [.accept 5, .recv 5 getRequest, .next .none, .next .none, .takes 0,
      .responds 0 [1], .sends 0 1, .recv 5 [], .accept 5]).writes.length = 1 ∧
    ∀ w ∈ (run 2 [.accept 5, .recv 5 getRequest, .next .none, .next .none, .takes 0,
      .responds 0 [1], .sends 0 1, .recv 5 [], .accept 5]).writes, w.conn = w.ctx.conn :=
  ⟨by decide +kernel, responses_reach_their_connection 2 _ (by decide +kernel)⟩

/-- A client hangs up while its request waits, and the next client gets its descriptor and its
response. -/
theorem response_reaches_next_client :
    ¬ ∀ workers is, ∀ w ∈ (run workers is).writes, w.conn = w.ctx.conn := by
  intro hclaim
  have h := hclaim 2 [.accept 5, .recv 5 getRequest, .next .none, .next .none, .recv 5 [],
    .accept 5, .takes 0, .responds 0 [1], .sends 0 1]
  revert h
  decide +kernel

end WebServer
