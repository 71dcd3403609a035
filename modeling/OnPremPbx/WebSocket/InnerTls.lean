import OnPremPbx.Tunnel.SipFrame

/-!
# Inner TLS

`InnerTlsClient` and `InnerTlsServer` (`innertls.cpp`) have a TLS object that works on memory BIOs,
and move what is in these over a transport. The TLS library and the transport are parameters.
-/

namespace InnerTls

/-! ### The TLS library -/

/-- What `SSL_get_error` says. -/
inductive SslStatus where
  | ok
  | wantRead
  | wantWrite
  | failed
  deriving DecidableEq, Repr

/-- What `SSL_connect` or `SSL_accept` makes of the bytes in its memory BIO. -/
structure SslAnswer (σ : Type) where
  status : SslStatus
  ssl : σ
  /-- the bytes that it did not read -/
  rest : Bytes
  written : Bytes

/-- What the calls of `SSL_read` do, up to the first one that has no data. -/
structure SslRead (σ : Type) where
  plaintexts : List Bytes
  /-- the last one waits for more, and has not failed -/
  wantsRead : Bool
  ssl : σ
  rest : Bytes
  written : Bytes

/-- What `SSL_write` does. -/
structure SslWrite (σ : Type) where
  accepted : Bool
  ssl : σ
  written : Bytes

/-- The handshakes of the TLS library. -/
structure Tls (σ : Type) where
  connect : σ → Bytes → SslAnswer σ
  accept : σ → Bytes → SslAnswer σ

/-- The TLS library. -/
structure TlsLibrary (σ : Type) extends Tls σ where
  read : σ → Bytes → SslRead σ
  write : σ → Bytes → SslWrite σ

/-! ### TLS objects -/

/-- `IInnerTlsTransport`, where `recv` has `none` for `false`. -/
structure Transport (τ : Type) where
  send : Bytes → τ → Bool × τ
  recv : τ → Option Bytes × τ

/-- The TLS object with its BIOs, and its transport. -/
structure TlsObject (σ τ : Type) where
  ssl : σ
  rbio : Bytes := []
  wbio : Bytes := []
  transport : τ
  /-- what the handshake returned -/
  result : Option Bool := none

namespace TlsObject

variable {σ τ : Type}

def flushWbio (send : Bytes → τ → Bool × τ) (s : TlsObject σ τ) : Bool × TlsObject σ τ :=
  if s.wbio = [] then (true, s)
  else
    ((send s.wbio s.transport).1,
      { s with wbio := [], transport := (send s.wbio s.transport).2 })

def returned (b : Bool) (s : TlsObject σ τ) : TlsObject σ τ := { s with result := some b }

/-- The part of the loops of `handshake` and `accept` where the TLS object wants to read. -/
def receive (recv : τ → Option Bytes × τ) (s : TlsObject σ τ) : TlsObject σ τ :=
  match recv s.transport with
  | (none, t)     => { s with transport := t }.returned false
  | (some buf, t) =>
    let s := { s with transport := t, rbio := s.rbio ++ buf }
    if buf = [] ∧ s.wbio = [] then s.returned false else s

/-- The object after `SSL_connect` or `SSL_accept`. -/
def performed (perform : σ → Bytes → SslAnswer σ) (s : TlsObject σ τ) : TlsObject σ τ :=
  let a := perform s.ssl s.rbio
  { s with ssl := a.ssl, rbio := a.rest, wbio := s.wbio ++ a.written }

/-- One turn of the loop of `handshake` or `accept`. -/
def turn (x : Transport τ) (perform : σ → Bytes → SslAnswer σ) (s : TlsObject σ τ) :
    TlsObject σ τ :=
  if s.result.isSome then s
  else match (perform s.ssl s.rbio).status with
    | .ok        => ((s.performed perform).flushWbio x.send).2.returned true
    | .wantRead  =>
      match (s.performed perform).flushWbio x.send with
      | (false, s) => s.returned false
      | (true, s)  => s.receive x.recv
    | .wantWrite =>
      match (s.performed perform).flushWbio x.send with
      | (false, s) => s.returned false
      | (true, s)  => s
    | .failed    => ((s.performed perform).flushWbio x.send).2.returned false

/-- `recv` of either class: one payload of the transport, and all that can be read. -/
def recv (x : Transport τ) (t : TlsLibrary σ) (s : TlsObject σ τ) :
    Option Bytes × TlsObject σ τ :=
  match x.recv s.transport with
  | (none, tr)      => (none, { s with transport := tr })
  | (some wire, tr) =>
    let a := t.read s.ssl (s.rbio ++ wire)
    (if a.wantsRead then some a.plaintexts.flatten else none,
      { s with ssl := a.ssl, rbio := a.rest, wbio := s.wbio ++ a.written, transport := tr })

/-- `send` of either class. -/
def send (x : Transport τ) (t : TlsLibrary σ) (plaintext : Bytes) (s : TlsObject σ τ) :
    Bool × TlsObject σ τ :=
  let a := t.write s.ssl plaintext
  let s := { s with ssl := a.ssl, wbio := s.wbio ++ a.written }
  if a.accepted then s.flushWbio x.send else (false, s)

/-! ### What a turn keeps -/

variable {τ' : Type} {x : Transport τ} {x' : Transport τ'} {perform : σ → Bytes → SslAnswer σ}
  {P : τ → Prop}

/-- The object over another transport. -/
def map (f : τ → τ') (s : TlsObject σ τ) : TlsObject σ τ' :=
  { ssl := s.ssl, rbio := s.rbio, wbio := s.wbio, transport := f s.transport, result := s.result }

@[simp] lemma ssl_map (f : τ → τ') (s : TlsObject σ τ) : (s.map f).ssl = s.ssl := rfl
@[simp] lemma rbio_map (f : τ → τ') (s : TlsObject σ τ) : (s.map f).rbio = s.rbio := rfl
@[simp] lemma wbio_map (f : τ → τ') (s : TlsObject σ τ) : (s.map f).wbio = s.wbio := rfl
@[simp] lemma result_map (f : τ → τ') (s : TlsObject σ τ) : (s.map f).result = s.result := rfl
@[simp] lemma transport_map (f : τ → τ') (s : TlsObject σ τ) :
    (s.map f).transport = f s.transport := rfl

lemma flushWbio_transport (s : TlsObject σ τ) : (s.flushWbio x.send).2.transport = s.transport ∨
    ∃ d, (s.flushWbio x.send).2.transport = (x.send d s.transport).2 := by
  rw [flushWbio]
  split_ifs
  · exact .inl rfl
  · exact .inr ⟨s.wbio, rfl⟩

/-- A turn sends at most once, and then receives at most once. -/
lemma turn_transport (s : TlsObject σ τ) :
    ∃ t, (t = s.transport ∨ ∃ d, t = (x.send d s.transport).2) ∧
      ((turn x perform s).transport = t ∨ (turn x perform s).transport = (x.recv t).2 ∧
        ((turn x perform s).result ≠ some false → ∃ buf, (x.recv t).1 = some buf)) := by
  rw [turn]
  split_ifs
  · exact ⟨s.transport, .inl rfl, .inl rfl⟩
  refine ⟨((s.performed perform).flushWbio x.send).2.transport,
    flushWbio_transport (s.performed perform), ?_⟩
  rcases (s.performed perform).flushWbio x.send with ⟨ok, s'⟩
  cases (perform s.ssl s.rbio).status with
  | ok => exact .inl rfl
  | failed => exact .inl rfl
  | wantWrite => cases ok <;> exact .inl rfl
  | wantRead =>
    cases ok with
    | false => exact .inl rfl
    | true =>
      refine .inr ?_
      dsimp only [receive]
      rcases x.recv s'.transport with ⟨_ | buf, t⟩
      · exact ⟨rfl, fun h => absurd rfl h⟩
      · refine ⟨?_, fun _ => ⟨buf, rfl⟩⟩
        dsimp only
        split_ifs <;> rfl

/-- What the transport keeps, a turn keeps. -/
lemma turn_invariant (hsend : ∀ d t, P t → P (x.send d t).2) (hrecv : ∀ t, P t → P (x.recv t).2)
    {s : TlsObject σ τ} (h : P s.transport) : P (turn x perform s).transport := by
  obtain ⟨t, ht, hturn⟩ := @turn_transport _ _ x perform s
  have hP : P t := by
    rcases ht with rfl | ⟨d, rfl⟩
    · exact h
    · exact hsend d _ h
  rcases hturn with hturn | ⟨hturn, -⟩
  · exact hturn ▸ hP
  · exact hturn ▸ hrecv t hP

lemma result_of_turn {s : TlsObject σ τ} (h : (turn x perform s).result ≠ some false) :
    s.result ≠ some false := by
  intro hfalse
  rw [turn, hfalse] at h
  exact h hfalse

/-- What the transport keeps as long as it receives, a turn keeps that does not fail. -/
lemma turn_keeps (hsend : ∀ d t, P t → P (x.send d t).2)
    (hrecv : ∀ t buf, P t → (x.recv t).1 = some buf → P (x.recv t).2) {s : TlsObject σ τ}
    (h : P s.transport) (hresult : (turn x perform s).result ≠ some false) :
    P (turn x perform s).transport := by
  obtain ⟨t, ht, hturn⟩ := @turn_transport _ _ x perform s
  have hP : P t := by
    rcases ht with rfl | ⟨d, rfl⟩
    · exact h
    · exact hsend d _ h
  rcases hturn with hturn | ⟨hturn, hbuf⟩
  · exact hturn ▸ hP
  · obtain ⟨buf, hbuf⟩ := hbuf hresult
    exact hturn ▸ hrecv t buf hP hbuf

lemma flushWbio_map {f : τ → τ'}
    (hsend : ∀ d t, P t → x'.send d (f t) = ((x.send d t).1, f (x.send d t).2)) {s : TlsObject σ τ}
    (h : P s.transport) :
    (s.map f).flushWbio x'.send = ((s.flushWbio x.send).1, (s.flushWbio x.send).2.map f) := by
  by_cases hwbio : s.wbio = []
  · simp [flushWbio, hwbio]
  · simp [flushWbio, hwbio, hsend _ _ h, map]

lemma receive_map {f : τ → τ'}
    (hrecv : ∀ t, P t → x'.recv (f t) = ((x.recv t).1, f (x.recv t).2)) {s : TlsObject σ τ}
    (h : P s.transport) : (s.map f).receive x'.recv = (s.receive x.recv).map f := by
  rw [receive, receive, transport_map, hrecv _ h]
  rcases x.recv s.transport with ⟨_ | buf, t⟩
  · rfl
  · by_cases hbuf : buf = [] ∧ s.wbio = [] <;> simp [hbuf, map, returned]

/-- A handshake does the same over a transport that a map carries over. -/
lemma turn_map {f : τ → τ'} (hkeeps : ∀ d t, P t → P (x.send d t).2)
    (hsend : ∀ d t, P t → x'.send d (f t) = ((x.send d t).1, f (x.send d t).2))
    (hrecv : ∀ t, P t → x'.recv (f t) = ((x.recv t).1, f (x.recv t).2)) {s : TlsObject σ τ}
    (h : P s.transport) : turn x' perform (s.map f) = (turn x perform s).map f := by
  have hflush := flushWbio_map (s := s.performed perform) hsend h
  have hkept : P ((s.performed perform).flushWbio x.send).2.transport := by
    rcases @flushWbio_transport _ _ x (s.performed perform) with heq | ⟨d, heq⟩
    · exact heq ▸ h
    · exact heq ▸ hkeeps d _ h
  have hperformed : (s.map f).performed perform = (s.performed perform).map f := rfl
  rw [turn, turn, result_map, ssl_map, rbio_map, hperformed, hflush]
  split_ifs
  · rfl
  generalize (s.performed perform).flushWbio x.send = r at hkept ⊢
  obtain ⟨ok, s'⟩ := r
  cases (perform s.ssl s.rbio).status with
  | ok => rfl
  | failed => rfl
  | wantWrite => cases ok <;> rfl
  | wantRead =>
    cases ok with
    | false => rfl
    | true => exact receive_map hrecv hkept

end TlsObject

end InnerTls
