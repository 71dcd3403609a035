import OnPremPbx.Framing.Records
import OnPremPbx.Transition.Run
import OnPremPbx.Tunnel.SipFrame

/-!
# Requests on the wire

`InnerTlsServer::send` (`innertls.cpp`) in the calls of `dispatch`, step by step: the request is
encrypted into the write buffer, the content of the buffer is taken, and what was taken is sent as
one WebSocket frame. Only the last step is under a lock. The agent reads a frame at a time and takes
what is in it for one request (`InnerTlsClient::recv`, and `run_session` in `wsdbagent.cpp`).
-/

open Framing Transition

/-- Where a call of `send` is. -/
inductive SendPc where
  /-- before `SSL_write` -/
  | encrypting
  /-- before the buffer is read -/
  | taking
  /-- before `ws_send` -/
  | sending (frame : List (Record UInt8))
  | done
  /-- after an `SSL_write` of nothing -/
  | failed
  deriving DecidableEq, Repr

structure SendCall where
  plaintext : Bytes := []
  pc : SendPc := .encrypting
  deriving DecidableEq, Repr

/-- The server's end of a TLS session. `wire` has the frames that were sent, and `sent` the calls
that sent them. -/
structure InnerTlsServer where
  seq : ℕ := 0
  wbio : List (Record UInt8) := []
  calls : ℕ := 0
  call : ℕ → SendCall := fun _ => {}
  wire : List (List (Record UInt8)) := []
  sent : List ℕ := []

inductive SendInput where
  /-- a worker calls `send` -/
  | enter (plaintext : Bytes)
  /-- the next step of a call -/
  | step (call : ℕ)
  deriving DecidableEq, Repr

/-- The agent's end. -/
structure InnerTlsClient where
  next : ℕ := 0
  alive : Bool := true
  /-- the requests, as `parse_request` gets them -/
  received : List Bytes := []
  deriving DecidableEq, Repr

namespace InnerTlsClient

/-- `recv` of a frame, in the agent's loop. A record that is not in its turn ends the session. -/
def recv (a : InnerTlsClient) (frame : List (Record UInt8)) : InnerTlsClient :=
  if a.alive then
    match openAll a.next frame with
    | none           => { a with alive := false }
    | some plaintext =>
      { a with
        next := a.next + frame.length
        received := if plaintext = [] then a.received else a.received ++ [plaintext] }
  else a

end InnerTlsClient

namespace InnerTlsServer

/-- The most that a record holds. -/
def kMaxFragment : ℕ := 16384

lemma kMaxFragment_pos : 0 < kMaxFragment := Nat.zero_lt_succ _

def goto (i : ℕ) (pc : SendPc) (s : InnerTlsServer) : InnerTlsServer :=
  { s with call := Function.update s.call i { s.call i with pc := pc } }

/-- `SSL_write`. -/
def sslWrite (plaintext : Bytes) (s : InnerTlsServer) : InnerTlsServer :=
  let records := sealAll s.seq (fragments kMaxFragment plaintext)
  { s with seq := s.seq + records.length, wbio := s.wbio ++ records }

def sendStep (i : ℕ) (s : InnerTlsServer) : InnerTlsServer :=
  match (s.call i).pc with
  | .encrypting =>
    if (s.call i).plaintext = [] then s.goto i .failed
    else (s.sslWrite (s.call i).plaintext).goto i .taking
  | .taking =>
    -- `flush_wbio` succeeds without a frame if another call has taken the records
    if s.wbio = [] then s.goto i .done else { s.goto i (.sending s.wbio) with wbio := [] }
  | .sending frame => { s.goto i .done with wire := s.wire ++ [frame], sent := s.sent ++ [i] }
  | .done => s
  | .failed => s

def step (s : InnerTlsServer) : SendInput → InnerTlsServer
  | .enter plaintext =>
    { s with
      calls := s.calls + 1
      call := Function.update s.call s.calls { plaintext := plaintext } }
  | .step i => if i < s.calls then s.sendStep i else s

def run (s : InnerTlsServer) (is : List SendInput) : InnerTlsServer := is.foldl step s

/-- The agent, once it has read all frames. -/
def agent (s : InnerTlsServer) : InnerTlsClient := s.wire.foldl InnerTlsClient.recv {}

/-- The number of records that were sent. -/
def recordsSent (s : InnerTlsServer) : ℕ := (s.wire.map List.length).sum

/-- A request is encrypted only into an empty buffer, and frames are sent in the order of their
records. -/
def InTurn (s : InnerTlsServer) : SendInput → Prop
  | .enter _ => True
  | .step i  =>
    match (s.call i).pc with
    | .encrypting    => s.wbio = []
    | .sending frame => ∀ r ∈ frame.head?, r.seq = s.recordsSent
    | _              => True

instance (s : InnerTlsServer) (input : SendInput) : Decidable (s.InTurn input) := by
  unfold InTurn
  split
  · infer_instance
  · split <;> infer_instance

variable {s : InnerTlsServer} {i : ℕ}

@[simp] lemma call_goto_self (i : ℕ) (pc : SendPc) (s : InnerTlsServer) :
    (s.goto i pc).call i = { s.call i with pc := pc } := Function.update_self _ _ _

lemma call_goto_of_ne {j : ℕ} (h : j ≠ i) (pc : SendPc) (s : InnerTlsServer) :
    (s.goto i pc).call j = s.call j := Function.update_of_ne h _ _

/-- The records are those of the request, and there are some. -/
def OwnRecords (plaintext : Bytes) (records : List (Record UInt8)) : Prop :=
  plaintext ≠ [] ∧ ∃ seq, records = sealAll seq (fragments kMaxFragment plaintext)

/-- What the call takes or sends is its own. -/
def Own (wbio : List (Record UInt8)) (c : SendCall) : Prop :=
  match c.pc with
  | .taking        => OwnRecords c.plaintext wbio
  | .sending frame => OwnRecords c.plaintext frame
  | _              => True

structure Separate (s : InnerTlsServer) : Prop where
  agent : s.agent = { next := s.recordsSent, received := s.sent.map fun i => (s.call i).plaintext }
  own : ∀ i < s.calls, Own s.wbio (s.call i)
  taking : ∀ i < s.calls, ∀ j < s.calls, (s.call i).pc = .taking → (s.call j).pc = .taking → i = j
  nodup : s.sent.Nodup
  mem_sent : ∀ i, i ∈ s.sent ↔ i < s.calls ∧ (s.call i).pc = .done

lemma separate_init : Separate {} := by
  constructor
  · rfl
  · intro i hi
    cases hi
  · intro i hi
    cases hi
  · exact List.nodup_nil
  · intro i
    constructor
    · intro hi
      cases hi
    · rintro ⟨hi, -⟩
      cases hi

lemma OwnRecords.ne_nil {plaintext : Bytes} {records : List (Record UInt8)}
    (h : OwnRecords plaintext records) : records ≠ [] := by
  obtain ⟨hne, seq, rfl⟩ := h
  obtain ⟨payload, hhead⟩ := head?_sealAll_fragments kMaxFragment_pos seq hne
  intro hnil
  rw [hnil] at hhead
  cases hhead

/-- The agent opens the records of a request in their turn. -/
lemma OwnRecords.recv {plaintext : Bytes} {frame : List (Record UInt8)}
    (h : OwnRecords plaintext frame) {a : InnerTlsClient} (halive : a.alive = true)
    (hturn : ∀ r ∈ frame.head?, r.seq = a.next) :
    a.recv frame = { next := a.next + frame.length, received := a.received ++ [plaintext] } := by
  obtain ⟨hne, seq, rfl⟩ := h
  obtain ⟨payload, hhead⟩ := head?_sealAll_fragments kMaxFragment_pos seq hne
  have hseq : seq = a.next := hturn _ hhead
  rw [InnerTlsClient.recv, if_pos halive, hseq, openAll_sealAll,
    flatten_fragments kMaxFragment_pos]
  simp only [if_neg hne]
  rw [halive]

/-- Only a call that is about to take depends on the buffer. -/
lemma Own.of_ne_taking {wbio wbio' : List (Record UInt8)} {c : SendCall} (h : Own wbio c)
    (hpc : c.pc ≠ .taking) : Own wbio' c := by
  rw [Own] at h ⊢
  split <;> simp_all

/-- The requests of the calls that have sent theirs do not change. -/
lemma map_plaintext {t : InnerTlsServer}
    (h : ∀ i ∈ s.sent, (t.call i).plaintext = (s.call i).plaintext) :
    (s.sent.map fun i => (t.call i).plaintext) = s.sent.map fun i => (s.call i).plaintext :=
  List.map_congr_left h

lemma separate_enter (hs : s.Separate) (plaintext : Bytes) :
    (s.step (.enter plaintext)).Separate := by
  have hcall : ∀ i < s.calls, (s.step (.enter plaintext)).call i = s.call i := by
    intro i hi
    exact Function.update_of_ne hi.ne _ _
  have hnew : (s.step (.enter plaintext)).call s.calls = { plaintext := plaintext } :=
    Function.update_self _ _ _
  -- the new call is at its begin, the others are where they were
  have hold : ∀ i < s.calls + 1, ((s.step (.enter plaintext)).call i).pc ≠ .encrypting →
      i < s.calls ∧ (s.step (.enter plaintext)).call i = s.call i := by
    intro i hi hpc
    obtain hlt | rfl := Nat.lt_succ_iff_lt_or_eq.mp hi
    · exact ⟨hlt, hcall i hlt⟩
    · rw [hnew] at hpc
      exact absurd rfl hpc
  constructor
  · have hmap := map_plaintext (t := s.step (.enter plaintext)) (s := s) fun i hi => by
      rw [hcall i ((hs.mem_sent i).mp hi).1]
    exact hs.agent.trans (by rw [← hmap]; rfl)
  · intro i hi
    obtain hlt | rfl := Nat.lt_succ_iff_lt_or_eq.mp hi
    · rw [hcall i hlt]
      exact hs.own i hlt
    · rw [hnew]
      trivial
  · intro i hi j hj hpi hpj
    obtain ⟨hi, hci⟩ := hold i hi (by rw [hpi]; decide)
    obtain ⟨hj, hcj⟩ := hold j hj (by rw [hpj]; decide)
    rw [hci] at hpi
    rw [hcj] at hpj
    exact hs.taking i hi j hj hpi hpj
  · exact hs.nodup
  · intro i
    rw [show (s.step (.enter plaintext)).sent = s.sent from rfl, hs.mem_sent]
    constructor
    · rintro ⟨hi, hpc⟩
      rw [hcall i hi]
      exact ⟨hi.trans (Nat.lt_succ_self _), hpc⟩
    · rintro ⟨hi, hpc⟩
      obtain ⟨hlt, hsame⟩ := hold i hi (by rw [hpc]; decide)
      rw [hsame] at hpc
      exact ⟨hlt, hpc⟩

/-- A call goes on and the agent gets nothing. -/
lemma separate_goto (hs : s.Separate) {pc : SendPc} (seq : ℕ)
    {wbio : List (Record UInt8)} (hown : Own wbio { s.call i with pc := pc })
    (hothers : ∀ j < s.calls, j ≠ i → (s.call j).pc = .taking → wbio = s.wbio ∧ pc ≠ .taking)
    (hdone : (s.call i).pc ≠ .done ∧ pc ≠ .done) :
    { s.goto i pc with seq := seq, wbio := wbio }.Separate := by
  have hself := call_goto_self i pc s
  have hother : ∀ j, j ≠ i → (s.goto i pc).call j = s.call j :=
    fun j hij => call_goto_of_ne hij pc s
  constructor
  · have hmap := map_plaintext (t := s.goto i pc) (s := s) fun j _ => by
      by_cases hij : j = i
      · rw [hij, hself]
      · rw [hother j hij]
    exact hs.agent.trans (by rw [← hmap]; rfl)
  · intro j hj
    by_cases hij : j = i
    · rw [hij]
      simp only [hself]
      exact hown
    · simp only [hother j hij]
      by_cases hpc : (s.call j).pc = .taking
      · rw [(hothers j hj hij hpc).1]
        exact hs.own j hj
      · exact (hs.own j hj).of_ne_taking hpc
  · intro j hj k hk hpj hpk
    by_cases hij : j = i
    · by_cases hik : k = i
      · rw [hij, hik]
      · simp only [hij, hself] at hpj
        simp only [hother k hik] at hpk
        exact absurd hpj (hothers k hk hik hpk).2
    · simp only [hother j hij] at hpj
      by_cases hik : k = i
      · simp only [hik, hself] at hpk
        exact absurd hpk (hothers j hj hij hpj).2
      · simp only [hother k hik] at hpk
        exact hs.taking j hj k hk hpj hpk
  · exact hs.nodup
  · intro j
    by_cases hij : j = i
    · rw [hij]
      simp only [hself]
      refine (hs.mem_sent i).trans ?_
      exact iff_of_false (fun h => hdone.1 h.2) (fun h => hdone.2 h.2)
    · simp only [hother j hij]
      exact hs.mem_sent j

/-- A frame is sent in its turn. -/
lemma separate_sending (hs : s.Separate) (hi : i < s.calls) {frame : List (Record UInt8)}
    (hpc : (s.call i).pc = .sending frame) (hturn : ∀ r ∈ frame.head?, r.seq = s.recordsSent) :
    { s.goto i .done with wire := s.wire ++ [frame], sent := s.sent ++ [i] }.Separate := by
  have hself := call_goto_self i .done s
  have hother : ∀ j, j ≠ i → (s.goto i .done).call j = s.call j := fun j hij =>
    call_goto_of_ne hij .done s
  have hown := hs.own i hi
  rw [Own, hpc] at hown
  have hnot : i ∉ s.sent := by
    intro hmem
    have hdone := ((hs.mem_sent i).mp hmem).2
    rw [hpc] at hdone
    cases hdone
  constructor
  · have hmap := map_plaintext (t := s.goto i .done) (s := s) fun j _ => by
      by_cases hij : j = i
      · rw [hij, hself]
      · rw [hother j hij]
    have hagent : { s.goto i .done with wire := s.wire ++ [frame], sent := s.sent ++ [i] }.agent =
        s.agent.recv frame := List.foldl_concat ..
    rw [hagent, hs.agent, hown.recv rfl hturn, ← hmap]
    simp only [recordsSent, List.map_append, List.sum_append, List.map_cons, List.map_nil,
      List.sum_singleton, hself]
  · intro j hj
    by_cases hij : j = i
    · rw [hij]
      simp only [hself]
      trivial
    · simp only [hother j hij]
      exact hs.own j hj
  · intro j hj k hk hpj hpk
    have hne : ∀ l, ((s.goto i .done).call l).pc = .taking → l ≠ i := by
      rintro l hpl rfl
      rw [hself] at hpl
      cases hpl
    simp only [hother j (hne j hpj)] at hpj
    simp only [hother k (hne k hpk)] at hpk
    exact hs.taking j hj k hk hpj hpk
  · rw [List.nodup_append]
    exact ⟨hs.nodup, List.nodup_singleton i, by
      intro a ha b hb
      rw [List.mem_singleton.mp hb]
      rintro rfl
      exact hnot ha⟩
  · intro j
    rw [List.mem_append, List.mem_singleton, hs.mem_sent]
    by_cases hij : j = i
    · rw [hij]
      simp only [hself]
      exact iff_of_true (Or.inr trivial) ⟨hi, trivial⟩
    · simp only [hother j hij, hij, or_false]
      rfl

/-- The next step of a call. -/
lemma separate_sendStep (hs : s.Separate) (hi : i < s.calls) (hok : s.InTurn (.step i)) :
    (s.sendStep i).Separate := by
  have hown := hs.own i hi
  simp only [InTurn] at hok
  cases hpc : (s.call i).pc with
  | encrypting =>
    rw [hpc] at hok
    -- with an empty buffer no call is about to take
    have hnone : ∀ j < s.calls, (s.call j).pc ≠ .taking := by
      intro j hj htaking
      have hrecords := hs.own j hj
      rw [Own, htaking] at hrecords
      exact hrecords.ne_nil hok
    simp only [sendStep, hpc]
    split_ifs with hempty
    · exact separate_goto hs s.seq trivial (fun j hj _ h => absurd h (hnone j hj))
        ⟨by rw [hpc]; decide, by decide⟩
    · refine separate_goto hs _ ?_ (fun j hj _ h => absurd h (hnone j hj))
        ⟨by rw [hpc]; decide, by decide⟩
      have hwbio : (s.sslWrite (s.call i).plaintext).wbio =
          s.wbio ++ sealAll s.seq (fragments kMaxFragment (s.call i).plaintext) := rfl
      rw [hok] at hwbio
      exact ⟨hempty, s.seq, hwbio⟩
  | taking =>
    rw [Own, hpc] at hown
    simp only [sendStep, hpc, if_neg hown.ne_nil]
    refine separate_goto hs s.seq hown ?_ ⟨by rw [hpc]; decide, by intro h; cases h⟩
    intro j hj hij htaking
    exact absurd (hs.taking j hj i hi htaking hpc) hij
  | sending frame =>
    rw [hpc] at hok
    simp only [sendStep, hpc]
    exact separate_sending hs hi hpc hok
  | done =>
    simp only [sendStep, hpc]
    exact hs
  | failed =>
    simp only [sendStep, hpc]
    exact hs

lemma separate_step (hs : s.Separate) {input : SendInput} (hok : s.InTurn input) :
    (s.step input).Separate := by
  cases input with
  | enter plaintext => exact separate_enter hs plaintext
  | step i =>
    rw [step]
    split_ifs with hi
    · exact separate_sendStep hs hi hok
    · exact hs

/-- For every interleaving in which requests are encrypted into an empty buffer and frames are sent
in the order of their records: the session stays up, and the agent gets the request of each call
that is done, once, as it is, and nothing else. -/
theorem requests_stay_separate (is : List SendInput) (hok : Along step InTurn {} is) :
    let s := ({} : InnerTlsServer).run is
    s.agent.alive = true ∧ s.agent.received = (s.sent.map fun i => (s.call i).plaintext) ∧
      s.sent.Nodup ∧ ∀ i, i ∈ s.sent ↔ i < s.calls ∧ (s.call i).pc = .done := by
  intro s
  have hs : s.Separate :=
    hok.invariant (P := Separate) (fun _ _ hi h => separate_step h hi) separate_init
  refine ⟨?_, ?_, hs.nodup, hs.mem_sent⟩
  · rw [hs.agent]
  · rw [hs.agent]

/-- Two calls, one after the other. -/
theorem requests_stay_separate_two :
    (({} : InnerTlsServer).run (.enter [1] :: .enter [2] :: [.step 0, .step 0, .step 1, .step 0,
      .step 1, .step 1])).agent.alive = true :=
  (requests_stay_separate _ (by decide +kernel)).1

/-- Two calls encrypt before one of them takes: the agent gets both requests as one, and the other
call is done without a frame. Two calls take one after the other and send the other way round: the
session is over. -/
theorem requests_share_frame :
    let s := ({} : InnerTlsServer).run (.enter [1] :: .enter [2] :: [.step 0, .step 1, .step 0,
      .step 0, .step 1])
    let t := ({} : InnerTlsServer).run (.enter [1] :: .enter [2] :: [.step 0, .step 0, .step 1,
      .step 1, .step 1, .step 0])
    ((s.call 0).pc = .done ∧ (s.call 1).pc = .done ∧ [1] ∉ s.agent.received ∧
      [2] ∉ s.agent.received) ∧
    (t.call 0).pc = .done ∧ (t.call 1).pc = .done ∧ t.agent.alive = false := by
  decide +kernel

end InnerTlsServer
