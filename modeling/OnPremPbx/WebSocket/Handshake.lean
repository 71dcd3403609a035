import OnPremPbx.WebSocket.InnerTls
import OnPremPbx.WebSocket.WsFrame
import Mathlib.Data.List.TakeWhile

/-!
# Inner TLS over WebSocket frames

`InnerTlsClient::handshake` and `InnerTlsServer::accept` (`innertls.cpp`) over a transport of frames
(`wstransport.hpp`). The transport answers a ping, and reports a control frame as an empty success;
the loops take that for the end. So a control frame makes no difference only if no record is asked
for after it.
-/

open WsFrame

namespace InnerTls

def isBinary (f : Frame) : Bool := f.opcode = 0x02
def isPing (f : Frame) : Bool := f.opcode = 0x09
def isPong (f : Frame) : Bool := f.opcode = 0x0A
def isClose (f : Frame) : Bool := f.opcode = 0x08

/-! ### The transport -/

/-- What was done with the transport: how often `m_recvFrame` was called, and the frames that were
given to `m_sendFrame`. -/
structure WebSocketTransport where
  calls : ℕ := 0
  sent : List Frame := []

namespace WebSocketTransport

variable (accepts : List Frame → Bytes → Bool) (frames : List Frame)

/-- `m_sendFrame`, which may fail, after some binary frames. -/
def sendFrame (payload : Bytes) (opcode : UInt8) (w : WebSocketTransport) :
    Bool × WebSocketTransport :=
  (accepts (w.sent.filter isBinary) payload, { w with sent := w.sent ++ [⟨opcode, payload⟩] })

def send (data : Bytes) (w : WebSocketTransport) : Bool × WebSocketTransport :=
  sendFrame accepts data 0x02 w

/-- `WebSocketTransport::recv`, with `none` for `false`. There is no frame after the last one. -/
def recv (w : WebSocketTransport) : Option Bytes × WebSocketTransport :=
  let w' := { w with calls := w.calls + 1 }
  match frames[w.calls]? with
  | none   => (none, w')
  | some f =>
    if f.opcode = 0x02 then (some f.payload, w')
    else if f.opcode = 0x09 then (some [], (sendFrame accepts f.payload 0x0A w').2)
    else if f.opcode = 0x0A then (some [], w')
    else if f.opcode = 0x08 then (none, w')
    else (some [], w')

def transport : Transport WebSocketTransport := ⟨send accepts, recv accepts frames⟩

end WebSocketTransport

/-- A TLS object over the transport. -/
abbrev Session (σ : Type) : Type := TlsObject σ WebSocketTransport

namespace Session

variable {σ : Type} (accepts : List Frame → Bytes → Bool) (perform : σ → Bytes → SslAnswer σ)
  (frames : List Frame)

def calls (s : Session σ) : ℕ := s.transport.calls
def sent (s : Session σ) : List Frame := s.transport.sent

/-- The session after the TLS library has answered, and what it wrote is sent. -/
def flushed (s : Session σ) : Bool × Session σ :=
  (s.performed perform).flushWbio (WebSocketTransport.send accepts)

/-- The part of a turn that reads. -/
def reading (s : Session σ) : Session σ := s.receive (WebSocketTransport.recv accepts frames)

/-- One turn of a loop. -/
def turn (s : Session σ) : Session σ :=
  TlsObject.turn (WebSocketTransport.transport accepts frames) perform s

end Session

section

variable {σ : Type} (accepts : List Frame → Bytes → Bool) (t : Tls σ) (ssl : σ)
  (frames : List Frame)

/-- The session after a number of turns. -/
def InnerTlsClient.handshake (n : ℕ) : Session σ :=
  (Session.turn accepts t.connect frames)^[n] { ssl := ssl, transport := {} }

def InnerTlsServer.accept (n : ℕ) : Session σ :=
  (Session.turn accepts t.accept frames)^[n] { ssl := ssl, transport := {} }

end

/-! ### Insertions -/

/-- A frame of the peer, or one that is inserted: a ping, a pong, or any other frame that is neither
binary nor a close. -/
inductive Item where
  | peer (f : Frame)
  | inserted (g : Frame) (h : isBinary g = false ∧ isClose g = false)

namespace Item

def frame : Item → Frame
  | peer f       => f
  | inserted g _ => g

def isPeer : Item → Bool
  | peer _       => true
  | inserted _ _ => false

/-- The frames with the insertions, and without them. -/
def all (ws : List Item) : List Frame := ws.map frame

def original (ws : List Item) : List Frame := (ws.filter isPeer).map frame

/-- How many frames there are before the first insertion. -/
def leading (ws : List Item) : ℕ := (ws.takeWhile isPeer).length

end Item

variable {σ : Type}

/-- The binary frames that were read. -/
def consumed (frames : List Frame) (s : Session σ) : List Frame :=
  (frames.take s.calls).filter isBinary

/-- The same result, the same binary frames read and sent, and a pong for each ping that was
read. -/
structure Agrees (frames frames' : List Frame) (s s' : Session σ) : Prop where
  result : s.result = s'.result
  consumed : consumed frames s = consumed frames' s'
  sent : s.sent.filter isBinary = s'.sent.filter isBinary
  pongs : (s'.sent.filter isPong).map (·.payload) =
    ((frames'.take s'.calls).filter isPing).map (·.payload)

/-- Where a run over one of the sequences ends, the run over the other one ends too, and they
agree. -/
structure Transparent (run : List Frame → ℕ → Session σ) (fs gs : List Frame) : Prop where
  kept : ∀ n, (run fs n).result.isSome → ∃ m, Agrees fs gs (run fs n) (run gs m)
  reflected : ∀ m, (run gs m).result.isSome → ∃ n, Agrees fs gs (run fs n) (run gs m)

/-! ### What the TLS library asks for -/

/-- The TLS library by itself, with the frames that it had sent. -/
structure Dialog (σ : Type) where
  ssl : σ
  rbio : Bytes := []
  sent : List Frame := []

namespace Dialog

variable (accepts : List Frame → Bytes → Bool) (perform : σ → Bytes → SslAnswer σ)

def answer (d : Dialog σ) : SslAnswer σ := perform d.ssl d.rbio

/-- What the library writes can be sent. -/
def Delivers (d : Dialog σ) : Prop :=
  (d.answer perform).written = [] ∨ accepts d.sent (d.answer perform).written = true

def next (d : Dialog σ) : Dialog σ where
  ssl := (d.answer perform).ssl
  rbio := (d.answer perform).rest
  sent := if (d.answer perform).written = [] then d.sent
    else d.sent ++ [⟨0x02, (d.answer perform).written⟩]

/-- The dialog after records, each of which was given to the library when it asked for one. -/
inductive Given (ssl : σ) : List Bytes → Dialog σ → Prop
  | start : Given ssl [] { ssl := ssl }
  | wrote {rs d} (h : Given ssl rs d) (hdelivers : d.Delivers accepts perform)
      (hstatus : (d.answer perform).status = .wantWrite) : Given ssl rs (d.next perform)
  | read {rs d} (h : Given ssl rs d) (hdelivers : d.Delivers accepts perform)
      (hstatus : (d.answer perform).status = .wantRead) (r : Bytes) :
      Given ssl (rs ++ [r]) { d.next perform with rbio := (d.next perform).rbio ++ r }

/-- After the records the library asks for another one. -/
def AsksAfter (ssl : σ) (rs : List Bytes) : Prop :=
  ∃ d, Given accepts perform ssl rs d ∧ d.Delivers accepts perform ∧
    (d.answer perform).status = .wantRead

end Dialog

def IsRecord (f : Frame) : Prop := isBinary f = true ∧ f.payload ≠ []

/-- A binary frame comes after a number of records, and the TLS library asks for it. -/
def AskedFor (accepts : List Frame → Bytes → Bool) (perform : σ → Bytes → SslAnswer σ) (ssl : σ)
    (fs : List Frame) (k : ℕ) : Prop :=
  (∃ f, fs[k]? = some f ∧ isBinary f = true) ∧ (∀ f ∈ fs.take k, IsRecord f) ∧
    Dialog.AsksAfter accepts perform ssl ((fs.take k).map (·.payload))

/-! ### One turn -/

namespace Session

variable {accepts : List Frame → Bytes → Bool} {perform : σ → Bytes → SslAnswer σ}
  {frames : List Frame} {s s' : Session σ}

/-- What has been sent as a pong. -/
def pongs (s : Session σ) : List Bytes := (s.sent.filter isPong).map (·.payload)

def dialog (s : Session σ) : Dialog σ := ⟨s.ssl, s.rbio, s.sent.filter isBinary⟩

/-- The session goes on, and the TLS library has answered. -/
structure Continues (perform : σ → Bytes → SslAnswer σ) (s s' : Session σ) : Prop where
  dialog : s'.dialog = s.dialog.next perform
  calls : s'.calls = s.calls
  pongs : s'.pongs = s.pongs
  wbio : s'.wbio = []
  result : s'.result = none

lemma flushWbio_performed (hwbio : s.wbio = []) (hresult : s.result = none) :
    Continues perform s (flushed accepts perform s).2 ∧
      ((flushed accepts perform s).1 = true ↔
        s.dialog.Delivers accepts perform) := by
  have hwritten : (s.performed perform).wbio = (s.dialog.answer perform).written := by
    rw [TlsObject.performed, hwbio]
    rfl
  rw [flushed, TlsObject.flushWbio, hwritten, Dialog.Delivers]
  split_ifs with h
  · refine ⟨⟨?_, rfl, rfl, ?_, hresult⟩, iff_of_true rfl (.inl h)⟩
    · rw [Dialog.next, if_pos h]
      rfl
    · rw [hwritten, h]
  · refine ⟨⟨?_, rfl, ?_, rfl, hresult⟩, ?_⟩
    · rw [Dialog.next, if_neg h, dialog, Session.sent, WebSocketTransport.send,
        WebSocketTransport.sendFrame, List.filter_append]
      rfl
    · rw [WebSocketTransport.send, WebSocketTransport.sendFrame, Session.pongs, Session.sent,
        List.filter_append]
      simp [isPong, Session.pongs, Session.sent, TlsObject.performed]
    · rw [or_iff_right h]
      rfl

/-- What a turn does: it gets as far as reading, it goes on without, or it is the last one. -/
inductive Turn (accepts : List Frame → Bytes → Bool) (perform : σ → Bytes → SslAnswer σ)
    (s : Session σ) : Prop
  | reads (s' : Session σ) (h : Continues perform s s')
      (hdelivers : s.dialog.Delivers accepts perform)
      (hstatus : (s.dialog.answer perform).status = .wantRead)
      (hturn : ∀ frames, turn accepts perform frames s = reading accepts frames s')
  | writes (s' : Session σ) (h : Continues perform s s')
      (hdelivers : s.dialog.Delivers accepts perform)
      (hstatus : (s.dialog.answer perform).status = .wantWrite)
      (hturn : ∀ frames, turn accepts perform frames s = s')
  | returns (s' : Session σ) (hcalls : s'.calls = s.calls) (hpongs : s'.pongs = s.pongs)
      (hresult : s'.result ≠ none)
      (hnot : s.dialog.Delivers accepts perform →
        (s.dialog.answer perform).status ≠ .wantRead ∧
          (s.dialog.answer perform).status ≠ .wantWrite)
      (hturn : ∀ frames, turn accepts perform frames s = s')

lemma turn_cases (hwbio : s.wbio = []) (hresult : s.result = none) : Turn accepts perform s := by
  obtain ⟨h, hdelivers⟩ := @flushWbio_performed _ accepts perform _ hwbio hresult
  have hanswer : perform s.ssl s.rbio = s.dialog.answer perform := rfl
  rcases hflush : flushed accepts perform s with ⟨ok, s'⟩
  rw [hflush] at h hdelivers
  have hflushed : ∀ frames, (s.performed perform).flushWbio
      (WebSocketTransport.transport accepts frames).send = (ok, s') := fun _ => hflush
  cases hstatus : (s.dialog.answer perform).status with
  | ok =>
    refine .returns (s'.returned true) h.calls h.pongs (Option.some_ne_none _)
      (fun _ => by simp [hstatus]) fun frames => ?_
    rw [turn, TlsObject.turn, hresult, hanswer, hstatus, hflushed]
    rfl
  | failed =>
    refine .returns (s'.returned false) h.calls h.pongs (Option.some_ne_none _)
      (fun _ => by simp [hstatus]) fun frames => ?_
    rw [turn, TlsObject.turn, hresult, hanswer, hstatus, hflushed]
    rfl
  | wantRead =>
    cases ok with
    | false =>
      refine .returns (s'.returned false) h.calls h.pongs (Option.some_ne_none _)
        (fun hd => absurd (hdelivers.mpr hd) Bool.false_ne_true) fun frames => ?_
      rw [turn, TlsObject.turn, hresult, hanswer, hstatus, hflushed]
      rfl
    | true =>
      refine .reads s' h (hdelivers.mp rfl) hstatus fun frames => ?_
      rw [turn, TlsObject.turn, hresult, hanswer, hstatus, hflushed]
      rfl
  | wantWrite =>
    cases ok with
    | false =>
      refine .returns (s'.returned false) h.calls h.pongs (Option.some_ne_none _)
        (fun hd => absurd (hdelivers.mpr hd) Bool.false_ne_true) fun frames => ?_
      rw [turn, TlsObject.turn, hresult, hanswer, hstatus, hflushed]
      rfl
    | true =>
      refine .writes s' h (hdelivers.mp rfl) hstatus fun frames => ?_
      rw [turn, TlsObject.turn, hresult, hanswer, hstatus, hflushed]
      rfl

/-- What a reading makes of the frame that it gets. -/
structure Receives (frames : List Frame) (s s' : Session σ) : Prop where
  calls : s'.calls = s.calls + 1
  /-- the loop goes on after a record alone -/
  goesOn : s'.result = none ↔ ∃ f, frames[s.calls]? = some f ∧ IsRecord f
  given : ∀ f, frames[s.calls]? = some f → IsRecord f →
    s'.dialog = { s.dialog with rbio := s.dialog.rbio ++ f.payload } ∧ s'.wbio = []
  result : s'.result = none ∨ s'.result = some false
  binary : s'.sent.filter isBinary = s.sent.filter isBinary
  pongs : s'.pongs = s.pongs ++ ((frames[s.calls]?.toList).filter isPing).map (·.payload)

/-- A frame that is no record is the last one. -/
lemma Receives.of_not_record {f : Frame} (hf : frames[s.calls]? = some f) (hnot : ¬ IsRecord f)
    (hcalls : s'.calls = s.calls + 1)
    (hbinary : s'.sent.filter isBinary = s.sent.filter isBinary)
    (hpongs : s'.pongs = s.pongs ++ ([f].filter isPing).map (·.payload)) :
    Receives frames s (s'.returned false) where
  calls := hcalls
  goesOn := by
    refine iff_of_false nofun ?_
    rintro ⟨f', hf', hrecord⟩
    rw [hf, Option.some.injEq] at hf'
    exact hnot (hf' ▸ hrecord)
  given f' hf' hrecord := by
    rw [hf, Option.some.injEq] at hf'
    exact absurd (hf' ▸ hrecord) hnot
  result := .inr rfl
  binary := hbinary
  pongs := by
    rw [hf]
    exact hpongs

lemma receives_receive (frames : List Frame) (hwbio : s.wbio = []) (hresult : s.result = none) :
    Receives frames s (reading accepts frames s) := by
  rw [reading, TlsObject.receive, WebSocketTransport.recv, ← Session.calls]
  cases hf : frames[s.calls]? with
  | none =>
    refine ⟨rfl, iff_of_false (Option.some_ne_none _) (by simp [hf]), fun f h => ?_, .inr rfl,
      rfl, ?_⟩
    · rw [hf] at h
      cases h
    · simp [hf, TlsObject.returned, Session.pongs, Session.sent]
  | some f =>
    dsimp only
    by_cases hbinary : f.opcode = 0x02
    · have hping : isPing f = false := by simp [isPing, hbinary]
      rw [if_pos hbinary]
      dsimp only
      split_ifs with hbuf
      · exact .of_not_record hf (fun h => h.2 hbuf.1) rfl rfl
          (by simp [Session.pongs, Session.sent, hping])
      · have hrecord : IsRecord f := ⟨decide_eq_true hbinary, fun h => hbuf ⟨h, hwbio⟩⟩
        refine ⟨rfl, iff_of_true hresult ⟨f, hf, hrecord⟩, fun f' hf' _ => ?_, .inl hresult, rfl,
          by simp [hf, Session.pongs, Session.sent, hping]⟩
        rw [hf, Option.some.injEq] at hf'
        subst hf'
        exact ⟨rfl, hwbio⟩
    · have hnot : ¬ IsRecord f := fun h => hbinary (of_decide_eq_true h.1)
      rw [if_neg hbinary]
      by_cases hping : f.opcode = 0x09
      · rw [if_pos hping]
        dsimp only [WebSocketTransport.sendFrame]
        rw [if_pos ⟨rfl, hwbio⟩]
        refine .of_not_record hf hnot rfl ?_ ?_
        · simp [Session.sent, isBinary]
        · simp [Session.pongs, Session.sent, isPong, isPing, hping]
      · have hnoping : isPing f = false := by simp [isPing, hping]
        rw [if_neg hping]
        split_ifs
        · dsimp only
          rw [if_pos ⟨rfl, hwbio⟩]
          exact .of_not_record hf hnot rfl rfl (by simp [Session.pongs, Session.sent, hnoping])
        · exact .of_not_record hf hnot rfl rfl (by simp [Session.pongs, Session.sent, hnoping])
        · dsimp only
          rw [if_pos ⟨rfl, hwbio⟩]
          exact .of_not_record hf hnot rfl rfl (by simp [Session.pongs, Session.sent, hnoping])

lemma receive_congr {gs : List Frame} (h : frames[s.calls]? = gs[s.calls]?) :
    reading accepts frames s = reading accepts gs s := by
  rw [reading, reading, TlsObject.receive, TlsObject.receive, WebSocketTransport.recv,
    WebSocketTransport.recv, ← Session.calls, h]

/-! ### Runs -/

variable (accepts perform) in
/-- The session after a number of turns. -/
def run (ssl : σ) (frames : List Frame) (n : ℕ) : Session σ :=
  (turn accepts perform frames)^[n] { ssl := ssl, transport := {} }

variable {ssl : σ} {fs gs : List Frame}

lemma run_succ (frames : List Frame) (n : ℕ) :
    run accepts perform ssl frames (n + 1) =
      turn accepts perform frames (run accepts perform ssl frames n) :=
  Function.iterate_succ_apply' _ _ _

/-- A session that has returned stays as it is. -/
lemma run_of_returned {n m : ℕ} (h : (run accepts perform ssl fs n).result.isSome) (hnm : n ≤ m) :
    run accepts perform ssl fs m = run accepts perform ssl fs n := by
  induction m, hnm using Nat.le_induction with
  | base => rfl
  | succ m _ ih => rw [run_succ, ih, turn, TlsObject.turn, if_pos h]

variable (accepts perform ssl) in
/-- What holds of a session that has not returned. -/
structure Open (frames : List Frame) (s : Session σ) : Prop where
  wbio : s.wbio = []
  length : s.calls ≤ frames.length
  records : ∀ f ∈ frames.take s.calls, IsRecord f
  given : Dialog.Given accepts perform ssl ((frames.take s.calls).map (·.payload)) s.dialog

variable (accepts perform ssl) in
/-- What holds of a session after any number of turns. -/
structure Inv (frames : List Frame) (s : Session σ) : Prop where
  pongs : s.pongs = ((frames.take s.calls).filter isPing).map (·.payload)
  goesOn : s.result = none → Open accepts perform ssl frames s

lemma Inv.turn (h : Inv accepts perform ssl frames s) :
    Inv accepts perform ssl frames (turn accepts perform frames s) := by
  cases hresult : s.result with
  | some b =>
    rw [Session.turn, TlsObject.turn, hresult]
    exact h
  | none =>
    have hopen := h.goesOn hresult
    cases @turn_cases _ accepts perform _ hopen.wbio hresult with
    | returns s' hcalls hpongs hsome _ hturn =>
      rw [hturn]
      exact ⟨by rw [hpongs, hcalls, h.pongs], fun hnone => absurd hnone hsome⟩
    | writes s' hs' hdelivers hstatus hturn =>
      rw [hturn]
      refine ⟨by rw [hs'.pongs, hs'.calls, h.pongs], fun _ => ⟨hs'.wbio, ?_, ?_, ?_⟩⟩
      · rw [hs'.calls]
        exact hopen.length
      · rw [hs'.calls]
        exact hopen.records
      · rw [hs'.calls, hs'.dialog]
        exact hopen.given.wrote hdelivers hstatus
    | reads s' hs' hdelivers hstatus hturn =>
      rw [hturn]
      have hreceives := @receives_receive _ accepts _ frames hs'.wbio hs'.result
      refine ⟨?_, fun hnone => ?_⟩
      · rw [hreceives.pongs, hreceives.calls, hs'.pongs, hs'.calls, h.pongs, List.take_add_one,
          List.filter_append, List.map_append]
      · obtain ⟨f, hf, hrecord⟩ := hreceives.goesOn.mp hnone
        obtain ⟨hdialog, hwbio⟩ := hreceives.given f hf hrecord
        rw [hs'.calls] at hf
        have htake : frames.take (s.calls + 1) = frames.take s.calls ++ [f] := by
          rw [List.take_add_one, hf, Option.toList_some]
        refine ⟨hwbio, ?_, ?_, ?_⟩
        · rw [hreceives.calls, hs'.calls]
          exact (List.getElem?_eq_some_iff.mp hf).1
        · rw [hreceives.calls, hs'.calls, htake]
          intro f' hf'
          rcases List.mem_append.mp hf' with hf' | hf'
          · exact hopen.records f' hf'
          · rwa [List.mem_singleton.mp hf']
        · rw [hreceives.calls, hs'.calls, htake, List.map_append, hdialog, hs'.dialog]
          exact hopen.given.read hdelivers hstatus f.payload

lemma inv_run (fs : List Frame) (n : ℕ) :
    Inv accepts perform ssl fs (run accepts perform ssl fs n) := by
  induction n with
  | zero =>
    refine ⟨rfl, fun _ => ⟨rfl, Nat.zero_le _, fun f hf => absurd hf List.not_mem_nil, ?_⟩⟩
    exact .start
  | succ n ih =>
    rw [run_succ]
    exact ih.turn

lemma calls_succ (n : ℕ) :
    (run accepts perform ssl fs n).calls ≤ (run accepts perform ssl fs (n + 1)).calls ∧
      (run accepts perform ssl fs (n + 1)).calls ≤ (run accepts perform ssl fs n).calls + 1 := by
  cases hresult : (run accepts perform ssl fs n).result with
  | some b =>
    rw [run_of_returned (by rw [hresult]; rfl) (Nat.le_succ n)]
    exact ⟨le_rfl, Nat.le_succ _⟩
  | none =>
    have hopen := (inv_run fs n).goesOn hresult
    rw [run_succ]
    cases @turn_cases _ accepts perform _ hopen.wbio hresult with
    | returns s' hcalls _ _ _ hturn =>
      rw [hturn, hcalls]
      exact ⟨le_rfl, Nat.le_succ _⟩
    | writes s' hs' _ _ hturn =>
      rw [hturn, hs'.calls]
      exact ⟨le_rfl, Nat.le_succ _⟩
    | reads s' hs' _ _ hturn =>
      rw [hturn, (receives_receive fs hs'.wbio hs'.result).calls, hs'.calls]
      exact ⟨Nat.le_succ _, le_rfl⟩

lemma calls_mono : Monotone fun n => (run accepts perform ssl fs n).calls :=
  monotone_nat_of_le_succ fun n => (calls_succ n).1

/-- Up to the first frame that differs the runs over two sequences are the same. -/
lemma run_congr {k : ℕ} (hfs : ∀ i < k, fs[i]? = gs[i]?) {n : ℕ}
    (hcalls : (run accepts perform ssl fs n).calls ≤ k) :
    run accepts perform ssl fs n = run accepts perform ssl gs n := by
  induction n with
  | zero => rfl
  | succ n ih =>
    have hsame := ih ((calls_succ n).1.trans hcalls)
    cases hresult : (run accepts perform ssl fs n).result with
    | some b =>
      have hsome : (run accepts perform ssl fs n).result.isSome := by
        rw [hresult]
        rfl
      rw [run_of_returned hsome (Nat.le_succ n), hsame]
      rw [hsame] at hsome
      exact (run_of_returned hsome (Nat.le_succ n)).symm
    | none =>
      have hopen := (inv_run fs n).goesOn hresult
      rw [run_succ] at hcalls
      rw [run_succ, run_succ, ← hsame]
      cases @turn_cases _ accepts perform _ hopen.wbio hresult with
      | returns s' _ _ _ _ hturn => rw [hturn, hturn]
      | writes s' _ _ _ hturn => rw [hturn, hturn]
      | reads s' hs' _ _ hturn =>
        rw [hturn, (receives_receive fs hs'.wbio hs'.result).calls] at hcalls
        rw [hturn, hturn]
        exact receive_congr (hfs _ hcalls)

lemma take_congr {k j : ℕ} (hfs : ∀ i < k, fs[i]? = gs[i]?) (hj : j ≤ k) :
    fs.take j = gs.take j := by
  apply List.ext_getElem?
  intro i
  rw [List.getElem?_take, List.getElem?_take]
  split_ifs with hi
  · exact hfs i (hi.trans_le hj)
  · rfl

/-! ### What is asked for is read -/

/-- Whatever the library is given, a run comes to give it. -/
lemma exists_run_of_given {rs : List Bytes} {d : Dialog σ}
    (h : Dialog.Given accepts perform ssl rs d) {j : ℕ} (hj : j ≤ fs.length)
    (hrs : rs = (fs.take j).map (·.payload)) (hrecords : ∀ f ∈ fs.take j, IsRecord f) :
    ∃ n, (run accepts perform ssl fs n).dialog = d ∧
      (run accepts perform ssl fs n).result = none ∧
      (run accepts perform ssl fs n).calls = j := by
  induction h generalizing j with
  | start =>
    have hzero : j = 0 := by
      have hlength := congrArg List.length hrs
      rw [List.length_map, List.length_take, min_eq_left hj] at hlength
      exact hlength.symm
    exact ⟨0, rfl, rfl, hzero.symm⟩
  | wrote h hdelivers hstatus ih =>
    obtain ⟨n, rfl, hresult, hcalls⟩ := ih hj hrs hrecords
    refine ⟨n + 1, ?_⟩
    rw [run_succ]
    cases @turn_cases _ accepts perform _ ((inv_run fs n).goesOn hresult).wbio hresult with
    | returns s' _ _ _ hnot _ => exact absurd hstatus (hnot hdelivers).2
    | reads s' _ _ hread _ =>
      rw [hread] at hstatus
      cases hstatus
    | writes s' hs' _ _ hturn =>
      rw [hturn]
      exact ⟨hs'.dialog, hs'.result, hs'.calls.trans hcalls⟩
  | @read rs d h hdelivers hstatus r ih =>
    obtain ⟨j, rfl⟩ : ∃ i, j = i + 1 := by
      cases j with
      | zero => exact absurd hrs (by simp)
      | succ j => exact ⟨j, rfl⟩
    have hget : fs[j]? = some fs[j] := List.getElem?_eq_getElem hj
    rw [List.take_add_one, hget, Option.toList_some] at hrs hrecords
    rw [List.map_append, List.map_singleton, List.append_singleton_inj] at hrs
    obtain ⟨hrs, rfl⟩ := hrs
    obtain ⟨n, rfl, hresult, hcalls⟩ := ih (Nat.le_of_succ_le hj) hrs fun f hf =>
      hrecords f (List.mem_append_left _ hf)
    have hrecord := hrecords _ (List.mem_append_right _ List.mem_cons_self)
    refine ⟨n + 1, ?_⟩
    rw [run_succ]
    cases @turn_cases _ accepts perform _ ((inv_run fs n).goesOn hresult).wbio hresult with
    | returns s' _ _ _ hnot _ => exact absurd hstatus (hnot hdelivers).1
    | writes s' _ _ hwrite _ =>
      rw [hwrite] at hstatus
      cases hstatus
    | reads s' hs' _ _ hturn =>
      have hreceives := @receives_receive _ accepts _ fs hs'.wbio hs'.result
      have hat : fs[s'.calls]? = some fs[j] := by rw [hs'.calls, hcalls, hget]
      obtain ⟨hdialog, -⟩ := hreceives.given _ hat hrecord
      rw [hturn]
      refine ⟨?_, hreceives.goesOn.mpr ⟨_, hat, hrecord⟩, ?_⟩
      · rw [hdialog, hs'.dialog]
      · rw [hreceives.calls, hs'.calls, hcalls]

/-- The turn in which a reading goes beyond a number of frames. -/
structure FirstReading (accepts : List Frame → Bytes → Bool) (perform : σ → Bytes → SslAnswer σ)
    (ssl : σ) (fs : List Frame) (k n : ℕ) (s : Session σ) : Prop where
  before : ∀ m ≤ n, (run accepts perform ssl fs m).calls ≤ k
  isOpen : (run accepts perform ssl fs n).result = none
  calls : (run accepts perform ssl fs n).calls = k
  continues : Continues perform (run accepts perform ssl fs n) s
  delivers : (run accepts perform ssl fs n).dialog.Delivers accepts perform
  status : ((run accepts perform ssl fs n).dialog.answer perform).status = .wantRead
  turn : ∀ frames, turn accepts perform frames (run accepts perform ssl fs n) =
    reading accepts frames s

lemma exists_firstReading {k : ℕ} (hcalls : ∃ n, k < (run accepts perform ssl fs n).calls) :
    ∃ n s, FirstReading accepts perform ssl fs k n s := by
  obtain ⟨n, hn, hmin⟩ : ∃ n, k < (run accepts perform ssl fs n).calls ∧
      ∀ m < n, ¬ k < (run accepts perform ssl fs m).calls :=
    ⟨Nat.find hcalls, Nat.find_spec hcalls, fun m hm => Nat.find_min hcalls hm⟩
  cases n with
  | zero => exact absurd hn (Nat.not_lt_zero k)
  | succ n =>
    have hbefore : ∀ m ≤ n, (run accepts perform ssl fs m).calls ≤ k := fun m hm =>
      not_lt.mp (hmin m (Nat.lt_succ_of_le hm))
    have hk : (run accepts perform ssl fs n).calls = k :=
      le_antisymm (hbefore n le_rfl) (Nat.le_of_lt_succ (hn.trans_le (calls_succ n).2))
    cases hresult : (run accepts perform ssl fs n).result with
    | some b =>
      rw [run_of_returned (by rw [hresult]; rfl) (Nat.le_succ n), hk] at hn
      exact absurd hn (lt_irrefl k)
    | none =>
      rw [run_succ] at hn
      cases @turn_cases _ accepts perform _ ((inv_run fs n).goesOn hresult).wbio hresult with
      | returns s' hcalls' _ _ _ hturn =>
        rw [hturn, hcalls', hk] at hn
        exact absurd hn (lt_irrefl k)
      | writes s' hs' _ _ hturn =>
        rw [hturn, hs'.calls, hk] at hn
        exact absurd hn (lt_irrefl k)
      | reads s' hs' hdelivers hstatus hturn =>
        exact ⟨n, s', hbefore, hresult, hk, hs', hdelivers, hstatus, hturn⟩

/-- A run reads beyond a number of frames exactly if these are records and another one is asked
for. -/
lemma reads_iff {k : ℕ} (hk : k ≤ fs.length) :
    (∃ n, k < (run accepts perform ssl fs n).calls) ↔ (∀ f ∈ fs.take k, IsRecord f) ∧
      Dialog.AsksAfter accepts perform ssl ((fs.take k).map (·.payload)) := by
  constructor
  · intro hcalls
    obtain ⟨n, s, h⟩ := exists_firstReading hcalls
    have hopen := (inv_run fs n).goesOn h.isOpen
    have hrecords := hopen.records
    have hgiven := hopen.given
    rw [h.calls] at hrecords hgiven
    exact ⟨hrecords, _, hgiven, h.delivers, h.status⟩
  · rintro ⟨hrecords, d, hgiven, hdelivers, hstatus⟩
    obtain ⟨n, rfl, hresult, hcalls⟩ := exists_run_of_given hgiven hk rfl hrecords
    refine ⟨n + 1, ?_⟩
    rw [run_succ]
    cases @turn_cases _ accepts perform _ ((inv_run fs n).goesOn hresult).wbio hresult with
    | returns s' _ _ _ hnot _ => exact absurd hstatus (hnot hdelivers).1
    | writes s' _ _ hwrite _ =>
      rw [hwrite] at hstatus
      cases hstatus
    | reads s' hs' _ _ hturn =>
      rw [hturn, (receives_receive fs hs'.wbio hs'.result).calls, hs'.calls, hcalls]
      exact Nat.lt_succ_self k

/-! ### A frame that is no record -/

/-- Runs that do not get as far as the first difference agree. -/
lemma transparent_of_calls_le {k : ℕ} (hfs : ∀ i < k, fs[i]? = gs[i]?)
    (hcalls : ∀ n, (run accepts perform ssl fs n).calls ≤ k) :
    Transparent (run accepts perform ssl) fs gs := by
  have hagrees : ∀ n, Agrees fs gs (run accepts perform ssl fs n)
      (run accepts perform ssl gs n) := by
    intro n
    rw [← run_congr hfs (hcalls n)]
    refine ⟨rfl, ?_, rfl, ?_⟩
    · rw [consumed, consumed, take_congr hfs (hcalls n)]
    · rw [← take_congr hfs (hcalls n)]
      exact (inv_run fs n).pongs
  exact ⟨fun n _ => ⟨n, hagrees n⟩, fun n _ => ⟨n, hagrees n⟩⟩

namespace FirstReading

variable {k n : ℕ} {g : Frame}

lemma receives (h : FirstReading accepts perform ssl fs k n s) :
    Receives fs s (run accepts perform ssl fs (n + 1)) := by
  rw [run_succ, h.turn]
  exact receives_receive fs h.continues.wbio h.continues.result

lemma receives_congr (h : FirstReading accepts perform ssl fs k n s)
    (hfs : ∀ i < k, fs[i]? = gs[i]?) : Receives gs s (run accepts perform ssl gs (n + 1)) := by
  rw [run_succ, ← run_congr hfs (h.before n le_rfl), h.turn]
  exact receives_receive gs h.continues.wbio h.continues.result

lemma calls_eq (h : FirstReading accepts perform ssl fs k n s) : s.calls = k :=
  h.continues.calls.trans h.calls

/-- A frame that is no record is read instead, and is the last one. -/
lemma ends_congr (h : FirstReading accepts perform ssl fs k n s) (hfs : ∀ i < k, fs[i]? = gs[i]?)
    (hg : gs[k]? = some g) (hbinary : isBinary g = false) :
    (run accepts perform ssl gs (n + 1)).result = some false ∧
      consumed gs (run accepts perform ssl gs (n + 1)) = (fs.take k).filter isBinary := by
  have hreceives := h.receives_congr hfs
  constructor
  · refine hreceives.result.resolve_left fun hnone => ?_
    obtain ⟨f, hf, hrecord⟩ := hreceives.goesOn.mp hnone
    rw [h.calls_eq, hg, Option.some.injEq] at hf
    rw [← hf, IsRecord, hbinary] at hrecord
    exact absurd hrecord.1 nofun
  · rw [consumed, hreceives.calls, h.calls_eq, List.take_add_one, List.filter_append, hg,
      take_congr hfs le_rfl]
    simp [hbinary]

/-- Where a record would have been read the runs do not agree. -/
lemma not_transparent (h : FirstReading accepts perform ssl fs k n s)
    (hfs : ∀ i < k, fs[i]? = gs[i]?) {f : Frame} (hf : fs[k]? = some f)
    (hrecord : isBinary f = true) (hg : gs[k]? = some g) (hbinary : isBinary g = false) :
    ¬ Transparent (run accepts perform ssl) fs gs := by
  intro htransparent
  obtain ⟨hresult, hconsumed⟩ := h.ends_congr hfs hg hbinary
  obtain ⟨m, hm⟩ := htransparent.reflected (n + 1) (by rw [hresult]; rfl)
  have hreturned : (run accepts perform ssl fs m).result.isSome := by
    rw [hm.result, hresult]
    rfl
  have hlt : n < m := by
    by_contra hle
    rw [← run_of_returned hreturned (not_lt.mp hle), h.isOpen] at hreturned
    cases hreturned
  have hcalls : k + 1 ≤ (run accepts perform ssl fs m).calls := by
    have hmono := @calls_mono _ accepts perform ssl fs _ _ (Nat.succ_le_of_lt hlt)
    dsimp only at hmono
    rwa [Nat.succ_eq_add_one, h.receives.calls, h.calls_eq] at hmono
  have hsublist : ((fs.take (k + 1)).filter isBinary).length ≤
      (consumed fs (run accepts perform ssl fs m)).length :=
    ((List.take_sublist_take_left hcalls).filter isBinary).length_le
  rw [hm.consumed, hconsumed, List.take_add_one, hf, List.filter_append, List.length_append,
    Option.toList_some, List.filter_cons_of_pos hrecord, List.length_cons] at hsublist
  omega

/-- Where no record would have been read the run would have ended in the same way. -/
lemma transparent (h : FirstReading accepts perform ssl fs k n s)
    (hfs : ∀ i < k, fs[i]? = gs[i]?) (hf : ∀ f, fs[k]? = some f → isBinary f = false)
    (hg : gs[k]? = some g) (hbinary : isBinary g = false) :
    Transparent (run accepts perform ssl) fs gs := by
  obtain ⟨hresult, hconsumed⟩ := h.ends_congr hfs hg hbinary
  have hresult' : (run accepts perform ssl fs (n + 1)).result = some false := by
    refine h.receives.result.resolve_left fun hnone => ?_
    obtain ⟨f, hsome, hrecord⟩ := h.receives.goesOn.mp hnone
    rw [h.calls_eq] at hsome
    rw [IsRecord, hf f hsome] at hrecord
    exact absurd hrecord.1 nofun
  have hconsumed' : consumed fs (run accepts perform ssl fs (n + 1)) =
      (fs.take k).filter isBinary := by
    rw [consumed, h.receives.calls, h.calls_eq, List.take_add_one, List.filter_append]
    cases hk : fs[k]? with
    | none => simp
    | some f => simp [hf f hk]
  have hagrees : Agrees fs gs (run accepts perform ssl fs (n + 1))
      (run accepts perform ssl gs (n + 1)) :=
    ⟨by rw [hresult, hresult'], by rw [hconsumed, hconsumed'],
      by rw [h.receives.binary, (h.receives_congr hfs).binary], (inv_run gs (n + 1)).pongs⟩
  have hlater : ∀ {frames m}, (run accepts perform ssl frames (n + 1)).result = some false →
      (run accepts perform ssl frames n).result = none →
      (run accepts perform ssl frames m).result.isSome →
      run accepts perform ssl frames m = run accepts perform ssl frames (n + 1) := by
    intro frames m hend hopen hm
    rcases Nat.lt_or_ge n m with hlt | hle
    · exact run_of_returned (by rw [hend]; rfl) (Nat.succ_le_of_lt hlt)
    · rw [← run_of_returned hm hle, hopen] at hm
      cases hm
  have hopen : (run accepts perform ssl gs n).result = none := by
    rw [← run_congr hfs (h.before n le_rfl), h.isOpen]
  refine ⟨fun m hm => ⟨n + 1, ?_⟩, fun m hm => ⟨n + 1, ?_⟩⟩
  · rw [hlater hresult' h.isOpen hm]
    exact hagrees
  · rw [hlater hresult hopen hm]
    exact hagrees

end FirstReading

/-- A frame that is no record makes no difference exactly if no record is asked for in its
place. -/
lemma transparent_iff_not_askedFor {k : ℕ} {g : Frame} (hfs : ∀ i < k, fs[i]? = gs[i]?)
    (hg : gs[k]? = some g) (hbinary : isBinary g = false) :
    Transparent (run accepts perform ssl) fs gs ↔ ¬ AskedFor accepts perform ssl fs k := by
  by_cases hrecord : ∃ f, fs[k]? = some f ∧ isBinary f = true
  · have hk : k ≤ fs.length := by
      obtain ⟨f, hf, -⟩ := hrecord
      exact (List.getElem?_eq_some_iff.mp hf).1.le
    rw [AskedFor, and_iff_right hrecord, ← reads_iff hk]
    constructor
    · intro htransparent hcalls
      obtain ⟨f, hf, htrue⟩ := hrecord
      obtain ⟨n, s, h⟩ := exists_firstReading hcalls
      exact h.not_transparent hfs hf htrue hg hbinary htransparent
    · intro hcalls
      push Not at hcalls
      exact transparent_of_calls_le hfs hcalls
  · refine iff_of_true ?_ fun h => hrecord h.1
    push Not at hrecord
    by_cases hcalls : ∃ n, k < (run accepts perform ssl fs n).calls
    · obtain ⟨n, s, h⟩ := exists_firstReading hcalls
      exact h.transparent hfs (fun f hf => Bool.eq_false_iff.mpr (hrecord f hf)) hg hbinary
    · push Not at hcalls
      exact transparent_of_calls_le hfs hcalls

end Session

/-! ### Insertions into a handshake -/

namespace Item

lemma all_of_peers {ws : List Item} (h : ∀ w ∈ ws, w.isPeer = true) : all ws = original ws := by
  rw [all, original, List.filter_eq_self.mpr h]

/-- The sequences are the same up to the first insertion. -/
lemma split (ws : List Item) : (∀ w ∈ ws, w.isPeer = true) ∨
    (∀ i < leading ws, (original ws)[i]? = (all ws)[i]?) ∧
      ∃ g, (all ws)[leading ws]? = some g ∧ isBinary g = false := by
  induction ws with
  | nil => exact .inl nofun
  | cons w ws ih =>
    cases w with
    | inserted g h =>
      exact .inr ⟨fun i hi => absurd hi (Nat.not_lt_zero i), g, rfl, h.1⟩
    | peer f =>
      rcases ih with hall | ⟨hsame, g, hg, hbinary⟩
      · exact .inl (List.forall_mem_cons.mpr ⟨rfl, hall⟩)
      · refine .inr ⟨fun i hi => ?_, g, hg, hbinary⟩
        cases i with
        | zero => rfl
        | succ i => exact hsame i (Nat.lt_of_succ_lt_succ hi)

end Item

lemma transparent_iff (accepts : List Frame → Bytes → Bool) (perform : σ → Bytes → SslAnswer σ)
    (ssl : σ) (ws : List Item) :
    Transparent (Session.run accepts perform ssl) (Item.original ws) (Item.all ws) ↔
      ¬ AskedFor accepts perform ssl (Item.original ws) (Item.leading ws) := by
  rcases Item.split ws with hall | ⟨hsame, g, hg, hbinary⟩
  · have hleading : Item.leading ws = (Item.original ws).length := by
      rw [Item.leading, List.takeWhile_eq_self_iff.mpr hall, Item.original,
        List.filter_eq_self.mpr hall, List.length_map]
    rw [Item.all_of_peers hall, hleading]
    refine iff_of_true ⟨fun n _ => ⟨n, ?_⟩, fun n _ => ⟨n, ?_⟩⟩ ?_
    · exact ⟨rfl, rfl, rfl, (Session.inv_run _ n).pongs⟩
    · exact ⟨rfl, rfl, rfl, (Session.inv_run _ n).pongs⟩
    · rintro ⟨⟨f, hf, -⟩, -⟩
      rw [List.getElem?_length] at hf
      cases hf
  · exact Session.transparent_iff_not_askedFor hsame hg hbinary

/-- Control frames are transparent to the handshake of either side exactly if its TLS library asks
for no record of the peer that comes after the first of them. -/
theorem handshake_transparent_iff (accepts : List Frame → Bytes → Bool) (t : Tls σ) (ssl : σ)
    (ws : List Item) :
    (Transparent (InnerTlsClient.handshake accepts t ssl) (Item.original ws) (Item.all ws) ↔
      ¬ AskedFor accepts t.connect ssl (Item.original ws) (Item.leading ws)) ∧
    (Transparent (InnerTlsServer.accept accepts t ssl) (Item.original ws) (Item.all ws) ↔
      ¬ AskedFor accepts t.accept ssl (Item.original ws) (Item.leading ws)) :=
  ⟨transparent_iff accepts t.connect ssl ws, transparent_iff accepts t.accept ssl ws⟩

/-- A TLS library that writes a record, and waits for one. -/
def oneRecord : Tls Bool where
  connect := sayHello
  accept := sayHello
where
  sayHello (said : Bool) (rbio : Bytes) : SslAnswer Bool :=
    if said = false then ⟨.wantRead, true, rbio, [0x16]⟩
    else if rbio = [] then ⟨.wantRead, true, [], []⟩
    else ⟨.ok, true, [], []⟩

/-- A ping, and a record of the peer. -/
def pingFirst : List Item :=
  [.inserted ⟨0x09, [0x70]⟩ (by decide), .peer ⟨0x02, [0x16, 0x03]⟩]

/-- A ping before the record of the peer is the end of the handshake. -/
theorem ping_ends_handshake :
    ¬ Transparent (InnerTlsClient.handshake (fun _ _ => true) oneRecord false)
      (Item.original pingFirst) (Item.all pingFirst) ∧
    ¬ Transparent (InnerTlsServer.accept (fun _ _ => true) oneRecord false)
      (Item.original pingFirst) (Item.all pingFirst) := by
  have hasks : Dialog.AsksAfter (fun _ _ => true) oneRecord.sayHello false [] :=
    ⟨_, .start, .inr rfl, rfl⟩
  constructor
  · rw [show InnerTlsClient.handshake (fun _ _ => true) oneRecord false =
      Session.run (fun _ _ => true) oneRecord.sayHello false from rfl, transparent_iff, not_not]
    exact ⟨⟨_, rfl, rfl⟩, fun f hf => absurd hf List.not_mem_nil, hasks⟩
  · rw [show InnerTlsServer.accept (fun _ _ => true) oneRecord false =
      Session.run (fun _ _ => true) oneRecord.sayHello false from rfl, transparent_iff, not_not]
    exact ⟨⟨_, rfl, rfl⟩, fun f hf => absurd hf List.not_mem_nil, hasks⟩

end InnerTls
