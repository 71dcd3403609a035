import OnPremPbx.Transition.Run

/-!
# The tunnel of the mobile app

`SipTunnel` (`sipTunnel.ts`) has the WebSocket under the signalling of the mobile app, and opens it
again after a drop. Sockets and timers are numbered in the order in which they are made. The factory
of sockets returns, and the callbacks do not call the tunnel.
-/

namespace SipTunnel

inductive TunnelState
  | idle | connecting | open | closed
  deriving DecidableEq, Repr

/-- A call of a handler of the user of the tunnel. -/
inductive Callback
  | opened
  | closed
  | message (data : String)
  deriving DecidableEq, Repr

/-- What the constructor is given; `encodeURIComponent` is a function of the platform. -/
structure Options where
  baseUrl : String
  backoffMs : Option (List ℕ) := none
  encodeURIComponent : String → String

def defaultBackoffMs : List ℕ := [500, 1000, 2000, 5000, 10000]

/-- The field `baseUrl`, without the slashes at the end. -/
def Options.base (o : Options) : String :=
  String.ofList (o.baseUrl.toList.reverse.dropWhile (· == '/')).reverse

def Options.backoff (o : Options) : List ℕ :=
  match o.backoffMs with
  | none | some [] => defaultBackoffMs
  | some backoff   => backoff

end SipTunnel

open SipTunnel in
structure SipTunnel where
  socket : Option ℕ := none
  currentState : TunnelState := .idle
  token : String := ""
  deliberateClose : Bool := false
  reconnectAttempt : ℕ := 0
  reconnectTimer : Option ℕ := none
  /-- The sockets that were made, by their addresses. -/
  sockets : List String := []
  /-- The sockets that `close` was called on, and those whose close event has come. -/
  closed : List ℕ := []
  ended : List ℕ := []
  sent : List (ℕ × String) := []
  /-- The timers that are pending, with their delays, and how many were set. -/
  timers : List (ℕ × ℕ) := []
  timersSet : ℕ := 0
  told : List Callback := []

namespace SipTunnel

open Transition

variable (o : Options)

/-! ### The functions of the tunnel -/

def url (s : SipTunnel) : String := o.base ++ "/sip-ws?token=" ++ o.encodeURIComponent s.token

def openSocket (s : SipTunnel) : SipTunnel :=
  { s with
    currentState := .connecting
    sockets := s.sockets ++ [s.url o]
    socket := some s.sockets.length }

/-- An empty token raises. -/
def connect (token : String) (s : SipTunnel) : SipTunnel :=
  if token = "" then s
  else { s with token, deliberateClose := false, reconnectAttempt := 0 }.openSocket o

/-- `clearTimer` on the reconnect timer, if it is set. -/
def clearReconnect (s : SipTunnel) : SipTunnel :=
  match s.reconnectTimer with
  | none   => s
  | some h => { s with timers := s.timers.filter (·.1 ≠ h), reconnectTimer := none }

/-- `close` on the socket, if there is one. -/
def closeSocket (s : SipTunnel) : SipTunnel :=
  match s.socket with
  | none   => s
  | some i => { s with closed := s.closed ++ [i], socket := none }

def close (s : SipTunnel) : SipTunnel :=
  { { s with deliberateClose := true }.clearReconnect.closeSocket with currentState := .closed }

/-- A tunnel that is not open raises. -/
def send (data : String) (s : SipTunnel) : SipTunnel :=
  match s.socket with
  | none   => s
  | some i => if s.currentState = .open then { s with sent := s.sent ++ [(i, data)] } else s

def scheduleReconnect (s : SipTunnel) : SipTunnel :=
  { s with
    reconnectAttempt := s.reconnectAttempt + 1
    reconnectTimer := some s.timersSet
    timers := s.timers ++
      [(s.timersSet, o.backoff.getD (min s.reconnectAttempt (o.backoff.length - 1)) 0)]
    timersSet := s.timersSet + 1 }

/-- What the timer of `scheduleReconnect` calls. -/
def reconnect (s : SipTunnel) : SipTunnel :=
  let s := { s with reconnectTimer := none }
  if s.deliberateClose then s else s.openSocket o

/-! The callbacks of a socket do not look at which socket it is. -/

def onopen (s : SipTunnel) : SipTunnel :=
  { s with currentState := .open, reconnectAttempt := 0, told := s.told ++ [.opened] }

def onmessage (data : String) (s : SipTunnel) : SipTunnel :=
  { s with told := s.told ++ [.message data] }

def onclose (s : SipTunnel) : SipTunnel :=
  let s : SipTunnel := { s with socket := none, currentState := .closed }
  if s.deliberateClose then s
  else { s with told := s.told ++ [Callback.closed] }.scheduleReconnect o

/-! ### Runs -/

/-- A call of the user, an event of a socket, or a timer. -/
inductive Event
  | connect (token : String)
  | close
  | send (data : String)
  | opened (i : ℕ)
  | message (i : ℕ) (data : String)
  | ended (i : ℕ)
  | fired (h : ℕ)

/-- The socket that an event is of. -/
def Event.socket? : Event → Option ℕ
  | .opened i | .message i _ | .ended i => some i
  | _                                   => none

def step (s : SipTunnel) : Event → SipTunnel
  | .connect token  => s.connect o token
  | .close          => s.close
  | .send data      => s.send data
  | .opened _       => s.onopen
  | .message _ data => s.onmessage data
  | .ended i        => { s with ended := s.ended ++ [i] }.onclose o
  | .fired h        => { s with timers := s.timers.filter (·.1 ≠ h) }.reconnect o

/-- Events are of sockets that were made, which end once, and timers fire that are pending. -/
def Possible (s : SipTunnel) : Event → Prop
  | .opened i | .message i _ => i < s.sockets.length
  | .ended i                 => i < s.sockets.length ∧ i ∉ s.ended
  | .fired h                 => h ∈ s.timers.map (·.1)
  | _                        => True

/-- The socket was made, and neither side has closed it. -/
def Unclosed (s : SipTunnel) (i : ℕ) : Prop := i < s.sockets.length ∧ i ∉ s.closed ∧ i ∉ s.ended

/-- There is one socket at most, which is the one that the tunnel has while it is up, and one
reconnect at most. -/
structure Disciplined (s : SipTunnel) : Prop where
  one : ∀ i j, s.Unclosed i → s.Unclosed j → i = j
  held : s.currentState = .connecting ∨ s.currentState = .open →
    ∃ i, s.socket = some i ∧ s.Unclosed i
  timer : s.timers.length ≤ 1

/-- An event of a socket that the tunnel does not have changes nothing of the tunnel. -/
def Undisturbed (s : SipTunnel) (e : Event) : Prop :=
  ∀ i, e.socket? = some i → s.socket ≠ some i →
    (s.step o e).currentState = s.currentState ∧ (s.step o e).socket = s.socket ∧
      (s.step o e).timers = s.timers

/-- The step is as it should be. -/
def Lawful (s : SipTunnel) (e : Event) : Prop := Undisturbed o s e ∧ Disciplined (s.step o e)

/-- A connection is made where there is no socket, and a socket opens or ends that the tunnel has,
while no reconnect is pending; after a deliberate close, any socket ends. -/
def InTurn (s : SipTunnel) : Event → Prop
  | .connect token => token = "" ∨ s.socket = none
  | .opened i      => s.socket = some i ∨ s.currentState = .open
  | .ended i       => s.deliberateClose ∨ s.socket = some i ∧ s.timers = []
  | .fired _       => s.socket = none
  | _              => True

/-! ### The invariant -/

/-- The tunnel knows its socket and its timer, and has neither once it is closed deliberately. -/
structure Inv (s : SipTunnel) : Prop where
  made : ∀ i ∈ s.closed ++ s.ended, i < s.sockets.length
  unclosed : ∀ i, s.Unclosed i ↔ s.socket = some i
  up : s.socket.isSome ↔ s.currentState = .connecting ∨ s.currentState = .open
  timers : s.timers.map (·.1) = s.reconnectTimer.toList
  deliberate : s.deliberateClose →
    s.currentState = .closed ∧ s.socket = none ∧ s.reconnectTimer = none

variable {o} {s : SipTunnel}

lemma unclosed_new (hmade : ∀ i ∈ s.closed ++ s.ended, i < s.sockets.length) :
    (s.openSocket o).Unclosed s.sockets.length := by
  have hnew : ∀ l ⊆ s.closed ++ s.ended, s.sockets.length ∉ l := fun l hl hmem =>
    absurd (hmade _ (hl hmem)) (lt_irrefl _)
  refine ⟨?_, hnew _ (List.subset_append_left _ _), hnew _ (List.subset_append_right _ _)⟩
  simp [openSocket]

/-- A socket is made in a disciplined way where there is none. -/
lemma Disciplined.none_before (hdis : Disciplined (s.openSocket o))
    (hmade : ∀ i ∈ s.closed ++ s.ended, i < s.sockets.length) (i : ℕ) : ¬ s.Unclosed i := by
  intro hi
  have hold : (s.openSocket o).Unclosed i := by
    refine ⟨hi.1.trans ?_, hi.2⟩
    simp [openSocket]
  exact absurd (hdis.one i _ hold (unclosed_new hmade)) hi.1.ne

lemma reconnect_of_not (hopen : s.deliberateClose = false) (timers : List (ℕ × ℕ)) :
    { s with timers }.reconnect o = { s with timers, reconnectTimer := none }.openSocket o := by
  rw [reconnect]
  simp only [hopen, Bool.false_eq_true, if_false]

lemma timers_onclose (hopen : s.deliberateClose = false) (ended : List ℕ) :
    ({ s with ended }.onclose o).timers.length = s.timers.length + 1 := by
  rw [onclose]
  simp [hopen, scheduleReconnect]

namespace Inv

lemma init : Inv {} where
  made _ h := nomatch h
  unclosed _ := ⟨fun h => absurd h.1 (Nat.not_lt_zero _), fun h => nomatch h⟩
  up := by simp
  timers := rfl
  deliberate h := nomatch h

lemma disciplined (h : Inv s) : Disciplined s where
  one i j hi hj := Option.some.inj (((h.unclosed i).mp hi).symm.trans ((h.unclosed j).mp hj))
  held hup := by
    obtain ⟨i, hi⟩ := Option.isSome_iff_exists.mp (h.up.mpr hup)
    exact ⟨i, hi, (h.unclosed i).mpr hi⟩
  timer := by
    rw [← List.length_map (·.1), h.timers]
    exact Option.length_toList_le

/-- A timer that is pending is the one that the tunnel knows. -/
lemma reconnectTimer_eq (h : Inv s) {t : ℕ} (ht : t ∈ s.timers.map (·.1)) :
    s.reconnectTimer = some t := by
  rw [h.timers] at ht
  exact Option.mem_toList.mp ht

/-- No timer is pending but the one that the tunnel knows. -/
lemma timers_filter (h : Inv s) {t : ℕ} (ht : s.reconnectTimer = some t) :
    s.timers.filter (·.1 ≠ t) = [] := by
  rw [List.filter_eq_nil_iff]
  intro timer htimer
  have hmem : timer.1 ∈ s.timers.map (·.1) := List.mem_map_of_mem htimer
  rw [h.timers, ht, Option.toList_some, List.mem_singleton] at hmem
  simp [hmem]

lemma timers_eq_nil (h : Inv s) : s.reconnectTimer = none ↔ s.timers = [] := by
  rw [← List.map_eq_nil_iff (f := (·.1)), h.timers]
  cases s.reconnectTimer <;> simp

/-- Where the tunnel has no socket, there is none. -/
lemma not_unclosed (h : Inv s) (hnone : s.socket = none) (i : ℕ) : ¬ s.Unclosed i := by
  rw [h.unclosed i, hnone]
  exact fun hi => nomatch hi

/-- The socket that the tunnel makes is the only one. -/
lemma unclosed_openSocket (h : Inv s) (hnone : s.socket = none) (i : ℕ) :
    (s.openSocket o).Unclosed i ↔ i = s.sockets.length := by
  constructor
  · rintro ⟨hlt, hclosed⟩
    by_contra hne
    rw [SipTunnel.openSocket, List.length_append, List.length_singleton] at hlt
    exact h.not_unclosed hnone i ⟨by omega, hclosed⟩
  · rintro rfl
    exact unclosed_new h.made

lemma openSocket (h : Inv s) (hnone : s.socket = none) (hopen : s.deliberateClose = false) :
    Inv (s.openSocket o) where
  made i hi := (h.made i hi).trans (by simp [SipTunnel.openSocket])
  unclosed i := by
    rw [h.unclosed_openSocket hnone]
    simp [SipTunnel.openSocket, eq_comm]
  up := by simp [SipTunnel.openSocket]
  timers := h.timers
  deliberate hclose := absurd (hopen.symm.trans hclose) Bool.false_ne_true

lemma connect (h : Inv s) {token : String} (hturn : token = "" ∨ s.socket = none) :
    Inv (s.connect o token) := by
  rw [SipTunnel.connect]
  split_ifs with htoken
  · exact h
  · exact openSocket ⟨h.made, h.unclosed, h.up, h.timers, fun hclose => nomatch hclose⟩
      (hturn.resolve_left htoken) rfl

/-- What a deliberate close leaves. -/
lemma close_eq (h : Inv s) : s.close =
    { s with
      deliberateClose := true
      reconnectTimer := none
      timers := []
      closed := s.closed ++ s.socket.toList
      socket := none
      currentState := .closed } := by
  have htimer : s.reconnectTimer = none → s.timers = [] := h.timers_eq_nil.mp
  have hfilter := fun t => h.timers_filter (t := t)
  rw [SipTunnel.close, clearReconnect]
  split
  case h_1 hnone =>
    have hnone : s.reconnectTimer = none := hnone
    rw [closeSocket]
    split
    case h_1 hsocket =>
      have hsocket : s.socket = none := hsocket
      simp [hnone, htimer hnone, hsocket]
    case h_2 i hsocket =>
      have hsocket : s.socket = some i := hsocket
      simp [hnone, htimer hnone, hsocket]
  case h_2 t ht =>
    have ht : s.reconnectTimer = some t := ht
    rw [closeSocket]
    split
    case h_1 hsocket =>
      have hsocket : s.socket = none := hsocket
      simp only [hfilter t ht, hsocket, Option.toList_none, List.append_nil]
    case h_2 i hsocket =>
      have hsocket : s.socket = some i := hsocket
      simp only [hfilter t ht, hsocket, Option.toList_some]

lemma close (h : Inv s) : Inv s.close := by
  rw [h.close_eq]
  refine ⟨fun i hi => ?_, fun i => ?_, ?_, rfl, fun _ => ⟨rfl, rfl, rfl⟩⟩
  · rw [List.append_assoc, List.mem_append, List.mem_append] at hi
    obtain hi | hi | hi := hi
    · exact h.made i (List.mem_append_left _ hi)
    · exact ((h.unclosed i).mpr (Option.mem_toList.mp hi)).1
    · exact h.made i (List.mem_append_right _ hi)
  · have hold := h.unclosed i
    simp only [Unclosed, List.mem_append, Option.mem_toList, not_or] at hold ⊢
    constructor
    · rintro ⟨hlt, ⟨hclosed, hsocket⟩, hended⟩
      exact absurd (hold.mp ⟨hlt, hclosed, hended⟩) hsocket
    · exact fun hi => nomatch hi
  · simp

lemma onopen (h : Inv s) {i : ℕ} (hturn : s.socket = some i ∨ s.currentState = .open) :
    Inv s.onopen := by
  have hsome : s.socket.isSome := by
    obtain hsocket | hopen := hturn
    · rw [hsocket, Option.isSome_some]
    · exact h.up.mpr (.inr hopen)
  refine ⟨h.made, h.unclosed, ⟨fun _ => .inr rfl, fun _ => hsome⟩, h.timers, fun hclose => ?_⟩
  rw [(h.deliberate hclose).2.1] at hsome
  cases hsome

/-- The socket of the tunnel ends, or, after a deliberate close, any socket. -/
lemma onclose (h : Inv s) {i : ℕ} (hmade : i < s.sockets.length)
    (hturn : s.deliberateClose ∨ s.socket = some i ∧ s.timers = []) :
    Inv ({ s with ended := s.ended ++ [i] }.onclose o) := by
  have hmade' : ∀ j ∈ s.closed ++ (s.ended ++ [i]), j < s.sockets.length := by
    intro j hj
    rw [← List.append_assoc, List.mem_append, List.mem_singleton] at hj
    obtain hj | rfl := hj
    · exact h.made j hj
    · exact hmade
  -- no other socket is there than the one that ends
  have hnone : ∀ j, j < s.sockets.length → j ∉ s.closed → j ∉ s.ended ++ [i] → False := by
    intro j hlt hclosed hended
    rw [List.mem_append, List.mem_singleton, not_or] at hended
    have hj := (h.unclosed j).mp ⟨hlt, hclosed, hended.1⟩
    obtain hclose | ⟨hsocket, -⟩ := hturn
    · rw [(h.deliberate hclose).2.1] at hj
      cases hj
    · rw [hsocket, Option.some.injEq] at hj
      exact hended.2 hj.symm
  rw [SipTunnel.onclose]
  split_ifs with hclose
  · have hclose : s.deliberateClose := hclose
    exact ⟨hmade', fun j => ⟨fun hj => (hnone j hj.1 hj.2.1 hj.2.2).elim, fun hj => nomatch hj⟩,
      by simp, h.timers, fun _ => ⟨rfl, rfl, (h.deliberate hclose).2.2⟩⟩
  · have hnil : s.timers = [] := (hturn.resolve_left hclose).2
    refine ⟨hmade', fun j => ⟨fun hj => (hnone j hj.1 hj.2.1 hj.2.2).elim, fun hj => nomatch hj⟩,
      by simp [scheduleReconnect], ?_, fun hclose' => absurd hclose' hclose⟩
    simp [scheduleReconnect, hnil]

/-- A timer is pending only while the tunnel is not closed deliberately. -/
lemma not_deliberate (h : Inv s) {t : ℕ} (ht : t ∈ s.timers.map (·.1)) :
    s.deliberateClose = false := by
  by_contra hclose
  have hdone := (h.deliberate (Bool.eq_true_of_not_eq_false hclose)).2.2
  rw [h.reconnectTimer_eq ht] at hdone
  cases hdone

lemma reconnect (h : Inv s) {t : ℕ} (ht : t ∈ s.timers.map (·.1)) (hnone : s.socket = none) :
    Inv ({ s with timers := s.timers.filter (·.1 ≠ t) }.reconnect o) := by
  have htimer := h.reconnectTimer_eq ht
  have hopen : s.deliberateClose = false := h.not_deliberate ht
  rw [reconnect_of_not hopen]
  refine openSocket ⟨h.made, h.unclosed, h.up, ?_, fun hclose => ?_⟩ hnone hopen
  · rw [h.timers_filter htimer]
    rfl
  · have hclose : s.deliberateClose = true := hclose
    exact absurd (hopen.symm.trans hclose) Bool.false_ne_true

lemma send (h : Inv s) (data : String) : Inv (s.send data) := by
  rw [SipTunnel.send]
  split
  · exact h
  · split_ifs
    · exact ⟨h.made, h.unclosed, h.up, h.timers, h.deliberate⟩
    · exact h

lemma onmessage (h : Inv s) (data : String) : Inv (s.onmessage data) :=
  ⟨h.made, h.unclosed, h.up, h.timers, h.deliberate⟩

/-- One step of a run. -/
lemma step (h : Inv s) {e : Event} (hpossible : Possible s e) (hturn : InTurn s e) :
    Inv (s.step o e) := by
  cases e with
  | connect token => exact h.connect hturn
  | close => exact h.close
  | send data => exact h.send data
  | opened i => exact h.onopen hturn
  | message i data => exact h.onmessage data
  | ended i => exact h.onclose hpossible.1 hturn
  | fired t => exact h.reconnect hpossible hturn

/-- What is in turn does not disturb the tunnel. -/
lemma undisturbed (h : Inv s) {e : Event} (hturn : InTurn s e) : Undisturbed o s e := by
  intro i hi hother
  cases e with
  | message j data => exact ⟨rfl, rfl, rfl⟩
  | opened j =>
    cases hi
    exact ⟨(hturn.resolve_left hother).symm, rfl, rfl⟩
  | ended j =>
    cases hi
    have hclose : s.deliberateClose := hturn.resolve_right fun hsocket => hother hsocket.1
    obtain ⟨hstate, hsocket, -⟩ := h.deliberate hclose
    rw [SipTunnel.step, SipTunnel.onclose]
    simp only [hclose, if_true]
    exact ⟨hstate.symm, hsocket.symm, trivial⟩
  | _ => cases hi

/-- What is out of turn breaks the discipline at once. -/
lemma inTurn (h : Inv s) {e : Event} (hpossible : Possible s e) (hlawful : Lawful o s e) :
    InTurn s e := by
  obtain ⟨hundisturbed, hdis⟩ := hlawful
  cases e with
  | close | send data | message i data => trivial
  | connect token =>
    rw [InTurn, or_iff_not_imp_left]
    intro htoken
    by_contra hsome
    obtain ⟨i, hi⟩ := Option.ne_none_iff_exists'.mp hsome
    rw [SipTunnel.step, SipTunnel.connect, if_neg htoken] at hdis
    exact hdis.none_before h.made i ((h.unclosed i).mpr hi)
  | fired t =>
    by_contra hsome
    obtain ⟨i, hi⟩ := Option.ne_none_iff_exists'.mp hsome
    rw [SipTunnel.step, reconnect_of_not (h.not_deliberate hpossible)] at hdis
    exact hdis.none_before h.made i ((h.unclosed i).mpr hi)
  | opened i =>
    rw [InTurn, or_iff_not_imp_left]
    exact fun hother => (hundisturbed i rfl hother).1.symm
  | ended i =>
    rw [InTurn, or_iff_not_imp_left, Bool.not_eq_true]
    intro hopen
    have hlength := timers_onclose (o := o) hopen (s.ended ++ [i])
    constructor
    · by_contra hother
      have htimers := congrArg List.length (hundisturbed i rfl hother).2.2
      exact absurd (hlength.symm.trans htimers) (Nat.succ_ne_self _)
    · have hle := hlength.symm.trans_le hdis.timer
      exact List.eq_nil_of_length_eq_zero (Nat.le_zero.mp (Nat.le_of_succ_le_succ hle))

lemma lawful_iff (h : Inv s) {e : Event} (hpossible : Possible s e) :
    Lawful o s e ↔ InTurn s e :=
  ⟨h.inTurn hpossible, fun hturn => ⟨h.undisturbed hturn, (h.step hpossible hturn).disciplined⟩⟩

end Inv

/-- A run keeps the discipline if and only if each of its steps is in turn: there is one socket at
most, which is the one that the tunnel has while it is up, events of other sockets change nothing,
and one reconnect at most is pending. -/
theorem disciplined_iff (o : Options) (es : List Event)
    (hpossible : Along (step o) Possible {} es) :
    Disciplined {} ∧ Along (step o) (Lawful o) {} es ↔ Along (step o) InTurn {} es := by
  rw [and_iff_right Inv.init.disciplined]
  exact Along.congr (fun s e hs he hturn => hs.step he hturn) (fun s e hs he => hs.lawful_iff he)
    hpossible Inv.init

def plainOptions : Options := { baseUrl := "wss://cloud/", encodeURIComponent := id }

/-- A connection that is dropped, made again and closed, and whose close event comes last. -/
def dropAndClose : List Event := [.connect "tok", .opened 0, .ended 0, .fired 0, .close, .ended 1]

theorem disciplined_dropAndClose :
    Disciplined {} ∧ Along (step plainOptions) (Lawful plainOptions) {} dropAndClose := by
  refine (disciplined_iff plainOptions dropAndClose ?_).mpr ?_
  · simp [dropAndClose, Along, Possible, step, connect, openSocket, onopen, onclose,
      scheduleReconnect, reconnect, close, clearReconnect, closeSocket]
  · simp [dropAndClose, Along, InTurn, step, connect, openSocket, onopen, onclose,
      scheduleReconnect, reconnect, close, clearReconnect, closeSocket]

/-- The close event of the first socket comes when the tunnel has the second one. -/
theorem late_close_disturbs : ¬ ∀ (o : Options) (es : List Event),
    Along (step o) Possible {} es → Along (step o) (Lawful o) {} es := by
  intro hclaim
  have hlawful := hclaim plainOptions [.connect "a", .close, .connect "b", .ended 0] (by
    simp [Along, Possible, step, connect, openSocket, close, clearReconnect, closeSocket])
  obtain ⟨-, -, -, ⟨hundisturbed, -⟩, -⟩ := hlawful
  obtain ⟨-, hsocket, -⟩ := hundisturbed 0 rfl (by decide)
  exact absurd hsocket (by decide)

end SipTunnel
