import OnPremPbx.Email.Smtp

/-!
# Credentials and TLS

`SMTP::User::rx` starts TLS when a reply has the status `2.0.0`, and hands the reply to the state
machine, which goes on from `STARTTLS` to the log-in whatever the reply was. The credentials and the
message are kept from the plain connection as long as the reply to `STARTTLS` starts TLS.
-/

namespace SMTP

open Transition

/-- A command that was written, over TLS or not. `secured` tells whether a handshake had succeeded
on the connection. -/
structure Write where
  command : Command
  text : Bytes
  overTls : Bool
  secured : Bool
  deriving DecidableEq, Repr

/-- `SMTP::User` with its client. `secured` is read by no function. -/
structure User where
  fsm : State := .greeting
  isTlsUP : Bool := false
  secured : Bool := false
  mailServiceAvailable : Bool := true
  written : List Write := []
  deriving DecidableEq, Repr

namespace User

variable (env : Env)

/-- `Tls::start`: the flag is set whether the handshake succeeds or not. -/
def startTls (u : User) (handshake : Bool) : User :=
  { u with isTlsUP := true, secured := u.secured || handshake }

/-- The command is written, if it is not empty, over TLS or while there is a connection. -/
def send (u : User) (command : Command) (text : Bytes) : User :=
  if text = [] then u
  else if u.isTlsUP ∨ u.mailServiceAvailable then
    { u with written := u.written ++ [⟨command, text, u.isTlsUP, u.secured⟩] }
  else u

def endEmailTransaction (u : User) : User := { u with mailServiceAvailable := false }

/-- The state machine after its command was sent; after a 220 an error ends the transaction. -/
def settle (u : User) (o : Outcome) (endOnError : Bool) : User :=
  let u := { u with fsm := o.state }
  match o.result with
  | .gotoNextState | .remainInSameState                 => u
  | .ok | .tlsNotSupported | .incorrectLoginCredentials =>
    if endOnError then u.endEmailTransaction else u

/-- The lambda `dispatch` of `rx`; `text` is what a command is written as. -/
def dispatch (u : User) (o : Outcome) (text : Command → Bytes) (endOnError : Bool) : User :=
  let u := match o.out with
    | none         => u
    | some command => u.send command (text command)
  u.settle o endOnError

/-- What a reply does before the state machine has it, and the state machine's outcome. An exception
ends the process. -/
def receive (u : User) (reply : Bytes) (handshake : Bool) :
    Option (User × Outcome × Bool) := do
  let entries ← parseSmtpCommand reply
  let ent := env.begin entries
  let u := if ent.reply = 220 ∧ ent.statusCode = Bytes.ofString "2.0.0" then u.startTls handshake
    else u
  pure (u, u.fsm.onResponse env entries ent, decide (ent.reply = 220))

/-- `User::rx`, from which the client has nothing to read any more once it is not available. -/
def rx (acc : Account) (u : User) (reply : Bytes) (handshake : Bool) : User :=
  if u.mailServiceAvailable then
    match u.receive env reply handshake with
    | none                    => u.endEmailTransaction
    | some (u, o, endOnError) =>
      u.dispatch o (Command.text env acc (acc.attachment = [])) endOnError
  else u

end User

/-- The reply to `STARTTLS` on a connection without TLS starts TLS, and the handshake succeeds, or
the reply is one that the state machine stops at. -/
def Upgrades (env : Env) (u : User) (i : Bytes × Bool) : Prop :=
  u.mailServiceAvailable = true → u.fsm = .mail .init → u.secured = false →
    ∀ ent ∈ getSmtpStatusCode env i.1, ent.reply = 535 ∨
      ent.reply = 220 ∧ ent.statusCode = Bytes.ofString "2.0.0" ∧ i.2 = true

/-- The encoded user name, the encoded password and the mail. -/
def Command.IsSecret (c : Command) : Prop := c = .username ∨ c = .password ∨ c = .message

/-- Nothing secret was written before a handshake had succeeded. -/
def Sealed (u : User) : Prop := ∀ w ∈ u.written, w.command.IsSecret → w.secured = true

/-- The states before the log-in. -/
def State.Early (fsm : State) : Prop := fsm = .greeting ∨ fsm = .helo ∨ fsm = .mail .init

/-- As long as no handshake has succeeded, the log-in has not begun. -/
structure Inv (u : User) : Prop where
  sealed : Sealed u
  early : u.secured = false → u.mailServiceAvailable = true → u.fsm.Early

variable {env : Env} {u : User}

lemma Inv.init : Inv {} := ⟨fun _ hw => absurd hw List.not_mem_nil, fun _ _ => .inl rfl⟩

lemma Sealed.send (h : Sealed u) {command : Command} (hsecret : command.IsSecret → u.secured = true)
    (text : Bytes) : Sealed (u.send command text) := by
  rw [User.send]
  split_ifs
  · exact h
  · intro w hw
    rcases List.mem_append.mp hw with hw | hw
    · exact h w hw
    · rw [List.mem_singleton] at hw
      subst hw
      exact hsecret
  · exact h

lemma send_eq (u : User) (command : Command) (text : Bytes) :
    ∃ written, u.send command text = { u with written } := by
  rw [User.send]
  split_ifs <;> exact ⟨_, rfl⟩

/-- An early state sends nothing secret, and is left for a later one only from the log-in. -/
lemma early_onResponse {fsm : State} (h : fsm.Early) (entries : List Response) (ent : Response) :
    (∀ c ∈ (fsm.onResponse env entries ent).out, ¬ c.IsSecret) ∧
      (fsm ≠ .mail .init ∨ ent.reply = 535 → (fsm.onResponse env entries ent).state.Early) := by
  rcases h with rfl | rfl | rfl
  · rw [State.onResponse, State.onGreeting]
    split_ifs <;> simp [Command.IsSecret, State.Early]
  · rw [State.onResponse, State.onHelo]
    split_ifs <;> simp [Command.IsSecret, State.Early]
  · rw [State.onResponse]
    split_ifs with h535
    · simp [State.Early]
    · simp [State.onMailCommand, Command.IsSecret, h535]

lemma settle_eq (u : User) (o : Outcome) (endOnError : Bool) :
    ∃ available, u.settle o endOnError =
      { u with fsm := o.state, mailServiceAvailable := available } := by
  rw [User.settle]
  cases o.result <;> cases endOnError <;> exact ⟨_, rfl⟩

/-- A reply that makes the machine send nothing secret in the open, nor go on in it, is harmless. -/
lemma Inv.dispatch (h : Inv u) {o : Outcome} (text : Command → Bytes) (endOnError : Bool)
    (hsecret : ∀ c ∈ o.out, c.IsSecret → u.secured = true)
    (hearly : u.secured = false → o.state.Early) : Inv (u.dispatch o text endOnError) := by
  obtain ⟨out, result, state⟩ := o
  cases out with
  | none =>
    obtain ⟨available, heq⟩ := settle_eq u ⟨none, result, state⟩ endOnError
    rw [User.dispatch, heq]
    exact ⟨h.sealed, fun hopen _ => hearly hopen⟩
  | some c =>
    have hsealed := h.sealed.send (hsecret c rfl) (text c)
    obtain ⟨written, hsend⟩ := send_eq u c (text c)
    obtain ⟨available, heq⟩ :=
      settle_eq (u.send c (text c)) ⟨some c, result, state⟩ endOnError
    rw [User.dispatch]
    dsimp only
    rw [heq]
    refine ⟨hsealed, fun hopen _ => hearly ?_⟩
    rw [hsend] at hopen
    exact hopen

lemma Inv.startTls (h : Inv u) (handshake : Bool) : Inv (u.startTls handshake) := by
  refine ⟨h.sealed, fun hopen => h.early ?_⟩
  exact (Bool.or_eq_false_iff.mp hopen).1

lemma Inv.rx (h : Inv u) (acc : Account) {i : Bytes × Bool} (hi : Upgrades env u i) :
    Inv (u.rx env acc i.1 i.2) := by
  rw [User.rx]
  split_ifs with havailable
  swap
  · exact h
  rw [User.receive]
  cases hparse : parseSmtpCommand i.1 with
  | none => exact ⟨h.sealed, nofun⟩
  | some entries =>
    simp only [Option.bind_eq_bind, Option.bind_some, Option.pure_def]
    have hent : env.begin entries ∈ getSmtpStatusCode env i.1 := by
      rw [getSmtpStatusCode, hparse, Option.map_some, Option.mem_some_iff]
    have hupgrades := fun hfsm hopen => hi havailable hfsm hopen _ hent
    generalize env.begin entries = ent at hupgrades
    split_ifs with htls
    · -- TLS starts, and the states before the log-in send nothing secret.
      have hinv := h.startTls i.2
      by_cases hsecured : (u.startTls i.2).secured = true
      · exact hinv.dispatch _ _ (fun _ _ _ => hsecured) (fun hopen => by simp [hsecured] at hopen)
      · have hopen : (u.startTls i.2).secured = false := Bool.eq_false_iff.mpr hsecured
        obtain ⟨hquiet, hnext⟩ := @early_onResponse env _ (hinv.early hopen havailable)
          entries ent
        refine hinv.dispatch _ _ (fun c hc hs => absurd hs (hquiet c hc)) fun _ => hnext (.inl ?_)
        intro hfsm
        obtain ⟨hopen, hfailed⟩ := Bool.or_eq_false_iff.mp hopen
        rcases hupgrades hfsm hopen with h535 | ⟨-, -, hdone⟩
        · exact absurd (h535.symm.trans htls.1) (by decide)
        · exact absurd (hfailed.symm.trans hdone) (by decide)
    · by_cases hsecured : u.secured = true
      · exact h.dispatch _ _ (fun _ _ _ => hsecured) (fun hopen => by simp [hsecured] at hopen)
      · have hopen : u.secured = false := Bool.eq_false_iff.mpr hsecured
        obtain ⟨hquiet, hnext⟩ := @early_onResponse env _ (h.early hopen havailable)
          entries ent
        refine h.dispatch _ _ (fun c hc hs => absurd hs (hquiet c hc)) fun _ => hnext ?_
        by_cases hfsm : u.fsm = .mail .init
        · rcases hupgrades hfsm hopen with h535 | ⟨h220, hcode, -⟩
          · exact .inr h535
          · exact absurd ⟨h220, hcode⟩ htls
        · exact .inl hfsm

/-- A connection on which the replies are received, each with the outcome of a handshake that it
starts. -/
def User.run (env : Env) (acc : Account) : User → List (Bytes × Bool) → User :=
  List.foldl fun u i => u.rx env acc i.1 i.2

/-! ### Credentials travel over TLS where the reply to `STARTTLS` starts it -/

/-- If every reply to `STARTTLS` either starts TLS with a handshake that succeeds or is a 535, then
nothing secret is written before a handshake has succeeded. -/
theorem sealed_of_upgrades (env : Env) (acc : Account) (replies : List (Bytes × Bool))
    (h : Along (fun u i => u.rx env acc i.1 i.2) (Upgrades env) {} replies) :
    Sealed (User.run env acc {} replies) :=
  (h.invariant (fun _ _ hok hinv => hinv.rx acc hok) Inv.init).sealed

/-- A server's dialogue needs only the two challenges and the user name's encoding. -/
def sampleEnv : Env where
  begin entries := entries.headD ⟨0, []⟩
  encode s := if s = Bytes.ofString "a@b.cd" then Bytes.ofString "YUBiLmNk\n" else s
  decode s :=
    if s = Bytes.ofString "VXNlcm5hbWU6" then some (Bytes.ofString "Username:")
    else if s = Bytes.ofString "UGFzc3dvcmQ6" then some (Bytes.ofString "Password:")
    else none
  date := Bytes.ofString "Thu Jan  1 00:00:00 1970\n"
  readFile _ := none

def sampleAccount : Account where
  fromEmail := Bytes.ofString "a@b.cd"
  fromPassword := Bytes.ofString "secret"

/-- The dialogue up to the user name, with the reply to `STARTTLS`. -/
def dialogue (reply : String) : List (Bytes × Bool) :=
  [(Bytes.ofString "220 mx ready\r\n", true),
    (Bytes.ofString "250 STARTTLS\r\n", true),
    (Bytes.ofString reply, true),
    (Bytes.ofString "334 VXNlcm5hbWU6\r\n", true)]

instance (env : Env) (u : User) (i : Bytes × Bool) : Decidable (Upgrades env u i) :=
  inferInstanceAs (Decidable (_ → _ → _ → ∀ ent ∈ getSmtpStatusCode env i.1, _))

instance (c : Command) : Decidable c.IsSecret := inferInstanceAs (Decidable (_ ∨ _ ∨ _))

instance (u : User) : Decidable (Sealed u) := inferInstanceAs (Decidable (∀ w ∈ u.written, _))

theorem sealed_of_upgrades_started :
    Sealed (User.run sampleEnv sampleAccount {} (dialogue "220 2.0.0 Ready to start TLS\r\n")) :=
  sealed_of_upgrades sampleEnv sampleAccount _ (by decide +kernel)

/-- A server that refuses TLS gets the user name. -/
theorem refused_tls_gets_username :
    ¬ Sealed (User.run sampleEnv sampleAccount {}
      (dialogue "454 4.7.0 TLS not available\r\n")) := by
  decide +kernel

end SMTP
