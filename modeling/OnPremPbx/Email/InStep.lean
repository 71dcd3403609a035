import OnPremPbx.Email.Tls
import OnPremPbx.Email.Mime

/-!
# The client and the replies

A server replies to each command, and once to each of the commands of a write with several
recipients. `SMTP::User::rx` takes each read for a reply to what was written last, and most states
go on whatever the reply says. So the client is in step with the server as long as the states go on
only when the replies that they should wait for have come.
-/

namespace SMTP

open Transition

/-! ### Replies -/

/-- The replies in what a server wrote, each by its last line: the lines before it have a hyphen
after the code. -/
def repliesOf (s : Bytes) : List Bytes :=
  (Mime.lines s).dropLast.filter fun l => decide (l[3]? ≠ some 0x2D)

def IsPositive (r : Bytes) : Prop := r.head? = some 0x32
def IsNegative (r : Bytes) : Prop := r.head? = some 0x34 ∨ r.head? = some 0x35
def IsStartMailInput (r : Bytes) : Prop := Bytes.ofString "354" <+: r

instance : DecidablePred IsPositive := fun r => inferInstanceAs (Decidable (r.head? = _))
instance : DecidablePred IsNegative := fun _ => inferInstanceAs (Decidable (_ ∨ _))
instance : DecidablePred IsStartMailInput := fun r => inferInstanceAs (Decidable (_ <+: r))

/-! ### Sessions -/

/-- A command, with the replies that had been read when it was written. -/
structure Entry where
  command : Command
  replies : List Bytes
  deriving DecidableEq, Repr

/-- A client with what it has read and written. -/
structure Session where
  user : User := {}
  read : Bytes := []
  log : List Entry := []

/-- The client receives a read. -/
def Session.receive (env : Env) (acc : Account) (s : Session) (i : Bytes × Bool) : Session :=
  let user := s.user.rx env acc i.1 i.2
  let read := s.read ++ i.1
  let written := user.written.drop s.user.written.length
  ⟨user, read, s.log ++ written.map fun w => ⟨w.command, repliesOf read⟩⟩

def Session.run (env : Env) (acc : Account) : Session → List (Bytes × Bool) → Session :=
  List.foldl (Session.receive env acc)

section

variable (acc : Account)

/-- The number of replies to a write. -/
def Command.units : Command → ℕ
  | .rcptTo => acc.toEmail.length
  | _       => 1

/-- The replies to a command, of those to the commands that were sent. -/
def repliesTo (c : Command) : List Command → List Bytes → List Bytes
  | [], _        => []
  | c' :: cs, rs =>
    if c' = c then rs.take (c.units acc) else repliesTo c cs (rs.drop (c'.units acc))

/-- A command may be written after those that were sent. The first reply of all is the greeting. -/
def Allowed (sent : List Command) (e : Entry) : Prop :=
  let replies c := repliesTo acc c sent (e.replies.drop 1)
  match e.command with
  | .rcptTo  => ∃ r ∈ replies .mailFrom, IsPositive r
  | .data    =>
    (replies .rcptTo).length = acc.toEmail.length ∧ ∃ r ∈ replies .rcptTo, IsPositive r
  | .message => (∃ r ∈ replies .data, IsStartMailInput r) ∧ ∀ r ∈ e.replies, ¬ IsNegative r
  | .quit    => replies .message ≠ []
  | _        => True

/-- Every command was written when it was allowed. -/
def InStep (log : List Entry) : Prop :=
  Along (fun sent e => sent ++ [e.command]) (Allowed acc) [] log

/-! ### When the states go on -/

/-- A reply that makes a state write its command, from `RCPT` on. -/
def State.goesOn (ent : Response) : State → Bool
  | .rcpt        => ¬ (ent.reply = 535 ∨ ent.reply = 250 ∧ ent.statusCode ≠ Bytes.ofString "2.1.0")
  | .data        => ent.reply ≠ 535
  | .body        => ent.reply ≠ 535
  | .quit        =>
    ¬ (ent.reply = 250 ∧ ent.statusCode ≠ Bytes.ofString "2.0.0") ∧ ent.reply ≠ 221
  | _            => false

/-- The number of replies to what was sent before the mail's `QUIT`, with the greeting. -/
def asked (sent : List Command) : ℕ :=
  1 + ((sent.filter (· ≠ .quit)).map (Command.units acc)).sum

/-- The last of the replies that were asked for. -/
def latest (n : ℕ) (sent : List Command) (rs : List Bytes) : List Bytes :=
  (rs.take (asked acc sent)).drop (asked acc sent - n)

/-- What a state should have waited for. -/
def Ready (sent : List Command) (rs : List Bytes) : State → Prop
  | .rcpt => acc.toEmail ≠ [] → ∃ r ∈ latest acc 1 sent rs, IsPositive r
  | .data =>
    asked acc sent ≤ rs.length ∧ ∃ r ∈ latest acc acc.toEmail.length sent rs, IsPositive r
  | .body => (∃ r ∈ latest acc 1 sent rs, IsStartMailInput r) ∧ ∀ r ∈ rs, ¬ IsNegative r
  | .quit => asked acc sent ≤ rs.length
  | _     => True

/-- If a read makes the state go on, then what it should wait for has come. -/
def Fits (env : Env) (s : Session) (i : Bytes × Bool) : Prop :=
  s.user.mailServiceAvailable = true → ∀ ent ∈ getSmtpStatusCode env i.1,
    s.user.fsm.goesOn ent = true →
      Ready acc (s.log.map (·.command)) (repliesOf (s.read ++ i.1)) s.user.fsm

/-! ### What a read writes -/

variable {acc} {env : Env}

lemma send_written {u : User} (h : u.isTlsUP = true ∨ u.mailServiceAvailable = true) (c : Command)
    (text : Bytes) : ∃ news, (u.send c text).written = u.written ++ news ∧
      news.map (·.command) = if text = [] then [] else [c] := by
  rw [User.send, if_pos h]
  split_ifs
  · exact ⟨[], (List.append_nil _).symm, rfl⟩
  · exact ⟨_, rfl, rfl⟩

/-- The commands of an outcome that are not empty. -/
def Outcome.commands (o : Outcome) (text : Command → Bytes) : List Command :=
  o.out.toList.filter fun c => text c ≠ []

lemma dispatch_written {u : User} (h : u.isTlsUP = true ∨ u.mailServiceAvailable = true)
    (o : Outcome) (text : Command → Bytes) (endOnError : Bool) :
    (u.dispatch o text endOnError).fsm = o.state ∧
      ∃ news, (u.dispatch o text endOnError).written = u.written ++ news ∧
        news.map (·.command) = o.commands text := by
  obtain ⟨out, result, state⟩ := o
  cases out with
  | none =>
    obtain ⟨available, heq⟩ := settle_eq u ⟨none, result, state⟩ endOnError
    rw [User.dispatch, heq]
    exact ⟨rfl, [], (List.append_nil _).symm, rfl⟩
  | some c =>
    obtain ⟨available, heq⟩ := settle_eq (u.send c (text c)) ⟨some c, result, state⟩ endOnError
    obtain ⟨news, hwritten, hnews⟩ := send_written h c (text c)
    rw [User.dispatch, heq]
    refine ⟨rfl, news, hwritten, ?_⟩
    rw [hnews, Outcome.commands]
    by_cases htext : text c = [] <;> simp [htext]

/-- A read that the client takes for a reply, and what the state makes of it. -/
def Session.outcome (env : Env) (s : Session) (i : Bytes × Bool) : Option (Response × Outcome) :=
  if s.user.mailServiceAvailable then
    (parseSmtpCommand i.1).map fun entries =>
      (env.begin entries, s.user.fsm.onResponse env entries (env.begin entries))
  else none

variable (env) in
/-- The texts of the commands as `rx` writes them. -/
def Account.text (acc : Account) : Command → Bytes := Command.text env acc (acc.attachment = [])

lemma startTls_eq (u : User) (handshake : Bool) (p : Prop) [Decidable p] :
    ∃ isTlsUP secured, (if p then u.startTls handshake else u) = { u with isTlsUP, secured } := by
  split_ifs
  · exact ⟨true, _, rfl⟩
  · exact ⟨u.isTlsUP, u.secured, rfl⟩

lemma receive_of_none {s : Session} {i : Bytes × Bool} (h : s.outcome env i = none) :
    (s.receive env acc i).user.fsm = s.user.fsm ∧ (s.receive env acc i).log = s.log := by
  have hrx : (s.user.rx env acc i.1 i.2).fsm = s.user.fsm ∧
      (s.user.rx env acc i.1 i.2).written = s.user.written := by
    rw [User.rx]
    split_ifs with havailable
    · rw [Session.outcome, if_pos havailable, Option.map_eq_none_iff] at h
      rw [User.receive, h]
      exact ⟨rfl, rfl⟩
    · exact ⟨rfl, rfl⟩
  refine ⟨hrx.1, ?_⟩
  rw [Session.receive, hrx.2, List.drop_length, List.map_nil, List.append_nil]

lemma receive_of_some {s : Session} {i : Bytes × Bool} {ent : Response} {o : Outcome}
    (h : s.outcome env i = some (ent, o)) :
    (s.receive env acc i).user.fsm = o.state ∧ (s.receive env acc i).log =
      s.log ++ (o.commands (acc.text env)).map fun c => ⟨c, repliesOf (s.read ++ i.1)⟩ := by
  rw [Session.outcome] at h
  split_ifs at h with havailable
  obtain ⟨entries, hparse, heq⟩ := Option.map_eq_some_iff.mp h
  obtain ⟨rfl, rfl⟩ := Prod.mk.inj heq
  have hrx : (s.user.rx env acc i.1 i.2).fsm =
        (s.user.fsm.onResponse env entries (env.begin entries)).state ∧
      ∃ news, (s.user.rx env acc i.1 i.2).written = s.user.written ++ news ∧
        news.map (·.command) = (s.user.fsm.onResponse env entries (env.begin entries)).commands
          (acc.text env) := by
    rw [User.rx, if_pos havailable, User.receive, hparse]
    simp only [Option.bind_eq_bind, Option.bind_some, Option.pure_def]
    obtain ⟨isTlsUP, secured, htls⟩ := startTls_eq s.user i.2 ((env.begin entries).reply = 220 ∧
      (env.begin entries).statusCode = Bytes.ofString "2.0.0")
    rw [htls]
    exact dispatch_written (u := { s.user with isTlsUP, secured }) (.inr havailable) _ _ _
  obtain ⟨hfsm, news, hwritten, hnews⟩ := hrx
  refine ⟨hfsm, ?_⟩
  rw [Session.receive, hwritten, List.drop_left, ← hnews, List.map_map]
  rfl

/-! ### The commands in order -/

/-- The commands of the log-in. -/
def Command.IsEarly : Command → Bool
  | .ehlo | .startTls | .authLogin | .username | .password | .rset => true
  | .mailFrom | .rcptTo | .data | .message | .quit                 => false

/-- The `RCPT`s, if there are any. -/
def Account.rcpts (acc : Account) : List Command := if acc.toEmail = [] then [] else [.rcptTo]

/-- What has been sent of the mail in a state. -/
def State.sent (acc : Account) : State → List Command
  | .rcpt => [.mailFrom]
  | .data => .mailFrom :: acc.rcpts
  | .body => .mailFrom :: (acc.rcpts ++ [.data])
  | .quit => .mailFrom :: (acc.rcpts ++ [.data, .message])
  | _     => []

/-- The log-in, what the state has sent, and `QUIT`s. -/
def Progress (acc : Account) (fsm : State) (cs : List Command) : Prop :=
  ∃ early quits, cs = early ++ (fsm.sent acc ++ quits) ∧ (∀ c ∈ early, c.IsEarly = true) ∧
    ∀ c ∈ quits, c = .quit ∧ fsm = .quit

lemma rcptTo_text : acc.text env .rcptTo = [] ↔ acc.toEmail = [] := by
  change (acc.toEmail.flatMap fun elm => Bytes.ofString "RCPT TO: <" ++ elm ++ _) = [] ↔ _
  cases acc.toEmail with
  | nil => simp
  | cons elm elms => simp [Bytes.ofString]

lemma rcpts_eq : acc.rcpts = [Command.rcptTo].filter fun c => acc.text env c ≠ [] := by
  rw [Account.rcpts]
  by_cases h : acc.toEmail = [] <;> simp [rcptTo_text, h]

/-- The text of a command of the mail is not empty. -/
lemma text_ne_nil {c : Command} (h : c ∈ [Command.mailFrom, .data, .message, .quit]) :
    acc.text env c ≠ [] := by
  fin_cases h <;>
    simp [Account.text, Command.text, buildMimeMessage, Bytes.ofString]

/-- From `RCPT` on, a state, the command that it writes when it goes on, and the next state. -/
def State.turns : List (State × Command × State) :=
  [(.rcpt, .rcptTo, .data), (.data, .data, .body), (.body, .message, .quit), (.quit, .quit, .quit)]

/-- What a reply does: nothing, a step of the log-in, the first command of the mail, or a turn. -/
lemma onResponse_cases (fsm : State) (entries : List Response) (ent : Response) :
    let o := fsm.onResponse env entries ent
    fsm.goesOn ent = false ∧ o.out = none ∧ o.state = fsm ∨
      fsm.goesOn ent = false ∧ fsm.sent acc = [] ∧ o.state.sent acc = [] ∧ fsm ≠ .quit ∧
        (∃ c, o.out = some c ∧ c.IsEarly = true) ∨
      fsm.goesOn ent = false ∧ fsm = .mail .success ∧ o.out = some .mailFrom ∧ o.state = .rcpt ∨
      fsm.goesOn ent = true ∧ ∃ c, o.out = some c ∧ (fsm, c, o.state) ∈ State.turns := by
  intro o
  cases fsm with
  | greeting =>
    by_cases h : ent.reply = 220 <;>
      simp [o, State.onResponse, State.onGreeting, State.goesOn, State.sent, Command.IsEarly, h]
  | helo =>
    rw [show o = State.onHelo entries ent from rfl, State.onHelo]
    split_ifs <;> simp [State.goesOn, State.sent, Command.IsEarly]
  | mail authStage =>
    by_cases h : ent.reply = 535
    · simp [o, State.onResponse, State.goesOn, h]
    · rw [show o = State.onMailCommand env ent authStage from if_neg h]
      cases authStage with
      | init => simp [State.onMailCommand, State.goesOn, State.sent, Command.IsEarly]
      | username | password | success =>
        rw [State.onMailCommand]
        split_ifs <;> simp [State.goesOn, State.sent, Command.IsEarly]
  | rcpt =>
    by_cases h : ent.reply = 535 ∨ ent.reply = 250 ∧ ent.statusCode ≠ Bytes.ofString "2.1.0" <;>
      simp [o, State.onResponse, State.goesOn, State.turns, h]
  | data =>
    by_cases h : ent.reply = 535 <;> simp [o, State.onResponse, State.goesOn, State.turns, h]
  | body =>
    by_cases h : ent.reply = 535 <;> simp [o, State.onResponse, State.goesOn, State.turns, h]
  | quit =>
    rw [show o = State.onResponse env entries ent .quit from rfl, State.onResponse]
    split_ifs <;> simp_all [State.goesOn, State.turns]

lemma commands_none {o : Outcome} (h : o.out = none) (text : Command → Bytes) :
    o.commands text = [] := by rw [Outcome.commands, h]; rfl

lemma commands_some {o : Outcome} {c : Command} (h : o.out = some c) (text : Command → Bytes) :
    o.commands text = [c].filter fun c => text c ≠ [] := by rw [Outcome.commands, h]; rfl

/-- The command of a turn is what the next state has sent more, a `QUIT` after the first one
apart. -/
lemma sent_turn {fsm fsm' : State} {c : Command} (h : (fsm, c, fsm') ∈ State.turns) :
    (fsm ≠ .quit → fsm.sent acc ++ ([c].filter fun c => acc.text env c ≠ []) = fsm'.sent acc) ∧
      (fsm = .quit → c = .quit ∧ fsm' = .quit) := by
  have hdata := @text_ne_nil acc env .data (by decide)
  have hmessage := @text_ne_nil acc env .message (by decide)
  simp only [State.turns, List.mem_cons, Prod.mk.injEq, List.not_mem_nil, or_false] at h
  rcases h with ⟨rfl, rfl, rfl⟩ | ⟨rfl, rfl, rfl⟩ | ⟨rfl, rfl, rfl⟩ | ⟨rfl, rfl, rfl⟩
  · exact ⟨fun _ => by rw [← rcpts_eq]; rfl, nofun⟩
  · exact ⟨fun _ => by simp [State.sent, hdata], nofun⟩
  · exact ⟨fun _ => by simp [State.sent, hmessage], nofun⟩
  · exact ⟨fun h => absurd rfl h, fun _ => ⟨rfl, rfl⟩⟩

lemma Progress.init : Progress acc .greeting [] := ⟨[], [], rfl, nofun, nofun⟩

/-- There is no `QUIT` before the message was sent. -/
lemma Progress.eq {fsm : State} {cs : List Command} (h : Progress acc fsm cs)
    (hquit : fsm ≠ .quit) :
    ∃ early, cs = early ++ fsm.sent acc ∧ ∀ c ∈ early, c.IsEarly = true := by
  obtain ⟨early, quits, rfl, hearly, hquits⟩ := h
  rcases quits with _ | ⟨q, qs⟩
  · exact ⟨early, by rw [List.append_nil], hearly⟩
  · exact absurd (hquits q List.mem_cons_self).2 hquit

lemma Progress.of_eq {fsm : State} {early : List Command}
    (hearly : ∀ c ∈ early, c.IsEarly = true) : Progress acc fsm (early ++ fsm.sent acc) :=
  ⟨early, [], by rw [List.append_nil], hearly, nofun⟩

/-- A reply keeps the commands in order. -/
lemma Progress.receive {fsm : State} {cs : List Command} (h : Progress acc fsm cs)
    (entries : List Response) (ent : Response) :
    Progress acc (fsm.onResponse env entries ent).state
      (cs ++ (fsm.onResponse env entries ent).commands (acc.text env)) := by
  rcases @onResponse_cases acc env fsm entries ent with ⟨-, hout, hstate⟩ |
    ⟨-, hsent, hsent', hquit, c, hout, hc⟩ | ⟨-, rfl, hout, hstate⟩ | ⟨-, c, hout, hturn⟩
  · rw [commands_none hout, hstate, List.append_nil]
    exact h
  · -- A step of the log-in writes a command of the log-in, or nothing.
    obtain ⟨early, rfl, hearly⟩ := h.eq hquit
    have hearly' : ∀ c' ∈ early ++ [c].filter fun c => acc.text env c ≠ [],
        c'.IsEarly = true := by
      intro c' hc'
      rcases List.mem_append.mp hc' with hc' | hc'
      · exact hearly c' hc'
      · rw [List.mem_singleton.mp (List.mem_filter.mp hc').1]
        exact hc
    rw [commands_some hout, hsent, List.append_nil]
    exact ⟨_, [], by rw [hsent', List.append_nil, List.append_nil], hearly', nofun⟩
  · obtain ⟨early, rfl, hearly⟩ := h.eq nofun
    have hmail : ([Command.mailFrom].filter fun c => acc.text env c ≠ []) = [.mailFrom] := by
      simp [@text_ne_nil acc env .mailFrom (by decide)]
    rw [commands_some hout, hstate, hmail]
    simpa only [State.sent, List.append_nil] using @Progress.of_eq acc .rcpt early hearly
  · rw [commands_some hout]
    by_cases hquit : fsm = .quit
    · obtain ⟨rfl, hstate⟩ := (@sent_turn acc env _ _ _ hturn).2 hquit
      obtain ⟨early, quits, rfl, hearly, hquits⟩ := h
      refine ⟨early, quits ++ [.quit], ?_, hearly, fun c hc => ⟨?_, hstate⟩⟩
      · rw [hstate, hquit]
        simp [@text_ne_nil acc env .quit (by decide)]
      · rcases List.mem_append.mp hc with hc | hc
        · exact (hquits c hc).1
        · exact List.mem_singleton.mp hc
    · obtain ⟨early, rfl, hearly⟩ := h.eq hquit
      rw [List.append_assoc, (sent_turn hturn).1 hquit]
      exact Progress.of_eq hearly

/-! ### The replies to a command -/

lemma repliesTo_append {c : Command} {before : List Command} (h : c ∉ before)
    (after : List Command) (rs : List Bytes) :
    repliesTo acc c (before ++ c :: after) rs =
      (rs.drop (before.map (Command.units acc)).sum).take (c.units acc) := by
  induction before generalizing rs with
  | nil =>
    rw [List.nil_append, repliesTo, if_pos rfl]
    rfl
  | cons c' before ih =>
    rw [List.cons_append, repliesTo, if_neg (List.ne_of_not_mem_cons h).symm,
      ih fun hc => h (List.mem_cons_of_mem _ hc)]
    rw [List.drop_drop, List.map_cons, List.sum_cons]

/-- A command after which there are only `QUIT`s. -/
structure IsLast (c : Command) (before quits cs : List Command) : Prop where
  eq : cs = before ++ c :: quits
  notMem : c ∉ before
  mail : ∀ c' ∈ before ++ [c], c' ≠ .quit
  isQuit : ∀ c' ∈ quits, c' = .quit

namespace IsLast

variable {c : Command} {before quits cs : List Command}

lemma asked_eq (h : IsLast c before quits cs) :
    asked acc cs = 1 + (before.map (Command.units acc)).sum + c.units acc := by
  have hfilter : cs.filter (· ≠ .quit) = before ++ [c] := by
    rw [h.eq, ← List.singleton_append, ← List.append_assoc, List.filter_append,
      List.filter_eq_self.mpr fun c' hc' => by simpa using h.mail c' hc',
      List.filter_eq_nil_iff.mpr fun c' hc' => by simpa using h.isQuit c' hc', List.append_nil]
  rw [asked, hfilter, List.map_append, List.sum_append, List.map_singleton, List.sum_singleton,
    Nat.add_assoc]

/-- Its replies are the last that were asked for. -/
lemma repliesTo_eq (h : IsLast c before quits cs) (rs : List Bytes) :
    repliesTo acc c cs (rs.drop 1) = latest acc (c.units acc) cs rs := by
  rw [latest, h.asked_eq, Nat.add_sub_cancel, List.drop_take, Nat.add_sub_cancel_left, h.eq,
    repliesTo_append h.notMem, List.drop_drop]

lemma length_latest (h : IsLast c before quits cs) (rs : List Bytes) (hpos : 0 < c.units acc) :
    (latest acc (c.units acc) cs rs).length = c.units acc ↔ asked acc cs ≤ rs.length := by
  rw [latest, List.length_drop, List.length_take, h.asked_eq]
  omega

end IsLast

/-- The command whose replies a state waits for. -/
def State.awaits : State → Command
  | .rcpt => .mailFrom
  | .data => .rcptTo
  | .body => .data
  | _     => .message

lemma mem_rcpts {c : Command} (h : c ∈ acc.rcpts) : c = .rcptTo := by
  rw [Account.rcpts] at h
  split_ifs at h
  · exact absurd h List.not_mem_nil
  · exact List.mem_singleton.mp h

/-- The command that a state waits for is the last one of what it has sent. -/
lemma sent_eq {fsm fsm' : State} {c : Command} (hturn : (fsm, c, fsm') ∈ State.turns)
    (hdata : fsm = .data → acc.toEmail ≠ []) :
    ∃ mid, fsm.sent acc = mid ++ [fsm.awaits] ∧ fsm.awaits.IsEarly = false ∧
      fsm.awaits ≠ .quit ∧ ∀ c ∈ mid, c ≠ fsm.awaits ∧ c ≠ .quit := by
  simp only [State.turns, List.mem_cons, Prod.mk.injEq, List.not_mem_nil, or_false] at hturn
  rcases hturn with ⟨rfl, -, -⟩ | ⟨rfl, -, -⟩ | ⟨rfl, -, -⟩ | ⟨rfl, -, -⟩
  · exact ⟨[], rfl, rfl, nofun, nofun⟩
  · refine ⟨[.mailFrom], ?_, rfl, nofun, by simp [State.awaits]⟩
    rw [State.sent, Account.rcpts, if_neg (hdata rfl)]
    rfl
  · refine ⟨.mailFrom :: acc.rcpts, rfl, rfl, nofun, fun c hc => ?_⟩
    rcases List.mem_cons.mp hc with rfl | hc
    · simp [State.awaits]
    · simp [State.awaits, mem_rcpts hc]
  · refine ⟨.mailFrom :: (acc.rcpts ++ [.data]), by simp [State.sent, State.awaits], rfl, nofun,
      fun c hc => ?_⟩
    simp only [List.mem_cons, List.mem_append, List.not_mem_nil, or_false] at hc
    rcases hc with rfl | hc | rfl
    · simp [State.awaits]
    · simp [State.awaits, mem_rcpts hc]
    · simp [State.awaits]

/-- In the states from `RCPT` on the last command but `QUIT`s is the one whose replies the state
waits for. -/
lemma Progress.isLast {fsm fsm' : State} {c : Command} {cs : List Command} (h : Progress acc fsm cs)
    (hturn : (fsm, c, fsm') ∈ State.turns) (hdata : fsm = .data → acc.toEmail ≠ []) :
    ∃ before quits, IsLast fsm.awaits before quits cs := by
  obtain ⟨early, quits, rfl, hearly, hquits⟩ := h
  obtain ⟨mid, hsent, hawaits, hne, hmid⟩ := sent_eq hturn hdata
  refine ⟨early ++ mid, quits, by rw [hsent]; simp, ?_, ?_, fun c hc => (hquits c hc).1⟩
  · intro hmem
    rcases List.mem_append.mp hmem with hmem | hmem
    · exact Bool.false_ne_true (hawaits.symm.trans (hearly _ hmem))
    · exact (hmid _ hmem).1 rfl
  · intro c' hc'
    rcases List.mem_append.mp hc' with hc' | hc'
    · rcases List.mem_append.mp hc' with hc' | hc'
      · rintro rfl
        exact Bool.false_ne_true (hearly _ hc')
      · exact (hmid c' hc').2
    · rw [List.mem_singleton.mp hc']
      exact hne

/-! ### Being in step -/

/-- Without recipients there is no reply that allows `DATA`. -/
lemma not_data_of_nil (h : acc.toEmail = []) (cs : List Command) (rs : List Bytes) :
    ¬ Allowed acc cs ⟨.data, rs⟩ ∧ ¬ Ready acc cs rs .data := by
  constructor
  · rintro ⟨hlength, r, hr, -⟩
    dsimp only at hlength hr
    rw [h] at hlength
    rw [List.length_eq_zero_iff.mp hlength] at hr
    exact absurd hr List.not_mem_nil
  · rintro ⟨-, r, hr, -⟩
    rw [latest, h, List.length_nil, Nat.sub_zero, List.drop_of_length_le] at hr
    · exact absurd hr List.not_mem_nil
    · exact List.length_take_le _ _

/-- The command of a turn is allowed if and only if the state has what it should wait for. -/
lemma allowed_iff_ready {fsm fsm' : State} {c : Command} {cs : List Command}
    (h : Progress acc fsm cs) (hturn : (fsm, c, fsm') ∈ State.turns) (hc : acc.text env c ≠ [])
    (rs : List Bytes) : Allowed acc cs ⟨c, rs⟩ ↔ Ready acc cs rs fsm := by
  by_cases hnone : fsm = .data ∧ acc.toEmail = []
  · obtain ⟨rfl, hnil⟩ := hnone
    obtain ⟨rfl, rfl⟩ : c = .data ∧ fsm' = .body := by simpa [State.turns] using hturn
    obtain ⟨hallowed, hready⟩ := not_data_of_nil hnil cs rs
    exact iff_of_false hallowed hready
  obtain ⟨before, quits, hlast⟩ := h.isLast hturn fun hfsm hnil => hnone ⟨hfsm, hnil⟩
  have hreplies := @IsLast.repliesTo_eq acc _ _ _ _ hlast rs
  simp only [State.turns, List.mem_cons, Prod.mk.injEq, List.not_mem_nil, or_false] at hturn
  rcases hturn with ⟨rfl, rfl, rfl⟩ | ⟨rfl, rfl, rfl⟩ | ⟨rfl, rfl, rfl⟩ | ⟨rfl, rfl, rfl⟩
  · rw [Allowed, Ready]
    dsimp only
    rw [show repliesTo acc .mailFrom cs (rs.drop 1) = _ from hreplies]
    exact ⟨fun h _ => h, fun h => h (mt rcptTo_text.mpr hc)⟩
  · have hpos : 0 < acc.toEmail.length :=
      List.length_pos_iff.mpr fun hnil => hnone ⟨rfl, hnil⟩
    rw [Allowed, Ready]
    dsimp only
    rw [show repliesTo acc .rcptTo cs (rs.drop 1) = _ from hreplies]
    exact and_congr_left' (hlast.length_latest rs hpos)
  · rw [Allowed, Ready]
    dsimp only
    rw [show repliesTo acc .data cs (rs.drop 1) = _ from hreplies]
    rfl
  · rw [Allowed, Ready, ← hlast.length_latest rs Nat.one_pos]
    dsimp only
    rw [show repliesTo acc .message cs (rs.drop 1) = _ from hreplies, ← List.length_pos_iff, latest,
      List.length_drop, List.length_take, hlast.asked_eq]
    change _ ↔ _ = 1
    rw [show Command.units acc State.quit.awaits = 1 from rfl]
    omega

/-- Where there is nothing to write, there is nothing to wait for. -/
lemma ready_of_text_nil {fsm fsm' : State} {c : Command} (hturn : (fsm, c, fsm') ∈ State.turns)
    (hc : acc.text env c = []) (cs : List Command) (rs : List Bytes) : Ready acc cs rs fsm := by
  simp only [State.turns, List.mem_cons, Prod.mk.injEq, List.not_mem_nil, or_false] at hturn
  rcases hturn with ⟨rfl, rfl, rfl⟩ | ⟨-, rfl, -⟩ | ⟨-, rfl, -⟩ | ⟨-, rfl, -⟩
  · exact fun hne => absurd (rcptTo_text.mp hc) hne
  · exact absurd hc (text_ne_nil (by decide))
  · exact absurd hc (text_ne_nil (by decide))
  · exact absurd hc (text_ne_nil (by decide))

lemma inStep_append {log : List Entry} {c : Command} {rs : List Bytes} :
    InStep acc (log ++ [⟨c, rs⟩]) ↔
      InStep acc log ∧ Allowed acc (log.map (·.command)) ⟨c, rs⟩ := by
  have hsent : ∀ (log : List Entry) (cs : List Command),
      log.foldl (fun sent e => sent ++ [e.command]) cs = cs ++ log.map (·.command) := by
    intro log
    induction log with
    | nil => simp
    | cons e log ih => simp [ih]
  rw [InStep, along_concat, hsent, List.nil_append, InStep]

lemma fits_of_none {s : Session} {i : Bytes × Bool} (h : s.outcome env i = none) :
    Fits acc env s i := by
  intro havailable ent hent
  rw [Session.outcome, if_pos havailable, Option.map_eq_none_iff] at h
  rw [getSmtpStatusCode, h] at hent
  exact absurd hent (Option.not_mem_none ent)

lemma outcome_eq_some {s : Session} {i : Bytes × Bool} {ent : Response} {o : Outcome}
    (h : s.outcome env i = some (ent, o)) :
    (∃ entries, o = s.user.fsm.onResponse env entries ent) ∧
      (Fits acc env s i ↔ (s.user.fsm.goesOn ent = true →
        Ready acc (s.log.map (·.command)) (repliesOf (s.read ++ i.1)) s.user.fsm)) := by
  rw [Session.outcome] at h
  split_ifs at h with havailable
  obtain ⟨entries, hparse, heq⟩ := Option.map_eq_some_iff.mp h
  obtain ⟨rfl, rfl⟩ := Prod.mk.inj heq
  have hent : getSmtpStatusCode env i.1 = some (env.begin entries) := by
    rw [getSmtpStatusCode, hparse, Option.map_some]
  refine ⟨⟨entries, rfl⟩, fun h => h havailable _ hent, fun h _ ent hmem => ?_⟩
  rw [hent, Option.mem_some_iff] at hmem
  exact hmem ▸ h

/-- A read keeps the client in step if and only if it fits. -/
lemma receive_inStep_iff {s : Session} (h : Progress acc s.user.fsm (s.log.map (·.command)))
    (i : Bytes × Bool) :
    InStep acc (s.receive env acc i).log ↔ InStep acc s.log ∧ Fits acc env s i := by
  cases houtcome : s.outcome env i with
  | none =>
    rw [(receive_of_none houtcome).2]
    exact (and_iff_left (fits_of_none houtcome)).symm
  | some r =>
    obtain ⟨ent, o⟩ := r
    obtain ⟨⟨entries, ho⟩, hfits⟩ := @outcome_eq_some acc _ _ _ _ _ houtcome
    rw [(receive_of_some houtcome).2, hfits]
    rcases @onResponse_cases acc env s.user.fsm entries ent with ⟨hgo, hout, -⟩ |
      ⟨hgo, -, -, -, c, hout, hc⟩ | ⟨hgo, -, hout, -⟩ | ⟨hgo, c, hout, hturn⟩ <;>
      rw [← ho] at hout
    · rw [commands_none hout, List.map_nil, List.append_nil, hgo]
      simp
    · rw [commands_some hout, hgo]
      by_cases htext : acc.text env c = []
      · simp [htext]
      · have hallowed : ∀ cs rs, Allowed acc cs ⟨c, rs⟩ := by
          intro cs rs
          cases c <;> trivial
        simp [htext, inStep_append, hallowed]
    · have hallowed : ∀ cs rs, Allowed acc cs ⟨.mailFrom, rs⟩ := fun _ _ => trivial
      rw [commands_some hout, hgo]
      simp [@text_ne_nil acc env .mailFrom (by decide), inStep_append, hallowed]
    · rw [commands_some hout, hgo]
      by_cases htext : acc.text env c = []
      · have hready := ready_of_text_nil hturn htext (s.log.map (·.command))
          (repliesOf (s.read ++ i.1))
        simp [htext, hready]
      · simp only [htext, ne_eq, not_false_eq_true, decide_true, List.filter_cons_of_pos,
          List.filter_nil, List.map_cons, List.map_nil, inStep_append, true_imp_iff]
        rw [allowed_iff_ready h hturn htext]

/-- A read keeps the commands in order. -/
lemma receive_progress {s : Session} (h : Progress acc s.user.fsm (s.log.map (·.command)))
    (i : Bytes × Bool) : Progress acc (s.receive env acc i).user.fsm
      ((s.receive env acc i).log.map (·.command)) := by
  cases houtcome : s.outcome env i with
  | none =>
    obtain ⟨hfsm, hlog⟩ := @receive_of_none acc _ _ _ houtcome
    rw [hfsm, hlog]
    exact h
  | some r =>
    obtain ⟨ent, o⟩ := r
    obtain ⟨⟨entries, rfl⟩, -⟩ := @outcome_eq_some acc _ _ _ _ _ houtcome
    obtain ⟨hfsm, hlog⟩ := @receive_of_some acc _ _ _ _ _ houtcome
    rw [hfsm, hlog, List.map_append, List.map_map]
    refine Eq.mp ?_ (@Progress.receive acc env _ _ h entries ent)
    congr 2
    exact (List.map_id _).symm

/-! ### The client is in step with the server where each read fits -/

/-- After a run the client has written every command when it was allowed if and only if each read
fitted. -/
theorem run_inStep_iff (env : Env) (acc : Account) (reads : List (Bytes × Bool)) :
    InStep acc (Session.run env acc {} reads).log ↔
      Along (Session.receive env acc) (Fits acc env) {} reads := by
  have hrun : Progress acc (Session.run env acc {} reads).user.fsm
      ((Session.run env acc {} reads).log.map (·.command)) ∧
      (InStep acc (Session.run env acc {} reads).log ↔
        Along (Session.receive env acc) (Fits acc env) {} reads) := by
    induction reads using List.reverseRecOn with
    | nil => exact ⟨Progress.init, Iff.rfl⟩
    | append_singleton reads i ih =>
      obtain ⟨hprogress, hiff⟩ := ih
      rw [along_concat, ← hiff, Session.run, List.foldl_append]
      exact ⟨receive_progress hprogress i, receive_inStep_iff hprogress i⟩
  exact hrun.2

instance Allowed.decidable (acc : Account) (sent : List Command) :
    ∀ e, Decidable (Allowed acc sent e)
  | ⟨.rcptTo, _⟩  => inferInstanceAs (Decidable (∃ r ∈ _, IsPositive r))
  | ⟨.data, _⟩    => inferInstanceAs (Decidable (_ = _ ∧ ∃ r ∈ _, IsPositive r))
  | ⟨.message, _⟩ =>
    inferInstanceAs (Decidable ((∃ r ∈ _, IsStartMailInput r) ∧ ∀ r ∈ _, ¬ IsNegative r))
  | ⟨.quit, _⟩    => inferInstanceAs (Decidable (_ ≠ []))
  | ⟨.ehlo, _⟩ | ⟨.startTls, _⟩ | ⟨.authLogin, _⟩ | ⟨.username, _⟩ | ⟨.password, _⟩ | ⟨.rset, _⟩
  | ⟨.mailFrom, _⟩ => .isTrue trivial

instance (acc : Account) (log : List Entry) : Decidable (InStep acc log) :=
  inferInstanceAs (Decidable (Along _ (Allowed acc) [] log))

/-- A dialogue with a reply to each command, the last ones to `MAIL FROM` and the first `RCPT`. -/
def rcptDialogue : List (Bytes × Bool) :=
  ["220 mx ready\r\n", "250 STARTTLS\r\n", "220 2.0.0 Ready to start TLS\r\n",
    "334 VXNlcm5hbWU6\r\n", "334 UGFzc3dvcmQ6\r\n", "235 2.7.0 Accepted\r\n", "250 2.1.0 OK\r\n",
    "250 2.1.5 OK\r\n"].map fun reply => (Bytes.ofString reply, true)

/-- With two recipients the reply to the first one makes the client send `DATA`. -/
theorem data_before_second_recipient :
    ¬ InStep { sampleAccount with toEmail := [Bytes.ofString "b@c.de", Bytes.ofString "d@e.fg"] }
      (Session.run sampleEnv { sampleAccount with
        toEmail := [Bytes.ofString "b@c.de", Bytes.ofString "d@e.fg"] } {} rcptDialogue).log := by
  decide +kernel

end

end SMTP
