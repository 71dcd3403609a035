import OnPremPbx.Email.Tls

/-!
# Mails of several requests

`handle_email_POST` writes the data of its request into the one `SMTP::Account`, field by field, and
starts a transaction, whose states read the fields again when they make a command. Every mail has
the data of its own request as long as no field that a request has written, or leaves empty, is
written with something else before its transaction has ended.
-/

namespace SMTP

open Transition

/-! ### The fields of the account -/

/-- The fields that a request writes. -/
inductive Field
  | toEmail | emailSubject | emailBody | fromEmail | fromPassword | attachment
  deriving DecidableEq, Repr

/-- The setter of a field, with the value that the field has in another account. -/
def Field.copy (src acc : Account) : Field → Account
  | .toEmail      => { acc with toEmail := src.toEmail }
  | .emailSubject => { acc with emailSubject := src.emailSubject }
  | .emailBody    => { acc with emailBody := src.emailBody }
  | .fromEmail    => { acc with fromEmail := src.fromEmail }
  | .fromPassword => { acc with fromPassword := src.fromPassword }
  | .attachment   => { acc with attachment := src.attachment }

/-- Two accounts have the same value in a field. -/
def Field.Agrees (acc acc' : Account) : Field → Prop
  | .toEmail      => acc.toEmail = acc'.toEmail
  | .emailSubject => acc.emailSubject = acc'.emailSubject
  | .emailBody    => acc.emailBody = acc'.emailBody
  | .fromEmail    => acc.fromEmail = acc'.fromEmail
  | .fromPassword => acc.fromPassword = acc'.fromPassword
  | .attachment   => acc.attachment = acc'.attachment

namespace Field

variable {acc acc' src : Account} {f g : Field}

instance : Decidable (f.Agrees acc acc') := by
  cases f <;> exact inferInstanceAs (Decidable (_ = _))

lemma agrees_copy (f : Field) (src acc : Account) : f.Agrees src (f.copy src acc) := by
  cases f <;> rfl

lemma agrees_copy_other (h : g ≠ f) : g.Agrees acc' (f.copy src acc) ↔ g.Agrees acc' acc := by
  cases f <;> cases g <;> first | exact absurd rfl h | exact Iff.rfl

lemma Agrees.trans {acc'' : Account} (h : f.Agrees acc acc') (h' : f.Agrees acc' acc'') :
    f.Agrees acc acc'' := by
  cases f <;> exact Eq.trans h h'

/-- A field that is written with the value that another account has keeps to that account. -/
lemma agrees_copy_of_agrees (h : g.Agrees acc' acc) (hf : g = f → f.Agrees acc' src) :
    g.Agrees acc' (f.copy src acc) := by
  by_cases hg : g = f
  · subst hg
    exact (hf rfl).trans (agrees_copy g src acc)
  · exact (agrees_copy_other hg).mpr h

@[simp] lemma copy_fromName (f : Field) (src acc : Account) :
    (f.copy src acc).fromName = acc.fromName := by
  cases f <;> rfl

end Field

/-! ### What a command reads -/

/-- A look at the account: at a field, at the name, which no request writes, or whether the list of
attachments is empty. -/
inductive Look
  | field (f : Field) | fromName | plain
  deriving DecidableEq, Repr

/-- The looks that the text of a command takes, in their order. -/
def Command.looks : Command → List Look
  | .username => [.field .fromEmail]
  | .password => [.field .fromPassword]
  | .mailFrom => [.field .fromEmail]
  | .rcptTo   => [.field .toEmail]
  | .message  =>
    [.fromName, .field .fromEmail, .field .toEmail, .field .emailSubject, .plain,
      .field .emailBody, .field .attachment]
  | _         => []

/-- What was seen so far. -/
structure Draft where
  account : Account := {}
  plain : Bool := false
  deriving DecidableEq, Repr

namespace Look

def take (acc : Account) (d : Draft) : Look → Draft
  | .field f  => { d with account := f.copy acc d.account }
  | .fromName => { d with account := { d.account with fromName := acc.fromName } }
  | .plain    => { d with plain := decide (acc.attachment = []) }

/-- A draft has what the account shows. -/
def Agrees (acc : Account) (d : Draft) : Look → Prop
  | .field f  => f.Agrees acc d.account
  | .fromName => acc.fromName = d.account.fromName
  | .plain    => decide (acc.attachment = []) = d.plain

variable {acc acc' : Account} {d : Draft} {l : Look}

/-- What a look takes agrees with an account that agrees with the one that is looked at. -/
lemma agrees_take (hname : acc.fromName = acc'.fromName) (hfield : ∀ f : Field, f.Agrees acc acc')
    (l : Look) (d : Draft) : l.Agrees acc (l.take acc' d) := by
  cases l with
  | field f  => exact (hfield f).trans (Field.agrees_copy f acc' d.account)
  | fromName => exact hname
  | plain    =>
    have hfiles : acc.attachment = acc'.attachment := hfield .attachment
    rw [Agrees, take, hfiles]

/-- A look leaves what the others took. -/
lemma Agrees.take (h : l.Agrees acc d) {l' : Look} (hne : l ≠ l') :
    l.Agrees acc (l'.take acc' d) := by
  cases l with
  | field f =>
    cases l' with
    | field g  => exact (Field.agrees_copy_other fun hfg => hne (congrArg field hfg)).mpr h
    | fromName => cases f <;> exact h
    | plain    => exact h
  | fromName =>
    cases l' with
    | field g  => exact h.trans (Field.copy_fromName g acc' d.account).symm
    | fromName => exact absurd rfl hne
    | plain    => exact h
  | plain =>
    cases l' with
    | plain => exact absurd rfl hne
    | _     => exact h

end Look

/-- The text of a command depends on nothing but what it looks at. -/
lemma text_of_looks (env : Env) {acc : Account} {d : Draft} {command : Command}
    (h : ∀ l ∈ command.looks, l.Agrees acc d) :
    command.text env d.account d.plain =
      command.text env acc (decide (acc.attachment = [])) := by
  cases command with
  | username =>
    have hemail : acc.fromEmail = d.account.fromEmail := h (.field .fromEmail) (by decide)
    rw [Command.text, Command.text, hemail]
  | password =>
    have hpassword : acc.fromPassword = d.account.fromPassword :=
      h (.field .fromPassword) (by decide)
    rw [Command.text, Command.text, hpassword]
  | mailFrom =>
    have hemail : acc.fromEmail = d.account.fromEmail := h (.field .fromEmail) (by decide)
    rw [Command.text, Command.text, hemail]
  | rcptTo =>
    have hto : acc.toEmail = d.account.toEmail := h (.field .toEmail) (by decide)
    rw [Command.text, Command.text, hto]
  | message =>
    have hname : acc.fromName = d.account.fromName := h .fromName (by decide)
    have hemail : acc.fromEmail = d.account.fromEmail := h (.field .fromEmail) (by decide)
    have hto : acc.toEmail = d.account.toEmail := h (.field .toEmail) (by decide)
    have hsubject : acc.emailSubject = d.account.emailSubject :=
      h (.field .emailSubject) (by decide)
    have hplain : decide (acc.attachment = []) = d.plain := h .plain (by decide)
    have hbody : acc.emailBody = d.account.emailBody := h (.field .emailBody) (by decide)
    have hfiles : acc.attachment = d.account.attachment := h (.field .attachment) (by decide)
    rw [Command.text, Command.text, hplain, buildMimeMessage, buildMimeMessage, hname, hemail, hto,
      hsubject, hbody, hfiles]
  | _ => rfl

/-! ### Requests and their transactions -/

/-- What `handle_email_POST` takes from the body of a request, where a member that is not there is
empty. -/
structure Email where
  recipients : List Bytes := []
  subject : Bytes := []
  emailbody : Bytes := []
  files : List (Bytes × Bytes) := []
  sender : Bytes := []
  passwd : Bytes := []
  deriving DecidableEq, Repr

/-- The account as the request has it. -/
def Email.account (email : Email) (fromName : Bytes) : Account where
  fromName := fromName
  fromEmail := email.sender
  fromPassword := email.passwd
  toEmail := email.recipients
  emailSubject := email.subject
  emailBody := email.emailbody
  attachment := email.files

/-- The setters that `handle_email_POST` calls, in their order. -/
def Email.setters (email : Email) : List Field :=
  [.toEmail, .emailSubject, .emailBody, .fromEmail, .fromPassword] ++
    if email.files = [] then [] else [.attachment]

/-- Where a request is: before the setters that are left, waiting for a reply, looking at the
account for the command that its state machine sends, or done. -/
inductive Phase
  | setting (rest : List Field)
  | waiting
  | looking (outcome : Outcome) (endOnError : Bool) (draft : Draft) (rest : List Look)
  | done

structure Transaction where
  email : Email
  user : User := {}
  phase : Phase

/-- The account, which all requests share, and the requests in the order of their arrival. -/
structure Mailer where
  account : Account := {}
  transactions : List Transaction := []

namespace Mailer

inductive Input
  | request (email : Email)
  | turn (i : ℕ)
  | reply (i : ℕ) (reply : Bytes) (handshake : Bool)
  | close (i : ℕ)

variable (env : Env)

/-- The next setter of a request, or the next look at the account, or the command, once its text
is there. -/
def turn (acc : Account) (t : Transaction) : Account × Transaction :=
  match t.phase with
  | .setting []                        => (acc, { t with phase := .waiting })
  | .setting (f :: rest)               =>
    (f.copy (t.email.account []) acc, { t with phase := .setting rest })
  | .looking o endOnError d []         =>
    let user := t.user.dispatch o (Command.text env d.account d.plain) endOnError
    (acc, { t with user, phase := if user.mailServiceAvailable then .waiting else .done })
  | .looking o endOnError d (l :: rest) =>
    (acc, { t with phase := .looking o endOnError (l.take acc d) rest })
  | .waiting | .done                   => (acc, t)

/-- A reply, up to the looks that the command takes. -/
def onReply (t : Transaction) (reply : Bytes) (handshake : Bool) : Transaction :=
  match t.phase with
  | .waiting =>
    match t.user.receive env reply handshake with
    | none                       => { t with phase := .done }
    | some (user, o, endOnError) =>
      { t with user, phase := .looking o endOnError {} (o.out.elim [] Command.looks) }
  | _ => t

/-- The connection is closed, which a transaction notices while it waits. -/
def onClose (t : Transaction) : Transaction :=
  match t.phase with
  | .waiting => { t with phase := .done }
  | _        => t

def step (s : Mailer) : Input → Mailer
  | .request email =>
    { s with transactions := s.transactions ++ [⟨email, {}, .setting email.setters⟩] }
  | .turn i =>
    match s.transactions[i]? with
    | none   => s
    | some t => ⟨(turn env s.account t).1, s.transactions.set i (turn env s.account t).2⟩
  | .reply i reply handshake =>
    { s with transactions := s.transactions.modify i (onReply env · reply handshake) }
  | .close i => { s with transactions := s.transactions.modify i onClose }

def run : Mailer → List Input → Mailer := List.foldl (step env)

end Mailer

/-! ### Mails that do not mix -/

/-- The request relies on the field: it has written it already, or, as one without files does with
the attachments, it will not write it. -/
def Transaction.Holds (t : Transaction) (f : Field) : Prop :=
  match t.phase with
  | .setting rest            => f ∉ rest
  | .waiting | .looking .. => True
  | .done                    => False

/-- The setter that comes next. -/
def Phase.setter : Phase → Option Field
  | .setting (f :: _) => some f
  | _                 => none

/-- No request under way relies on another value of the field that the next setter writes, and a
request without files finds no attachments. -/
def Undisturbed (s : Mailer) : Mailer.Input → Prop
  | .request email => email.files = [] → s.account.attachment = []
  | .turn i        =>
    ∀ t ∈ s.transactions[i]?, ∀ f ∈ t.phase.setter, ∀ t' ∈ s.transactions,
      t'.Holds f → f.Agrees (t'.email.account []) (t.email.account [])
  | _              => True

/-- Everything that was written has the text that the data of its own request gives it. -/
def Unmixed (env : Env) (s : Mailer) : Prop :=
  ∀ t ∈ s.transactions, ∀ w ∈ t.user.written,
    w.text = w.command.text env (t.email.account s.account.fromName) (t.email.files = [])

/-! ### What each step keeps -/

/-- What a transaction has written, what it relies on and what its draft has is its request's. -/
structure Transaction.Own (env : Env) (acc : Account) (t : Transaction) : Prop where
  written : ∀ w ∈ t.user.written,
    w.text = w.command.text env (t.email.account acc.fromName) (t.email.files = [])
  holds : ∀ f, t.Holds f → f.Agrees (t.email.account acc.fromName) acc
  draft : ∀ o endOnError d rest, t.phase = .looking o endOnError d rest → ∀ command ∈ o.out,
    ∀ l ∈ command.looks, l ∉ rest → l.Agrees (t.email.account acc.fromName) d

variable {env : Env} {acc : Account} {t : Transaction}

/-- No field that a request writes depends on the name. -/
lemma agrees_account {email : Email} {name name' : Bytes} {f : Field} :
    f.Agrees (email.account name) acc ↔ f.Agrees (email.account name') acc := by
  cases f <;> exact Iff.rfl

/-- What a dispatch writes is the command that the state machine sends. -/
lemma mem_written_dispatch {u : User} {o : Outcome} {text : Command → Bytes} {endOnError : Bool}
    {w : Write} (hw : w ∈ (u.dispatch o text endOnError).written) :
    w ∈ u.written ∨ w.command ∈ o.out ∧ w.text = text w.command := by
  have hsettle : ∀ u' : User, (u'.settle o endOnError).written = u'.written := by
    intro u'
    obtain ⟨available, heq⟩ := settle_eq u' o endOnError
    rw [heq]
  rw [User.dispatch, hsettle] at hw
  cases hout : o.out with
  | none         =>
    rw [hout] at hw
    exact .inl hw
  | some command =>
    rw [hout] at hw
    dsimp only at hw
    rw [User.send] at hw
    split_ifs at hw
    · exact .inl hw
    · rcases List.mem_append.mp hw with hw | hw
      · exact .inl hw
      · rw [List.mem_singleton] at hw
        subst hw
        exact .inr ⟨rfl, rfl⟩
    · exact .inl hw

lemma receive_written {u u' : User} {reply : Bytes} {handshake endOnError : Bool} {o : Outcome}
    (h : u.receive env reply handshake = some (u', o, endOnError)) : u'.written = u.written := by
  rw [User.receive] at h
  cases hparse : parseSmtpCommand reply with
  | none         => simp [hparse] at h
  | some entries =>
    simp only [hparse, Option.bind_eq_bind, Option.bind_some, Option.pure_def, Option.some.injEq,
      Prod.mk.injEq] at h
    rw [← h.1]
    split_ifs <;> rfl

namespace Transaction.Own

/-- A setter of one request leaves another its own, if the other does not rely on the field. -/
lemma copy (h : t.Own env acc) {f : Field} {src : Account}
    (hf : t.Holds f → f.Agrees (t.email.account acc.fromName) src) :
    t.Own env (f.copy src acc) := by
  refine ⟨?_, fun g hg => ?_, ?_⟩
  · rw [Field.copy_fromName]
    exact h.written
  · rw [Field.copy_fromName]
    exact Field.agrees_copy_of_agrees (h.holds g hg) fun heq => hf (heq ▸ hg)
  · rw [Field.copy_fromName]
    exact h.draft

/-- A request that has just arrived holds at most the attachments that it does not have. -/
lemma request {email : Email} (h : email.files = [] → acc.attachment = []) :
    Own env acc ⟨email, {}, .setting email.setters⟩ := by
  refine ⟨fun _ hw => absurd hw List.not_mem_nil, fun f hf => ?_,
    fun _ _ _ _ hphase => nomatch hphase⟩
  have hf : f ∉ email.setters := hf
  rw [Email.setters] at hf
  cases f with
  | attachment =>
    by_cases hfiles : email.files = []
    · exact hfiles.trans (h hfiles).symm
    · simp [hfiles] at hf
  | _ => simp at hf

/-- A transaction's own turn. -/
lemma turn (h : t.Own env acc) :
    (Mailer.turn env acc t).2.Own env (Mailer.turn env acc t).1 := by
  obtain ⟨email, user, phase⟩ := t
  rcases phase with (_ | ⟨f, rest⟩) | _ | ⟨o, endOnError, d, _ | ⟨l, rest⟩⟩ | _
  · exact ⟨h.written, fun f _ => h.holds f List.not_mem_nil,
      fun _ _ _ _ hphase => nomatch hphase⟩
  · -- The field that is written has the request's own value from now on.
    refine ⟨?_, fun g hg => ?_, fun _ _ _ _ hphase => nomatch hphase⟩
    · rw [Mailer.turn, Field.copy_fromName]
      exact h.written
    · rw [Mailer.turn, Field.copy_fromName]
      by_cases heq : g = f
      · subst heq
        exact agrees_account.mp (Field.agrees_copy g (email.account []) acc)
      · have hg : g ∉ rest := hg
        exact (Field.agrees_copy_other heq).mpr
          (h.holds g fun hmem => hg ((List.mem_cons.mp hmem).resolve_left heq))
  · exact h
  · -- All looks are taken, and the command has the text of the request's own account.
    refine ⟨fun w hw => ?_, fun f _ => h.holds f trivial, ?_⟩
    · rcases mem_written_dispatch hw with hw | ⟨hcommand, htext⟩
      · exact h.written w hw
      · rw [htext]
        exact text_of_looks env fun l hl =>
          h.draft o endOnError d [] rfl w.command hcommand l hl List.not_mem_nil
    · intro o' endOnError' d' rest' hphase
      dsimp only [Mailer.turn] at hphase
      split_ifs at hphase
  · refine ⟨h.written, fun f _ => h.holds f trivial, ?_⟩
    intro o' endOnError' d' rest' hphase command hcommand l' hl' hrest
    simp only [Mailer.turn, Phase.looking.injEq] at hphase
    obtain ⟨rfl, -, rfl, rfl⟩ := hphase
    by_cases heq : l' = l
    · subst heq
      have hname : (email.account acc.fromName).fromName = acc.fromName := rfl
      exact Look.agrees_take hname (fun f => h.holds f trivial) l' d
    · exact (h.draft o endOnError d (l :: rest) rfl command hcommand l' hl'
        fun hmem => hrest ((List.mem_cons.mp hmem).resolve_left heq)).take heq
  · exact h

lemma onReply (h : t.Own env acc) (reply : Bytes) (handshake : Bool) :
    (Mailer.onReply env t reply handshake).Own env acc := by
  obtain ⟨email, user, phase⟩ := t
  rw [Mailer.onReply]
  cases phase with
  | waiting =>
    dsimp only
    cases hreceive : user.receive env reply handshake with
    | none   => exact ⟨h.written, nofun, fun _ _ _ _ hphase => nomatch hphase⟩
    | some r =>
      obtain ⟨user', o, endOnError⟩ := r
      refine ⟨fun w hw => h.written w ?_, fun f _ => h.holds f trivial, ?_⟩
      · exact receive_written hreceive ▸ hw
      · -- No look is taken yet: those of the command are all left.
        intro o' endOnError' d' rest' hphase command hcommand l hl hrest
        simp only [Phase.looking.injEq] at hphase
        obtain ⟨rfl, -, -, rfl⟩ := hphase
        rw [Option.mem_def] at hcommand
        rw [hcommand] at hrest
        exact absurd hl hrest
  | _ => exact h

lemma onClose (h : t.Own env acc) : (Mailer.onClose t).Own env acc := by
  obtain ⟨email, user, phase⟩ := t
  rw [Mailer.onClose]
  cases phase with
  | waiting => exact ⟨h.written, nofun, fun _ _ _ _ hphase => nomatch hphase⟩
  | _       => exact h

end Transaction.Own

lemma mem_modify {l : List Transaction} {f : Transaction → Transaction} {i : ℕ}
    (h : t ∈ l.modify i f) : t ∈ l ∨ ∃ t₀ ∈ l, t = f t₀ := by
  obtain ⟨j, hj⟩ := List.mem_iff_getElem?.mp h
  rw [List.getElem?_modify] at hj
  obtain ⟨t₀, ht₀, heq⟩ := Option.map_eq_some_iff.mp hj
  have hmem := List.mem_of_getElem? ht₀
  split_ifs at heq
  · exact .inr ⟨t₀, hmem, heq.symm⟩
  · exact .inl (heq ▸ hmem)

/-- Every transaction is its request's own. -/
def Mailer.Inv (env : Env) (s : Mailer) : Prop := ∀ t ∈ s.transactions, t.Own env s.account

lemma Mailer.Inv.step {s : Mailer} (h : s.Inv env) {input : Mailer.Input}
    (hok : Undisturbed s input) : (s.step env input).Inv env := by
  cases input with
  | request email =>
    intro t ht
    rcases List.mem_append.mp ht with ht | ht
    · exact h t ht
    · rw [List.mem_singleton] at ht
      subst ht
      exact .request hok
  | turn i =>
    rw [Mailer.step]
    cases hi : s.transactions[i]? with
    | none    => exact h
    | some t₀ =>
      intro t ht
      rcases List.mem_or_eq_of_mem_set ht with ht | rfl
      · -- Another request sees at most a setter, which writes nothing that it relies on.
        have hown := h t ht
        have hrelies := fun f hf => hok t₀ hi f hf t ht
        clear ht hi
        obtain ⟨email, user, phase⟩ := t₀
        rcases phase with (_ | ⟨f, rest⟩) | _ | ⟨o, endOnError, d, _ | ⟨l, rest⟩⟩ | _
        case setting.cons => exact hown.copy fun hf => agrees_account.mp (hrelies f rfl hf)
        all_goals exact hown
      · exact (h t₀ (List.mem_of_getElem? hi)).turn
  | reply i reply handshake =>
    intro t ht
    rcases mem_modify ht with ht | ⟨t₀, ht₀, rfl⟩
    · exact h t ht
    · exact (h t₀ ht₀).onReply reply handshake
  | close i =>
    intro t ht
    rcases mem_modify ht with ht | ⟨t₀, ht₀, rfl⟩
    · exact h t ht
    · exact (h t₀ ht₀).onClose

/-! ### Mails do not mix where no request disturbs another -/

/-- If no setter changes what another request under way relies on, and no request without files
finds attachments, then every mail has the data of its own request. -/
theorem unmixed_of_undisturbed (env : Env) (inputs : List Mailer.Input)
    (h : Along (Mailer.step env) Undisturbed {} inputs) : Unmixed env (Mailer.run env {} inputs) :=
  have hinv : (Mailer.run env {} inputs).Inv env :=
    h.invariant (fun _ _ hok hinv => hinv.step hok) fun _ ht => absurd ht List.not_mem_nil
  fun t ht => (hinv t ht).written

instance (t : Transaction) (f : Field) : Decidable (t.Holds f) := by
  rw [Transaction.Holds]
  split <;> infer_instance

instance (s : Mailer) : (input : Mailer.Input) → Decidable (Undisturbed s input)
  | .request _ => inferInstanceAs (Decidable (_ → _))
  | .turn i    =>
    inferInstanceAs (Decidable (∀ t ∈ s.transactions[i]?, ∀ f ∈ t.phase.setter,
      ∀ t' ∈ s.transactions, t'.Holds f → _))
  | .reply .. | .close _ => .isTrue trivial

instance (env : Env) (s : Mailer) : Decidable (Unmixed env s) :=
  inferInstanceAs (Decidable (∀ t ∈ s.transactions, ∀ w ∈ t.user.written, _))

/-- A request with its whole dialogue; a turn of a transaction that waits does nothing. -/
def mailing (i : ℕ) (email : Email) : List Mailer.Input :=
  let turns : List Mailer.Input := List.replicate 8 (.turn i)
  let replies : List String :=
    ["220 mx ready", "250 STARTTLS", "220 2.0.0 Ready to start TLS", "334 VXNlcm5hbWU6",
      "334 UGFzc3dvcmQ6", "235 2.7.0 Accepted", "250 2.1.0 OK", "250 2.1.5 OK", "354 Go ahead"]
  .request email :: turns ++
    replies.flatMap (fun r => .reply i (Bytes.ofString (r ++ "\r\n")) true :: turns) ++ [.close i]

def letter : Email where
  recipients := [Bytes.ofString "e@f.gh"]
  subject := Bytes.ofString "Hello"
  sender := Bytes.ofString "a@b.cd"
  passwd := Bytes.ofString "secret"

def invoice : Email where
  recipients := [Bytes.ofString "i@j.kl"]
  subject := Bytes.ofString "Invoice"
  files := [(Bytes.ofString "invoice.pdf", Bytes.ofString "JVBERi0=")]
  sender := Bytes.ofString "m@n.op"
  passwd := Bytes.ofString "hidden"

theorem unmixed_of_undisturbed_letter :
    Unmixed sampleEnv (Mailer.run sampleEnv {} (mailing 0 letter ++ mailing 1 invoice)) :=
  unmixed_of_undisturbed sampleEnv _ (by decide +kernel)

/-- A mail without files, sent after one with a file, has the file of that one attached. -/
theorem letter_after_invoice :
    ¬ Unmixed sampleEnv (Mailer.run sampleEnv {} (mailing 0 invoice ++ mailing 1 letter)) := by
  decide +kernel

end SMTP
