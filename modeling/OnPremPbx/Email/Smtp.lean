import OnPremPbx.Http.MessageParser
import OnPremPbx.Transition.Run

/-!
# The SMTP client

`SMTP::User` (`emailservice.cpp`, `emailservice_fsm.cpp`) drives a state machine with the replies of
the server. What the machine sends is a `Command`, whose text is made from the account when it is
sent; no transition depends on the account. The states that no transition leads to are left out.
-/

namespace SMTP

/-! ### Replies -/

structure Response where
  reply : ℕ
  statusCode : Bytes
  deriving DecidableEq, Repr

/-- `std::stoi` of the standard library, as the unsigned number that the reply is kept as. -/
def stoi (s : Bytes) : Option ℕ :=
  match readNumber 10 s with
  | none               => none
  | some (negative, n) =>
    if negative then if n ≤ 2 ^ 31 then some ((2 ^ 32 - n) % 2 ^ 32) else none
    else if n < 2 ^ 31 then some n else none

/-- The rest of a line of the reply after its status code: the character that ends the status code
comes first. -/
def skipText : Bytes → Bytes
  | _ :: 0x0A :: s => s
  | _ :: _ :: s    => (s.dropWhile (· ≠ 0x0D)).drop 2
  | _              => []

/-- The loop of `parseSmtpCommand`; `elm` is what was read since the last line. -/
def readReplies : ℕ → (elm : Bytes) → Bytes → List Response → Option (List Response)
  | 0, _, _, out            => some out
  | _ + 1, _, [], out       => some out
  | n + 1, elm, c :: s, out =>
    if c = 0x20 ∨ c = 0x2D then
      match stoi elm with
      | none       => none
      | some reply =>
        let ends := fun c : UInt8 => c = 0x20 ∨ c = 0x0D
        readReplies n [] (skipText (s.dropWhile (¬ ends ·)))
          (out.insert ⟨reply, s.takeWhile (¬ ends ·)⟩)
    else readReplies n (elm ++ [c]) s out

/-- The entries of the map, or an exception. The texts of the lines are not used. -/
def parseSmtpCommand (reply : Bytes) : Option (List Response) :=
  readReplies (reply.length + 1) [] reply []

/-! ### The account -/

/-- `SMTP::Account`. -/
structure Account where
  fromName : Bytes := []
  fromEmail : Bytes := []
  fromPassword : Bytes := []
  toEmail : List Bytes := []
  emailSubject : Bytes := []
  emailBody : Bytes := []
  attachment : List (Bytes × Bytes) := []
  deriving DecidableEq, Repr

/-- What the client takes from elsewhere. -/
structure Env where
  /-- The first entry of an `unordered_map`, whose order is not specified; an empty one has none. -/
  begin : List Response → Response
  /-- `ACE_Base64`. -/
  encode : Bytes → Bytes
  decode : Bytes → Option Bytes
  /-- The time, as `asctime` writes it. -/
  date : Bytes
  /-- The contents of a file that can be opened. -/
  readFile : Bytes → Option Bytes

variable (env : Env)

def getSmtpStatusCode (reply : Bytes) : Option Response := (parseSmtpCommand reply).map env.begin

def getContentType (ext : Bytes) : Bytes :=
  let isOne (exts : List String) : Bool := exts.any fun e => ext == Bytes.ofString e
  if isOne ["pdf"] then Bytes.ofString "application/pdf"
  else if isOne ["docx", "doc"] then Bytes.ofString "application/msword"
  else if isOne ["zip"] then Bytes.ofString "application/zip"
  else if isOne ["gzip"] then Bytes.ofString "application/x-gzip"
  else if isOne ["xls", "xlsx"] then Bytes.ofString "application/vnd.ms-excel"
  else if isOne ["pps", "ppt", "pptx"] then Bytes.ofString "application/vnd.ms-powerpoint"
  else if isOne ["jpeg", "jpg", "jpe"] then Bytes.ofString "image/jpeg"
  else if isOne ["mpeg", "mpg", "mpe"] then Bytes.ofString "video/mpeg"
  else if isOne ["gif"] then Bytes.ofString "image/gif"
  else if isOne ["asc", "diff", "c", "log", "patch", "pot", "text", "txt"] then
    Bytes.ofString "text/plain"
  else Bytes.ofString "application/octet-stream"

/-- What follows the first dot of a file name. -/
def extension (fname : Bytes) : Bytes := (fname.dropWhile (· ≠ 0x2E)).drop 1

/-- The part of one attachment; a file that is neither there nor inline has none. -/
def attachmentPart (file : Bytes × Bytes) : Bytes :=
  let part (size : ℕ) (content : Bytes) : Bytes :=
    Bytes.ofString "--cordoba\r\nContent-Transfer-Encoding: base64\r\nContent-Type: " ++
      getContentType (extension file.1) ++
      Bytes.ofString "\r\nContent-Disposition: attachment; filename=" ++ file.1 ++
      Bytes.ofString " ;size-parm=" ++ Bytes.ofString (toString size) ++
      Bytes.ofString "\r\n\r\n" ++ content ++ Bytes.ofString "\r\n"
  if file.1 = [] then []
  else
    match env.readFile file.1 with
    | none          => if file.2 = [] then [] else part file.2.length file.2
    | some contents => part contents.length (env.encode contents)

/-- `build_mime_message`; `plain` tells whether the list of attachments was empty when it was first
looked at. -/
def buildMimeMessage (acc : Account) (plain : Bool) : Bytes :=
  Bytes.ofString "MIME-Version: 1.0\r\nFrom: " ++ acc.fromName ++ Bytes.ofString " <" ++
    acc.fromEmail ++ Bytes.ofString ">\r\nTo: " ++
    acc.toEmail.flatMap (· ++ Bytes.ofString ";") ++ Bytes.ofString "\r\nSubject: " ++
    acc.emailSubject ++ Bytes.ofString "\r\nDate: " ++ env.date ++
    (if plain then
      Bytes.ofString "Content-type: text/plain; charset=us-ascii\r\n\r\n" ++ acc.emailBody ++
        Bytes.ofString "\r\n"
    else
      Bytes.ofString "Content-Type: multipart/mixed; boundary=cordoba\r\n--cordoba\r\n" ++
        Bytes.ofString "Content-type: text/plain; charset=us-ascii\r\n\r\n" ++ acc.emailBody ++
        Bytes.ofString "\r\n" ++ acc.attachment.flatMap (attachmentPart env) ++
        Bytes.ofString "--cordoba--\r\n") ++
    Bytes.ofString "\r\n.\r\n"

/-! ### Commands -/

/-- What the client sends. -/
inductive Command
  | ehlo | startTls | authLogin | username | password | rset | mailFrom | rcptTo | data | message
  | quit
  deriving DecidableEq, Repr

def Command.text (acc : Account) (plain : Bool) : Command → Bytes
  | .ehlo      => Bytes.ofString "EHLO gmail.com\r\n"
  | .startTls  => Bytes.ofString "STARTTLS\r\n"
  | .authLogin => Bytes.ofString "AUTH LOGIN\r\n"
  | .username  => env.encode acc.fromEmail
  | .password  => env.encode acc.fromPassword
  | .rset      => Bytes.ofString "RSET\r\n"
  | .mailFrom  => Bytes.ofString "MAIL FROM: <" ++ acc.fromEmail ++ Bytes.ofString ">\r\n"
  | .rcptTo    =>
    acc.toEmail.flatMap fun elm => Bytes.ofString "RCPT TO: <" ++ elm ++ Bytes.ofString ">\r\n"
  | .data      => Bytes.ofString "DATA\r\n"
  | .message   => buildMimeMessage env acc plain
  | .quit      => Bytes.ofString "QUIT\r\n"

/-! ### The state machine -/

inductive AuthStep
  | init | username | password | success
  deriving DecidableEq, Repr

inductive State
  | greeting | helo | mail (authStage : AuthStep) | rcpt | data | body | quit
  deriving DecidableEq, Repr

inductive StatusCode
  | ok | tlsNotSupported | remainInSameState | gotoNextState | incorrectLoginCredentials
  deriving DecidableEq, Repr

/-- What a state makes of a reply: the command, the result, and the state, where it is the next one
if the result is to go there, and else what the state has become. -/
structure Outcome where
  out : Option Command := none
  result : StatusCode := .ok
  state : State

namespace State

/-- `GREETING::onResponse`. -/
def onGreeting (ent : Response) : Outcome :=
  if ent.reply = 220 then ⟨some .ehlo, .gotoNextState, .helo⟩ else ⟨none, .ok, .greeting⟩

/-- `HELO::onResponse`. -/
def onHelo (entries : List Response) (ent : Response) : Outcome :=
  if ent.reply = 250 then
    if entries.any (·.statusCode = Bytes.ofString "STARTTLS") then
      ⟨some .startTls, .gotoNextState, .mail .init⟩
    else ⟨none, .tlsNotSupported, .helo⟩
  else ⟨none, .ok, .helo⟩

/-- The challenge that a reply decodes to. -/
def challenge (ent : Response) : Option Bytes :=
  if ent.reply = 334 ∧ ent.statusCode ≠ [] then env.decode ent.statusCode else none

/-- `MAIL::onCommand`. -/
def onMailCommand (ent : Response) : AuthStep → Outcome
  | .init     => ⟨some .authLogin, .remainInSameState, .mail .username⟩
  | .username =>
    if challenge env ent = some (Bytes.ofString "Username:") then
      ⟨some .username, .remainInSameState, .mail .password⟩
    else ⟨none, .remainInSameState, .mail .username⟩
  | .password =>
    if challenge env ent = some (Bytes.ofString "Password:") then
      ⟨some .password, .remainInSameState, .mail .success⟩
    else ⟨none, .remainInSameState, .mail .password⟩
  | .success  =>
    if ent.reply = 235 ∧ ent.statusCode = Bytes.ofString "2.7.0" then
      ⟨some .mailFrom, .gotoNextState, .rcpt⟩
    else ⟨some .rset, .incorrectLoginCredentials, .mail .init⟩

/-- `onResponse` of each state. The states after `HELO` go on whatever the reply is, 535 apart. -/
def onResponse (entries : List Response) (ent : Response) : State → Outcome
  | .greeting       => onGreeting ent
  | .helo           => onHelo entries ent
  | .mail authStage =>
    if ent.reply = 535 then ⟨none, .ok, .mail authStage⟩ else onMailCommand env ent authStage
  | .rcpt           =>
    if ent.reply = 535 ∨ ent.reply = 250 ∧ ent.statusCode ≠ Bytes.ofString "2.1.0" then
      ⟨none, .ok, .rcpt⟩
    else ⟨some .rcptTo, .gotoNextState, .data⟩
  | .data           =>
    if ent.reply = 535 then ⟨none, .ok, .data⟩ else ⟨some .data, .gotoNextState, .body⟩
  | .body           =>
    if ent.reply = 535 then ⟨none, .ok, .body⟩ else ⟨some .message, .gotoNextState, .quit⟩
  | .quit           =>
    if ent.reply = 250 ∧ ent.statusCode ≠ Bytes.ofString "2.0.0" then ⟨none, .ok, .quit⟩
    else if ent.reply = 221 ∧ ent.statusCode = Bytes.ofString "2.0.0" then
      ⟨none, .remainInSameState, .quit⟩
    else if ent.reply = 221 then ⟨none, .ok, .quit⟩
    else ⟨some .quit, .remainInSameState, .quit⟩

end State

end SMTP
