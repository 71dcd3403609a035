import OnPremPbx.Email.Mime
import OnPremPbx.Email.Smtp

/-!
# The text of a mail

`build_mime_message` (`emailservice_fsm.cpp`) puts the data of a mail between the lines of a header
and of parts. The date is written by `asctime`, which ends it with a newline and no carriage return:
the line goes on with what should be the next field, whatever the mail is.
-/

namespace SMTP

open Mime (lines receive messageOf Content Entity IsLine Starts)

/-! ### What is meant -/

variable (env : Env) (acc : Account) (day : Bytes)

/-- The fields of a mail of the given day. -/
def meantFields : List (Bytes × Bytes) :=
  [(Bytes.ofString "MIME-Version", Bytes.ofString "1.0"),
    (Bytes.ofString "From",
      acc.fromName ++ Bytes.ofString " <" ++ acc.fromEmail ++ Bytes.ofString ">"),
    (Bytes.ofString "To", acc.toEmail.flatMap (· ++ Bytes.ofString ";")),
    (Bytes.ofString "Subject", acc.emailSubject),
    (Bytes.ofString "Date", day),
    if acc.attachment = [] then
      (Bytes.ofString "Content-type", Bytes.ofString "text/plain; charset=us-ascii")
    else (Bytes.ofString "Content-Type", Bytes.ofString "multipart/mixed; boundary=cordoba")]

/-- The fields and the text of a part. -/
def meantPart (file : Bytes × Bytes) : Option (List (Bytes × Bytes) × Bytes) :=
  let part (size : ℕ) (content : Bytes) :=
    ([(Bytes.ofString "Content-Transfer-Encoding", Bytes.ofString "base64"),
      (Bytes.ofString "Content-Type", getContentType (extension file.1)),
      (Bytes.ofString "Content-Disposition", Bytes.ofString "attachment; filename=" ++ file.1 ++
        Bytes.ofString " ;size-parm=" ++ Bytes.ofString (toString size))], content)
  match env.readFile file.1 with
  | none          => if file.2 = [] then none else some (part file.2.length file.2)
  | some contents => some (part contents.length (env.encode contents))

def meantParts : List (List (Bytes × Bytes) × Bytes) :=
  ([(Bytes.ofString "Content-type", Bytes.ofString "text/plain; charset=us-ascii")],
    acc.emailBody) :: acc.attachment.filterMap (meantPart env)

/-- The lines of a text, with line ends after it. -/
def IsTextOf (s : Bytes) (ls : List Bytes) : Prop :=
  ∃ n, Mime.textOf ls = s ++ (List.replicate n CRLF).flatten

def IsPartOf (part : List (Bytes × Bytes) × Bytes) (e : Entity) : Prop :=
  e.fields = part.1 ∧ IsTextOf part.2 e.body

/-- The text is received as one message and nothing else, and the message is what is meant. -/
structure Arrives (s : Bytes) : Prop where
  exists_message : ∃ ls m, receive (lines s) = some (ls, [[]]) ∧ messageOf ls = some m ∧
    m.fields = meantFields acc day ∧
    (acc.attachment = [] → ∃ body, m.content = .body body ∧ IsTextOf acc.emailBody body) ∧
    (acc.attachment ≠ [] → ∃ parts, m.content = .parts parts ∧
      List.Forall₂ IsPartOf (meantParts env acc) parts)

/-! ### The header -/

/-- What `asctime` writes for a day. -/
def IsAsctime (date day : Bytes) : Prop := date = day ++ [0x0A] ∧ 0x0A ∉ day ∧ 0x0D ∉ day

variable {env acc day}

/-- The field that is put behind the date. -/
def typeLine (acc : Account) : Bytes :=
  if acc.attachment = [] then Bytes.ofString "Content-type: text/plain; charset=us-ascii"
  else Bytes.ofString "Content-Type: multipart/mixed; boundary=cordoba"

/-- The lines of the header, of which the last one has two fields. -/
def headerLines (env : Env) (acc : Account) : List Bytes :=
  [Bytes.ofString "MIME-Version: " ++ Bytes.ofString "1.0",
    Bytes.ofString "From: " ++
      (acc.fromName ++ Bytes.ofString " <" ++ acc.fromEmail ++ Bytes.ofString ">"),
    Bytes.ofString "To: " ++ acc.toEmail.flatMap (· ++ Bytes.ofString ";"),
    Bytes.ofString "Subject: " ++ acc.emailSubject,
    Bytes.ofString "Date: " ++ (env.date ++ typeLine acc)]

/-- The message starts with the lines of the header. -/
lemma buildMimeMessage_eq (acc : Account) : ∃ r,
    buildMimeMessage env acc (acc.attachment = []) = Mime.textOf (headerLines env acc) ++ r := by
  have hfrom : Bytes.ofString "MIME-Version: 1.0\r\nFrom: " =
      Bytes.ofString "MIME-Version: " ++ Bytes.ofString "1.0" ++ 0x0D :: 0x0A ::
        Bytes.ofString "From: " := by decide
  have hto : Bytes.ofString ">\r\nTo: " =
      Bytes.ofString ">" ++ 0x0D :: 0x0A :: Bytes.ofString "To: " := by decide
  have hsubject : Bytes.ofString "\r\nSubject: " =
      0x0D :: 0x0A :: Bytes.ofString "Subject: " := by decide
  have hdate : Bytes.ofString "\r\nDate: " = 0x0D :: 0x0A :: Bytes.ofString "Date: " := by decide
  rw [buildMimeMessage, hfrom, hto, hsubject, hdate, headerLines, typeLine, Mime.textOf]
  simp only [List.flatMap_cons, List.flatMap_nil, List.append_nil]
  by_cases h : acc.attachment = []
  · have htype : Bytes.ofString "Content-type: text/plain; charset=us-ascii\r\n\r\n" =
        Bytes.ofString "Content-type: text/plain; charset=us-ascii" ++ 0x0D :: 0x0A ::
          [0x0D, 0x0A] := by decide
    rw [if_pos (decide_eq_true h), if_pos h, htype]
    refine ⟨[0x0D, 0x0A] ++ acc.emailBody ++ Bytes.ofString "\r\n" ++
      Bytes.ofString "\r\n.\r\n", ?_⟩
    simp only [List.append_assoc, List.cons_append, List.nil_append]
  · have htype : Bytes.ofString "Content-Type: multipart/mixed; boundary=cordoba\r\n--cordoba\r\n" =
        Bytes.ofString "Content-Type: multipart/mixed; boundary=cordoba" ++ 0x0D :: 0x0A ::
          Bytes.ofString "--cordoba\r\n" := by decide
    rw [if_neg (by simpa using h), if_neg h, htype]
    refine ⟨Bytes.ofString "--cordoba\r\n" ++
      Bytes.ofString "Content-type: text/plain; charset=us-ascii\r\n\r\n" ++ acc.emailBody ++
      Bytes.ofString "\r\n" ++ acc.attachment.flatMap (attachmentPart env) ++
      Bytes.ofString "--cordoba--\r\n" ++ Bytes.ofString "\r\n.\r\n", ?_⟩
    simp only [List.append_assoc, List.cons_append, List.nil_append]

/-- A name and a value make a line that starts a field, if the value is a line. -/
structure IsHeaderLine (l : Bytes) : Prop where
  isLine : IsLine l
  starts : Starts l
  no_dot : l.head? ≠ some 0x2E

lemma isHeaderLine_append {name v : Bytes} {c : UInt8} (hname : 0x0D ∉ name)
    (hhead : name.head? = some c) (hwsp : Mime.isWsp c = false) (hdot : c ≠ 0x2E)
    (hv : IsLine v) : IsHeaderLine (name ++ v) := by
  obtain ⟨name, rfl⟩ := List.head?_eq_some_iff.mp hhead
  refine ⟨Mime.isLine_append_of_not_mem hname hv, ⟨c, name ++ v, rfl, hwsp⟩, fun h => hdot ?_⟩
  exact Option.some.inj h

/-- Where the values are lines, so are the lines of the header. -/
lemma isHeaderLine_of_values (hvalues : ∀ f ∈ meantFields acc day, IsLine f.2)
    (hdate : IsAsctime env.date day) : ∀ l ∈ headerLines env acc, IsHeaderLine l := by
  obtain ⟨hday, -, hCR⟩ := hdate
  simp only [meantFields, List.forall_mem_cons] at hvalues
  obtain ⟨hversion, hfrom, hto, hsubject, -⟩ := hvalues
  have htype : IsLine (env.date ++ typeLine acc) := by
    apply Mime.isLine_of_not_mem
    rw [hday, typeLine]
    split_ifs
    · simp only [List.mem_append, not_or]
      exact ⟨⟨hCR, by decide⟩, by decide⟩
    · simp only [List.mem_append, not_or]
      exact ⟨⟨hCR, by decide⟩, by decide⟩
  simp only [headerLines, List.forall_mem_cons]
  refine ⟨?_, ?_, ?_, ?_, ?_, fun l hl => absurd hl List.not_mem_nil⟩
  · exact isHeaderLine_append (by decide) rfl (by decide) (by decide) hversion
  · exact isHeaderLine_append (by decide) rfl (by decide) (by decide) hfrom
  · exact isHeaderLine_append (by decide) rfl (by decide) (by decide) hto
  · exact isHeaderLine_append (by decide) rfl (by decide) (by decide) hsubject
  · exact isHeaderLine_append (by decide) rfl (by decide) (by decide) htype

/-- The value of the field of the date goes on behind the date. -/
lemma newline_mem_date {t : Bytes} {f : Bytes × Bytes} (hday : env.date = day ++ [0x0A])
    (hf : Mime.fieldOf (Bytes.ofString "Date: " ++ (env.date ++ typeLine acc) ++ t) = some f) :
    0x0A ∈ f.2 := by
  obtain ⟨hname, hvalue⟩ := Mime.fieldOf_eq_some hf
  have hdate : f.1 = Bytes.ofString "Date" := hname.trans rfl
  have hdrop : (Bytes.ofString "Date: " ++ (env.date ++ typeLine acc) ++ t).drop (f.1.length + 1) =
      0x20 :: (env.date ++ typeLine acc ++ t) := by
    rw [hdate]
    rfl
  have hmem : 0x0A ∈ 0x20 :: (env.date ++ typeLine acc ++ t) := by
    rw [hday]
    simp
  rw [hvalue, hdrop]
  rw [← List.takeWhile_append_dropWhile (p := Mime.isWsp) (l := 0x20 :: (env.date ++ _ ++ t)),
    List.mem_append] at hmem
  refine hmem.resolve_left fun hblank => ?_
  exact absurd (List.mem_takeWhile_imp hblank) (by decide)

/-- Not even the fields are those that are meant. -/
lemma not_arrives (hdate : IsAsctime env.date day) :
    ¬ Arrives env acc day (buildMimeMessage env acc (acc.attachment = [])) := by
  rintro ⟨ls, m, hreceive, hmessage, hfields, -, -⟩
  obtain ⟨e, he, heq⟩ := Mime.fields_of_messageOf hmessage
  rw [heq] at hfields
  have hvalues : ∀ f ∈ meantFields acc day, IsLine f.2 := by
    rw [← hfields]
    exact Mime.isLine_of_entityOf
      (Mime.isLine_of_receive (Mime.isLine_of_mem_lines _) hreceive) he
  have hheader := isHeaderLine_of_values hvalues hdate
  obtain ⟨r, hr⟩ := @buildMimeMessage_eq env acc
  rw [hr] at hreceive
  obtain ⟨ls', rfl⟩ := Mime.receive_textOf
    (fun l hl => ⟨(hheader l hl).isLine, (hheader l hl).no_dot⟩) hreceive
  rw [headerLines, List.forall_mem_cons, List.forall_mem_cons, List.forall_mem_cons,
    List.forall_mem_cons, List.forall_mem_cons] at hheader
  obtain ⟨hversion, hfrom, hto, hsubject, hlast, -⟩ := hheader
  have hfirst : ∀ l ∈ (headerLines env acc).take 4, Starts l :=
    List.forall_mem_cons.mpr ⟨hversion.starts, List.forall_mem_cons.mpr ⟨hfrom.starts,
      List.forall_mem_cons.mpr ⟨hto.starts, List.forall_mem_cons.mpr ⟨hsubject.starts,
        fun l hl => absurd hl List.not_mem_nil⟩⟩⟩⟩
  obtain ⟨t, f, hfield, hget⟩ := Mime.field_of_entityOf hfirst hlast.starts he
  have hfifth : e.fields[4]? = some f := hget
  rw [hfields] at hfifth
  obtain rfl := Option.some.inj hfifth
  exact hdate.2.1 (newline_mem_date hdate.1 hfield)

/-- Whatever a mail is, its text does not arrive as it is meant. -/
theorem buildMimeMessage_not_arrives (hdate : IsAsctime env.date day) (acc : Account) :
    ¬ Arrives env acc day (buildMimeMessage env acc (acc.attachment = [])) :=
  not_arrives hdate

/-! ### A mail -/

def mailDay : Bytes := Bytes.ofString "Thu Jan  1 00:00:00 1970"

/-- No files, and texts that are their own encoding. -/
def mailEnv : Env where
  begin ents := ents.headD ⟨0, []⟩
  encode s := s
  decode s := some s
  date := mailDay ++ [0x0A]
  readFile _ := none

def mailTo (body : String) : Account :=
  { fromName := Bytes.ofString "A", fromEmail := Bytes.ofString "a@h",
    toEmail := [Bytes.ofString "b@h"], emailSubject := Bytes.ofString "s",
    emailBody := Bytes.ofString body }

theorem buildMimeMessage_not_arrives_hello :
    ¬ Arrives mailEnv (mailTo "hello") mailDay
      (buildMimeMessage mailEnv (mailTo "hello") ((mailTo "hello").attachment = [])) :=
  buildMimeMessage_not_arrives ⟨rfl, by decide, by decide⟩ (mailTo "hello")

/-- The fields of a mail are not those that are meant, and commands in a body are left to the
server. -/
theorem body_ends_message :
    ¬ Arrives mailEnv (mailTo "hello") mailDay
      (buildMimeMessage mailEnv (mailTo "hello") ((mailTo "hello").attachment = [])) ∧
    (receive (lines (buildMimeMessage mailEnv (mailTo "x\r\n.\r\nRSET")
      ((mailTo "x\r\n.\r\nRSET").attachment = [])))).map Prod.snd =
        some [Bytes.ofString "RSET", [], Bytes.ofString ".", []] :=
  ⟨not_arrives ⟨rfl, by decide, by decide⟩, by decide⟩

/-- With the line of the date ended, the fields would be those that are meant. -/
example : ((receive (lines (Bytes.ofString ("MIME-Version: 1.0\r\nFrom: A <a@h>\r\nTo: b@h;\r\n" ++
    "Subject: s\r\nDate: Thu Jan  1 00:00:00 1970\r\n" ++
    "Content-type: text/plain; charset=us-ascii\r\n\r\nhello\r\n\r\n.\r\n")))).bind fun r =>
      (messageOf r.1).map fun m => (r.2, m.fields)) =
    some ([[]], meantFields (mailTo "hello") mailDay) := by
  decide +kernel

end SMTP
