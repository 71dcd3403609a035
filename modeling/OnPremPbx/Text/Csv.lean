import OnPremPbx.Text.Search

/-!
# Tables of comma-separated values

The texts of RFC 4180: a record is a line that ends with CRLF, its fields stand between commas, and
a field may be in quotes, with the quotes in it doubled. The reader goes through a text character by
character, so what it makes of a text is put together from what it makes of its parts.
-/

namespace Csv

def comma : UInt8 := 0x2C
def quote : UInt8 := 0x22
def CR : UInt8 := 0x0D
def LF : UInt8 := 0x0A

/-- A character that may stand in a field without quotes. -/
def isText (c : UInt8) : Bool := c != comma && c != quote && c != CR && c != LF

/-! ### The reader -/

/-- Where the reader is: before a field, in a field without quotes or with them, behind a quote in
such a field, or behind the CR of a line. -/
inductive Mode
  | start | plain | quoted | closed | ended
  deriving DecidableEq

/-- The field and the record that are read, and the records before. -/
structure Reader where
  mode : Mode := .start
  field : List UInt8 := []
  record : List (List UInt8) := []
  records : List (List (List UInt8)) := []

namespace Reader

def add (r : Reader) (m : Mode) (c : UInt8) : Reader :=
  { r with mode := m, field := r.field ++ [c] }

/-- The field is complete, and the next one begins. -/
def nextField (r : Reader) : Reader :=
  { r with mode := .start, field := [], record := r.record ++ [r.field] }

/-- The record is complete, and the next one begins. -/
def nextRecord (r : Reader) : Reader := { records := r.records ++ [r.record ++ [r.field]] }

/-- One character outside of quotes, with the modes after a quote and after a text character. -/
def between (r : Reader) (c : UInt8) (onQuote onText : Option Reader) : Option Reader :=
  if c = comma then some r.nextField
  else if c = CR then some { r with mode := .ended }
  else if c = quote then onQuote
  else if c = LF then none
  else onText

/-- One character; `none` if it may not stand there. -/
def step (r : Reader) (c : UInt8) : Option Reader :=
  match r.mode with
  | .start  => r.between c (some { r with mode := .quoted }) (some (r.add .plain c))
  | .plain  => r.between c none (some (r.add .plain c))
  | .quoted => some (if c = quote then { r with mode := .closed } else r.add .quoted c)
  | .closed => r.between c (some (r.add .quoted quote)) none
  | .ended  => if c = LF then some r.nextRecord else none

def run (r : Reader) (s : List UInt8) : Option Reader := s.foldlM step r

/-- The records at the end of the text; the last line may have no CRLF. -/
def finish (r : Reader) : Option (List (List (List UInt8))) :=
  match r.mode with
  | .quoted | .ended => none
  | .start           =>
    some (if r.record = [] then r.records else r.nextRecord.records)
  | _                => some r.nextRecord.records

lemma run_append (r : Reader) (s s' : List UInt8) :
    r.run (s ++ s') = (r.run s).bind (·.run s') :=
  List.foldlM_append

lemma run_cons (r : Reader) (c : UInt8) (s : List UInt8) :
    r.run (c :: s) = (r.step c).bind (·.run s) :=
  List.foldlM_cons

@[simp] lemma run_nil (r : Reader) : r.run [] = some r := rfl

end Reader

/-- The records of a text. -/
def read (s : List UInt8) : Option (List (List (List UInt8))) :=
  (({} : Reader).run s).bind (·.finish)

/-! ### Fields -/

/-- The quotes doubled. -/
def doubled (f : List UInt8) : List UInt8 :=
  f.flatMap fun c => if c = quote then [quote, quote] else [c]

/-- A text of a field. -/
inductive IsFieldText (f : List UInt8) : List UInt8 → Prop
  | plain : (∀ c ∈ f, isText c = true) → IsFieldText f f
  | quoted : IsFieldText f (quote :: doubled f ++ [quote])

namespace Reader

variable {r : Reader}

/-- A text character outside of quotes. -/
lemma between_of_isText {c : UInt8} (hc : isText c = true) (onQuote onText : Option Reader) :
    r.between c onQuote onText = onText := by
  simp only [isText, Bool.and_eq_true, bne_iff_ne] at hc
  rw [between, if_neg hc.1.1.1, if_neg hc.1.2, if_neg hc.1.1.2, if_neg hc.2]

/-- The characters of a field without quotes are added to it. -/
lemma run_plain {s : List UInt8} (hs : ∀ c ∈ s, isText c = true) (hr : r.mode = .plain) :
    r.run s = some { r with field := r.field ++ s } := by
  induction s generalizing r with
  | nil => simp
  | cons c s ih =>
    rw [List.forall_mem_cons] at hs
    have hstep : r.step c = some (r.add .plain c) := by
      rw [step, hr]
      exact between_of_isText hs.1 _ _
    rw [run_cons, hstep, Option.bind_some, ih hs.2 rfl]
    simp [add, hr]

/-- The characters between quotes are added to the field, with two quotes for one. -/
lemma run_doubled (s : List UInt8) (hr : r.mode = .quoted) :
    r.run (doubled s) = some { r with field := r.field ++ s } := by
  induction s generalizing r with
  | nil => simp [doubled]
  | cons c s ih =>
    have hcons : doubled (c :: s) =
        (if c = quote then [quote, quote] else [c]) ++ doubled s := List.flatMap_cons
    have hadd : r.run (if c = quote then [quote, quote] else [c]) = some (r.add .quoted c) := by
      split_ifs with hc
      · rw [run_cons, step, hr]
        simp [run_cons, step, between, add, hc, quote, comma, CR]
      · rw [run_cons, step, hr]
        simp [hc]
    rw [hcons, run_append, hadd, Option.bind_some, ih rfl]
    simp [add, hr]

/-- Behind a field: it is read, and it may end. -/
def Behind (r : Reader) (f : List UInt8) (r' : Reader) : Prop :=
  ∃ m, (m = .start ∨ m = .plain ∨ m = .closed) ∧ r' = { r with mode := m, field := f }

lemma Behind.comma {f : List UInt8} {r' : Reader} (h : Behind r f r') :
    r'.step comma = some { r with mode := .start, field := [], record := r.record ++ [f] } := by
  obtain ⟨m, rfl | rfl | rfl, rfl⟩ := h <;> rfl

lemma Behind.crlf {f : List UInt8} {r' : Reader} (h : Behind r f r') :
    r'.run [CR, LF] = some { records := r.records ++ [r.record ++ [f]] } := by
  obtain ⟨m, rfl | rfl | rfl, rfl⟩ := h <;> rfl

/-- A field is read from its text. -/
lemma run_fieldText {f t : List UInt8} (ht : IsFieldText f t) (hmode : r.mode = .start)
    (hfield : r.field = []) : ∃ r', r.run t = some r' ∧ Behind r f r' := by
  cases ht with
  | plain hf =>
    cases f with
    | nil => exact ⟨r, rfl, .start, Or.inl rfl, by rw [← hmode, ← hfield]⟩
    | cons c f =>
      rw [List.forall_mem_cons] at hf
      have hstep : r.step c = some (r.add .plain c) := by
        rw [step, hmode]
        exact between_of_isText hf.1 _ _
      refine ⟨_, ?_, .plain, Or.inr (Or.inl rfl), rfl⟩
      rw [run_cons, hstep, Option.bind_some, run_plain hf.2 rfl]
      simp [add, hfield]
  | quoted =>
    have hopen : r.step quote = some { r with mode := .quoted } := by
      rw [step, hmode]
      rfl
    refine ⟨_, ?_, .closed, Or.inr (Or.inr rfl), rfl⟩
    rw [List.cons_append, run_cons, hopen, Option.bind_some, run_append, run_doubled f rfl,
      Option.bind_some, hfield, run_cons, step]
    rfl

/-- A record is read from the texts of its fields. -/
lemma run_record {fs ts : List (List UInt8)} (hts : List.Forall₂ IsFieldText fs ts)
    (hne : fs ≠ []) (hmode : r.mode = .start) (hfield : r.field = []) :
    r.run (List.intercalate [comma] ts ++ [CR, LF]) =
      some { records := r.records ++ [r.record ++ fs] } := by
  induction hts generalizing r with
  | nil => exact absurd rfl hne
  | @cons f t fs ts ht hts ih =>
    obtain ⟨r', hr', hbehind⟩ := run_fieldText ht hmode hfield
    cases hts with
    | nil =>
      rw [List.intercalate_singleton, run_append, hr', Option.bind_some, hbehind.crlf]
    | cons ht' hts' =>
      rw [List.intercalate_cons_cons, List.append_assoc, List.append_assoc, run_append, hr',
        Option.bind_some, List.singleton_append, run_cons, hbehind.comma, Option.bind_some,
        ih (List.cons_ne_nil _ _) rfl rfl, List.append_assoc]
      rfl

end Reader

/-! ### Records -/

/-- A line of a record. -/
def IsLine (fs : List (List UInt8)) (l : List UInt8) : Prop :=
  fs ≠ [] ∧ ∃ ts, List.Forall₂ IsFieldText fs ts ∧ l = List.intercalate [comma] ts ++ [CR, LF]

lemma run_lines {records : List (List (List UInt8))} {lines : List (List UInt8)}
    (h : List.Forall₂ IsLine records lines) (r : List (List (List UInt8))) :
    ({ records := r } : Reader).run lines.flatten = some { records := r ++ records } := by
  induction h generalizing r with
  | nil => simp
  | cons hline _ ih =>
    obtain ⟨hne, ts, hts, rfl⟩ := hline
    rw [List.flatten_cons, Reader.run_append, Reader.run_record hts hne rfl rfl, Option.bind_some,
      ih, List.nil_append, List.append_assoc]
    rfl

/-- The records are read from their lines. -/
theorem read_lines {records : List (List (List UInt8))} {lines : List (List UInt8)}
    (h : List.Forall₂ IsLine records lines) : read lines.flatten = some records := by
  rw [read, run_lines h, Option.bind_some, List.nil_append]
  rfl

end Csv
