import Mathlib.Data.List.Infix
import Mathlib.Data.List.TakeWhile
import Mathlib.Tactic

/-!
# Mails as they are received

An SMTP server reads lines that end with CR and LF, up to the first one that is a dot, and takes a
dot away from the lines that start with one. A line of the header is a field, or goes on with the
field before it. A body of several parts has them between lines with the boundary.
-/

namespace Mime

/-! ### Lines -/

/-- The lines of a text, and what is left after the last one. -/
def lines : List UInt8 → List (List UInt8)
  | []                => [[]]
  | 0x0D :: 0x0A :: s => [] :: lines s
  | c :: s            =>
    match lines s with
    | l :: ls => (c :: l) :: ls
    | []      => [[c]]

/-- The text of lines. -/
def textOf (ls : List (List UInt8)) : List UInt8 := ls.flatMap (· ++ [0x0D, 0x0A])

/-- A line without the dot that was put in front of it. -/
def unstuff : List UInt8 → List UInt8
  | 0x2E :: l => l
  | l         => l

/-- The lines of a message, and what comes after it. The last line of a text has no end. -/
def receive : List (List UInt8) → Option (List (List UInt8) × List (List UInt8))
  | l :: l' :: ls =>
    if l = [0x2E] then some ([], l' :: ls)
    else (receive (l' :: ls)).map fun r => (unstuff l :: r.1, r.2)
  | _             => none

/-! ### Headers -/

def isWsp (c : UInt8) : Bool := c = 0x20 ∨ c = 0x09

/-- The line goes on with the one before it. -/
def isFolded (l : List UInt8) : Bool := l.head?.any isWsp

/-- Each line with those that go on with it. -/
def unfold : List (List UInt8) → List (List UInt8)
  | []      => []
  | l :: ls =>
    match unfold ls with
    | l' :: ls' => if isFolded l' then (l ++ l') :: ls' else l :: l' :: ls'
    | []        => [l]

/-- The name and the value of a field. -/
def fieldOf (l : List UInt8) : Option (List UInt8 × List UInt8) :=
  let name := l.takeWhile (· ≠ 0x3A)
  if name ≠ [] ∧ (name.all fun c => decide (0x21 ≤ c ∧ c ≤ 0x7E)) ∧ 0x3A ∈ l then
    some (name, (l.drop (name.length + 1)).dropWhile isWsp)
  else none

/-- Fields and lines. -/
structure Entity where
  fields : List (List UInt8 × List UInt8)
  body : List (List UInt8)
  deriving DecidableEq, Repr

/-- The header ends with the first line that is empty. -/
def entityOf (ls : List (List UInt8)) : Option Entity :=
  ((unfold (ls.takeWhile (· ≠ []))).mapM fieldOf).map fun fields =>
    ⟨fields, (ls.dropWhile (· ≠ [])).drop 1⟩

/-! ### Parts -/

def lower (c : UInt8) : UInt8 := if 0x41 ≤ c ∧ c ≤ 0x5A then c + 0x20 else c

def text (s : String) : List UInt8 := s.toList.map fun c => UInt8.ofNat c.toNat

/-- What follows a text. -/
def after (pat : List UInt8) : List UInt8 → Option (List UInt8)
  | []     => none
  | c :: s => if pat <+: c :: s then some ((c :: s).drop pat.length) else after pat s

/-- The boundary of the parts, if the fields say that there are parts. -/
def boundaryOf (fields : List (List UInt8 × List UInt8)) : Option (List UInt8) := do
  let field ← fields.find? fun f => f.1.map lower = text "content-type"
  if text "multipart/" <+: field.2.map lower then
    (after (text "boundary=") field.2).map fun s => s.takeWhile (· ≠ 0x3B)
  else none

def delimiter (b : List UInt8) : List UInt8 := 0x2D :: 0x2D :: b

/-- The lines up to the next delimiter, and the parts after it. -/
def collect (b : List UInt8) :
    List (List UInt8) → Option (List (List UInt8) × List (List (List UInt8)))
  | []      => none
  | l :: ls =>
    if l = delimiter b ++ [0x2D, 0x2D] then some ([], [])
    else (collect b ls).map fun r =>
      if l = delimiter b then ([], r.1 :: r.2) else (l :: r.1, r.2)

/-- The parts of a body. -/
def partsOf (b : List UInt8) (ls : List (List UInt8)) : Option (List Entity) :=
  match ls.dropWhile (· ≠ delimiter b) with
  | _ :: ls => (collect b ls).bind fun r => (r.1 :: r.2).mapM entityOf
  | []      => none

/-- A message has one body, or parts. -/
inductive Content where
  | body (ls : List (List UInt8))
  | parts (ps : List Entity)
  deriving DecidableEq, Repr

structure Message where
  fields : List (List UInt8 × List UInt8)
  content : Content
  deriving DecidableEq, Repr

def messageOf (ls : List (List UInt8)) : Option Message := do
  let e ← entityOf ls
  match boundaryOf e.fields with
  | none   => some ⟨e.fields, .body e.body⟩
  | some b => (partsOf b e.body).map fun ps => ⟨e.fields, .parts ps⟩

/-! ### Lines have no line ends -/

/-- There is no line end in the text. -/
def IsLine (s : List UInt8) : Prop := ¬ [0x0D, 0x0A] <:+: s

variable {s t l : List UInt8} {ls : List (List UInt8)}

lemma isLine_cons {c : UInt8} :
    IsLine (c :: s) ↔ ¬ (c = 0x0D ∧ s.head? = some 0x0A) ∧ IsLine s := by
  rw [IsLine, List.infix_cons_iff, not_or, IsLine]
  refine and_congr_left fun _ => not_congr ?_
  rw [List.cons_prefix_cons, eq_comm]
  refine and_congr_right fun _ => ?_
  cases s with
  | nil => simp
  | cons c' s =>
    rw [List.cons_prefix_cons, List.head?_cons, Option.some.injEq, eq_comm]
    simp

lemma isLine_of_not_mem (h : 0x0D ∉ s) : IsLine s := fun hsub =>
  h (hsub.subset List.mem_cons_self)

lemma IsLine.of_suffix (h : IsLine s) (ht : t <:+ s) : IsLine t :=
  fun hsub => h (hsub.trans ht.isInfix)

/-- A text and a line that goes on with it. -/
lemma IsLine.append (hs : IsLine s) (ht : IsLine t) (hhead : t.head? ≠ some 0x0A) :
    IsLine (s ++ t) := by
  induction s with
  | nil => exact ht
  | cons c s ih =>
    rw [isLine_cons] at hs
    rw [List.cons_append, isLine_cons]
    refine ⟨fun h => ?_, ih hs.2⟩
    cases s with
    | nil => exact hhead h.2
    | cons c' s => exact hs.1 h

lemma isLine_append_of_not_mem (hs : 0x0D ∉ s) (ht : IsLine t) : IsLine (s ++ t) := by
  induction s with
  | nil => exact ht
  | cons c s ih =>
    rw [List.mem_cons, not_or] at hs
    rw [List.cons_append, isLine_cons]
    exact ⟨fun h => hs.1 h.1.symm, ih hs.2⟩

/-- The first line starts as the text does. -/
lemma head?_of_lines {c : UInt8} (h : lines s = l :: ls) (hc : l.head? = some c) :
    s.head? = some c := by
  fun_cases lines s with
  | case1 =>
    cases h
    cases hc
  | case2 s =>
    cases h
    cases hc
  | case3 c s _ l ls hlines =>
    rw [lines, hlines] at h
    · cases h
      exact hc
    · assumption
  | case4 c s _ hlines =>
    rw [lines, hlines] at h
    · cases h
      exact hc
    · assumption

lemma isLine_of_mem_lines (s : List UInt8) : ∀ l ∈ lines s, IsLine l := by
  have hnil : IsLine [] := isLine_of_not_mem List.not_mem_nil
  fun_induction lines s with
  | case1 => exact List.forall_mem_cons.mpr ⟨hnil, fun l hl => absurd hl List.not_mem_nil⟩
  | case2 s ih => exact List.forall_mem_cons.mpr ⟨hnil, ih⟩
  | case3 c s hnot l ls hlines ih =>
    rw [hlines, List.forall_mem_cons] at ih
    refine List.forall_mem_cons.mpr ⟨isLine_cons.mpr ⟨?_, ih.1⟩, ih.2⟩
    rintro ⟨rfl, hhead⟩
    have hs := head?_of_lines hlines hhead
    cases s with
    | nil => cases hs
    | cons c s =>
      cases hs
      exact hnot s rfl rfl
  | case4 c s hnot hlines ih =>
    refine List.forall_mem_cons.mpr ⟨isLine_cons.mpr ⟨?_, hnil⟩, fun l hl =>
      absurd hl List.not_mem_nil⟩
    rintro ⟨-, hhead⟩
    cases hhead

/-- A line is what comes before its end. -/
lemma lines_append (hs : IsLine s) (t : List UInt8) :
    lines (s ++ 0x0D :: 0x0A :: t) = s :: lines t := by
  induction s with
  | nil => rfl
  | cons c s ih =>
    rw [isLine_cons] at hs
    rw [List.cons_append, lines, ih hs.2]
    rintro s' rfl heq
    cases s with
    | nil => cases heq
    | cons c' s =>
      cases heq
      exact hs.1 ⟨rfl, rfl⟩

/-! ### What is received -/

lemma suffix_unstuff (l : List UInt8) : unstuff l <:+ l := by
  rw [unstuff.eq_def]
  split
  · exact List.suffix_cons _ _
  · exact List.suffix_refl _

lemma isLine_of_receive {r : List (List UInt8) × List (List UInt8)} (hls : ∀ l ∈ ls, IsLine l)
    (h : receive ls = some r) : ∀ l ∈ r.1, IsLine l := by
  fun_induction receive ls generalizing r with
  | case1 l' ls =>
    cases h
    exact fun l hl => absurd hl List.not_mem_nil
  | case2 l l' ls hdot ih =>
    obtain ⟨r', hr', rfl⟩ := Option.map_eq_some_iff.mp h
    rw [List.forall_mem_cons] at hls
    exact List.forall_mem_cons.mpr ⟨hls.1.of_suffix (suffix_unstuff l), ih hls.2 hr'⟩
  | case3 ls hnot => cases h

/-- A line that starts with no dot is received as it is. -/
lemma receive_cons {r : List (List UInt8) × List (List UInt8)} (hl : l.head? ≠ some 0x2E)
    (h : receive (l :: ls) = some r) : ∃ r', receive ls = some r' ∧ r = (l :: r'.1, r'.2) := by
  cases ls with
  | nil => cases h
  | cons l' ls =>
    rw [receive, if_neg fun hdot => hl (by rw [hdot]; rfl)] at h
    obtain ⟨r', hr', rfl⟩ := Option.map_eq_some_iff.mp h
    refine ⟨r', hr', ?_⟩
    cases l with
    | nil => rfl
    | cons c l =>
      rw [unstuff]
      intro l' heq
      rw [heq] at hl
      exact hl rfl

/-- Lines that start with no dot are received as they are. -/
lemma receive_textOf {hs : List (List UInt8)}
    (hhs : ∀ h ∈ hs, IsLine h ∧ h.head? ≠ some 0x2E) {r : List (List UInt8) × List (List UInt8)}
    (h : receive (lines (textOf hs ++ s)) = some r) : ∃ ls, r.1 = hs ++ ls := by
  induction hs generalizing r with
  | nil => exact ⟨r.1, rfl⟩
  | cons l hs ih =>
    rw [List.forall_mem_cons] at hhs
    have htext : textOf (l :: hs) ++ s = l ++ 0x0D :: 0x0A :: (textOf hs ++ s) := by
      rw [textOf, List.flatMap_cons, textOf]
      simp only [List.append_assoc, List.cons_append, List.nil_append]
    rw [htext, lines_append hhs.1.1] at h
    obtain ⟨r', hr', rfl⟩ := receive_cons hhs.1.2 h
    obtain ⟨ls, hls⟩ := ih hhs.2 hr'
    exact ⟨ls, by rw [hls, List.cons_append]⟩

/-! ### Headers -/

lemma unfold_cons (l : List UInt8) (ls : List (List UInt8)) :
    ∃ t ls', unfold (l :: ls) = (l ++ t) :: ls' := by
  rw [unfold]
  split
  · split_ifs
    · exact ⟨_, _, rfl⟩
    · exact ⟨[], _, by rw [List.append_nil]⟩
  · exact ⟨[], [], by rw [List.append_nil]⟩

/-- A line with a first character that is no blank starts a field. -/
lemma unfold_cons_cons (l : List UInt8) {c : UInt8} (hc : isWsp c = false) (s : List UInt8)
    (ls : List (List UInt8)) : unfold (l :: (c :: s) :: ls) = l :: unfold ((c :: s) :: ls) := by
  obtain ⟨t, ls', h⟩ := unfold_cons (c :: s) ls
  have hfolded : ¬ isFolded (c :: s ++ t) = true := by
    change ¬ (some c).any isWsp = true
    simp [hc]
  rw [unfold, h]
  dsimp only
  rw [if_neg hfolded]

lemma isLine_of_mem_unfold (hls : ∀ l ∈ ls, IsLine l) : ∀ l ∈ unfold ls, IsLine l := by
  induction ls with
  | nil => exact hls
  | cons l ls ih =>
    rw [List.forall_mem_cons] at hls
    have hih := ih hls.2
    rw [unfold]
    split
    · rename_i l' ls' hunfold
      rw [hunfold, List.forall_mem_cons] at hih
      split_ifs with hfolded
      · refine List.forall_mem_cons.mpr ⟨hls.1.append hih.1 fun hhead => ?_, hih.2⟩
        rw [isFolded, hhead] at hfolded
        exact absurd hfolded (by decide)
      · exact List.forall_mem_cons.mpr ⟨hls.1, List.forall_mem_cons.mpr hih⟩
    · exact List.forall_mem_cons.mpr ⟨hls.1, fun l hl => absurd hl List.not_mem_nil⟩

lemma fieldOf_eq_some {f : List UInt8 × List UInt8} (h : fieldOf l = some f) :
    f.1 = l.takeWhile (· ≠ 0x3A) ∧ f.2 = (l.drop (f.1.length + 1)).dropWhile isWsp := by
  rw [fieldOf, Option.ite_none_right_eq_some, Option.some.injEq] at h
  obtain ⟨-, rfl⟩ := h
  exact ⟨rfl, rfl⟩

lemma suffix_of_fieldOf {f : List UInt8 × List UInt8} (h : fieldOf l = some f) : f.2 <:+ l := by
  rw [(fieldOf_eq_some h).2]
  exact (List.dropWhile_suffix _).trans (List.drop_suffix _ _)

lemma map_of_mapM {α β : Type} {f : α → Option β} {as : List α} {bs : List β}
    (h : as.mapM f = some bs) : as.map f = bs.map some := by
  induction as generalizing bs with
  | nil =>
    cases h
    rfl
  | cons a as ih =>
    simp only [List.mapM_cons, Option.bind_eq_bind, Option.bind_eq_some_iff] at h
    obtain ⟨b, hb, bs', hbs, h⟩ := h
    cases h
    rw [List.map_cons, List.map_cons, hb, ih hbs]

/-- The value of a field is a line. -/
lemma isLine_of_entityOf {e : Entity} (hls : ∀ l ∈ ls, IsLine l) (h : entityOf ls = some e) :
    ∀ f ∈ e.fields, IsLine f.2 := by
  obtain ⟨fields, hfields, rfl⟩ := Option.map_eq_some_iff.mp h
  have hblock : ∀ l ∈ unfold (ls.takeWhile (· ≠ [])), IsLine l :=
    isLine_of_mem_unfold fun l hl => hls l (List.takeWhile_prefix _ |>.subset hl)
  intro f hf
  have hmem : some f ∈ fields.map some := List.mem_map_of_mem hf
  rw [← map_of_mapM hfields, List.mem_map] at hmem
  obtain ⟨l, hl, hfield⟩ := hmem
  exact (hblock l hl).of_suffix (suffix_of_fieldOf hfield)

/-- The line starts a field. -/
def Starts (l : List UInt8) : Prop := ∃ c s, l = c :: s ∧ isWsp c = false

lemma unfold_append {hs : List (List UInt8)} (hhs : ∀ h ∈ hs, Starts h) (hl : Starts l)
    (ls : List (List UInt8)) : unfold (hs ++ l :: ls) = hs ++ unfold (l :: ls) := by
  induction hs with
  | nil => rfl
  | cons h hs ih =>
    rw [List.forall_mem_cons] at hhs
    have hih := ih hhs.2
    cases hs with
    | nil =>
      obtain ⟨c, s, rfl, hc⟩ := hl
      exact unfold_cons_cons h hc s ls
    | cons h' hs =>
      obtain ⟨c, s, rfl, hc⟩ := hhs.2 h' List.mem_cons_self
      rw [List.cons_append, List.cons_append] at hih ⊢
      rw [unfold_cons_cons h hc, hih]
      rfl

/-- The field that a line starts, after lines that start fields. -/
lemma field_of_entityOf {hs : List (List UInt8)} {e : Entity} (hhs : ∀ h ∈ hs, Starts h)
    (hl : Starts l) (h : entityOf (hs ++ l :: ls) = some e) :
    ∃ t f, fieldOf (l ++ t) = some f ∧ e.fields[hs.length]? = some f := by
  obtain ⟨fields, hfields, rfl⟩ := Option.map_eq_some_iff.mp h
  have hne : ∀ {l : List UInt8}, Starts l → decide (l ≠ []) = true := by
    rintro l ⟨c, s, rfl, -⟩
    exact decide_eq_true (List.cons_ne_nil c s)
  rw [List.takeWhile_append_of_pos fun l hl => hne (hhs l hl),
    List.takeWhile_cons_of_pos (p := fun l => decide (l ≠ [])) (hne hl),
    unfold_append hhs hl] at hfields
  obtain ⟨t, ls', hunfold⟩ := unfold_cons l (ls.takeWhile (· ≠ []))
  have hget := congrArg (·[hs.length]?) (map_of_mapM hfields)
  rw [hunfold, List.getElem?_map, List.getElem?_map, List.getElem?_append_right le_rfl,
    Nat.sub_self, List.getElem?_cons_zero, Option.map_some, eq_comm, Option.map_eq_some_iff] at hget
  obtain ⟨f, hf, hfield⟩ := hget
  exact ⟨t, f, hfield.symm, hf⟩

lemma fields_of_messageOf {m : Message} (h : messageOf ls = some m) :
    ∃ e, entityOf ls = some e ∧ m.fields = e.fields := by
  obtain ⟨e, he, h⟩ := Option.bind_eq_some_iff.mp h
  refine ⟨e, he, ?_⟩
  split at h
  · cases h
    rfl
  · obtain ⟨ps, -, rfl⟩ := Option.map_eq_some_iff.mp h
    rfl

end Mime
