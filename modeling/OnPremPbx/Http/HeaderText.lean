import OnPremPbx.Http.MessageParser

/-!
# Texts of headers

The text of a header is a first line, a line for each field, and an empty line. It is found at the
front of whatever it starts, and read back line by line.
-/

open Text

namespace Http

def CR : UInt8 := 0x0D
def LF : UInt8 := 0x0A

/-! ### Lines -/

/-- The lines of a header, with the empty one. -/
def textLines : List Bytes → Bytes
  | []      => CRLF
  | l :: ls => l ++ CRLF ++ textLines ls

def fieldLine (f : Bytes × Bytes) : Bytes := f.1 ++ 0x3A :: 0x20 :: f.2

/-- A name without a colon, and nothing that ends the line. -/
structure IsField (f : Bytes × Bytes) : Prop where
  colon : 0x3A ∉ f.1
  noCR : CR ∉ f.1 ++ f.2
  noLF : LF ∉ f.1 ++ f.2

lemma cr_not_mem_fieldLine {f : Bytes × Bytes} (hf : IsField f) : CR ∉ fieldLine f := by
  have h := hf.noCR
  rw [List.mem_append, not_or] at h
  simp only [fieldLine, List.mem_append, List.mem_cons, not_or]
  exact ⟨h.1, by decide, by decide, h.2⟩

lemma lf_not_mem_fieldLine {f : Bytes × Bytes} (hf : IsField f) : LF ∉ fieldLine f := by
  have h := hf.noLF
  rw [List.mem_append, not_or] at h
  simp only [fieldLine, List.mem_append, List.mem_cons, not_or]
  exact ⟨h.1, by decide, by decide, h.2⟩

lemma fieldLine_ne_nil (f : Bytes × Bytes) : fieldLine f ≠ [] :=
  List.append_ne_nil_of_right_ne_nil _ (List.cons_ne_nil _ _)

lemma splitField_fieldLine {f : Bytes × Bytes} (hf : IsField f) :
    splitField (fieldLine f) = some f := by
  have hfind : find [0x3A] (fieldLine f) = some f.1.length := by
    rw [fieldLine, find_skip hf.colon, find_cons_of_prefix (by simp), Option.map_some, zero_add]
  rw [splitField, hfind, Option.map_some, fieldLine, List.take_left,
    show f.1 ++ 0x3A :: 0x20 :: f.2 = (f.1 ++ [0x3A, 0x20]) ++ f.2 by simp,
    List.drop_left' (by simp)]

lemma find_sep_skip {l : Bytes} (hl : CR ∉ l) (s : Bytes) :
    find sep (l ++ s) = (find sep s).map (· + l.length) := find_skip hl s

lemma find_CRLF_skip {l : Bytes} (hl : CR ∉ l) (s : Bytes) :
    find CRLF (l ++ s) = (find CRLF s).map (· + l.length) := find_skip hl s

/-- The header ends with its empty line, whatever comes after it. -/
lemma find_sep_textLines {l : Bytes} {ls : List Bytes} (hl : CR ∉ l)
    (hls : ∀ m ∈ ls, CR ∉ m ∧ m ≠ []) (x : Bytes) :
    ∃ i, find sep (textLines (l :: ls) ++ x) = some i ∧
      i + sep.length = (textLines (l :: ls)).length := by
  induction ls generalizing l with
  | nil =>
    have hsplit : textLines [l] ++ x = l ++ (sep ++ x) := by simp [textLines, sep]
    refine ⟨l.length, ?_, by simp [textLines, sep]⟩
    rw [hsplit, find_sep_skip hl, find_of_prefix (List.prefix_append sep x), Option.map_some,
      zero_add]
  | cons m ms ih =>
    obtain ⟨hm, hne⟩ := hls m List.mem_cons_self
    obtain ⟨i, hi, hlen⟩ := ih hm fun k hk => hls k (List.mem_cons_of_mem _ hk)
    obtain ⟨c, m', rfl⟩ := List.exists_cons_of_ne_nil hne
    have hc : (0x0D : UInt8) ≠ c := fun h => hm (h ▸ List.mem_cons_self)
    have hsplit : textLines (l :: (c :: m') :: ms) ++ x =
        l ++ (0x0D :: 0x0A :: (textLines ((c :: m') :: ms) ++ x)) := by
      simp [textLines, CRLF]
    have h₁ : ¬ sep <+: 0x0D :: 0x0A :: (textLines ((c :: m') :: ms) ++ x) := by
      simp [sep, CRLF, textLines, hc]
    have h₂ : ¬ sep <+: 0x0A :: (textLines ((c :: m') :: ms) ++ x) := by
      simp [sep, CRLF]
    refine ⟨i + 1 + 1 + l.length, ?_, ?_⟩
    · rw [hsplit, find_sep_skip hl, find_cons_of_not_prefix h₁, find_cons_of_not_prefix h₂, hi]
      rfl
    · rw [textLines, List.length_append, List.length_append, ← hlen]
      simp only [CRLF, List.length_cons, List.length_nil]
      omega

lemma getlines_textLines {ls : List Bytes} (hls : ∀ l ∈ ls, LF ∉ l) :
    getlines LF (textLines ls) = ls.map (· ++ [CR]) ++ [[CR]] := by
  induction ls with
  | nil => rfl
  | cons l ls ih =>
    have hl : LF ∉ l ++ [CR] := by
      rw [List.mem_append, not_or]
      exact ⟨hls l List.mem_cons_self, by decide⟩
    have hsplit : textLines (l :: ls) = (l ++ [CR]) ++ LF :: textLines ls := by
      simp [textLines, CRLF, CR, LF]
    rw [hsplit, getlines_append hl, ih fun m hm => hls m (List.mem_cons_of_mem _ hm)]
    rfl

lemma chopCR_append (l : Bytes) : chopCR (l ++ [CR]) = l := by
  rw [chopCR, List.getLast?_concat, if_pos (show some CR = some 0x0D from rfl),
    List.dropLast_concat]

lemma readFields_lines {fs : List (Bytes × Bytes)} (hfs : ∀ f ∈ fs, IsField f) :
    readFields ((fs.map fieldLine).map (· ++ [CR]) ++ [[CR]]) = fs := by
  induction fs with
  | nil => rfl
  | cons f fs ih =>
    rw [List.map_cons, List.map_cons, List.cons_append, readFields, chopCR_append,
      if_neg (fieldLine_ne_nil f), splitField_fieldLine (hfs f List.mem_cons_self),
      ih fun g hg => hfs g (List.mem_cons_of_mem _ hg)]

/-! ### Headers -/

/-- The text of a header. -/
def headerText (line : Bytes) (fields : List (Bytes × Bytes)) : Bytes :=
  textLines (line :: fields.map fieldLine)

section

variable {line : Bytes} {fields : List (Bytes × Bytes)}

lemma find_sep_headerText (hline : CR ∉ line) (hfields : ∀ f ∈ fields, IsField f) (x : Bytes) :
    ∃ i, find sep (headerText line fields ++ x) = some i ∧
      i + sep.length = (headerText line fields).length := by
  refine find_sep_textLines hline (fun m hm => ?_) x
  obtain ⟨f, hf, rfl⟩ := List.mem_map.mp hm
  exact ⟨cr_not_mem_fieldLine (hfields f hf), fieldLine_ne_nil f⟩

lemma extractHeader_headerText (hline : CR ∉ line) (hfields : ∀ f ∈ fields, IsField f)
    (x : Bytes) : extractHeader (headerText line fields ++ x) = headerText line fields := by
  obtain ⟨i, hi, hlen⟩ := find_sep_headerText hline hfields x
  rw [extractHeader, hi]
  dsimp only
  rw [hlen, List.take_left]

lemma getlines_headerText (hline : LF ∉ line) (hfields : ∀ f ∈ fields, IsField f) :
    getlines LF (headerText line fields) =
      (line :: fields.map fieldLine).map (· ++ [CR]) ++ [[CR]] := by
  refine getlines_textLines fun l hl => ?_
  rcases List.mem_cons.mp hl with rfl | hl
  · exact hline
  · obtain ⟨f, hf, rfl⟩ := List.mem_map.mp hl
    exact lf_not_mem_fieldLine (hfields f hf)

lemma headerFields_headerText (hline : LF ∉ line) (hfields : ∀ f ∈ fields, IsField f) :
    headerFields (headerText line fields) = fields := by
  rw [headerFields, show (0x0A : UInt8) = LF from rfl, getlines_headerText hline hfields]
  exact readFields_lines hfields

lemma find_CRLF_headerText (hline : CR ∉ line) :
    find CRLF (headerText line fields) = some line.length := by
  rw [headerText, textLines, List.append_assoc, find_CRLF_skip hline,
    find_of_prefix (List.prefix_append _ _), Option.map_some, zero_add]

lemma headerText_ne_nil (line : Bytes) (fields : List (Bytes × Bytes)) :
    headerText line fields ≠ [] := by
  rw [headerText, textLines, CRLF]
  simp

end

end Http
