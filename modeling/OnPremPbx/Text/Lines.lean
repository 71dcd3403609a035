import Mathlib.Tactic

/-!
# Lines with two kinds of ends

A line ends with `lf`, or with `cr` and `lf`; what follows the last end is a line, too, even if it
is empty. `splitLines` are the lines of a text, as a split at a regular expression for the ends
gives them.
-/

namespace Text

variable {α : Type*} [DecidableEq α]

def splitLines (cr lf : α) : List α → List (List α)
  | []           => [[]]
  | [x]          => if x = lf then [[], []] else [[x]]
  | x :: y :: xs =>
    if x = lf then [] :: splitLines cr lf (y :: xs)
    else if x = cr ∧ y = lf then [] :: splitLines cr lf xs
    else (splitLines cr lf (y :: xs)).modifyHead (x :: ·)

/-- A text and its lines. -/
inductive HasLines (cr lf : α) : List (List α) → List α → Prop where
  | last {l : List α} (h : lf ∉ l) : HasLines cr lf [l] l
  | crlf {l s : List α} {ls : List (List α)} (h : lf ∉ l) (hs : HasLines cr lf ls s) :
    HasLines cr lf (l :: ls) (l ++ cr :: lf :: s)
  /-- a `cr` in front of an `lf` belongs to the end of the line -/
  | lf {l s : List α} {ls : List (List α)} (h : lf ∉ l) (hcr : ∀ k, l ≠ k ++ [cr])
    (hs : HasLines cr lf ls s) : HasLines cr lf (l :: ls) (l ++ lf :: s)

variable {cr lf x : α} {l s : List α} {ls : List (List α)}

namespace HasLines

omit [DecidableEq α]

lemma ne_nil (h : HasLines cr lf ls s) : ls ≠ [] := by
  cases h <;> exact List.cons_ne_nil _ _

lemma not_mem (h : HasLines cr lf ls s) : ∀ l ∈ ls, lf ∉ l := by
  induction h with
  | last hl => exact List.forall_mem_singleton.mpr hl
  | crlf hl _ ih => exact List.forall_mem_cons.mpr ⟨hl, ih⟩
  | lf hl _ _ ih => exact List.forall_mem_cons.mpr ⟨hl, ih⟩

/-- One more character at the beginning of the first line. -/
lemma cons (h : HasLines cr lf (l :: ls) s) (hx : x ≠ lf) (hcr : x = cr → ∀ t, s ≠ lf :: t) :
    HasLines cr lf ((x :: l) :: ls) (x :: s) := by
  cases h with
  | last hl => exact .last (List.not_mem_cons_of_ne_of_not_mem hx.symm hl)
  | crlf hl hs => exact .crlf (List.not_mem_cons_of_ne_of_not_mem hx.symm hl) hs
  | @lf _ s _ hl hend hs =>
    refine .lf (List.not_mem_cons_of_ne_of_not_mem hx.symm hl) (fun k hk => ?_) hs
    cases k with
    | nil =>
      rw [List.nil_append, List.cons.injEq] at hk
      exact hcr hk.1 s (by rw [hk.2, List.nil_append])
    | cons y k =>
      rw [List.cons_append, List.cons.injEq] at hk
      exact hend k hk.2

/-- Lines that are joined with `cr` and `lf`. -/
lemma intercalate (hne : ls ≠ []) (hls : ∀ l ∈ ls, lf ∉ l) :
    HasLines cr lf ls (List.intercalate [cr, lf] ls) := by
  induction ls with
  | nil => exact absurd rfl hne
  | cons l ls ih =>
    obtain ⟨hl, hls⟩ := List.forall_mem_cons.mp hls
    cases ls with
    | nil =>
      rw [List.intercalate_singleton]
      exact .last hl
    | cons m ls =>
      rw [List.intercalate_cons_cons, List.append_assoc]
      exact .crlf hl (ih (List.cons_ne_nil _ _) hls)

end HasLines

lemma splitLines_cons (hx : x ≠ lf) (hcr : x = cr → ∀ t, s ≠ lf :: t) :
    splitLines cr lf (x :: s) = (splitLines cr lf s).modifyHead (x :: ·) := by
  cases s with
  | nil =>
    rw [splitLines, splitLines, if_neg hx]
    rfl
  | cons y s =>
    rw [splitLines, if_neg hx, if_neg]
    rintro ⟨hxcr, rfl⟩
    exact hcr hxcr s rfl

lemma splitLines_lf (s : List α) : splitLines cr lf (lf :: s) = [] :: splitLines cr lf s := by
  cases s with
  | nil =>
    rw [splitLines, splitLines]
    exact if_pos rfl
  | cons y s =>
    rw [splitLines]
    exact if_pos rfl

/-- What stands in front of the end of a line. -/
lemma splitLines_append (hl : lf ∉ l) (hend : ∀ k, l = k ++ [cr] → ∀ t, s ≠ lf :: t) :
    splitLines cr lf (l ++ s) = (splitLines cr lf s).modifyHead (l ++ ·) := by
  induction l with
  | nil =>
    rw [List.nil_append]
    cases splitLines cr lf s <;> rfl
  | cons x l ih =>
    obtain ⟨hx, hl⟩ := List.ne_and_not_mem_of_not_mem_cons hl
    have hrest := ih hl fun k hk => hend (x :: k) (by rw [hk, List.cons_append])
    have hcr : x = cr → ∀ t, l ++ s ≠ lf :: t := by
      rintro rfl t ht
      cases l with
      | nil => exact hend [] rfl t ht
      | cons y l =>
        rw [List.cons_append, List.cons.injEq] at ht
        exact hl (ht.1 ▸ List.mem_cons_self)
    rw [List.cons_append, splitLines_cons hx.symm hcr, hrest, List.modifyHead_modifyHead]
    rfl

lemma splitLines_of_hasLines (hne : cr ≠ lf) (h : HasLines cr lf ls s) :
    splitLines cr lf s = ls := by
  induction h with
  | @last l hl =>
    have hnil := @splitLines_append _ _ cr _ _ [] hl fun _ _ _ => nofun
    rw [List.append_nil] at hnil
    rw [hnil, splitLines, List.modifyHead_cons, List.append_nil]
  | @crlf l s ls hl hs ih =>
    rw [splitLines_append hl fun _ _ t ht => hne (List.cons.inj ht).1, splitLines, if_neg hne,
      if_pos ⟨rfl, rfl⟩, ih, List.modifyHead_cons, List.append_nil]
  | @lf l s ls hl hcr hs ih =>
    rw [splitLines_append hl fun k hk => absurd hk (hcr k), splitLines_lf, ih,
      List.modifyHead_cons, List.append_nil]

/-- Each text has its lines. -/
lemma hasLines_splitLines (s : List α) : HasLines cr lf (splitLines cr lf s) s := by
  fun_induction splitLines cr lf s with
  | case1 => exact .last List.not_mem_nil
  | case2 => exact .lf List.not_mem_nil (fun k => by simp) (.last List.not_mem_nil)
  | case3 x hx => exact .last (by simpa using Ne.symm hx)
  | case4 y xs ih => exact .lf List.not_mem_nil (fun k => by simp) ih
  | case5 x y xs hx hend ih =>
    obtain ⟨rfl, rfl⟩ := hend
    exact .crlf List.not_mem_nil ih
  | case6 x y xs hx hend ih =>
    obtain ⟨l, ls, hls⟩ := List.exists_cons_of_ne_nil ih.ne_nil
    rw [hls] at ih ⊢
    refine ih.cons hx fun hxcr t ht => hend ⟨hxcr, ?_⟩
    exact (List.cons.inj ht).1

/-- The lines of a text are those into which it is split. -/
theorem hasLines_iff (hne : cr ≠ lf) : HasLines cr lf ls s ↔ splitLines cr lf s = ls :=
  ⟨splitLines_of_hasLines hne, fun h => h ▸ hasLines_splitLines s⟩

/-! ### Fields -/

/-- No piece has the character that the pieces are between. -/
lemma not_mem_of_mem_splitOn {w : List α} (h : w ∈ s.splitOn x) : x ∉ w ∧ ∀ b ∈ w, b ∈ s := by
  induction s generalizing w with
  | nil =>
    rw [List.splitOn_nil, List.mem_singleton] at h
    subst h
    exact ⟨List.not_mem_nil, nofun⟩
  | cons y s ih =>
    rw [List.splitOn_cons_eq_if_modifyHead] at h
    split_ifs at h with hy
    · rcases List.mem_cons.mp h with rfl | h
      · exact ⟨List.not_mem_nil, nofun⟩
      · exact ⟨(ih h).1, fun b hb => List.mem_cons_of_mem y ((ih h).2 b hb)⟩
    · obtain ⟨l, ls, hsplit⟩ := List.exists_cons_of_ne_nil (List.splitOn_ne_nil x s)
      rw [hsplit, List.modifyHead_cons] at h
      rcases List.mem_cons.mp h with rfl | h
      · obtain ⟨hl, hsub⟩ := ih (w := l) (hsplit ▸ List.mem_cons_self)
        refine ⟨?_, List.forall_mem_cons.mpr ⟨List.mem_cons_self, fun b hb => ?_⟩⟩
        · rw [List.mem_cons, not_or]
          exact ⟨fun heq => hy (beq_iff_eq.mpr heq.symm), hl⟩
        · exact List.mem_cons_of_mem y (hsub b hb)
      · have hw := ih (w := w) (hsplit ▸ List.mem_cons_of_mem l h)
        exact ⟨hw.1, fun b hb => List.mem_cons_of_mem y (hw.2 b hb)⟩

end Text
