import Mathlib.Data.List.Infix
import Mathlib.Tactic

/-!
# Searching and splitting lists

`find` is the position of the first occurrence of a pattern, and `getlines` are the pieces between
the delimiters, as `std::getline` reads them: the piece after the last delimiter is left out when it
is empty.
-/

namespace Text

variable {α : Type*} [DecidableEq α]

/-- The position of the first occurrence of `pat`. -/
def find (pat : List α) : List α → Option ℕ
  | []      => if pat = [] then some 0 else none
  | x :: xs => if pat <+: x :: xs then some 0 else (find pat xs).map (· + 1)

/-- The first occurrence at `pos` or later. -/
def findFrom (pat s : List α) (pos : ℕ) : Option ℕ :=
  if pos ≤ s.length then (find pat (s.drop pos)).map (· + pos) else none

lemma find_cons_of_prefix {pat : List α} {x : α} {xs : List α} (h : pat <+: x :: xs) :
    find pat (x :: xs) = some 0 := if_pos h

lemma find_cons_of_not_prefix {pat : List α} {x : α} {xs : List α} (h : ¬ pat <+: x :: xs) :
    find pat (x :: xs) = (find pat xs).map (· + 1) := if_neg h

lemma find_of_prefix {pat s : List α} (h : pat <+: s) : find pat s = some 0 := by
  cases s with
  | nil => exact if_pos (List.prefix_nil.mp h)
  | cons x xs => exact find_cons_of_prefix h

/-- The pattern stands at the position that is found, and at none before it. -/
theorem find_eq_some_iff {pat s : List α} {i : ℕ} :
    find pat s = some i ↔ i ≤ s.length ∧ pat <+: s.drop i ∧ ∀ j < i, ¬ pat <+: s.drop j := by
  induction s generalizing i with
  | nil =>
    rw [find]
    split_ifs with hnil
    · constructor
      · rintro ⟨⟩
        exact ⟨le_rfl, by simp [hnil], fun j hj => absurd hj (Nat.not_lt_zero j)⟩
      · rintro ⟨hle, -, -⟩
        rw [Nat.le_zero.mp hle]
    · simp [hnil]
  | cons x xs ih =>
    rw [find]
    split_ifs with hpre
    · constructor
      · rintro ⟨⟩
        exact ⟨Nat.zero_le _, hpre, fun j hj => absurd hj (Nat.not_lt_zero j)⟩
      · rintro ⟨-, -, hfirst⟩
        rcases Nat.eq_zero_or_pos i with rfl | hpos
        · rfl
        · exact absurd hpre (hfirst 0 hpos)
    · cases i with
      | zero => simp [hpre]
      | succ i =>
        simp only [Option.map_eq_some_iff, Nat.add_right_cancel_iff, exists_eq_right, ih,
          List.length_cons, Nat.succ_le_succ_iff, List.drop_succ_cons]
        refine and_congr_right fun _ => and_congr_right fun _ => ?_
        refine ⟨fun h j hj => ?_, fun h j hj => ?_⟩
        · cases j with
          | zero => exact hpre
          | succ j => exact h j (by omega)
        · exact h (j + 1) (by omega)

/-- The pattern ends inside the list. -/
lemma find_add_le {pat s : List α} {i : ℕ} (h : find pat s = some i) :
    i + pat.length ≤ s.length := by
  obtain ⟨hle, hpre, -⟩ := find_eq_some_iff.mp h
  have hlen := hpre.length_le
  rw [List.length_drop] at hlen
  omega

/-- More input does not change an occurrence. -/
lemma find_append {pat s : List α} {i : ℕ} (h : find pat s = some i) (r : List α) :
    find pat (s ++ r) = some i := by
  have hend := find_add_le h
  obtain ⟨hle, hpre, hfirst⟩ := find_eq_some_iff.mp h
  refine find_eq_some_iff.mpr ⟨by rw [List.length_append]; omega, ?_, ?_⟩
  · rw [List.drop_append_of_le_length hle]
    exact hpre.trans (List.prefix_append _ _)
  · intro j hj hat
    rw [List.drop_append_of_le_length (by omega)] at hat
    exact hfirst j hj (List.prefix_of_prefix_length_le hat (List.prefix_append _ _)
      (by rw [List.length_drop]; omega))

/-- An occurrence is found in every beginning that holds it. -/
lemma find_take {pat s : List α} {i n : ℕ} (h : find pat s = some i) (hn : i + pat.length ≤ n) :
    find pat (s.take n) = some i := by
  obtain ⟨hle, hpre, hfirst⟩ := find_eq_some_iff.mp h
  have hend := find_add_le h
  refine find_eq_some_iff.mpr ⟨by rw [List.length_take]; omega, ?_, ?_⟩
  · rw [List.drop_take]
    exact List.prefix_take_iff.mpr ⟨hpre, by omega⟩
  · intro j hj hat
    rw [List.drop_take] at hat
    exact hfirst j hj (hat.trans (List.take_prefix _ _))

lemma findFrom_eq_some_iff {pat s : List α} {pos i : ℕ} :
    findFrom pat s pos = some i ↔
      pos ≤ s.length ∧ ∃ j, find pat (s.drop pos) = some j ∧ j + pos = i := by
  rw [findFrom]
  split_ifs with hpos
  · simp [hpos, Option.map_eq_some_iff]
  · simp [hpos]

lemma findFrom_take {pat s : List α} {pos i n : ℕ} (h : findFrom pat s pos = some i)
    (hn : i + pat.length ≤ n) : findFrom pat (s.take n) pos = some i := by
  obtain ⟨hpos, j, hj, rfl⟩ := findFrom_eq_some_iff.mp h
  refine findFrom_eq_some_iff.mpr ⟨by rw [List.length_take]; omega, j, ?_, rfl⟩
  rw [List.drop_take]
  exact find_take hj (by omega)

/-- A part without the first character of the pattern is skipped. -/
lemma find_skip {p : α} {ps l : List α} (h : p ∉ l) (s : List α) :
    find (p :: ps) (l ++ s) = (find (p :: ps) s).map (· + l.length) := by
  induction l with
  | nil => simp
  | cons x l ih =>
    rw [List.mem_cons, not_or] at h
    have hpre : ¬ p :: ps <+: x :: (l ++ s) := by
      rw [List.cons_prefix_cons]
      exact fun hx => h.1 hx.1
    rw [List.cons_append, find_cons_of_not_prefix hpre, ih h.2, Option.map_map]
    rfl

/-- The first delimiter after a part without one. -/
lemma find_char {d : α} {l : List α} (h : d ∉ l) (s : List α) :
    find [d] (l ++ d :: s) = some l.length := by
  rw [find_skip h, find_cons_of_prefix (by simp), Option.map_some, zero_add]

lemma find_char_of_not_mem {d : α} {l : List α} (h : d ∉ l) : find [d] l = none := by
  rw [← List.append_nil l, find_skip h]
  rfl

lemma findFrom_char {d : α} {l : List α} (h : d ∉ l) (a s : List α) :
    findFrom [d] (a ++ (l ++ d :: s)) a.length = some (a.length + l.length) := by
  refine findFrom_eq_some_iff.mpr ⟨by simp, l.length, ?_, Nat.add_comm _ _⟩
  rw [List.drop_left]
  exact find_char h s

omit [DecidableEq α] in
/-- A prefix without a character ends before it. -/
lemma prefix_of_not_mem {d : α} {p : List α} (hp : d ∉ p) {l s : List α}
    (h : p <+: l ++ d :: s) : p <+: l := by
  induction p generalizing l with
  | nil => exact List.nil_prefix
  | cons x p ih =>
    rw [List.mem_cons, not_or] at hp
    cases l with
    | nil =>
      rw [List.nil_append, List.cons_prefix_cons] at h
      exact absurd h.1.symm hp.1
    | cons y l =>
      rw [List.cons_append, List.cons_prefix_cons] at h
      exact List.cons_prefix_cons.mpr ⟨h.1, ih hp.2 h.2⟩

/-! ### Lines -/

/-- The pieces that `std::getline` reads with the delimiter `d`. -/
def getlines (d : α) : List α → List (List α)
  | []      => []
  | x :: xs =>
    if x = d then [] :: getlines d xs
    else
      match getlines d xs with
      | []      => [[x]]
      | l :: ls =>
        -- the piece after a delimiter at the end is not read, so `l` is the rest of this one
        (x :: l) :: ls

lemma getlines_append {d : α} {l : List α} (h : d ∉ l) (s : List α) :
    getlines d (l ++ d :: s) = l :: getlines d s := by
  induction l with
  | nil => rw [List.nil_append, getlines, if_pos rfl]
  | cons x l ih =>
    rw [List.mem_cons, not_or] at h
    rw [List.cons_append, getlines, if_neg (Ne.symm h.1), ih h.2]

lemma getlines_of_not_mem {d : α} {l : List α} (hne : l ≠ []) (h : d ∉ l) :
    getlines d l = [l] := by
  induction l with
  | nil => exact absurd rfl hne
  | cons x l ih =>
    rw [List.mem_cons, not_or] at h
    rw [getlines, if_neg (Ne.symm h.1)]
    cases l with
    | nil => rfl
    | cons y l => rw [ih (List.cons_ne_nil _ _) h.2]

/-- The pieces are the ones that the delimiters were put between. -/
lemma getlines_intercalate {d : α} {ls : List (List α)} (hls : ∀ l ∈ ls, l ≠ [] ∧ d ∉ l) :
    getlines d (List.intercalate [d] ls) = ls := by
  induction ls with
  | nil => rfl
  | cons l ls ih =>
    obtain ⟨hl, hls⟩ := List.forall_mem_cons.mp hls
    cases ls with
    | nil => rw [List.intercalate_singleton, getlines_of_not_mem hl.1 hl.2]
    | cons m ls =>
      rw [List.intercalate_cons_cons, List.append_assoc, List.singleton_append,
        getlines_append hl.2, ih hls]

omit [DecidableEq α] in
/-- What is in no piece is not in the whole, if it is no delimiter either. -/
lemma not_mem_intercalate {d k : α} (hk : k ≠ d) {ls : List (List α)} (hls : ∀ l ∈ ls, k ∉ l) :
    k ∉ List.intercalate [d] ls := by
  induction ls with
  | nil => exact List.not_mem_nil
  | cons l ls ih =>
    have hl := hls l List.mem_cons_self
    have hrest := ih fun m hm => hls m (List.mem_cons_of_mem _ hm)
    cases ls with
    | nil =>
      rw [List.intercalate_singleton]
      exact hl
    | cons m ls =>
      rw [List.intercalate_cons_cons, List.mem_append, List.mem_append, List.mem_singleton]
      exact fun h => h.elim (fun h => h.elim hl hk) hrest

end Text
