import Mathlib.Tactic

/-!
# Relative paths

A relative path without its dots goes up a number of directories and then down. A path that is put
behind another one is joined to it, and the joined path is still below the first one if the second
climbs no higher than it comes down again.
-/

/-- So many directories up, and down by the names. -/
@[ext]
structure RelativePath (α : Type*) where
  ups : ℕ := 0
  names : List α := []
  deriving DecidableEq, Repr

/-- A part of a path between its slashes. -/
inductive Segment (α : Type*) where
  | here
  | up
  | down (name : α)
  deriving DecidableEq, Repr

namespace RelativePath

variable {α : Type*} {root p : RelativePath α}

def up (p : RelativePath α) : RelativePath α :=
  if p.names = [] then { p with ups := p.ups + 1 } else { p with names := p.names.dropLast }

def step (p : RelativePath α) : Segment α → RelativePath α
  | .here      => p
  | .up        => p.up
  | .down name => { p with names := p.names ++ [name] }

/-- The path of some segments. -/
def resolve (segments : List (Segment α)) : RelativePath α := segments.foldl step {}

/-- One path behind the other. -/
def join (root p : RelativePath α) : RelativePath α :=
  if p.ups ≤ root.names.length then
    { root with names := root.names.take (root.names.length - p.ups) ++ p.names }
  else ⟨root.ups + (p.ups - root.names.length), p.names⟩

lemma join_nil (root : RelativePath α) : root.join {} = root := by
  rw [join, if_pos (Nat.zero_le _)]
  ext1
  · rfl
  · rw [Nat.sub_zero, List.take_length, List.append_nil]

lemma up_names {n : ℕ} {names : List α} (h : names ≠ []) :
    up ⟨n, names⟩ = ⟨n, names.dropLast⟩ := if_neg h

lemma up_nil (n : ℕ) : up (⟨n, []⟩ : RelativePath α) = ⟨n + 1, []⟩ := rfl

/-- Up from the end of both paths. -/
lemma join_up (root p : RelativePath α) : root.join p.up = (root.join p).up := by
  obtain ⟨n, ms⟩ := root
  obtain ⟨k, ns⟩ := p
  rcases List.eq_nil_or_concat ns with rfl | ⟨ns, name, rfl⟩
  · rw [up_nil]
    simp only [join, List.append_nil]
    rcases lt_trichotomy k ms.length with hlt | rfl | hgt
    · -- the second path is nowhere but in the first one
      have hne : ms.take (ms.length - k) ≠ [] := by
        rw [ne_eq, List.take_eq_nil_iff, not_or, ← List.length_eq_zero_iff]
        omega
      rw [if_pos (by omega), if_pos hlt.le, up_names hne, List.dropLast_eq_take, List.take_take,
        List.length_take, min_eq_left (Nat.sub_le _ _), min_eq_left (Nat.sub_le _ _), Nat.sub_sub]
    · rw [if_neg (by omega), if_pos le_rfl, Nat.sub_self, List.take_zero, up_nil,
        Nat.add_sub_cancel_left]
    · rw [if_neg (by omega), if_neg (by omega), up_nil, Nat.add_assoc, Nat.sub_add_comm hgt.le]
  · rw [List.concat_eq_append, up_names (by simp), List.dropLast_concat]
    simp only [join]
    split_ifs
    · rw [← List.append_assoc, up_names (by simp), List.dropLast_concat]
    · rw [up_names (by simp), List.dropLast_concat]

lemma join_step (root p : RelativePath α) (s : Segment α) :
    root.join (p.step s) = (root.join p).step s := by
  cases s with
  | here => rfl
  | up => exact join_up root p
  | down name =>
    by_cases h : p.ups ≤ root.names.length
    · simp [join, step, h]
    · simp [join, step, h]

lemma foldl_step (segments : List (Segment α)) (root : RelativePath α) :
    segments.foldl step root = root.join (resolve segments) := by
  induction segments using List.reverseRecOn with
  | nil => exact (join_nil root).symm
  | append_singleton segments s ih =>
    rw [resolve, List.foldl_append, List.foldl_append, ih]
    exact (join_step root (resolve segments) s).symm

/-- A path is resolved from where the path before it leads. -/
theorem resolve_append (ss ts : List (Segment α)) :
    resolve (ss ++ ts) = (resolve ss).join (resolve ts) := by
  rw [resolve, List.foldl_append]
  exact foldl_step ts (resolve ss)

/-! ### Below a directory -/

/-- The path leads to the directory, or below it. -/
def Within (root p : RelativePath α) : Prop := p.ups = root.ups ∧ root.names <+: p.names

instance [DecidableEq α] (root p : RelativePath α) : Decidable (Within root p) :=
  inferInstanceAs (Decidable (_ ∧ _))

/-- The path climbs no higher than the root has names, and comes down by the names that it left. -/
def Returns (root p : RelativePath α) : Prop :=
  p.ups ≤ root.names.length ∧ root.names.drop (root.names.length - p.ups) <+: p.names

instance [DecidableEq α] (root p : RelativePath α) : Decidable (Returns root p) :=
  inferInstanceAs (Decidable (_ ∧ _))

theorem within_join_iff (root p : RelativePath α) : Within root (root.join p) ↔ Returns root p := by
  rw [Within, Returns, join]
  split_ifs with hle
  · have hsplit := List.take_append_drop (root.names.length - p.ups) root.names
    rw [and_iff_right rfl, and_iff_right hle]
    nth_rewrite 1 [← hsplit]
    exact List.prefix_append_right_inj _
  · refine iff_of_false (fun h => ?_) fun h => hle h.1
    have hups : root.ups + (p.ups - root.names.length) = root.ups := h.1
    omega

/-! ### Texts -/

/-- What stands between two slashes. -/
def segment [DecidableEq α] (dot : α) (s : List α) : Segment (List α) :=
  if s = [] ∨ s = [dot] then .here else if s = [dot, dot] then .up else .down s

/-- The path of a text, with its slashes and dots. -/
def ofText [DecidableEq α] (slash dot : α) (s : List α) : RelativePath (List α) :=
  resolve ((s.splitOn slash).map (segment dot))

variable [DecidableEq α] {slash dot : α}

theorem ofText_append (s t : List α) :
    ofText slash dot (s ++ slash :: t) = (ofText slash dot s).join (ofText slash dot t) := by
  rw [ofText, List.splitOn_append_cons_self, List.map_append, resolve_append]
  rfl

/-- A slash in front of a text makes no difference. -/
lemma ofText_slash (s : List α) : ofText slash dot (slash :: s) = ofText slash dot s := by
  have hnil : ([] : List α).splitOn slash = [[]] := List.splitOn_nil slash
  have hsplit := List.splitOn_append_cons_self (a := slash) [] s
  rw [List.nil_append, hnil, List.singleton_append] at hsplit
  rw [ofText, hsplit, List.map_cons, segment, if_pos (Or.inl rfl)]
  rfl

end RelativePath
