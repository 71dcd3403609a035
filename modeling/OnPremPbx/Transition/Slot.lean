import Mathlib.Data.List.Nodup
import Mathlib.Tactic

/-!
# A place for what has to be released

A place holds what was put there last, and releases only what it holds. What is put there is
released in the end exactly if it is released before anything else is put in its place.
-/

namespace Transition.Slot

inductive Op (ρ : Type*) where
  | put (xs : List ρ)
  | free

structure State (ρ : Type*) where
  held : List ρ := []
  released : List ρ := []

variable {ρ : Type*}

def step (s : State ρ) : Op ρ → State ρ
  | .put xs => { s with held := xs }
  | .free   => ⟨[], s.released ++ s.held⟩

/-- All that is put into the place. -/
def acquired (ops : List (Op ρ)) : List ρ :=
  ops.flatMap fun
    | .put xs => xs
    | .free   => []

/-- What is put into the place is released next. -/
def FreedInTime : List (Op ρ) → Prop
  | []            => True
  | .put xs :: ops => (xs = [] ∨ ∃ rest, ops = .free :: rest) ∧ FreedInTime ops
  | .free :: ops   => FreedInTime ops

variable {s : State ρ} {ops : List (Op ρ)} {x : ρ}

lemma mem_released_of_mem (h : x ∈ s.released) : x ∈ (ops.foldl step s).released := by
  induction ops generalizing s with
  | nil => exact h
  | cons op ops ih =>
    cases op with
    | put xs => exact ih h
    | free => exact ih (List.mem_append_left _ h)

/-- Nothing else is released. -/
lemma mem_of_mem_released (h : x ∈ (ops.foldl step s).released) :
    x ∈ s.released ∨ x ∈ s.held ∨ x ∈ acquired ops := by
  induction ops generalizing s with
  | nil => exact .inl h
  | cons op ops ih =>
    cases op with
    | put xs =>
      obtain hold | hxs | hops := ih h
      · exact .inl hold
      · exact .inr (.inr (List.mem_append_left _ hxs))
      · exact .inr (.inr (List.mem_append_right _ hops))
    | free =>
      obtain hold | hnil | hops := ih h
      · exact (List.mem_append.mp hold).imp_right .inl
      · cases hnil
      · exact .inr (.inr hops)

/-- The induction is on the operations, with what is held before them. -/
lemma released_iff_of_held (hnodup : (s.held ++ acquired ops).Nodup)
    (hreleased : ∀ x ∈ s.released, x ∉ s.held ++ acquired ops) :
    (∀ x ∈ s.held ++ acquired ops, x ∈ (ops.foldl step s).released) ↔
      (s.held = [] ∨ ∃ rest, ops = .free :: rest) ∧ FreedInTime ops := by
  induction ops generalizing s with
  | nil =>
    constructor
    · intro hall
      refine ⟨.inl (List.eq_nil_iff_forall_not_mem.mpr fun x hx => ?_), trivial⟩
      have hmem : x ∈ s.held ++ acquired [] := List.mem_append_left _ hx
      exact hreleased x (hall x hmem) hmem
    · rintro ⟨hnil | ⟨rest, hrest⟩, -⟩
      · rw [hnil]
        exact nofun
      · cases hrest
  | cons op ops ih =>
    cases op with
    | put xs =>
      rw [show acquired (.put xs :: ops) = xs ++ acquired ops from rfl] at hnodup hreleased ⊢
      have hdisjoint := List.disjoint_of_nodup_append hnodup
      have hafter := @ih { s with held := xs } hnodup.of_append_right
        fun x hx hmem => hreleased x hx (List.mem_append_right _ hmem)
      -- What was held is lost.
      have hheld : (∀ x ∈ s.held, x ∈ (ops.foldl step { s with held := xs }).released) ↔
          s.held = [] := by
        refine ⟨fun hall => List.eq_nil_iff_forall_not_mem.mpr fun x hx => ?_, fun hnil => ?_⟩
        · obtain hold | hlater := mem_of_mem_released (hall x hx)
          · exact hreleased x hold (List.mem_append_left _ hx)
          · exact hdisjoint hx (List.mem_append.mpr hlater)
        · rw [hnil]
          exact nofun
      rw [List.forall_mem_append, List.foldl_cons, step, hheld, hafter, FreedInTime]
      refine and_congr_left fun _ => (or_iff_left ?_).symm
      rintro ⟨rest, hrest⟩
      cases hrest
    | free =>
      rw [show acquired (.free :: ops) = acquired ops from rfl] at hnodup hreleased ⊢
      have hdisjoint := List.disjoint_of_nodup_append hnodup
      have hafter := @ih ⟨[], s.released ++ s.held⟩ hnodup.of_append_right fun x hx hmem => by
        obtain hold | hheld := List.mem_append.mp hx
        · exact hreleased x hold (List.mem_append_right _ hmem)
        · exact hdisjoint hheld hmem
      have hheld : ∀ x ∈ s.held, x ∈ (ops.foldl step ⟨[], s.released ++ s.held⟩).released :=
        fun x hx => mem_released_of_mem (List.mem_append_right _ hx)
      rw [List.nil_append, and_iff_right (.inl rfl)] at hafter
      rw [List.forall_mem_append, List.foldl_cons, step, and_iff_right hheld, hafter, FreedInTime]
      exact (and_iff_right (.inr ⟨ops, rfl⟩)).symm

/-- All that is put into the place is released if and only if it is released next. -/
theorem released_iff (hnodup : (acquired ops).Nodup) :
    (∀ x ∈ acquired ops, x ∈ (ops.foldl step {}).released) ↔ FreedInTime ops := by
  have h := @released_iff_of_held _ ({} : State ρ) ops hnodup nofun
  rwa [and_iff_right (.inl rfl)] at h

/-! ### Places in a system -/

section

variable {σ ι : Type*} {f : σ → ι → σ} {opsOf : σ → ι → List (Op ρ)}

/-- What the steps of a run do to a place. -/
def opsAlong (f : σ → ι → σ) (opsOf : σ → ι → List (Op ρ)) : σ → List ι → List (Op ρ)
  | _, []      => []
  | s, i :: is => opsOf s i ++ opsAlong f opsOf (f s i) is

lemma foldl_opsAlong {place : σ → State ρ}
    (h : ∀ s i, place (f s i) = (opsOf s i).foldl step (place s)) (s : σ) (is : List ι) :
    place (is.foldl f s) = (opsAlong f opsOf s is).foldl step (place s) := by
  induction is generalizing s with
  | nil => rfl
  | cons i is ih => rw [List.foldl_cons, opsAlong, List.foldl_append, ih, h]

lemma acquired_append (ops ops' : List (Op ρ)) :
    acquired (ops ++ ops') = acquired ops ++ acquired ops' :=
  List.flatMap_append

/-- Where what is put into the place is numbered in the order in which it comes, all of it is
released if and only if it is released next. -/
theorem released_iff_of_numbered {opsOf : σ → ι → List (Op ℕ)} {place : σ → State ℕ} {count : σ → ℕ}
    (hplace : ∀ s i, place (f s i) = (opsOf s i).foldl step (place s))
    (hcount : ∀ s i, ∃ n, count (f s i) = count s + n ∧
      acquired (opsOf s i) = List.range' (count s) n)
    {s : σ} (hs : place s = {}) (hzero : count s = 0) (is : List ι) :
    (∀ x < count (is.foldl f s), x ∈ (place (is.foldl f s)).released) ↔
      FreedInTime (opsAlong f opsOf s is) := by
  have hnumbers : ∀ s, ∃ n, count (is.foldl f s) = count s + n ∧
      acquired (opsAlong f opsOf s is) = List.range' (count s) n := by
    induction is with
    | nil => exact fun s => ⟨0, rfl, rfl⟩
    | cons i is ih =>
      intro s
      obtain ⟨m, hm, hfirst⟩ := hcount s i
      obtain ⟨n, hn, hrest⟩ := ih (f s i)
      refine ⟨m + n, ?_, ?_⟩
      · rw [List.foldl_cons, hn, hm, add_assoc]
      · rw [opsAlong, acquired_append, hfirst, hrest, hm, List.range'_append_1]
  obtain ⟨n, hn, hacquired⟩ := hnumbers s
  rw [hzero, zero_add] at hn
  rw [hzero] at hacquired
  have hiff := @released_iff _ (opsAlong f opsOf s is) (hacquired ▸ List.nodup_range')
  rw [foldl_opsAlong hplace, hs, hn, ← hiff, hacquired]
  refine forall_congr' fun x => ?_
  rw [List.mem_range'_1, and_iff_right (Nat.zero_le x), zero_add]

end

end Transition.Slot
