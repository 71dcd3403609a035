import Mathlib.Data.Finset.Card
import Mathlib.Data.Fintype.Pigeonhole
import Mathlib.Tactic

/-!
# Loops over finitely many positions

A loop that goes on only from the positions of a finite set ends exactly if it is at no position
twice.
-/

namespace Transition

variable {α : Type*} (next : α → Option α)

/-- Where a loop is after a number of iterations, if it did not end before. -/
def after : ℕ → α → Option α
  | 0, a     => some a
  | n + 1, a => (next a).bind (after n)

variable {next}

lemma after_add (m n : ℕ) (a : α) :
    after next (m + n) a = (after next m a).bind (after next n) := by
  induction m generalizing a with
  | zero => rw [Nat.zero_add]; rfl
  | succ m ih =>
    rw [Nat.succ_add, after, after]
    cases next a with
    | none => rfl
    | some b => exact ih b

lemma after_succ (n : ℕ) (a : α) : after next (n + 1) a = (after next n a).bind next := by
  rw [after_add]
  congr 1
  funext b
  rw [after]
  cases next b <;> rfl

/-- A loop that has ended makes no iteration again. -/
lemma after_of_le {m n : ℕ} {a : α} (h : after next m a = none) (hmn : m ≤ n) :
    after next n a = none := by
  obtain ⟨k, rfl⟩ := Nat.exists_eq_add_of_le hmn
  rw [after_add, h]
  rfl

/-- A loop that comes back to a position comes back to it again and again. -/
lemma after_mul {i d : ℕ} {a p : α} (hi : after next i a = some p) (hd : after next d p = some p)
    (k : ℕ) : after next (i + k * d) a = some p := by
  induction k with
  | zero => rw [Nat.zero_mul, Nat.add_zero, hi]
  | succ k ih => rw [Nat.succ_mul, ← Nat.add_assoc, after_add, ih, Option.bind_some, hd]

/-- The loop is at no position twice. -/
def NeverReturns (next : α → Option α) (a : α) : Prop :=
  ∀ i j p, after next i a = some p → after next j a = some p → i = j

lemma not_returns_of_ends {n : ℕ} {a : α} (h : after next n a = none) : NeverReturns next a := by
  have hlt : ∀ i j p, after next i a = some p → after next j a = some p → ¬ i < j := by
    intro i j p hi hj hij
    obtain ⟨d, rfl⟩ := Nat.exists_eq_add_of_lt hij
    rw [Nat.add_assoc, after_add, hi, Option.bind_some] at hj
    have hback := after_mul hi hj n
    rw [after_of_le h (Nat.le_add_left_of_le (Nat.le_mul_of_pos_right n (Nat.succ_pos d)))] at hback
    cases hback
  intro i j p hi hj
  exact le_antisymm (not_lt.mp (hlt j i p hj hi)) (not_lt.mp (hlt i j p hi hj))

/-- A loop that goes on only from the positions of a finite set ends exactly if it is at no
position twice. -/
theorem ends_iff {dom : Finset α} (hdom : ∀ a b, next a = some b → a ∈ dom) (a : α) :
    after next (dom.card + 1) a = none ↔ NeverReturns next a := by
  refine ⟨not_returns_of_ends, fun hnever => ?_⟩
  by_contra hgo
  have hsome : ∀ i ≤ dom.card + 1, ∃ p, after next i a = some p := fun i hi =>
    Option.ne_none_iff_exists'.mp fun hnone => hgo (after_of_le hnone hi)
  have hmaps : ∀ i ∈ Finset.range (dom.card + 1), (after next i a).getD a ∈ dom := by
    intro i hi
    have hi := Finset.mem_range.mp hi
    obtain ⟨p, hp⟩ := hsome i hi.le
    obtain ⟨q, hq⟩ := hsome (i + 1) hi
    rw [after_succ, hp, Option.bind_some] at hq
    rw [hp, Option.getD_some]
    exact hdom p q hq
  obtain ⟨i, hi, j, hj, hne, heq⟩ := Finset.exists_ne_map_eq_of_card_lt_of_maps_to
    (by rw [Finset.card_range]; exact Nat.lt_succ_self _) hmaps
  obtain ⟨p, hp⟩ := hsome i (Finset.mem_range.mp hi).le
  obtain ⟨q, hq⟩ := hsome j (Finset.mem_range.mp hj).le
  rw [hp, hq, Option.getD_some, Option.getD_some] at heq
  exact hne (hnever i j q (by rw [hp, heq]) hq)

end Transition
