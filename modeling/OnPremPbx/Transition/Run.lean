import Mathlib.Tactic

/-!
# Runs of a step function

A run folds a step function over the inputs. The rules below lift what one step keeps to what
every run keeps.
-/

namespace Transition

variable {σ ι : Type*} {f : σ → ι → σ}

/-- What every step keeps, every run keeps. -/
theorem run_invariant {P : σ → Prop} (hstep : ∀ s i, P s → P (f s i)) {s : σ} (hs : P s)
    (is : List ι) : P (is.foldl f s) := by
  induction is generalizing s with
  | nil => exact hs
  | cons i is ih => exact ih (hstep s i hs)

/-- Every step of a run meets the condition `Ok`. -/
def Along (step : σ → ι → σ) (Ok : σ → ι → Prop) : σ → List ι → Prop
  | _, []      => True
  | s, i :: is => Ok s i ∧ Along step Ok (step s i) is

instance Along.decidable (step : σ → ι → σ) (Ok : σ → ι → Prop) [∀ s i, Decidable (Ok s i)] :
    ∀ s is, Decidable (Along step Ok s is)
  | _, []      => .isTrue trivial
  | s, i :: is => @instDecidableAnd _ _ _ (Along.decidable step Ok (step s i) is)

/-- What every step that meets the condition keeps, every run of such steps keeps. -/
theorem Along.invariant {Ok : σ → ι → Prop} {P : σ → Prop}
    (hstep : ∀ s i, Ok s i → P s → P (f s i)) {s : σ} {is : List ι}
    (hok : Along f Ok s is) (hs : P s) : P (is.foldl f s) := by
  induction is generalizing s with
  | nil => exact hs
  | cons i is ih => exact ih hok.2 (hstep s i hok.1 hs)

/-- What each step does where the invariant holds, each step of such a run does. -/
theorem Along.of_invariant {Ok Ok' : σ → ι → Prop} {P : σ → Prop}
    (hstep : ∀ s i, Ok s i → P s → P (f s i)) (hdoes : ∀ s i, Ok s i → P s → Ok' s i) {s : σ}
    {is : List ι} (hok : Along f Ok s is) (hs : P s) : Along f Ok' s is := by
  induction is generalizing s with
  | nil => trivial
  | cons i is ih => exact ⟨hdoes s i hok.1 hs, ih hok.2 (hstep s i hok.1 hs)⟩

/-- Two conditions that hold along a run hold together. -/
theorem Along.and {Ok Ok' : σ → ι → Prop} {s : σ} {is : List ι} (h : Along f Ok s is)
    (h' : Along f Ok' s is) : Along f (fun s i => Ok s i ∧ Ok' s i) s is := by
  induction is generalizing s with
  | nil => trivial
  | cons i is ih => exact ⟨⟨h.1, h'.1⟩, ih h.2 h'.2⟩

/-- A weaker condition holds along the run. -/
theorem Along.mono {Ok Ok' : σ → ι → Prop} (h : ∀ s i, Ok s i → Ok' s i) {s : σ} {is : List ι}
    (hok : Along f Ok s is) : Along f Ok' s is := by
  induction is generalizing s with
  | nil => trivial
  | cons i is ih => exact ⟨h s i hok.1, ih hok.2⟩

/-- A condition holds along a run with one more input. -/
theorem along_concat {Ok : σ → ι → Prop} {s : σ} {is : List ι} {i : ι} :
    Along f Ok s (is ++ [i]) ↔ Along f Ok s is ∧ Ok (is.foldl f s) i := by
  induction is generalizing s with
  | nil => simp [Along]
  | cons j is ih => simp only [List.cons_append, Along, List.foldl_cons, ih, and_assoc]

/-- A condition holds along one run and then along another. -/
lemma along_append {Ok : σ → ι → Prop} {s : σ} {is js : List ι} :
    Along f Ok s (is ++ js) ↔ Along f Ok s is ∧ Along f Ok (is.foldl f s) js := by
  induction is generalizing s with
  | nil => simp [Along]
  | cons i is ih => simp only [List.cons_append, Along, List.foldl_cons, ih, and_assoc]

/-- Where the invariant makes two conditions the same, and a step that meets them keeps it, they
hold along the same runs. -/
theorem Along.congr {Possible Ok Kept : σ → ι → Prop} {P : σ → Prop}
    (hstep : ∀ s i, P s → Possible s i → Ok s i → P (f s i))
    (hiff : ∀ s i, P s → Possible s i → (Kept s i ↔ Ok s i)) {s : σ} {is : List ι}
    (hpossible : Along f Possible s is) (hs : P s) : Along f Kept s is ↔ Along f Ok s is := by
  induction is generalizing s with
  | nil => exact Iff.rfl
  | cons i is ih =>
    rw [Along, Along, hiff s i hs hpossible.1]
    exact and_congr_right fun hok => ih hpossible.2 (hstep s i hs hpossible.1 hok)

/-- What holds along a run holds wherever the run is cut. -/
theorem along_iff_cut {Ok : σ → ι → Prop} {s : σ} {is : List ι} :
    Along f Ok s is ↔ ∀ first i last, is = first ++ i :: last → Ok (first.foldl f s) i := by
  induction is generalizing s with
  | nil =>
    refine iff_of_true trivial fun first i last h => ?_
    cases first <;> cases h
  | cons i is ih =>
    rw [Along, ih]
    constructor
    · rintro ⟨hi, his⟩ (_ | ⟨j, first⟩) k last h
      · cases h
        exact hi
      · cases h
        exact his first k last rfl
    · exact fun h => ⟨h [] i is rfl, fun first j last hj => h (i :: first) j last (by rw [hj]; rfl)⟩

/-- A condition on the inputs alone holds along every run of such inputs. -/
theorem Along.of_forall {Ok : σ → ι → Prop} {is : List ι} (h : ∀ i ∈ is, ∀ s, Ok s i) (s : σ) :
    Along f Ok s is := by
  induction is generalizing s with
  | nil => trivial
  | cons i is ih =>
    exact ⟨h i List.mem_cons_self s, ih (fun j hj => h j (List.mem_cons_of_mem _ hj)) _⟩

end Transition
