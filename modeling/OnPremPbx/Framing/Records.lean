import Mathlib.Tactic

/-!
# A record layer

A sender cuts each message into fragments and numbers the records they go out in. The receiver opens
a record only with the number that is next.
-/

namespace Framing

variable {α : Type*}

structure Record (α : Type*) where
  seq : ℕ
  payload : List α
  deriving DecidableEq, Repr

/-- The fragments of a message that is not longer than the fuel. -/
def fragmentsAux (size : ℕ) : ℕ → List α → List (List α)
  | 0,        _      => []
  | _ + 1,    []     => []
  | fuel + 1, a :: l => (a :: l).take size :: fragmentsAux size fuel ((a :: l).drop size)

def fragments (size : ℕ) (l : List α) : List (List α) := fragmentsAux size l.length l

/-- The fragments in records, from the number `seq` on. -/
def sealAll (seq : ℕ) : List (List α) → List (Record α)
  | []      => []
  | p :: ps => { seq := seq, payload := p } :: sealAll (seq + 1) ps

/-- What is in the records, if their numbers are `next` and those after it. -/
def openAll (next : ℕ) : List (Record α) → Option (List α)
  | []      => some []
  | r :: rs => if r.seq = next then (openAll (next + 1) rs).map (r.payload ++ ·) else none

lemma flatten_fragmentsAux {size : ℕ} (hsize : 0 < size) {fuel : ℕ} {l : List α}
    (hfuel : l.length ≤ fuel) : (fragmentsAux size fuel l).flatten = l := by
  induction fuel generalizing l with
  | zero =>
    rw [List.length_eq_zero_iff.mp (Nat.le_zero.mp hfuel)]
    rfl
  | succ fuel ih =>
    cases l with
    | nil => rfl
    | cons a l =>
      have hle : ((a :: l).drop size).length ≤ fuel := by
        rw [List.length_drop]
        omega
      rw [fragmentsAux, List.flatten_cons, ih hle, List.take_append_drop]

/-- The fragments are the whole message. -/
theorem flatten_fragments {size : ℕ} (hsize : 0 < size) (l : List α) :
    (fragments size l).flatten = l := flatten_fragmentsAux hsize le_rfl

/-- The records of one message, opened from the number of the first on, give it back. -/
theorem openAll_sealAll (seq : ℕ) (ps : List (List α)) :
    openAll seq (sealAll seq ps) = some ps.flatten := by
  induction ps generalizing seq with
  | nil => rfl
  | cons p ps ih =>
    rw [sealAll, openAll, if_pos rfl, ih]
    rfl

/-- There is a record, with the first number, unless the message is empty. -/
theorem head?_sealAll_fragments {size : ℕ} (hsize : 0 < size) (seq : ℕ) {l : List α} (hl : l ≠ []) :
    ∃ payload, (sealAll seq (fragments size l)).head? =
      some { seq := seq, payload := payload } := by
  rcases hps : fragments size l with _ | ⟨p, ps⟩
  · have hflat := flatten_fragments hsize l
    rw [hps] at hflat
    exact absurd hflat.symm hl
  · exact ⟨p, rfl⟩

end Framing
