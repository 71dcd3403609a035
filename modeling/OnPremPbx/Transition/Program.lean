import Mathlib.Tactic

/-!
# Programs that call operations

A program calls operations, and goes on with what they answer; a call may throw, and so may the
program itself. `All` is about every answer that may come, and `run` about the answers of a handler,
which has a state.
-/

/-- The answer `none` is an exception. -/
inductive Program {Op : Type} (Answer : Op → Type) (α : Type) where
  | ret (a : α)
  | throw
  | call (o : Op) (k : Option (Answer o) → Program Answer α)

namespace Program

variable {Op α β σ : Type} {Answer : Op → Type}

def bind : Program Answer α → (α → Program Answer β) → Program Answer β
  | .ret a, f    => f a
  | .throw, _    => .throw
  | .call o k, f => .call o fun a => (k a).bind f

instance : Monad (Program Answer) where
  pure := .ret
  bind := bind

private lemma bind_ret (p : Program Answer α) : p.bind .ret = p := by
  induction p with
  | ret a => rfl
  | throw => rfl
  | call o k ih => exact congrArg (call o) (funext ih)

private lemma bind_bind {γ : Type} (p : Program Answer α) (f : α → Program Answer β)
    (g : β → Program Answer γ) : (p.bind f).bind g = p.bind fun a => (f a).bind g := by
  induction p with
  | ret a => rfl
  | throw => rfl
  | call o k ih => exact congrArg (call o) (funext ih)

instance : LawfulMonad (Program Answer) :=
  LawfulMonad.mk' _ (fun p => bind_ret p) (fun _ _ => rfl) (fun p f g => bind_bind p f g)

/-- An operation, with its exception passed on. -/
def perform (o : Op) : Program Answer (Answer o) :=
  .call o fun
    | none   => .throw
    | some a => .ret a

/-- `try`, with `none` where something was thrown. -/
def attempt : Program Answer α → Program Answer (Option α)
  | .ret a    => .ret (some a)
  | .throw    => .ret none
  | .call o k => .call o fun a => (k a).attempt

/-- An exception for a result that is not there. -/
def ofOption : Option α → Program Answer α
  | none   => .throw
  | some a => .ret a

/-! ### Every answer -/

section

variable (A : ∀ o, Option (Answer o) → Prop) (P : Op → Prop)

/-- Whatever is answered within `A`, the operations are in `P` and the result is in `Q`; the result
`none` is an exception. -/
def All (Q : Option α → Prop) : Program Answer α → Prop
  | .ret a    => Q (some a)
  | .throw    => Q none
  | .call o k => P o ∧ ∀ a, A o a → (k a).All Q

variable {A P} {Q Q' : Option α → Prop}

@[simp] lemma all_pure (a : α) : (pure a : Program Answer α).All A P Q ↔ Q (some a) := Iff.rfl

@[simp] lemma all_throw : (throw : Program Answer α).All A P Q ↔ Q none := Iff.rfl

@[simp] lemma all_ofOption (a : Option α) :
    (ofOption a : Program Answer α).All A P Q ↔ Q a := by
  cases a <;> rfl

@[simp] lemma all_perform (o : Op) {Q : Option (Answer o) → Prop} :
    (perform o).All A P Q ↔ P o ∧ ∀ a, A o a → Q a := by
  refine and_congr_right fun _ => forall_congr' fun a => ?_
  cases a <;> rfl

lemma All.mono (h : ∀ r, Q r → Q' r) {p : Program Answer α} (hp : p.All A P Q) :
    p.All A P Q' := by
  induction p with
  | ret a => exact h _ hp
  | throw => exact h _ hp
  | call o k ih => exact ⟨hp.1, fun a ha => ih a (hp.2 a ha)⟩

@[simp] lemma all_bind (p : Program Answer α) (f : α → Program Answer β) {Q : Option β → Prop} :
    (p >>= f).All A P Q ↔
      p.All A P fun
        | none   => Q none
        | some a => (f a).All A P Q := by
  induction p with
  | ret a => rfl
  | throw => rfl
  | call o k ih =>
    exact and_congr_right fun _ => forall_congr' fun a => imp_congr_right fun _ => ih a

@[simp] lemma all_attempt (p : Program Answer α) {Q : Option (Option α) → Prop} :
    p.attempt.All A P Q ↔ p.All A P fun r => Q (some r) := by
  induction p with
  | ret a => rfl
  | throw => rfl
  | call o k ih =>
    exact and_congr_right fun _ => forall_congr' fun a => imp_congr_right fun _ => ih a

end

/-! ### Runs -/

/-- What a handler answers, and its state after the operation. -/
abbrev Handler (Answer : Op → Type) (σ : Type) := ∀ o : Op, σ → Option (Answer o) × σ

section

variable (h : Handler Answer σ)

/-- The result of a run, and the state that it leaves. -/
def run : Program Answer α → σ → Option α × σ
  | .ret a, s    => (some a, s)
  | .throw, s    => (none, s)
  | .call o k, s => run (k (h o s).1) (h o s).2

@[simp] lemma run_pure (a : α) (s : σ) : run h (pure a) s = (some a, s) := rfl

@[simp] lemma run_throw (s : σ) : run h (throw : Program Answer α) s = (none, s) := rfl

@[simp] lemma run_ofOption (a : Option α) (s : σ) : run h (ofOption a) s = (a, s) := by
  cases a <;> rfl

@[simp] lemma run_perform (o : Op) (s : σ) : run h (perform o) s = h o s := by
  rw [perform, run]
  rcases h o s with ⟨_ | a, s'⟩ <;> rfl

@[simp] lemma run_bind (p : Program Answer α) (f : α → Program Answer β) (s : σ) :
    run h (p >>= f) s =
      match (run h p s).1 with
      | none   => (none, (run h p s).2)
      | some a => run h (f a) (run h p s).2 := by
  induction p generalizing s with
  | ret a => rfl
  | throw => rfl
  | call o k ih => exact ih _ _

@[simp] lemma run_attempt (p : Program Answer α) (s : σ) :
    run h p.attempt s = (some (run h p s).1, (run h p s).2) := by
  induction p generalizing s with
  | ret a => rfl
  | throw => rfl
  | call o k ih => exact ih _ _

variable {h}

/-- After a program that leaves the state, the rest runs from there. -/
lemma run_bind_of_state {p : Program Answer α} {f : α → Program Answer β} {s : σ}
    {R : Option β × σ → Prop} (hp : (p.run h s).2 = s) (hnone : R (none, s))
    (hf : ∀ a, R ((f a).run h s)) : R ((p >>= f).run h s) := by
  rw [run_bind, hp]
  cases (p.run h s).1 with
  | none => exact hnone
  | some a => exact hf a

/-- What every operation in `P` keeps, a program of such operations keeps. -/
theorem All.run {A : ∀ o, Option (Answer o) → Prop} {P : Op → Prop} {Q : Option α → Prop}
    {I : σ → Prop} (hstep : ∀ o s, P o → I s → A o (h o s).1 ∧ I (h o s).2)
    {p : Program Answer α} (hp : p.All A P Q) {s : σ} (hs : I s) :
    Q (p.run h s).1 ∧ I (p.run h s).2 := by
  induction p generalizing s with
  | ret a => exact ⟨hp, hs⟩
  | throw => exact ⟨hp, hs⟩
  | call o k ih =>
    obtain ⟨ha, hs'⟩ := hstep o s hp.1 hs
    exact ih _ (hp.2 _ ha) hs'

end

/-! ### Steps of a run -/

section

variable (h : Handler Answer σ) (P : Op → σ → Prop)

/-- Every operation of the run meets `P`, with the state that it is called in. -/
def Along : Program Answer α → σ → Prop
  | .ret _, _    => True
  | .throw, _    => True
  | .call o k, s => P o s ∧ Along (k (h o s).1) (h o s).2

variable {h P}

@[simp] lemma along_pure (a : α) (s : σ) : Along h P (pure a : Program Answer α) s := trivial

@[simp] lemma along_ofOption (a : Option α) (s : σ) :
    Along h P (ofOption a : Program Answer α) s := by
  cases a <;> trivial

@[simp] lemma along_perform (o : Op) (s : σ) :
    Along h P (perform o : Program Answer (Answer o)) s ↔ P o s := by
  refine and_iff_left ?_
  cases (h o s).1 <;> trivial

@[simp] lemma along_bind (p : Program Answer α) (f : α → Program Answer β) (s : σ) :
    Along h P (p >>= f) s ↔
      Along h P p s ∧ ∀ a ∈ (p.run h s).1, Along h P (f a) (p.run h s).2 := by
  induction p generalizing s with
  | ret a =>
    rw [Along, run, true_and]
    simp only [Option.mem_def, Option.some.injEq, forall_eq']
    rfl
  | throw => exact iff_of_true trivial ⟨trivial, fun _ ha => absurd ha (Option.not_mem_none _)⟩
  | call o k ih =>
    rw [Along, and_assoc, run]
    exact and_congr_right fun _ => ih _ _

end

/-! ### Results -/

section

variable {A : ∀ o, Option (Answer o) → Prop} {Q : α → Prop} {R : β → Prop}

/-- What the program returns is in `Q`, for all answers within `A`. -/
def Yields (A : ∀ o, Option (Answer o) → Prop) (Q : α → Prop) (p : Program Answer α) : Prop :=
  p.All A (fun _ => True) fun r => ∀ a ∈ r, Q a

lemma yields_pure {a : α} (h : Q a) : (pure a : Program Answer α).Yields A Q := by
  rintro _ ⟨⟩
  exact h

lemma yields_any (p : Program Answer α) : p.Yields A fun _ => True := by
  induction p with
  | ret a => exact fun _ _ => trivial
  | throw => exact fun _ _ => trivial
  | call o k ih => exact ⟨trivial, fun a _ => ih a⟩

lemma Yields.mono {Q' : α → Prop} (h : ∀ a, Q a → Q' a) {p : Program Answer α} (hp : p.Yields A Q) :
    p.Yields A Q' :=
  All.mono (fun _ hr a ha => h a (hr a ha)) hp

lemma Yields.bind {p : Program Answer α} {f : α → Program Answer β} (hp : p.Yields A Q)
    (hf : ∀ a, Q a → (f a).Yields A R) : (p >>= f).Yields A R := by
  rw [Yields, all_bind]
  refine All.mono (fun r hr => ?_) hp
  cases r with
  | none => rintro _ ⟨⟩
  | some a => exact hf a (hr a rfl)

lemma yields_bind {p : Program Answer α} {f : α → Program Answer β}
    (hf : ∀ a, (f a).Yields A R) : (p >>= f).Yields A R :=
  (yields_any p).bind fun a _ => hf a

lemma yields_ofOption_bind {o : Option α} {f : α → Program Answer β}
    (hf : ∀ a ∈ o, (f a).Yields A R) : (ofOption o >>= f).Yields A R := by
  cases o with
  | none => rintro _ ⟨⟩
  | some a => exact hf a rfl

/-- The result of a run, where the handler answers within `A`. -/
theorem Yields.run {h : Handler Answer σ} (hA : ∀ o s, A o (h o s).1) {p : Program Answer α}
    (hp : p.Yields A Q) (s : σ) : ∀ a ∈ (p.run h s).1, Q a :=
  (All.run (I := fun _ => True) (fun o s _ _ => ⟨hA o s, trivial⟩) hp trivial).1

end

/-! ### Answers that make no difference -/

section

variable (E : ∀ o, Option (Answer o) → Option (Answer o) → Prop)

/-- The program goes on in the same way for answers that `E` relates. -/
def Blind : Program Answer α → Prop
  | .ret _    => True
  | .throw    => True
  | .call o k => (∀ a a', E o a a' → k a = k a') ∧ ∀ a, (k a).Blind

variable {E}

/-- Handlers with related answers and the same states have the same runs. -/
theorem Blind.run_eq {h h' : Handler Answer σ}
    (hrel : ∀ o s, E o (h o s).1 (h' o s).1 ∧ (h' o s).2 = (h o s).2) {p : Program Answer α}
    (hp : p.Blind E) (s : σ) : p.run h' s = p.run h s := by
  induction p generalizing s with
  | ret a => rfl
  | throw => rfl
  | call o k ih =>
    obtain ⟨ha, hs⟩ := hrel o s
    rw [Program.run, Program.run, hs, ← hp.1 _ _ ha]
    exact ih _ (hp.2 _) _

lemma blind_pure (a : α) : (pure a : Program Answer α).Blind E := trivial

lemma blind_ofOption (a : Option α) : (ofOption a : Program Answer α).Blind E := by
  cases a <;> trivial

lemma blind_perform {o : Op} (h : ∀ a a', E o a a' → a = a') : (perform o).Blind E := by
  refine ⟨fun a a' ha => by rw [h a a' ha], fun a => ?_⟩
  cases a <;> trivial

lemma Blind.bind {p : Program Answer α} {f : α → Program Answer β} (hp : p.Blind E)
    (hf : ∀ a, (f a).Blind E) : (p >>= f).Blind E := by
  induction p with
  | ret a => exact hf a
  | throw => trivial
  | call o k ih =>
    exact ⟨fun a a' h => congrArg (Program.bind · f) (hp.1 a a' h), fun a => ih a (hp.2 a)⟩

lemma Blind.attempt {p : Program Answer α} (hp : p.Blind E) : p.attempt.Blind E := by
  induction p with
  | ret a => trivial
  | throw => trivial
  | call o k ih =>
    exact ⟨fun a a' h => congrArg Program.attempt (hp.1 a a' h), fun a => ih a (hp.2 a)⟩

lemma blind_ofOption_bind {o : Option α} {f : α → Program Answer β} (hf : ∀ a ∈ o, (f a).Blind E) :
    (ofOption o >>= f).Blind E := by
  cases o with
  | none => trivial
  | some a => exact hf a rfl

end

end Program
