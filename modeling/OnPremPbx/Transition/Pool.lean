import OnPremPbx.Transition.Program
import OnPremPbx.Transition.Run

/-!
# Programs side by side

Requests that are handled at the same time over one state. Each has a program, and a step is one
operation of one of them, so that the operations of the others may come between any two. The rules
below lift what one operation keeps to every order of steps.
-/

namespace Program

variable {Op α σ ι : Type} {Answer : Op → Type}

/-- One operation of a program. What has ended stays. -/
def next (h : Handler Answer σ) : Program Answer α → σ → Program Answer α × σ
  | .call o k, s => (k (h o s).1, (h o s).2)
  | p, s         => (p, s)

/-! ### Operations on the way -/

/-- A result in `Q` comes only after an operation in `D`. -/
def Through (D : Op → Prop) (Q : α → Prop) : Program Answer α → Prop
  | .ret a    => ¬ Q a
  | .throw    => True
  | .call o k => D o ∨ ∀ a, (k a).Through D Q

section

variable {β : Type} {D : Op → Prop} {Q : β → Prop}

@[simp] lemma through_pure {a : β} : (pure a : Program Answer β).Through D Q ↔ ¬ Q a := Iff.rfl

lemma through_ofOption_bind {o : Option α} {f : α → Program Answer β}
    (h : ∀ a ∈ o, (f a).Through D Q) : (ofOption o >>= f).Through D Q := by
  cases o with
  | none => trivial
  | some a => exact h a rfl

/-- Whatever the first program returns, the second one goes through the operation. -/
lemma All.through_bind {A : ∀ o, Option (Answer o) → Prop} {P : Op → Prop} {R : Option α → Prop}
    {p : Program Answer α} {f : α → Program Answer β} (hA : ∀ o a, A o a) (hp : p.All A P R)
    (hf : ∀ a, R (some a) → (f a).Through D Q) : (p >>= f).Through D Q := by
  induction p with
  | ret a => exact hf a hp
  | throw => trivial
  | call o k ih => exact .inr fun a => ih a (hp.2 a (hA o a))

lemma through_bind {p : Program Answer α} {f : α → Program Answer β}
    (hf : ∀ a, (f a).Through D Q) : (p >>= f).Through D Q := by
  induction p with
  | ret a => exact hf a
  | throw => trivial
  | call o k ih => exact .inr fun a => ih a

/-- The first program goes through the operation, whatever it returns. -/
lemma Through.bind {p : Program Answer α} {f : α → Program Answer β}
    (hp : p.Through D fun _ => True) : (p >>= f).Through D Q := by
  induction p with
  | ret a => exact absurd trivial hp
  | throw => trivial
  | call o k ih => exact hp.imp_right fun h a => ih a (h a)

lemma through_perform {o : Op} {Q : Answer o → Prop} (h : D o) : (perform o).Through D Q :=
  .inl h

end

/-- The operations after a `try` are those of its program. -/
lemma Through.attempt {D : Op → Prop} {Q : α → Prop} {Q' : Option α → Prop}
    {p : Program Answer α} (hp : p.Through D Q) (hnone : ¬ Q' none) (hsome : ∀ a, Q' (some a) → Q a) :
    p.attempt.Through D Q' := by
  induction p with
  | ret a => exact fun h => hp (hsome a h)
  | throw => exact hnone
  | call o k ih => exact hp.imp_right fun h a => ih a (h a)

lemma Through.map {β : Type} {D : Op → Prop} {Q : β → Prop} {p : Program Answer α} {g : α → β}
    (hp : p.Through D fun a => Q (g a)) : (p >>= fun a => pure (g a)).Through D Q := by
  induction p with
  | ret a => exact hp
  | throw => trivial
  | call o k ih => exact hp.imp_right fun h a => ih a (h a)

/-- What is passed on after a `try` is what it caught. -/
lemma attempt_bind_ofOption (p : Program Answer α) : (p.attempt >>= ofOption) = p := by
  induction p with
  | ret a => rfl
  | throw => rfl
  | call o k ih => exact congrArg (call o) (funext ih)

/-- The first operation is in `P`, and what comes after an operation and its answer is in `R`. -/
def Follows (R : ∀ o, Option (Answer o) → Op → Prop) : (Op → Prop) → Program Answer α → Prop
  | _, .ret _    => True
  | _, .throw    => True
  | P, .call o k => P o ∧ ∀ a, (k a).Follows R (R o a)

section

variable {β : Type} {R : ∀ o, Option (Answer o) → Op → Prop} {P : Op → Prop}

lemma Follows.mono {P' : Op → Prop} {p : Program Answer α} (hp : p.Follows R P)
    (h : ∀ o, P o → P' o) : p.Follows R P' := by
  cases p with
  | ret a => trivial
  | throw => trivial
  | call o k => exact ⟨h o hp.1, hp.2⟩

lemma follows_pure (a : α) : (pure a : Program Answer α).Follows R P := trivial

lemma follows_ofOption_bind {o : Option α} {f : α → Program Answer β}
    (h : ∀ a ∈ o, (f a).Follows R P) : (ofOption o >>= f).Follows R P := by
  cases o with
  | none => trivial
  | some a => exact h a rfl

/-- Operations that are allowed after every answer. -/
lemma All.follows {A : ∀ o, Option (Answer o) → Prop} {P' : Op → Prop} {Q : Option α → Prop}
    {p : Program Answer α} (hA : ∀ o a, A o a) (hp : p.All A P' Q) (hP : ∀ o, P' o → P o)
    (hR : ∀ o a o', P' o' → R o a o') : p.Follows R P := by
  induction p generalizing P with
  | ret a => trivial
  | throw => trivial
  | call o k ih => exact ⟨hP o hp.1, fun a => ih a (hp.2 a (hA o a)) (hR o a)⟩

end

/-- Where exceptions may come, two statements about the result are about one that may come. -/
lemma All.exists_result {A A' : ∀ o, Option (Answer o) → Prop} {P P' : Op → Prop}
    {Q Q' : Option α → Prop} {p : Program Answer α} (hp : p.All A P Q) (hp' : p.All A' P' Q')
    (hA : ∀ o, A o none) (hA' : ∀ o, A' o none) : ∃ r, Q r ∧ Q' r := by
  induction p with
  | ret a => exact ⟨_, hp, hp'⟩
  | throw => exact ⟨_, hp, hp'⟩
  | call o k ih => exact ih none (hp.2 none (hA o)) (hp'.2 none (hA' o))

/-! ### Pools -/

/-- A request, and what is left of its program. -/
structure Job (ι : Type) {Op : Type} (Answer : Op → Type) (α : Type) where
  request : ι
  rest : Program Answer α

/-- The state, and the requests in the order in which they started. -/
structure Pool (σ ι : Type) {Op : Type} (Answer : Op → Type) (α : Type) where
  store : σ
  jobs : List (Job ι Answer α) := []

inductive Event (ι : Type) where
  | start (r : ι)
  | step (i : ℕ)

namespace Pool

variable (h : Handler Answer σ) (code : ι → Program Answer α)

def next (x : Pool σ ι Answer α) : Event ι → Pool σ ι Answer α
  | .start r => { x with jobs := x.jobs ++ [⟨r, code r⟩] }
  | .step i  =>
    match x.jobs[i]? with
    | none     => x
    | some job =>
      { store := (job.rest.next h x.store).2
        jobs := x.jobs.set i { job with rest := (job.rest.next h x.store).1 } }

def run : Pool σ ι Answer α → List (Event ι) → Pool σ ι Answer α := List.foldl (next h code)

/-- The next step of the request is the operation. -/
def Calls (x : Pool σ ι Answer α) (i : ℕ) (o : Op) (job : Job ι Answer α)
    (k : Option (Answer o) → Program Answer α) : Prop :=
  x.jobs[i]? = some job ∧ job.rest = .call o k

variable {h code} {x : Pool σ ι Answer α} {e : Event ι} {es es' : List (Event ι)} {i : ℕ} {o : Op}
  {job : Job ι Answer α} {k : Option (Answer o) → Program Answer α}

@[simp] lemma run_nil : x.run h code [] = x := rfl

lemma run_append : x.run h code (es ++ es') = (x.run h code es).run h code es' :=
  List.foldl_append

lemma run_concat : x.run h code (es ++ [e]) = (x.run h code es).next h code e :=
  List.foldl_append

lemma Calls.next_eq (hcalls : x.Calls i o job k) :
    x.next h code (.step i) =
      ⟨(h o x.store).2, x.jobs.set i ⟨job.request, k (h o x.store).1⟩⟩ := by
  rw [next, hcalls.1]
  dsimp only
  rw [hcalls.2]
  rfl

variable (h code) in
/-- What a step does: a request starts, or one of them calls an operation, or nothing happens. -/
lemma next_cases (x : Pool σ ι Answer α) (e : Event ι) :
    (∃ r, e = .start r ∧ x.next h code e = { x with jobs := x.jobs ++ [⟨r, code r⟩] }) ∨
    (∃ i o job k, e = .step i ∧ x.Calls i o job k) ∨ x.next h code e = x := by
  cases e with
  | start r => exact .inl ⟨r, rfl, rfl⟩
  | step i =>
    right
    cases hjob : x.jobs[i]? with
    | none => exact .inr (by rw [next, hjob])
    | some job =>
      have hset : ∀ p, job.rest = p → x.jobs.set i ⟨job.request, p⟩ = x.jobs := by
        rintro p rfl
        obtain ⟨hlt, rfl⟩ := List.getElem?_eq_some_iff.mp hjob
        exact List.set_getElem_self hlt
      cases hrest : job.rest with
      | ret a =>
        right
        rw [next, hjob]
        simp only [hrest, Program.next, hset _ hrest]
      | throw =>
        right
        rw [next, hjob]
        simp only [hrest, Program.next, hset _ hrest]
      | call o k => exact .inl ⟨i, o, job, k, rfl, hjob, hrest⟩

/-! ### Invariants -/

/-- Every request, with its place, is in `J`. -/
def Every (J : ℕ → Job ι Answer α → Prop) (x : Pool σ ι Answer α) : Prop :=
  ∀ i job, x.jobs[i]? = some job → J i job

/-- What a request has when it starts, and what each of its operations keeps. -/
lemma Every.next {J : ℕ → Job ι Answer α → Prop} (hx : x.Every J)
    (hstart : ∀ r, e = .start r → J x.jobs.length ⟨r, code r⟩)
    (hcall : ∀ i o job k, e = .step i → x.Calls i o job k → J i job →
      J i ⟨job.request, k (h o x.store).1⟩) : (x.next h code e).Every J := by
  rcases next_cases h code x e with ⟨r, rfl, heq⟩ | ⟨i, o, job, k, rfl, hcalls⟩ | heq
  · intro j job' hj
    rw [heq, List.getElem?_append] at hj
    split_ifs at hj with hlt
    · exact hx j job' hj
    · obtain ⟨hlt', rfl⟩ := List.getElem?_eq_some_iff.mp hj
      rw [List.length_singleton] at hlt'
      obtain rfl : j = x.jobs.length := by omega
      simpa using hstart r rfl
  · intro j job' hj
    rw [hcalls.next_eq, List.getElem?_set] at hj
    split_ifs at hj with hij hlt
    · cases hj
      exact hij ▸ hcall i o job k rfl hcalls (hx i job hcalls.1)
    · exact hx j job' hj
  · rw [heq]
    exact hx

/-- What each operation keeps of the state, a step keeps. -/
lemma store_next {I : σ → Prop} (hx : I x.store)
    (hcall : ∀ i o job k, e = .step i → x.Calls i o job k → I (h o x.store).2) :
    I (x.next h code e).store := by
  rcases next_cases h code x e with ⟨r, rfl, heq⟩ | ⟨i, o, job, k, rfl, hcalls⟩ | heq
  · rwa [heq]
  · rw [hcalls.next_eq]
    exact hcall i o job k rfl hcalls
  · rwa [heq]

/-- What the programs keep, whatever is answered, every request of a run has. -/
theorem every_run {J : ι → Program Answer α → Prop}
    (hcall : ∀ r o (k : Option (Answer o) → Program Answer α), J r (.call o k) → ∀ a, J r (k a))
    (hx : x.Every fun _ job => J job.request job.rest)
    (hstart : ∀ r, .start r ∈ es → J r (code r)) :
    (x.run h code es).Every fun _ job => J job.request job.rest := by
  induction es generalizing x with
  | nil => exact hx
  | cons e es ih =>
    refine ih (hx.next (fun r he => hstart r (he ▸ List.mem_cons_self)) ?_)
      fun r hr => hstart r (List.mem_cons_of_mem _ hr)
    intro i o job k _ hcalls hjob
    rw [hcalls.2] at hjob
    exact hcall _ o k hjob _

/-- Requests stay, and in their places. -/
lemma length_le_run : x.jobs.length ≤ (x.run h code es).jobs.length := by
  induction es generalizing x with
  | nil => exact le_rfl
  | cons e es ih =>
    refine le_trans ?_ ih
    rcases next_cases h code x e with ⟨r, rfl, heq⟩ | ⟨i, o, job, k, rfl, hcalls⟩ | heq
    · rw [heq, List.length_append]
      exact Nat.le_add_right _ _
    · rw [hcalls.next_eq, List.length_set]
    · rw [heq]

/-- The request `r` at this place has called an operation in `D`. -/
def Called (h : Handler Answer σ) (code : ι → Program Answer α) (x : Pool σ ι Answer α)
    (es : List (Event ι)) (i : ℕ) (r : ι) (D : Op → Prop) : Prop :=
  ∃ first last o job k, es = first ++ .step i :: last ∧ (x.run h code first).Calls i o job k ∧
    job.request = r ∧ D o

lemma Called.concat {r : ι} {D : Op → Prop} (hcalled : x.Called h code es i r D) (e : Event ι) :
    x.Called h code (es ++ [e]) i r D := by
  obtain ⟨first, last, o, job, k, rfl, hrest⟩ := hcalled
  exact ⟨first, last ++ [e], o, job, k, by simp, hrest⟩

/-- A request whose program goes through an operation in `D`, in a run from a pool without
requests: it has called the operation, or it still will before it returns in `Q`. -/
theorem through_run {D : Op → Prop} {Q : α → Prop} (hx : x.jobs = []) :
    (x.run h code es).Every fun i job => (code job.request).Through D Q →
      job.rest.Through D Q ∨ x.Called h code es i job.request D := by
  induction es using List.reverseRecOn with
  | nil =>
    intro i job hjob
    rw [run_nil, hx] at hjob
    cases hjob
  | append_singleton es e ih =>
    rw [run_concat]
    refine Every.next (fun i job hjob hcode => ?_) (fun r _ hcode => .inl hcode) ?_
    · exact (ih i job hjob hcode).imp_right fun hcalled => hcalled.concat e
    · rintro i o job k rfl hcalls hjob hcode
      rcases hjob hcode with hthrough | hcalled
      · rw [hcalls.2] at hthrough
        rcases hthrough with hD | hthrough
        · exact .inr ⟨es, [], o, job, k, rfl, hcalls, rfl, hD⟩
        · exact .inl (hthrough _)
      · exact .inr hcalled

end Pool

end Program
