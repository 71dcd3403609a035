import OnPremPbx.Transition.Pool

/-!
# Tickets

Some operations draw tickets, others spend them. A program pays if it spends what it has drawn and
not spent yet. When the tickets drawn are always new, no ticket is spent twice, in whatever order
the operations of programs that pay come.
-/

namespace Program

variable {Op α β σ ι T : Type} {Answer : Op → Type}

/-- Which tickets an operation draws, and which it spends. -/
structure Till (Op : Type) (Answer : Op → Type) (T : Type) where
  draws : ∀ o : Op, Option (Answer o) → Multiset T
  spends : Op → Multiset T

variable {A : ∀ o, Option (Answer o) → Prop} {P : Op → Prop} {till : Till Op Answer T}

section

variable [DecidableEq T]

variable (A P till) in
/-- With the tickets `ts` and answers in `A`, the program calls operations in `P` and spends what it
has, and what it returns is in `Q` with the tickets that are left. -/
def Pays (Q : Option α → Multiset T → Prop) : Multiset T → Program Answer α → Prop
  | ts, .ret a    => Q (some a) ts
  | ts, .throw    => Q none ts
  | ts, .call o k => (P o ∧ till.spends o ≤ ts) ∧
    ∀ a, A o a → (k a).Pays Q (till.draws o a + (ts - till.spends o))

/-! ### Programs that pay -/

variable {Q Q' : Option α → Multiset T → Prop} {ts : Multiset T}

@[simp] lemma pays_pure (a : α) : (pure a : Program Answer α).Pays A P till Q ts ↔ Q (some a) ts :=
  Iff.rfl

@[simp] lemma pays_throw : (throw : Program Answer α).Pays A P till Q ts ↔ Q none ts := Iff.rfl

@[simp] lemma pays_ofOption (a : Option α) :
    (ofOption a : Program Answer α).Pays A P till Q ts ↔ Q a ts := by
  cases a <;> rfl

lemma pays_perform (o : Op) {Q : Option (Answer o) → Multiset T → Prop} :
    (perform o).Pays A P till Q ts ↔ (P o ∧ till.spends o ≤ ts) ∧
      ∀ a, A o a → Q a (till.draws o a + (ts - till.spends o)) := by
  refine and_congr_right fun _ => forall_congr' fun a => ?_
  cases a <;> rfl

lemma Pays.mono {p : Program Answer α} (hp : p.Pays A P till Q ts) (h : ∀ r ts, Q r ts → Q' r ts) :
    p.Pays A P till Q' ts := by
  induction p generalizing ts with
  | ret a => exact h _ _ hp
  | throw => exact h _ _ hp
  | call o k ih => exact ⟨hp.1, fun a ha => ih a (hp.2 a ha)⟩

@[simp] lemma pays_bind (p : Program Answer α) (f : α → Program Answer β)
    {Q : Option β → Multiset T → Prop} :
    (p >>= f).Pays A P till Q ts ↔ p.Pays A P till (fun
      | none, ts   => Q none ts
      | some a, ts => (f a).Pays A P till Q ts) ts := by
  induction p generalizing ts with
  | ret a => rfl
  | throw => rfl
  | call o k ih =>
    exact and_congr_right fun _ => forall_congr' fun a => imp_congr_right fun _ => ih a

@[simp] lemma pays_attempt (p : Program Answer α) {Q : Option (Option α) → Multiset T → Prop} :
    p.attempt.Pays A P till Q ts ↔ p.Pays A P till (fun r => Q (some r)) ts := by
  induction p generalizing ts with
  | ret a => rfl
  | throw => rfl
  | call o k ih =>
    exact and_congr_right fun _ => forall_congr' fun a => imp_congr_right fun _ => ih a

/-- Operations that neither draw nor spend leave the tickets. -/
lemma All.pays {P' : Op → Prop} {R : Option α → Prop} {p : Program Answer α} (hp : p.All A P' R)
    (hP : ∀ o, P' o → P o ∧ till.spends o = 0 ∧ ∀ a, till.draws o a = 0)
    (hQ : ∀ r, R r → Q r ts) : p.Pays A P till Q ts := by
  induction p with
  | ret a => exact hQ _ hp
  | throw => exact hQ _ hp
  | call o k ih =>
    obtain ⟨ho, hspends, hdraws⟩ := hP o hp.1
    refine ⟨⟨ho, hspends ▸ Multiset.zero_le _⟩, fun a ha => ?_⟩
    rw [hspends, hdraws, Multiset.sub_zero, zero_add]
    exact ih a (hp.2 a ha)

/-- A program that spends nothing may draw what it wants. -/
lemma All.pays_of_spends {P' : Op → Prop} {R : Option α → Prop} {p : Program Answer α}
    (hp : p.All A P' R) (hP : ∀ o, P' o → P o ∧ till.spends o = 0)
    (hQ : ∀ r ts, R r → Q r ts) : p.Pays A P till Q ts := by
  induction p generalizing ts with
  | ret a => exact hQ _ _ hp
  | throw => exact hQ _ _ hp
  | call o k ih =>
    obtain ⟨ho, hspends⟩ := hP o hp.1
    exact ⟨⟨ho, hspends ▸ Multiset.zero_le _⟩, fun a ha => ih a (hp.2 a ha)⟩

end

/-! ### Runs -/

variable (h : Handler Answer σ) (code : ι → Program Answer α)

/-- To operations in `P` the handler answers in `A`, and draws tickets that were not issued
before. -/
structure Till.Fresh (till : Till Op Answer T) (A : ∀ o, Option (Answer o) → Prop) (P : Op → Prop)
    (I : σ → Prop) (issued : σ → Set T) : Prop where
  answers : ∀ o s, P o → A o (h o s).1
  kept : ∀ o s, P o → issued s ⊆ issued (h o s).2
  nodup : ∀ o s, P o → I (h o s).2 → (till.draws o (h o s).1).Nodup
  fresh : ∀ o s, P o → I (h o s).2 →
    ∀ t ∈ till.draws o (h o s).1, t ∉ issued s ∧ t ∈ issued (h o s).2

namespace Pool

/-- The tickets that a step spends. -/
def spent (till : Till Op Answer T) (x : Pool σ ι Answer α) : Event ι → Multiset T
  | .start _ => 0
  | .step i  =>
    match x.jobs[i]? with
    | some ⟨_, .call o _⟩ => till.spends o
    | _                   => 0

/-- The tickets that a run spends. -/
def spentIn (till : Till Op Answer T) : Pool σ ι Answer α → List (Event ι) → Multiset T
  | _, []      => 0
  | x, e :: es => x.spent till e + spentIn till (x.next h code e) es

variable {h code} {x : Pool σ ι Answer α} {e : Event ι} {es : List (Event ι)} {I : σ → Prop}
  {issued : σ → Set T}

lemma Calls.spent_eq {i : ℕ} {o : Op} {job : Job ι Answer α}
    {k : Option (Answer o) → Program Answer α} (hcalls : x.Calls i o job k) :
    x.spent till (.step i) = till.spends o := by
  obtain ⟨r, rest⟩ := job
  obtain ⟨hjob, rfl⟩ : x.jobs[i]? = some ⟨r, rest⟩ ∧ rest = .call o k := hcalls
  simp only [spent, hjob]

variable (h code) in
/-- A step starts a request, or calls an operation, or does nothing. -/
lemma spent_cases (till : Till Op Answer T) (x : Pool σ ι Answer α) (e : Event ι) :
    (∃ r, e = .start r) ∨ (∃ i o job k, e = .step i ∧ x.Calls i o job k) ∨
      x.spent till e = 0 ∧ x.next h code e = x := by
  cases e with
  | start r => exact .inl ⟨r, rfl⟩
  | step i =>
    right
    rcases next_cases h code x (.step i) with ⟨r, heq, -⟩ | hcalls | heq
    · cases heq
    · exact .inl hcalls
    · cases hjob : x.jobs[i]? with
      | none => exact .inr ⟨by simp only [spent, hjob], heq⟩
      | some job =>
        obtain ⟨r, rest⟩ := job
        cases rest with
        | ret a => exact .inr ⟨by simp only [spent, hjob], heq⟩
        | throw => exact .inr ⟨by simp only [spent, hjob], heq⟩
        | call o k => exact .inl ⟨i, o, _, k, rfl, hjob, rfl⟩

variable [DecidableEq T]

/-- The tickets in the hands of the requests, which they will not spend twice. -/
structure Holds (till : Till Op Answer T) (A : ∀ o, Option (Answer o) → Prop) (P : Op → Prop)
    (issued : σ → Set T) (gone : Multiset T) (held : ℕ → Multiset T)
    (x : Pool σ ι Answer α) : Prop where
  pays : x.Every fun i job => job.rest.Pays A P till (fun _ _ => True) (held i)
  nodup : (gone + ∑ i ∈ Finset.range x.jobs.length, held i).Nodup
  issued : ∀ t ∈ gone + ∑ i ∈ Finset.range x.jobs.length, held i, t ∈ issued x.store

variable {gone : Multiset T} {held : ℕ → Multiset T}

lemma Holds.start (hx : x.Holds till A P issued gone held) {r : ι}
    (hcode : (code r).Pays A P till (fun _ _ => True) 0) :
    (x.next h code (.start r)).Holds till A P issued gone
      (Function.update held x.jobs.length 0) := by
  have hsum : ∑ i ∈ Finset.range (x.next h code (.start r)).jobs.length,
      Function.update held x.jobs.length 0 i = ∑ i ∈ Finset.range x.jobs.length, held i := by
    rw [next, List.length_append, List.length_singleton, Finset.sum_range_succ,
      Function.update_self, add_zero]
    refine Finset.sum_congr rfl fun i hi => ?_
    exact Function.update_of_ne (Finset.mem_range.mp hi).ne _ _
  refine ⟨?_, hsum ▸ hx.nodup, fun t ht => hx.issued t (hsum ▸ ht)⟩
  intro i job hjob
  rw [next, List.getElem?_append] at hjob
  split_ifs at hjob with hlt
  · rw [Function.update_of_ne hlt.ne]
    exact hx.pays i job hjob
  · obtain ⟨hlt', rfl⟩ := List.getElem?_eq_some_iff.mp hjob
    rw [List.length_singleton] at hlt'
    obtain rfl : i = x.jobs.length := by omega
    rw [Function.update_self]
    simpa using hcode

lemma Holds.call (hx : x.Holds till A P issued gone held) (hfresh : till.Fresh h A P I issued) {i : ℕ}
    {o : Op} {job : Job ι Answer α} {k : Option (Answer o) → Program Answer α}
    (hcalls : x.Calls i o job k) (hI : I (h o x.store).2) :
    (x.next h code (.step i)).Holds till A P issued (gone + till.spends o)
      (Function.update held i (till.draws o (h o x.store).1 + (held i - till.spends o))) := by
  set drawn := till.draws o (h o x.store).1 with hdrawn
  have hpays : job.rest.Pays A P till (fun _ _ => True) (held i) := hx.pays i job hcalls.1
  rw [hcalls.2] at hpays
  obtain ⟨⟨ho, hspends⟩, hrest⟩ := hpays
  have hlt : i < x.jobs.length := (List.getElem?_eq_some_iff.mp hcalls.1).1
  have hmem : i ∈ Finset.range x.jobs.length := Finset.mem_range.mpr hlt
  have hnext : x.next h code (.step i) =
      ⟨(h o x.store).2, x.jobs.set i ⟨job.request, k (h o x.store).1⟩⟩ := hcalls.next_eq
  have hsum : gone + till.spends o + ∑ j ∈ Finset.range (x.next h code (.step i)).jobs.length,
      Function.update held i (drawn + (held i - till.spends o)) j =
      gone + ∑ j ∈ Finset.range x.jobs.length, held j + drawn := by
    have hothers : ∑ j ∈ (Finset.range x.jobs.length).erase i,
        Function.update held i (drawn + (held i - till.spends o)) j =
        ∑ j ∈ (Finset.range x.jobs.length).erase i, held j :=
      Finset.sum_congr rfl fun j hj => Function.update_of_ne (Finset.ne_of_mem_erase hj) _ _
    have hback : till.spends o + (held i - till.spends o) = held i :=
      add_tsub_cancel_of_le hspends
    rw [hnext, List.length_set, ← Finset.add_sum_erase _ _ hmem, ← Finset.add_sum_erase _ _ hmem,
      Function.update_self, hothers]
    calc gone + till.spends o + (drawn + (held i - till.spends o) +
          ∑ j ∈ (Finset.range x.jobs.length).erase i, held j)
      _ = gone + ((till.spends o + (held i - till.spends o)) +
          ∑ j ∈ (Finset.range x.jobs.length).erase i, held j) + drawn := by
          simp only [add_assoc, add_comm drawn]
      _ = _ := by rw [hback]
  have hnew := hfresh.fresh o x.store ho hI
  refine ⟨?_, ?_, ?_⟩
  · rw [hnext]
    intro j job' hj
    rw [List.getElem?_set] at hj
    split_ifs at hj with hij
    · cases hj
      subst hij
      rw [Function.update_self]
      exact hrest _ (hfresh.answers o x.store ho)
    · rw [Function.update_of_ne (Ne.symm hij)]
      exact hx.pays j job' hj
  · rw [hsum, Multiset.nodup_add]
    refine ⟨hx.nodup, hfresh.nodup o x.store ho hI, ?_⟩
    rw [Multiset.disjoint_left]
    exact fun ht hdrawn => (hnew _ hdrawn).1 (hx.issued _ ht)
  · intro t ht
    rw [hsum, Multiset.mem_add] at ht
    rw [hnext]
    rcases ht with ht | ht
    · exact hfresh.kept o x.store ho (hx.issued t ht)
    · exact (hnew t ht).2

/-- What the requests of a run of programs that pay have spent, and what they still have. -/
theorem Holds.run (hfresh : till.Fresh h A P I issued)
    (hcode : ∀ r, .start r ∈ es → (code r).Pays A P till (fun _ _ => True) 0)
    (hI : ∀ first, first <+: es → I (x.run h code first).store)
    (hx : x.Holds till A P issued gone held) :
    ∃ held', (x.run h code es).Holds till A P issued (gone + x.spentIn h code till es) held' := by
  induction es generalizing x gone held with
  | nil => exact ⟨held, by rwa [spentIn, add_zero]⟩
  | cons e es ih =>
    have hrest : ∀ gone' held', (x.next h code e).Holds till A P issued gone' held' →
        ∃ held'', (x.run h code (e :: es)).Holds till A P issued
          (gone' + (x.next h code e).spentIn h code till es) held'' := fun gone' held' hx' =>
      ih (fun r hr => hcode r (List.mem_cons_of_mem _ hr))
        (fun first hfirst => hI (e :: first) (List.prefix_cons_inj e |>.mpr hfirst)) hx'
    rw [spentIn, ← add_assoc]
    rcases spent_cases h code till x e with ⟨r, rfl⟩ | ⟨i, o, job, k, rfl, hcalls⟩ |
      ⟨hspent, hnext⟩
    · rw [show x.spent till (.start r) = 0 from rfl, add_zero]
      exact hrest _ _ (hx.start (hcode r List.mem_cons_self))
    · rw [hcalls.spent_eq]
      refine hrest _ _ (hx.call hfresh hcalls ?_)
      have hnext := hI [.step i] (List.prefix_cons_inj _ |>.mpr (List.nil_prefix))
      rw [Pool.run, List.foldl_cons, List.foldl_nil, hcalls.next_eq] at hnext
      exact hnext
    · rw [hspent, add_zero]
      refine hrest _ _ (?_ : (x.next h code e).Holds till A P issued gone held)
      rwa [hnext]

/-- Without requests nothing is held but what is gone. -/
lemma holds_init (hx : x.jobs = []) (hnodup : gone.Nodup) (hgone : ∀ t ∈ gone, t ∈ issued x.store) :
    x.Holds till A P issued gone fun _ => 0 where
  pays := fun i job hjob => by
    rw [hx] at hjob
    cases hjob
  nodup := by simpa [hx] using hnodup
  issued := by simpa [hx] using hgone

/-- No ticket is spent twice, and each one was issued in the run. -/
theorem nodup_spentIn (hfresh : till.Fresh h A P I issued) (hx : x.jobs = [])
    (hcode : ∀ r, .start r ∈ es → (code r).Pays A P till (fun _ _ => True) 0)
    (hI : ∀ first, first <+: es → I (x.run h code first).store) :
    (x.spentIn h code till es).Nodup ∧ ∀ t ∈ x.spentIn h code till es,
      t ∈ issued (x.run h code es).store ∧ t ∉ issued x.store := by
  have hspent : ∀ gone : Multiset T, gone.Nodup → (∀ t ∈ gone, t ∈ issued x.store) →
      (gone + x.spentIn h code till es).Nodup ∧
        ∀ t ∈ x.spentIn h code till es, t ∈ issued (x.run h code es).store := by
    intro gone hnodup hgone
    obtain ⟨held, hend⟩ := (holds_init hx hnodup hgone).run hfresh hcode hI
    exact ⟨(Multiset.nodup_add.mp hend.nodup).1, fun t ht =>
      hend.issued t (Multiset.mem_add.mpr (.inl (Multiset.mem_add.mpr (.inr ht))))⟩
  obtain ⟨hnodup, hissued⟩ := hspent 0 Multiset.nodup_zero fun t ht =>
    absurd ht (Multiset.notMem_zero t)
  rw [zero_add] at hnodup
  refine ⟨hnodup, fun t ht => ⟨hissued t ht, fun hbefore => ?_⟩⟩
  -- one that was issued before counts as gone
  obtain ⟨hboth, -⟩ := hspent {t} (Multiset.nodup_singleton t) fun t' ht' =>
    Multiset.mem_singleton.mp ht' ▸ hbefore
  rw [Multiset.singleton_add, Multiset.nodup_cons] at hboth
  exact hboth.1 ht

end Pool

end Program
