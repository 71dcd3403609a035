import Mathlib.Data.List.Induction

/-!
# Histories

A history is a list of entries, the latest last. `since p` is what came after the latest entry
that `p` picks out: something that `p` ends and that began in it is still going on.
-/

namespace Transition

variable {ε : Type*}

/-- The entries after the latest one that satisfies `p`, or all of them. -/
def since (p : ε → Bool) (log : List ε) : List ε :=
  (log.reverse.takeWhile fun x => !p x).reverse

@[simp] lemma since_nil (p : ε → Bool) : since p ([] : List ε) = [] := rfl

lemma since_concat_of_pos {p : ε → Bool} {x : ε} (h : p x = true) (log : List ε) :
    since p (log ++ [x]) = [] := by simp [since, h]

lemma since_concat_of_neg {p : ε → Bool} {x : ε} (h : p x = false) (log : List ε) :
    since p (log ++ [x]) = since p log ++ [x] := by simp [since, h]

/-- Entries that do not end anything only add to what is going on. -/
lemma since_append_of_neg {p : ε → Bool} {xs : List ε} (h : ∀ x ∈ xs, p x = false)
    (log : List ε) : since p (log ++ xs) = since p log ++ xs := by
  induction xs generalizing log with
  | nil => simp
  | cons x xs ih =>
    have hx := since_concat_of_neg (h x List.mem_cons_self) log
    rw [List.append_cons, ih fun y hy => h y (List.mem_cons_of_mem _ hy), hx, List.append_assoc,
      List.singleton_append]

/-- What is going on after some more entries began there, or was going on before and none of them
ended it. -/
lemma mem_since_append {p : ε → Bool} {log xs : List ε} {x : ε} (h : x ∈ since p (log ++ xs)) :
    x ∈ since p xs ∨ x ∈ since p log ∧ ∀ y ∈ xs, p y = false := by
  induction xs using List.reverseRecOn with
  | nil => exact Or.inr ⟨by simpa using h, by simp⟩
  | append_singleton xs y ih =>
    rw [← List.append_assoc] at h
    by_cases hy : p y = true
    · rw [since_concat_of_pos hy] at h
      cases h
    · have hneg : p y = false := by simpa using hy
      rw [since_concat_of_neg hneg, List.mem_append, List.mem_singleton] at h
      rw [since_concat_of_neg hneg, List.mem_append, List.mem_singleton]
      obtain h | rfl := h
      · refine (ih h).imp Or.inl fun ⟨hmem, hxs⟩ => ⟨hmem, ?_⟩
        intro z hz
        obtain hz | hz := List.mem_append.mp hz
        · exact hxs z hz
        · rwa [List.mem_singleton.mp hz]
      · exact Or.inl (Or.inr rfl)

/-- The latest stretch that `opens` begins and `closes` has not ended. -/
def current (opens closes : ε → Bool) (log : List ε) : List ε :=
  (since closes log).dropWhile fun x => !opens x

section Current

variable {opens closes : ε → Bool} {x : ε} {log : List ε}

@[simp] lemma current_nil (opens closes : ε → Bool) : current opens closes ([] : List ε) = [] := rfl

lemma current_of_closes (h : closes x = true) (log : List ε) :
    current opens closes (log ++ [x]) = [] := by
  rw [current, since_concat_of_pos h, List.dropWhile_nil]

/-- A stretch begins. -/
lemma current_of_opens (hc : closes x = false) (ho : opens x = true)
    (h : current opens closes log = []) : current opens closes (log ++ [x]) = [x] := by
  rw [current] at h ⊢
  rw [since_concat_of_neg hc, List.dropWhile_append, h]
  simp [ho]

/-- Something happens while no stretch is open. -/
lemma current_of_neither (hc : closes x = false) (ho : opens x = false)
    (h : current opens closes log = []) : current opens closes (log ++ [x]) = [] := by
  rw [current] at h ⊢
  rw [since_concat_of_neg hc, List.dropWhile_append, h]
  simp [ho]

/-- Something happens in the open stretch. -/
lemma current_of_open (hc : closes x = false) (h : current opens closes log ≠ []) :
    current opens closes (log ++ [x]) = current opens closes log ++ [x] := by
  rw [current] at h ⊢
  rw [since_concat_of_neg hc, List.dropWhile_append, if_neg]
  · rfl
  · simpa using h

end Current

/-! ### Tables that follow a history -/

section Ledger

variable {κ β : Type*} {opens closes : κ → ε → Bool} {D : κ → List ε → β → Prop}

/-- The table has an entry for the keys with an open stretch, and the entry describes it. -/
def Ledger (opens closes : κ → ε → Bool) (D : κ → List ε → β → Prop) (table : κ → Option β)
    (log : List ε) : Prop :=
  ∀ k, match table k with
    | none   => current (opens k) (closes k) log = []
    | some v => current (opens k) (closes k) log ≠ [] ∧ D k (current (opens k) (closes k) log) v

lemma ledger_nil : Ledger opens closes D (fun _ => none) [] := fun _ => rfl

variable {table table' : κ → Option β} {log : List ε} {x : ε}

lemma Ledger.of_none (h : Ledger opens closes D table log) {k : κ} (hk : table k = none) :
    current (opens k) (closes k) log = [] := by
  have := h k
  rwa [hk] at this

lemma Ledger.of_some (h : Ledger opens closes D table log) {k : κ} {v : β} (hk : table k = some v) :
    current (opens k) (closes k) log ≠ [] ∧ D k (current (opens k) (closes k) log) v := by
  have := h k
  rwa [hk] at this

/-- One more entry of the history: the table drops what is closed, adds what is opened, and changes
what was open so that it describes the longer stretch. -/
theorem Ledger.concat (h : Ledger opens closes D table log)
    (hclose : ∀ k, closes k x = true → table' k = none)
    (hopen : ∀ k, closes k x = false → opens k x = true → table k = none →
      ∃ v, table' k = some v ∧ D k [x] v)
    (hidle : ∀ k, closes k x = false → opens k x = false → table k = none → table' k = none)
    (hkeep : ∀ k v, closes k x = false → table k = some v →
      ∃ v', table' k = some v' ∧ ∀ st, D k st v → D k (st ++ [x]) v') :
    Ledger opens closes D table' (log ++ [x]) := by
  intro k
  rcases hc : closes k x with _ | _
  · rcases hk : table k with _ | v
    · have hnone := h.of_none hk
      rcases ho : opens k x with _ | _
      · rw [hidle k hc ho hk]
        exact current_of_neither hc ho hnone
      · obtain ⟨v, hv, hD⟩ := hopen k hc ho hk
        rw [hv, current_of_opens hc ho hnone]
        exact ⟨List.cons_ne_nil _ _, hD⟩
    · obtain ⟨hne, hD⟩ := h.of_some hk
      obtain ⟨v', hv', hnext⟩ := hkeep k v hc hk
      rw [hv', current_of_open hc hne]
      exact ⟨by simp, hnext _ hD⟩
  · rw [hclose k hc]
    exact current_of_closes hc log

/-- The entry of the history closes the stretch of `k`, and the table drops it. -/
lemma Ledger.closed (h : Ledger opens closes D table log) {k : κ}
    (hcloses : ∀ j, closes j x = true ↔ j = k) (hopens : ∀ j, opens j x = false)
    (hself : table' k = none) (hother : ∀ j, j ≠ k → table' j = table j)
    (hD : ∀ j st v, D j st v → D j (st ++ [x]) v) :
    Ledger opens closes D table' (log ++ [x]) := by
  have hne : ∀ j, closes j x = false → j ≠ k := by
    rintro j hj rfl
    rw [(hcloses j).mpr rfl] at hj
    cases hj
  apply h.concat
  · intro j hj
    rw [(hcloses j).mp hj, hself]
  · intro j _ ho
    rw [hopens j] at ho
    cases ho
  · intro j hj _ hnone
    rw [hother j (hne j hj), hnone]
  · intro j v hj hv
    exact ⟨v, by rw [hother j (hne j hj), hv], fun st => hD j st v⟩

/-- The entry of the history opens the stretch of `k`, and the table has a new entry for it if it
had none. -/
lemma Ledger.opened (h : Ledger opens closes D table log) {k : κ} {w : β}
    (hcloses : ∀ j, closes j x = false) (hopens : ∀ j, opens j x = true ↔ j = k)
    (hself : table' k = some ((table k).getD w)) (hother : ∀ j, j ≠ k → table' j = table j)
    (hnew : D k [x] w) (hD : ∀ j st v, D j st v → D j (st ++ [x]) v) :
    Ledger opens closes D table' (log ++ [x]) := by
  apply h.concat
  · intro j hj
    rw [hcloses j] at hj
    cases hj
  · intro j _ ho hnone
    obtain rfl := (hopens j).mp ho
    exact ⟨w, by rw [hself, hnone, Option.getD_none], hnew⟩
  · intro j _ ho hnone
    have hne : j ≠ k := by
      rintro rfl
      rw [(hopens j).mpr rfl] at ho
      cases ho
    rw [hother j hne, hnone]
  · intro j v _ hv
    refine ⟨v, ?_, fun st => hD j st v⟩
    by_cases hj : j = k
    · rw [hj, hself, ← hj, hv, Option.getD_some]
    · rw [hother j hj, hv]

/-- The entry of the history opens and closes nothing, and the table changes its entry for `k`. -/
lemma Ledger.changed (h : Ledger opens closes D table log) {k : κ} {g : β → β}
    (hcloses : ∀ j, closes j x = false) (hopens : ∀ j, opens j x = false)
    (hself : table' k = (table k).map g) (hother : ∀ j, j ≠ k → table' j = table j)
    (hk : ∀ st v, D k st v → D k (st ++ [x]) (g v))
    (hD : ∀ j st v, j ≠ k → D j st v → D j (st ++ [x]) v) :
    Ledger opens closes D table' (log ++ [x]) := by
  apply h.concat
  · intro j hj
    rw [hcloses j] at hj
    cases hj
  · intro j _ ho
    rw [hopens j] at ho
    cases ho
  · intro j _ _ hnone
    by_cases hj : j = k
    · rw [hj, hself, ← hj, hnone, Option.map_none]
    · rw [hother j hj, hnone]
  · intro j v _ hv
    by_cases hj : j = k
    · subst hj
      exact ⟨g v, by rw [hself, hv, Option.map_some], fun st => hk st v⟩
    · exact ⟨v, by rw [hother j hj, hv], fun st => hD j st v hj⟩

/-- The entry of the history opens and closes nothing, and the table stays. -/
lemma Ledger.kept (h : Ledger opens closes D table log) (hcloses : ∀ j, closes j x = false)
    (hopens : ∀ j, opens j x = false) (hD : ∀ j st v, D j st v → D j (st ++ [x]) v) :
    Ledger opens closes D table (log ++ [x]) := by
  apply h.concat
  · intro j hj
    rw [hcloses j] at hj
    cases hj
  · intro j _ ho
    rw [hopens j] at ho
    cases ho
  · intro j _ _ hnone
    exact hnone
  · intro j v _ hv
    exact ⟨v, hv, fun st => hD j st v⟩

end Ledger

lemma mem_of_mem_since {p : ε → Bool} {log : List ε} {x : ε} (h : x ∈ since p log) : x ∈ log :=
  List.mem_reverse.mp ((List.takeWhile_sublist _).subset (List.mem_reverse.mp h))

end Transition
