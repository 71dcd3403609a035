import OnPremPbx.Text.Places

/-!
# Members in the order of their names

An object as a map that is ordered by the names: assigning a value to a name replaces the value that
is there, or puts a new member in its place.
-/

namespace Json

/-! ### Ordered lists -/

section

variable {V : Type} {key : List UInt8} {v : V} {m : List UInt8 × V} {ms : List (List UInt8 × V)}

/-- The members with a value for a name. -/
def put (key : List UInt8) (v : V) : List (List UInt8 × V) → List (List UInt8 × V)
  | []      => [(key, v)]
  | m :: ms =>
    if key = m.1 then (key, v) :: ms
    else if key < m.1 then (key, v) :: m :: ms
    else m :: put key v ms

lemma mem_put_self : (key, v) ∈ put key v ms := by
  induction ms with
  | nil => exact List.mem_singleton_self _
  | cons n ms ih =>
    rw [put]
    split_ifs
    · exact List.mem_cons_self
    · exact List.mem_cons_self
    · exact List.mem_cons_of_mem _ ih

lemma mem_of_mem_put (h : m ∈ put key v ms) : m = (key, v) ∨ m ∈ ms := by
  induction ms with
  | nil => exact .inl (List.mem_singleton.mp h)
  | cons n ms ih =>
    rw [put] at h
    split_ifs at h
    · exact (List.mem_cons.mp h).imp_right (List.mem_cons_of_mem _)
    · exact List.mem_cons.mp h
    · rcases List.mem_cons.mp h with rfl | h
      · exact .inr List.mem_cons_self
      · exact (ih h).imp_right (List.mem_cons_of_mem _)

lemma mem_put_of_ne (hne : m.1 ≠ key) (h : m ∈ ms) : m ∈ put key v ms := by
  induction ms with
  | nil => cases h
  | cons n ms ih =>
    rw [put]
    split_ifs with heq
    · rcases List.mem_cons.mp h with rfl | h
      · exact absurd heq.symm hne
      · exact List.mem_cons_of_mem _ h
    · exact List.mem_cons_of_mem _ h
    · rcases List.mem_cons.mp h with rfl | h
      · exact List.mem_cons_self
      · exact List.mem_cons_of_mem _ (ih h)

lemma nodup_of_sorted {names : List (List UInt8)} (h : names.Pairwise (· < ·)) : names.Nodup := by
  refine h.imp ?_
  rintro a _ hlt rfl
  exact List.lt_irrefl a hlt

/-- The names stay in their order. -/
lemma sorted_put (h : (ms.map (·.1)).Pairwise (· < ·)) :
    ((put key v ms).map (·.1)).Pairwise (· < ·) := by
  induction ms with
  | nil => exact List.pairwise_singleton _ _
  | cons n ms ih =>
    rw [List.map_cons, List.pairwise_cons, List.forall_mem_map] at h
    obtain ⟨hfirst, hrest⟩ := h
    rw [put]
    split_ifs with heq hlt
    · rw [List.map_cons, List.pairwise_cons, List.forall_mem_map]
      exact ⟨fun m hm => heq ▸ hfirst m hm, hrest⟩
    · rw [List.map_cons, List.map_cons, List.pairwise_cons, List.pairwise_cons,
        List.forall_mem_map, List.forall_mem_cons, List.forall_mem_map]
      exact ⟨⟨hlt, fun m hm => List.lt_trans hlt (hfirst m hm)⟩, hfirst, hrest⟩
    · rw [List.map_cons, List.pairwise_cons, List.forall_mem_map]
      refine ⟨fun m hm => ?_, ih hrest⟩
      rcases mem_of_mem_put hm with rfl | hm
      · exact (Std.Trichotomous.rel_or_eq_or_rel_swap.resolve_left hlt).resolve_left heq
      · exact hfirst m hm

end

/-! ### Objects -/

/-- `operator[]` with an assignment, on an object. -/
def assign (j : Json) (key : List UInt8) (v : Json) : Json :=
  match j with
  | .object ms => .object (put key v ms)
  | j          => j

variable {key key' : List UInt8} {v : Json} {ms : List (List UInt8 × Json)}

lemma field_eq_some_iff (hnodup : (ms.map (·.1)).Nodup) :
    (object ms).field key = some v ↔ (key, v) ∈ ms :=
  ⟨mem_of_field, fun h => field_of_mem hnodup h⟩

lemma field_assign_self (hnodup : ((put key v ms).map (·.1)).Nodup) :
    ((object ms).assign key v).field key = some v :=
  (field_eq_some_iff hnodup).mpr mem_put_self

lemma field_assign_of_ne (hms : (ms.map (·.1)).Nodup) (hnodup : ((put key v ms).map (·.1)).Nodup)
    (hne : key' ≠ key) : ((object ms).assign key v).field key' = (object ms).field key' := by
  ext w
  rw [assign, field_eq_some_iff hnodup, field_eq_some_iff hms]
  refine ⟨fun h => ?_, mem_put_of_ne hne⟩
  rcases mem_of_mem_put h with h | h
  · exact absurd (Prod.ext_iff.mp h).1 hne
  · exact h

lemma all_assign {p : Node → Bool} (hms : (object ms).all p = true) (hv : v.all p = true)
    (hnames : p (.object ((put key v ms).map (·.1))) = true) :
    ((object ms).assign key v).all p = true := by
  rw [assign, all_object]
  refine ⟨hnames, fun m hm => ?_⟩
  rcases mem_of_mem_put hm with rfl | hm
  · exact hv
  · exact (all_object.mp hms).2 m hm

end Json
