import OnPremPbx.Text.Json

/-!
# Places in a JSON value

A value is known by what stands at each of its places: two values in which no object has two members
of one name are the same if they show the same nodes.
-/

namespace Json

variable {j v : Json}

/-! ### Places -/

/-- A step from a value to one that is directly in it. -/
inductive Step where
  | member (name : List UInt8)
  | elem (i : ℕ)
  deriving DecidableEq, Repr

def step : Json → Step → Option Json
  | .object ms, .member name => (Json.object ms).field name
  | .array es, .elem i       => es[i]?
  | _, _                     => none

/-- The value at a place. -/
def follow (j : Json) : List Step → Option Json
  | []        => some j
  | s :: path => (j.step s).bind fun v => v.follow path

/-- A value without the values that are in it. -/
inductive Node where
  | null
  | bool (b : Bool)
  | number (text : List UInt8)
  | string (s : List UInt8)
  | array (length : ℕ)
  | object (names : List (List UInt8))
  deriving DecidableEq, Repr

def node : Json → Node
  | .null      => .null
  | .bool b    => .bool b
  | .number t  => .number t
  | .string s  => .string s
  | .array es  => .array es.length
  | .object ms => .object (ms.map (·.1))

@[simp] lemma follow_nil (j : Json) : j.follow [] = some j := rfl

@[simp] lemma follow_cons (j : Json) (s : Step) (path : List Step) :
    j.follow (s :: path) = (j.step s).bind fun v => v.follow path := rfl

/-! ### Nodes -/

mutual

/-- Every node in the value passes the test. -/
def all (p : Node → Bool) : Json → Bool
  | .array es  => p (.array es.length) && allElems p es
  | .object ms => p (.object (ms.map (·.1))) && allMembers p ms
  | j          => p j.node

def allElems (p : Node → Bool) : List Json → Bool
  | []      => true
  | e :: es => e.all p && allElems p es

def allMembers (p : Node → Bool) : List (List UInt8 × Json) → Bool
  | []           => true
  | (_, v) :: ms => v.all p && allMembers p ms

end

variable {p : Node → Bool}

lemma allElems_iff {es : List Json} : allElems p es = true ↔ ∀ e ∈ es, e.all p = true := by
  induction es with
  | nil => simp [allElems]
  | cons e es ih => simp [allElems, ih]

lemma allMembers_iff {ms : List (List UInt8 × Json)} :
    allMembers p ms = true ↔ ∀ m ∈ ms, m.2.all p = true := by
  induction ms with
  | nil => simp [allMembers]
  | cons m ms ih => simp [allMembers, ih]

lemma all_array {es : List Json} :
    (Json.array es).all p = true ↔
      p (.array es.length) = true ∧ ∀ e ∈ es, e.all p = true := by
  rw [all, Bool.and_eq_true, allElems_iff]

lemma all_object {ms : List (List UInt8 × Json)} :
    (Json.object ms).all p = true ↔
      p (.object (ms.map (·.1))) = true ∧ ∀ m ∈ ms, m.2.all p = true := by
  rw [all, Bool.and_eq_true, allMembers_iff]

lemma all_mono {p q : Node → Bool} (h : ∀ n, p n = true → q n = true) (j : Json)
    (hj : j.all p = true) : j.all q = true := by
  match j with
  | .array es =>
    obtain ⟨hnode, hes⟩ := all_array.mp hj
    exact all_array.mpr ⟨h _ hnode, fun e he => all_mono h e (hes e he)⟩
  | .object ms =>
    obtain ⟨hnode, hms⟩ := all_object.mp hj
    exact all_object.mpr ⟨h _ hnode, fun m hm => all_mono h m.2 (hms m hm)⟩
  | .null => exact h _ hj
  | .bool b => exact h _ hj
  | .number t => exact h _ hj
  | .string s => exact h _ hj
termination_by sizeOf j
decreasing_by
  · have := List.sizeOf_lt_of_mem he
    simp only [array.sizeOf_spec]
    omega
  · have := List.sizeOf_lt_of_mem hm
    obtain ⟨k, v⟩ := m
    simp only [object.sizeOf_spec, Prod.mk.sizeOf_spec] at this ⊢
    omega

lemma mem_of_field {ms : List (List UInt8 × Json)} {name : List UInt8}
    (h : (Json.object ms).field name = some v) : (name, v) ∈ ms := by
  rw [field, Option.map_eq_some_iff] at h
  obtain ⟨m, hm, rfl⟩ := h
  have hmem := List.mem_reverse.mp (List.mem_of_find?_eq_some hm)
  have hname : m.1 = name := by simpa using List.find?_some hm
  rw [← hname]
  exact hmem

lemma all_step {s : Step} (h : j.all p = true) (hv : j.step s = some v) : v.all p = true := by
  cases j with
  | array es =>
    cases s with
    | member name => cases hv
    | elem i => exact (all_array.mp h).2 v (List.mem_of_getElem? hv)
  | object ms =>
    cases s with
    | member name => exact (all_object.mp h).2 _ (mem_of_field hv)
    | elem i => cases hv
  | _ => cases hv

/-! ### Equality -/

/-- The members that are found by their names are all there are. -/
lemma field_of_mem {ms : List (List UInt8 × Json)} (hnodup : (ms.map (·.1)).Nodup)
    {m : List UInt8 × Json} (hm : m ∈ ms) : (Json.object ms).field m.1 = some m.2 := by
  have hfound : (ms.reverse.find? fun n => n.1 == m.1) = some m := by
    cases hfind : ms.reverse.find? fun n => n.1 == m.1 with
    | none =>
      have hnot := List.find?_eq_none.mp hfind m (List.mem_reverse.mpr hm)
      exact absurd (beq_self_eq_true m.1) hnot
    | some n =>
      have hn := List.mem_reverse.mp (List.mem_of_find?_eq_some hfind)
      have hname : n.1 = m.1 := by simpa using List.find?_some hfind
      rw [List.inj_on_of_nodup_map hnodup hn hm hname]
  rw [field, hfound]
  rfl

/-- The same nodes at the same places. -/
def SameNodes (a b : Json) : Prop :=
  ∀ path, (a.follow path).map node = (b.follow path).map node

lemma SameNodes.node {a b : Json} (h : SameNodes a b) : a.node = b.node :=
  Option.some.inj (h [])

lemma SameNodes.step {a b a' b' : Json} (h : SameNodes a b) {s : Step} (ha : a.step s = some a')
    (hb : b.step s = some b') : SameNodes a' b' := by
  intro path
  have hpath := h (s :: path)
  rw [follow_cons, follow_cons, ha, hb] at hpath
  exact hpath

lemma members_ext {ms ns : List (List UInt8 × Json)} (hnames : ms.map (·.1) = ns.map (·.1))
    (hnodup : (ms.map (·.1)).Nodup)
    (h : ∀ m ∈ ms, ∀ v, (Json.object ns).field m.1 = some v → m.2 = v) : ms = ns := by
  have hlength : ms.length = ns.length := by
    rw [← List.length_map (f := (·.1)), hnames, List.length_map]
  apply List.ext_getElem hlength
  intro i hi hi'
  have hname : ms[i].1 = ns[i].1 := by
    have hget := List.getElem_of_eq hnames (by rw [List.length_map]; exact hi)
    rw [List.getElem_map, List.getElem_map] at hget
    exact hget
  have hfield := field_of_mem (hnames ▸ hnodup) (List.getElem_mem hi')
  rw [← hname] at hfield
  exact Prod.ext hname (h _ (List.getElem_mem hi) _ hfield)

/-- A value is given by the nodes at its places. -/
theorem SameNodes.eq (hp : ∀ names, p (.object names) = true → names.Nodup) {a b : Json}
    (ha : a.all p = true) (hb : b.all p = true) (h : SameNodes a b) : a = b := by
  have hnode := h.node
  match a with
  | .array es =>
    cases b with
    | array fs =>
      have hlength : es.length = fs.length := by
        rw [Json.node, Json.node] at hnode
        exact Node.array.inj hnode
      congr 1
      apply List.ext_getElem hlength
      intro i hi hi'
      have hes : (Json.array es).step (.elem i) = some es[i] := List.getElem?_eq_getElem hi
      have hfs : (Json.array fs).step (.elem i) = some fs[i] := List.getElem?_eq_getElem hi'
      have hmem : es[i] ∈ es := List.getElem_mem hi
      exact SameNodes.eq hp (all_step ha hes) (all_step hb hfs) (h.step hes hfs)
    | _ => cases hnode
  | .object ms =>
    cases b with
    | object ns =>
      have hnames : ms.map (·.1) = ns.map (·.1) := by
        rw [Json.node, Json.node] at hnode
        exact Node.object.inj hnode
      have hnodup := hp _ (all_object.mp ha).1
      congr 1
      apply members_ext hnames hnodup
      intro m hm v hv
      have hms : (Json.object ms).step (.member m.1) = some m.2 := field_of_mem hnodup hm
      have hns : (Json.object ns).step (.member m.1) = some v := hv
      exact SameNodes.eq hp (all_step ha hms) (all_step hb hns) (h.step hms hns)
    | _ => cases hnode
  | .null => cases b <;> cases hnode; rfl
  | .bool x => cases b <;> cases hnode; rfl
  | .number t => cases b <;> cases hnode; rfl
  | .string s => cases b <;> cases hnode; rfl
termination_by sizeOf a
decreasing_by
  · have := List.sizeOf_lt_of_mem hmem
    simp only [array.sizeOf_spec]
    omega
  · have := List.sizeOf_lt_of_mem hm
    obtain ⟨k, v⟩ := m
    simp only [object.sizeOf_spec, Prod.mk.sizeOf_spec] at this ⊢
    omega

end Json
