import OnPremPbx.Text.Json

/-!
# Updates of documents

`$set` and `$unset` of a document store, whose names are paths with dots. A path that is set is made
where it is not there, and goes through objects alone. Of updates that set the same paths only the
last one counts.
-/

namespace Json

/-! ### Members -/

/-- The members with a value for a name, which keeps its place. -/
def setMember (key : List UInt8) (v : Json) (ms : List (List UInt8 × Json)) :
    List (List UInt8 × Json) :=
  if ms.any fun m => m.1 == key then ms.map fun m => if m.1 == key then (key, v) else m
  else ms ++ [(key, v)]

section

variable {key key' : List UInt8} {v w : Json} {ms : List (List UInt8 × Json)}

lemma setMember_of_any (h : (ms.any fun m => m.1 == key) = true) :
    setMember key v ms = ms.map fun m => if m.1 == key then (key, v) else m := if_pos h

lemma setMember_of_not_any (h : ¬ (ms.any fun m => m.1 == key) = true) :
    setMember key v ms = ms ++ [(key, v)] := if_neg h

lemma any_setMember : ((setMember key v ms).any fun m => m.1 == key) = true := by
  by_cases h : (ms.any fun m => m.1 == key) = true
  · rw [setMember_of_any h, List.any_map, List.any_eq_true]
    obtain ⟨m, hm, hkey⟩ := List.any_eq_true.mp h
    refine ⟨m, hm, ?_⟩
    rw [Function.comp_apply, if_pos hkey, beq_self_eq_true]
  · simp [setMember_of_not_any h]

/-- Of two values for a name the last one counts. -/
lemma setMember_setMember : setMember key v (setMember key w ms) = setMember key v ms := by
  rw [setMember_of_any any_setMember]
  by_cases h : (ms.any fun m => m.1 == key) = true
  · rw [setMember_of_any h, setMember_of_any h, List.map_map]
    refine List.map_congr_left fun m _ => ?_
    rw [Function.comp_apply]
    split_ifs <;> simp_all
  · have hne : ∀ m ∈ ms, (if m.1 == key then (key, v) else m) = m := by
      intro m hm
      apply if_neg
      intro hkey
      exact h (List.any_eq_true.mpr ⟨m, hm, hkey⟩)
    rw [setMember_of_not_any h, setMember_of_not_any h, List.map_append, List.map_congr_left hne]
    simp

lemma field_setMember_self : (object (setMember key v ms)).field key = some v := by
  by_cases h : (ms.any fun m => m.1 == key) = true
  · rw [setMember_of_any h, field, ← List.map_reverse, List.find?_map]
    obtain ⟨m, hm, hkey⟩ := List.any_eq_true.mp h
    have hfind : (ms.reverse.find? fun m => m.1 == key).isSome := by
      rw [List.find?_isSome]
      exact ⟨m, List.mem_reverse.mpr hm, hkey⟩
    obtain ⟨m', hm'⟩ := Option.isSome_iff_exists.mp hfind
    have hcomp : ((fun m : List UInt8 × Json => m.1 == key) ∘
        fun m => if m.1 == key then (key, v) else m) = fun m => m.1 == key := by
      funext m
      rw [Function.comp_apply]
      split_ifs <;> simp_all
    have hkey' := List.find?_some hm'
    rw [hcomp, hm', Option.map_some, Option.map_some, if_pos hkey']
  · simp [setMember_of_not_any h, field]

lemma field_setMember_of_ne (hne : key ≠ key') :
    (object (setMember key v ms)).field key' = (object ms).field key' := by
  by_cases h : (ms.any fun m => m.1 == key) = true
  · have hcomp : ((fun m : List UInt8 × Json => m.1 == key') ∘
        fun m => if m.1 == key then (key, v) else m) = fun m => m.1 == key' := by
      funext m
      rw [Function.comp_apply]
      split_ifs <;> simp_all
    rw [setMember_of_any h, field, field, ← List.map_reverse, List.find?_map, hcomp]
    cases hfind : ms.reverse.find? fun m => m.1 == key' with
    | none => rfl
    | some m =>
      have hkey : m.1 = key' := by simpa using List.find?_some hfind
      rw [Option.map_some, Option.map_some, Option.map_some, if_neg]
      simp [hkey, hne.symm]
  · simp [setMember_of_not_any h, field, hne]

/-- A name that is set and another one that is erased do not meet. -/
lemma erase_setMember (hne : key ≠ key') :
    (setMember key v ms).filter (fun m => m.1 != key') =
      setMember key v (ms.filter fun m => m.1 != key') := by
  have hany : ((ms.filter fun m => m.1 != key').any fun m => m.1 == key) =
      ms.any fun m => m.1 == key := by
    rw [List.any_filter]
    congr 1
    funext m
    by_cases hm : m.1 = key <;> simp [hm, hne]
  by_cases h : (ms.any fun m => m.1 == key) = true
  · rw [setMember_of_any h, setMember_of_any (hany.trans h), List.filter_map]
    congr 2
    funext m
    rw [Function.comp_apply]
    split_ifs <;> simp_all
  · rw [setMember_of_not_any h, setMember_of_not_any (hany ▸ h), List.filter_append]
    simp [hne]

end

/-! ### Paths -/

/-- The value with another one at a path, unless the path goes through something that is no
object. -/
def setAt : List (List UInt8) → Json → Json → Option Json
  | [], v, _                   => some v
  | key :: path, v, .object ms =>
    (setAt path v (((object ms).field key).getD (.object []))).map fun v =>
      .object (setMember key v ms)
  | _ :: _, _, _               => none

/-- The value without what is at a path. -/
def unsetAt : List (List UInt8) → Json → Json
  | [], j                   => j
  | [key], j                => j.erase key
  | key :: path, .object ms =>
    match (object ms).field key with
    | some v => .object (setMember key (unsetAt path v) ms)
    | none   => .object ms
  | _ :: _ :: _, j          => j

/-- The members of a part of an update. -/
def partOf (u : Json) (name : List UInt8) : List (List UInt8 × Json) :=
  match u.field name with
  | some (.object ms) => ms
  | _                 => []

/-- The document after an update, with `none` where the update is refused. -/
def updated (u j : Json) : Option Json :=
  ((u.partOf [0x24, 0x73, 0x65, 0x74]).foldlM (fun j m => setAt (m.1.splitOn 0x2E) m.2 j) j).map
    fun j => (u.partOf [0x24, 0x75, 0x6E, 0x73, 0x65, 0x74]).foldl
      (fun j m => unsetAt (m.1.splitOn 0x2E) j) j

end Json

/-! ### The last update -/

section

variable {α β : Type} {sel : β → α → Bool} {app : β → α → α}

/-- If what is made of a value does not depend on what was made before, then only the last one of
those that select it counts. -/
theorem foldl_eq_last (happ : ∀ b b' a, app b' (app b a) = app b' a)
    (hsel : ∀ b b' a, sel b' (app b a) = sel b' a) (bs : List β) (a : α) :
    bs.foldl (fun a b => if sel b a then app b a else a) a =
      ((bs.filter fun b => sel b a).getLast?).elim a fun b => app b a := by
  induction bs generalizing a with
  | nil => rfl
  | cons b bs ih =>
    rw [List.foldl_cons, ih]
    by_cases h : sel b a = true
    · have hfilter : (bs.filter fun b' => sel b' (app b a)) = bs.filter fun b' => sel b' a :=
        List.filter_congr fun b' _ => hsel b b' a
      rw [if_pos h, List.filter_cons_of_pos (p := fun b => sel b a) h, hfilter, List.getLast?_cons]
      cases (bs.filter fun b' => sel b' a).getLast? with
      | none => rfl
      | some b' => exact happ b b' a
    · rw [if_neg h, List.filter_cons_of_neg (p := fun b => sel b a) h]

end
