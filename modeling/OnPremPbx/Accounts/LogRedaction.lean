import OnPremPbx.Text.Dump
import OnPremPbx.Text.Places
import OnPremPbx.Tunnel.SipFrame

/-!
# Secrets in the log

`redact_for_log` (`webservice.cpp`), through which the body of a request goes into the log. A body
that the JSON library reads is logged without the strings under the names of secrets; one that it
does not read is logged as it is.
-/

open Json

namespace MicroService

def kSecretKeys : List Bytes :=
  ["password", "accountPassword", "newPassword", "currentPassword", "passwordHash"].map
    Bytes.ofString

/-- What stands in the log for a secret. -/
def stars : Bytes := Bytes.ofString "***"

def isString : Json → Bool
  | .string _ => true
  | _         => false

mutual

/-- The walk through the tree. -/
def walk : Json → Json
  | .object ms => .object (walkMembers ms)
  | .array es  => .array (walkElems es)
  | j          => j

def walkMembers : List (Bytes × Json) → List (Bytes × Json)
  | []           => []
  | (k, v) :: ms =>
    (k, if k ∈ kSecretKeys ∧ isString v then .string stars else walk v) :: walkMembers ms

def walkElems : List Json → List Json
  | []      => []
  | e :: es => walk e :: walkElems es

end

/-- The JSON library: how it reads and writes, and the nodes that its values have. -/
structure JsonLibrary where
  parse : Bytes → Option Json
  dump : Json → Option Bytes
  isNode : Node → Bool

/-- `redact_for_log`, with `none` where it throws. -/
def redactForLog (lib : JsonLibrary) (content : Bytes) : Option Bytes :=
  match lib.parse content with
  | none      => some content
  | some body => lib.dump (walk body)

/-! ### What is hidden -/

/-- The path goes through a member with the name of a secret last. -/
def IsSecret (path : List Step) : Prop := ∃ k ∈ kSecretKeys, path.getLast? = some (.member k)

instance (path : List Step) : Decidable (IsSecret path) :=
  inferInstanceAs (Decidable (∃ k ∈ kSecretKeys, _))

/-- A node with stars for a secret. -/
def masked (path : List Step) : Node → Node
  | .string s => .string (if IsSecret path then stars else s)
  | n         => n

/-- What may be seen of the value at a path. -/
def visible (j : Json) (path : List Step) : Option Node :=
  (j.follow path).map fun v => masked path v.node

/-! ### The walk -/

/-- The value of a member after the walk. -/
def walkValue (k : Bytes) (v : Json) : Json :=
  if k ∈ kSecretKeys ∧ isString v then .string stars else walk v

lemma walkMembers_eq (ms : List (Bytes × Json)) :
    walkMembers ms = ms.map fun m => (m.1, walkValue m.1 m.2) := by
  induction ms with
  | nil => rw [walkMembers, List.map_nil]
  | cons m ms ih => rw [walkMembers, ih, List.map_cons, walkValue]

lemma walkElems_eq (es : List Json) : walkElems es = es.map walk := by
  induction es with
  | nil => rw [walkElems, List.map_nil]
  | cons e es ih => rw [walkElems, ih, List.map_cons]

/-- The value has the same shape afterwards. -/
lemma node_walk (j : Json) : (walk j).node = j.node := by
  cases j with
  | array es => simp [walk, node, walkElems_eq]
  | object ms => simp [walk, node, walkMembers_eq]
  | _ => simp [walk]

lemma field_walkMembers (ms : List (Bytes × Json)) (k : Bytes) :
    (Json.object (walkMembers ms)).field k =
      ((Json.object ms).field k).map fun v => walkValue k v := by
  have hnames : (fun m : Bytes × Json => m.1 == k) ∘
      (fun m : Bytes × Json => (m.1, walkValue m.1 m.2)) = fun m => m.1 == k := rfl
  rw [walkMembers_eq, field, field, ← List.map_reverse, List.find?_map, hnames]
  cases hfind : ms.reverse.find? fun m => m.1 == k with
  | none => rfl
  | some m =>
    have hname : m.1 = k := by simpa using List.find?_some hfind
    rw [← hname]
    rfl

lemma step_walk_member (j : Json) (k : Bytes) :
    (walk j).step (.member k) = (j.step (.member k)).map fun v => walkValue k v := by
  cases j with
  | object ms =>
    rw [walk]
    exact field_walkMembers ms k
  | array es =>
    rw [walk]
    rfl
  | _ => rfl

lemma step_walk_elem (j : Json) (i : ℕ) :
    (walk j).step (.elem i) = (j.step (.elem i)).map walk := by
  cases j with
  | array es =>
    rw [walk, step, step, walkElems_eq, List.getElem?_map]
  | object ms =>
    rw [walk]
    rfl
  | _ => rfl

lemma isSecret_nil : ¬ IsSecret [] := by
  rintro ⟨k, -, h⟩
  cases h

lemma isSecret_cons_cons (s t : Step) (path : List Step) :
    IsSecret (s :: t :: path) ↔ IsSecret (t :: path) := by
  rw [IsSecret, IsSecret, List.getLast?_cons_cons]

lemma isSecret_elem (i : ℕ) : ¬ IsSecret [.elem i] := by
  rintro ⟨k, -, h⟩
  cases h

lemma isSecret_member (k : Bytes) : IsSecret [.member k] ↔ k ∈ kSecretKeys := by
  constructor
  · rintro ⟨k', hk', h⟩
    cases h
    exact hk'
  · exact fun hk => ⟨k, hk, rfl⟩

lemma masked_of_not {path : List Step} (h : ¬ IsSecret path) (n : Node) : masked path n = n := by
  cases n with
  | string s => rw [masked, if_neg h]
  | _ => rfl

lemma masked_cons_cons (s t : Step) (path : List Step) (n : Node) :
    masked (s :: t :: path) n = masked (t :: path) n := by
  cases n with
  | string s => simp only [masked, isSecret_cons_cons]
  | _ => rfl

/-- There is nothing inside a string. -/
lemma follow_string (s : Bytes) (t : Step) (path : List Step) :
    (Json.string s).follow (t :: path) = none := rfl

/-- The walk at a member that is a secret itself, and at one that is walked through. -/
lemma walkValue_cases (k : Bytes) (v : Json) :
    (k ∈ kSecretKeys ∧ ∃ s, v = .string s ∧ walkValue k v = .string stars) ∨
      walkValue k v = walk v ∧ masked [.member k] v.node = v.node := by
  by_cases hk : k ∈ kSecretKeys
  · cases v with
    | string s => exact Or.inl ⟨hk, s, rfl, if_pos ⟨hk, rfl⟩⟩
    | _ => exact Or.inr ⟨if_neg fun h => absurd h.2 Bool.false_ne_true, rfl⟩
  · exact Or.inr ⟨if_neg fun h => hk h.1, masked_of_not (mt (isSecret_member k).mp hk) _⟩

/-- At every place stands what may be seen of the value there. -/
theorem node_follow_walk (path : List Step) (j : Json) :
    ((walk j).follow path).map node = visible j path := by
  induction path generalizing j with
  | nil =>
    rw [visible, follow_nil, follow_nil, Option.map_some, Option.map_some, node_walk,
      masked_of_not isSecret_nil]
  | cons s path ih =>
    rw [visible, follow_cons, follow_cons]
    cases s with
    | elem i =>
      rw [step_walk_elem]
      cases j.step (.elem i) with
      | none => rfl
      | some v =>
        rw [Option.map_some, Option.bind_some, Option.bind_some, ih, visible]
        cases path with
        | nil => rw [follow_nil, Option.map_some, Option.map_some, masked_of_not isSecret_nil,
            masked_of_not (isSecret_elem i)]
        | cons t path => simp only [masked_cons_cons]
    | member k =>
      rw [step_walk_member]
      cases j.step (.member k) with
      | none => rfl
      | some v =>
        rw [Option.map_some, Option.bind_some, Option.bind_some]
        rcases walkValue_cases k v with ⟨hk, s, rfl, hvalue⟩ | ⟨hvalue, hnode⟩
        · rw [hvalue]
          cases path with
          | nil =>
            rw [follow_nil, follow_nil, Option.map_some, Option.map_some, node, node, masked,
              if_pos ((isSecret_member k).mpr hk)]
          | cons t path => rw [follow_string, follow_string, Option.map_none, Option.map_none]
        · rw [hvalue, ih, visible]
          cases path with
          | nil => rw [follow_nil, Option.map_some, Option.map_some, hnode,
              masked_of_not isSecret_nil]
          | cons t path => simp only [masked_cons_cons]

/-! ### The log -/

/-- The values of the library have names that differ and texts of any kind, and what it writes is
read again. -/
structure JsonLibrary.Lawful (lib : JsonLibrary) : Prop where
  nodup : ∀ names, lib.isNode (.object names) = true → names.Nodup
  string : ∀ s, Utf8.Valid s → lib.isNode (.string s) = true
  parse : ∀ s j, lib.parse s = some j → j.all lib.isNode = true
  dump : ∀ j, j.all lib.isNode = true →
    ∃ text, lib.dump j = some text ∧ lib.parse text = some j

variable {lib : JsonLibrary}

lemma valid_stars : Utf8.Valid stars := by decide

/-- The walk goes from a value of the library to another one. -/
lemma all_walk {p : Node → Bool} (hstars : p (.string stars) = true) (j : Json)
    (h : j.all p = true) : (walk j).all p = true := by
  match j with
  | .array es =>
    obtain ⟨hnode, hes⟩ := all_array.mp h
    rw [walk, all_array, walkElems_eq, List.length_map]
    refine ⟨hnode, List.forall_mem_map.mpr fun e he => ?_⟩
    exact all_walk hstars e (hes e he)
  | .object ms =>
    obtain ⟨hnode, hms⟩ := all_object.mp h
    rw [walk, all_object, walkMembers_eq, List.map_map]
    refine ⟨hnode, List.forall_mem_map.mpr fun m hm => ?_⟩
    rcases walkValue_cases m.1 m.2 with ⟨-, s, -, hvalue⟩ | ⟨hvalue, -⟩
    · rw [hvalue]
      exact hstars
    · rw [hvalue]
      exact all_walk hstars m.2 (hms m hm)
  | .null => exact h
  | .bool b => exact h
  | .number t => exact h
  | .string s => exact h
termination_by sizeOf j
decreasing_by
  · have := List.sizeOf_lt_of_mem he
    simp only [array.sizeOf_spec]
    omega
  · have := List.sizeOf_lt_of_mem hm
    obtain ⟨k, v⟩ := m
    simp only [object.sizeOf_spec, Prod.mk.sizeOf_spec] at this ⊢
    omega

lemma JsonLibrary.Lawful.all_walk (hlib : lib.Lawful) {content : Bytes} {j : Json}
    (hj : lib.parse content = some j) : (walk j).all lib.isNode = true :=
  MicroService.all_walk (hlib.string stars valid_stars) j (hlib.parse content j hj)

lemma redactForLog_eq {content : Bytes} {j : Json} (hj : lib.parse content = some j) :
    redactForLog lib content = lib.dump (walk j) := by
  rw [redactForLog, hj]

lemma redactForLog_reads (hlib : lib.Lawful) {content : Bytes} {j : Json}
    (hj : lib.parse content = some j) : ∃ text j', redactForLog lib content = some text ∧
      lib.parse text = some j' ∧ ∀ path, (j'.follow path).map node = visible j path := by
  obtain ⟨text, hdump, hparse⟩ := hlib.dump (walk j) (hlib.all_walk hj)
  refine ⟨text, walk j, ?_, hparse, fun path => node_follow_walk path j⟩
  rw [redactForLog_eq hj, hdump]

/-- The log shows nothing but what may be seen. -/
lemma redactForLog_congr (hlib : lib.Lawful) {content₁ content₂ : Bytes} {j₁ j₂ : Json}
    (hj₁ : lib.parse content₁ = some j₁) (hj₂ : lib.parse content₂ = some j₂)
    (h : ∀ path, visible j₁ path = visible j₂ path) :
    redactForLog lib content₁ = redactForLog lib content₂ := by
  have hsame : SameNodes (walk j₁) (walk j₂) := by
    intro path
    rw [node_follow_walk, node_follow_walk, h]
  rw [redactForLog_eq hj₁, redactForLog_eq hj₂,
    hsame.eq hlib.nodup (hlib.all_walk hj₁) (hlib.all_walk hj₂)]

/-- A body that the library reads is logged in its shape, with stars for the secrets in it and
everything else, and with nothing that depends on the secrets. -/
theorem redactForLog_exact (hlib : lib.Lawful) :
    (∀ content j, lib.parse content = some j → ∃ text j', redactForLog lib content = some text ∧
      lib.parse text = some j' ∧ ∀ path, (j'.follow path).map node = visible j path) ∧
    (∀ content₁ content₂ j₁ j₂, lib.parse content₁ = some j₁ → lib.parse content₂ = some j₂ →
      (∀ path, visible j₁ path = visible j₂ path) →
      redactForLog lib content₁ = redactForLog lib content₂) ∧
    ∀ content, lib.parse content = none → redactForLog lib content = some content := by
  refine ⟨fun _ _ => redactForLog_reads hlib, fun _ _ _ _ => redactForLog_congr hlib, ?_⟩
  intro content hnone
  rw [redactForLog, hnone]

/-! ### A number that is too large -/

/-- The number may be in the range of `double`: the exponent has no third digit. -/
def inRange (t : Bytes) : Bool := decide ((t.dropWhile fun c => c ≠ 0x65 ∧ c ≠ 0x45).length < 4)

def plainNode : Node → Bool
  | .number t     => isNumber t && inRange t
  | .string s     => decide (Utf8.Valid s)
  | .object names => decide names.Nodup && names.all fun k => decide (Utf8.Valid k)
  | _             => true

/-- A library that reads a document if the names in each object differ and the numbers are in
range. -/
def plainLibrary : JsonLibrary where
  parse s := (Json.parse s).filter fun j => j.all plainNode
  dump := Json.dumped
  isNode := plainNode

lemma plainLibrary_parse (s : Bytes) :
    plainLibrary.parse s = (Json.parse s).filter fun j => j.all plainNode := rfl

lemma writableElems_iff {es : List Json} :
    writableElems es = true ↔ ∀ e ∈ es, e.writable = true := by
  induction es with
  | nil => simp [writableElems]
  | cons e es ih => simp [writableElems, ih]

lemma writableMembers_iff {ms : List (Bytes × Json)} :
    writableMembers ms = true ↔ ∀ m ∈ ms, Utf8.Valid m.1 ∧ m.2.writable = true := by
  induction ms with
  | nil => simp [writableMembers]
  | cons m ms ih => simp [writableMembers, ih]

lemma writable_of_all (j : Json) (h : j.all plainNode = true) : j.writable = true := by
  match j with
  | .array es =>
    rw [writable, writableElems_iff]
    intro e he
    exact writable_of_all e ((all_array.mp h).2 e he)
  | .object ms =>
    obtain ⟨hnode, hms⟩ := all_object.mp h
    rw [plainNode, Bool.and_eq_true, List.all_eq_true] at hnode
    rw [writable, writableMembers_iff]
    intro m hm
    have hname := hnode.2 m.1 (List.mem_map_of_mem hm)
    exact ⟨of_decide_eq_true hname, writable_of_all m.2 (hms m hm)⟩
  | .null => rfl
  | .bool b => rfl
  | .number t =>
    have hnode : (isNumber t && inRange t) = true := h
    rw [Bool.and_eq_true] at hnode
    exact hnode.1
  | .string s => exact h
termination_by sizeOf j
decreasing_by
  · have := List.sizeOf_lt_of_mem he
    simp only [array.sizeOf_spec]
    omega
  · have := List.sizeOf_lt_of_mem hm
    obtain ⟨k, v⟩ := m
    simp only [object.sizeOf_spec, Prod.mk.sizeOf_spec] at this ⊢
    omega

lemma plainLibrary_lawful : plainLibrary.Lawful where
  nodup names h := by
    have hnode : (decide names.Nodup && names.all fun k => decide (Utf8.Valid k)) = true := h
    rw [Bool.and_eq_true] at hnode
    exact of_decide_eq_true hnode.1
  string s h := decide_eq_true h
  parse s j h := (Option.filter_eq_some_iff.mp h).2
  dump j h := by
    have hwritable := writable_of_all j h
    refine ⟨j.dump, if_pos hwritable, ?_⟩
    exact Option.filter_eq_some_iff.mpr ⟨parse_dump hwritable, h⟩

theorem redactForLog_exact_plainLibrary :
    (∀ content j, plainLibrary.parse content = some j →
      ∃ text j', redactForLog plainLibrary content = some text ∧
        plainLibrary.parse text = some j' ∧ ∀ path, (j'.follow path).map node = visible j path) ∧
    (∀ content₁ content₂ j₁ j₂, plainLibrary.parse content₁ = some j₁ →
      plainLibrary.parse content₂ = some j₂ → (∀ path, visible j₁ path = visible j₂ path) →
      redactForLog plainLibrary content₁ = redactForLog plainLibrary content₂) ∧
    ∀ content, plainLibrary.parse content = none →
      redactForLog plainLibrary content = some content :=
  redactForLog_exact plainLibrary_lawful

/-- A login with a number that is no `double`. -/
def largeNumber : Json :=
  .object [(Bytes.ofString "accountPassword", .string (Bytes.ofString "x")),
    (Bytes.ofString "n", .number (Bytes.ofString "1e999"))]

/-- The password in a document that the library does not read is in the log. -/
theorem large_number_logged :
    ¬ ∀ content j, Json.parse content = some j →
      ∃ text j', redactForLog plainLibrary content = some text ∧ Json.parse text = some j' ∧
        ∀ path, (j'.follow path).map node = visible j path := by
  intro h
  have hparse : Json.parse largeNumber.dump = some largeNumber := parse_dump (by decide)
  have hnone : plainLibrary.parse largeNumber.dump = none := by
    rw [plainLibrary_parse, hparse, Option.filter_some, if_neg (by decide)]
  obtain ⟨text, j', htext, hj', hpath⟩ := h largeNumber.dump largeNumber hparse
  rw [redactForLog, hnone, Option.some.injEq] at htext
  rw [← htext, hparse, Option.some.injEq] at hj'
  rw [← hj'] at hpath
  exact absurd (hpath [.member (Bytes.ofString "accountPassword")]) (by decide)

end MicroService
