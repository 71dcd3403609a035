import OnPremPbx.Pbx.Documents
import OnPremPbx.Pbx.Sessions

/-!
# Stores of documents

What the handlers of societies, subscribers and sessions rely on in the JSON library and in a store
that behaves like `MongodbClient`: a document that is created is found again by its strings, an
update sets fields in the documents that a filter selects, and a deletion removes them.
-/

open Json
open Decimal (ofInt)

namespace MicroServicePbx

/-! ### The JSON library -/

/-- A `long`. -/
def IsLong (n : ℤ) : Prop := -2 ^ 63 ≤ n ∧ n < 2 ^ 63

/-- The library writes what can be written, and reads a `long` as it was written. -/
structure JsonLibrary (dump : Json → Option Bytes) (toLong : Bytes → ℤ) : Prop where
  dump_isSome : ∀ j : Json, (dump j).isSome ↔ j.writable = true
  toLong_ofInt : ∀ n, IsLong n → toLong (ofInt n) = n

/-- A string, a truth value or a whole number. -/
def IsScalar (v : Json) : Prop :=
  (∃ s, v = .string s) ∨ (∃ b, v = .bool b) ∨ ∃ n, IsLong n ∧ v = .number (ofInt n)

/-! ### Stores -/

/-- The collection that an operation may write. -/
def Op.target : Op → Option Bytes
  | .db (.createDocument _ coll _) _     => some coll
  | .db (.createBulkDocument _ coll _) _ => some coll
  | .db (.updateCollection coll _ _) _   => some coll
  | .db (.updateBulkDocument coll _ _) _ => some coll
  | .db (.deleteDocument coll _) _       => some coll
  | .db (.nextAwbno _) _                 => some (Bytes.ofString "counters")
  | _                                    => none

/-- The identifier of a document that was created without one. -/
def objectId (oid : Bytes) : Json := .object [(Bytes.ofString "$oid", .string oid)]

/-- The name of a field, neither an operator nor a path. -/
def IsFieldName (name : Bytes) : Prop := ¬ isOperator name ∧ rootOf name = name

instance (name : Bytes) : Decidable (IsFieldName name) := inferInstanceAs (Decidable (_ ∧ _))

/-- What a store holds, what filters select, and the texts of its documents. -/
structure DocumentStore {σ : Type} (h : Program.Handler Answer σ) where
  docs : σ → Bytes → List Json
  selects : Bytes → Json → Bool
  text : Json → Bytes

/-- The document with fields set to other values. -/
def Sets (ms : List (Bytes × Json)) (d d' : Json) : Prop :=
  ∀ name, d'.field name = ((Json.object ms).field name).or (d.field name)

/-- How the store behaves. -/
structure DocumentStore.Lawful {σ : Type} {h : Program.Handler Answer σ} (st : DocumentStore h)
    (dump : Json → Option Bytes) : Prop where
  /-- an operation leaves the other collections -/
  frame : ∀ o s coll, o.target ≠ some coll → st.docs (h o s).2 coll = st.docs s coll
  /-- a query answers with the first document that its filter selects -/
  getDocument : ∀ {ms query}, dump (.object (strings ms)) = some query → ∀ coll members s,
    h (.db (.getDocument coll query braces) members) s =
      (some (.text (((st.docs s coll).find? (st.selects query)).elim [] st.text)), s)
  parse_text : ∀ s coll, ∀ d ∈ st.docs s coll, parse (st.text d) = some d
  /-- a filter of strings selects the documents that have them -/
  selects_iff : ∀ {ms query}, dump (.object (strings ms)) = some query →
    (∀ m ∈ ms, IsFieldName m.1) → ∀ d, (∀ m ∈ ms, ∀ es, d.field m.1 ≠ some (.array es)) →
      (st.selects query d = true ↔ ∀ m ∈ ms, d.field m.1 = some (.string m.2))
  /-- a document of scalars without an identifier is stored, and gets one -/
  createDocument : ∀ {ms doc}, dump (.object ms) = some doc →
    (∀ m ∈ ms, m.1 ≠ Bytes.ofString "_id" ∧ IsFieldName m.1 ∧ IsScalar m.2) →
    ∀ dbName coll members s, ∃ oid d,
      (h (.db (.createDocument dbName coll doc) members) s).1 = some (.text oid) ∧
      st.docs (h (.db (.createDocument dbName coll doc) members) s).2 coll =
        st.docs s coll ++ [d] ∧
      d.field (Bytes.ofString "_id") = some (objectId oid) ∧
      ∀ name ≠ Bytes.ofString "_id", d.field name = (Json.object ms).field name
  /-- an update sets its fields in the documents that its filter selects -/
  updateCollection : ∀ {ms query sets update}, dump (.object (strings ms)) = some query →
    dump (.object [(Bytes.ofString "$set", .object sets)]) = some update →
    (∀ m ∈ sets, IsFieldName m.1 ∧ IsScalar m.2) → ∀ coll members s, ∃ f : Json → Json,
      (∀ d, Sets sets d (f d)) ∧
      st.docs (h (.db (.updateCollection coll query update) members) s).2 coll =
        (st.docs s coll).map fun d => if st.selects query d then f d else d
  /-- a deletion removes the documents that its filter selects -/
  deleteDocument : ∀ {ms query}, dump (.object (strings ms)) = some query → ∀ coll members s,
    st.docs (h (.db (.deleteDocument coll query) members) s).2 coll =
      (st.docs s coll).filter fun d => !st.selects query d

/-! ### Runs -/

section

variable {σ : Type} {h : Program.Handler Answer σ} {st : DocumentStore h} {env : Env}

lemma run_textOf_of {c : DbCall} {ms : List (Bytes × Bytes)} {s s' : σ} {text : Bytes}
    (hc : h (.db c ms) s = (some (.text text), s')) : (textOf c ms).run h s = (some text, s') := by
  rw [textOf, Program.run_bind, Program.run_perform, hc]
  rfl

/-- The document that a query of strings finds. -/
def DocumentStore.found (st : DocumentStore h) (s : σ) (coll : String) (query : Bytes) :
    Option Json :=
  (st.docs s (Bytes.ofString coll)).find? (st.selects query)

/-- The filter is one that the library wrote. -/
def Filter.Dumped (env : Env) (query : Filter) : Prop :=
  env.dump (.object (strings query.members)) = some query.text

lemma run_getDocument (hst : st.Lawful env.dump) (query : Filter) (hquery : query.Dumped env)
    (coll : String) (s : σ) :
    (getDocument coll query).run h s = (some ((st.found s coll query.text).elim [] st.text), s) :=
  run_textOf_of (hst.getDocument hquery _ _ s)

/-- The text of a document is read as the document, and no document has none. -/
lemma parse_found (hst : st.Lawful env.dump) {s : σ} {coll : String} {query : Bytes} {d : Json}
    (hd : st.found s coll query = some d) : parse (st.text d) = some d ∧ st.text d ≠ [] := by
  have hparse := hst.parse_text s _ d (List.mem_of_find?_eq_some hd)
  refine ⟨hparse, fun hnil => ?_⟩
  rw [hnil] at hparse
  cases hparse

end

end MicroServicePbx
