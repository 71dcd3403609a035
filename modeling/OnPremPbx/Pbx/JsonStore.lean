import OnPremPbx.Pbx.DocumentStore

/-!
# A store of JSON

The least store of documents that behaves as the handlers rely on: it keeps JSON that can be
written, filters ask for equal strings, and an update sets fields.
-/

open Json

namespace MicroServicePbx

/-! ### Documents -/

/-- JSON that can be written. -/
structure JsonDoc where
  json : Json
  writable : json.writable = true

def JsonDoc.ofJson (j : Json) : Option JsonDoc :=
  if h : j.writable = true then some ⟨j, h⟩ else none

lemma JsonDoc.ofJson_of_writable {j : Json} (h : j.writable = true) :
    JsonDoc.ofJson j = some ⟨j, h⟩ := dif_pos h

/-- Documents with their collections, and how many identifiers were drawn. -/
structure JsonStore where
  rows : List (Bytes × JsonDoc) := []
  drawn : ℕ := 0

namespace JsonStore

def docs (s : JsonStore) (coll : Bytes) : List Json :=
  (s.rows.filter fun r => r.1 = coll).map fun r => r.2.json

/-- All the strings of the filter are in the document. -/
def selects (query : Bytes) (d : Json) : Bool :=
  match parse query with
  | some (.object ms) => ms.all fun m =>
    match m.2 with
    | .string s => d.text m.1 = some s
    | _         => false
  | _                 => false

def membersOf : Json → List (Bytes × Json)
  | .object ms => ms
  | _          => []

/-- The document with the fields set. -/
def setFields (sets : List (Bytes × Json)) (d : Json) : Json :=
  .object ((membersOf d).filter (fun m => ((Json.object sets).field m.1).isNone) ++ sets)

/-- The next identifier. -/
def nextId (s : JsonStore) : Bytes := Decimal.ofNat s.drawn

/-- The document with an identifier, if it has none. -/
def identified (oid : Bytes) (ms : List (Bytes × Json)) : List (Bytes × Json) :=
  if ((Json.object ms).field (Bytes.ofString "_id")).isSome then ms
  else (Bytes.ofString "_id", objectId oid) :: ms

/-- A document is stored. -/
def insert (s : JsonStore) (coll doc : Bytes) : Option DbValue × JsonStore :=
  match parse doc with
  | some (.object ms) =>
    match JsonDoc.ofJson (.object (identified s.nextId ms)) with
    | some d => (some (.text s.nextId), ⟨s.rows ++ [(coll, d)], s.drawn + 1⟩)
    | none   => (none, s)
  | _                 => (none, s)

/-- The fields that an update sets. -/
def setsOf (update : Bytes) : List (Bytes × Json) :=
  match parse update with
  | some j => ((j.field (Bytes.ofString "$set")).map membersOf).getD []
  | none   => []

def updateRow (coll query : Bytes) (sets : List (Bytes × Json)) (r : Bytes × JsonDoc) :
    Bytes × JsonDoc :=
  if r.1 = coll ∧ selects query r.2.json then
    (r.1, (JsonDoc.ofJson (setFields sets r.2.json)).getD r.2)
  else r

/-- The text of what a query finds. -/
def textOfAll (ds : List Json) : Bytes := if ds = [] then [] else (Json.array ds).dump

/-- The operations. Nothing is posted, and there are no files. -/
def handler : Program.Handler Answer JsonStore
  | .db (.createDocument _ coll doc) _, s => s.insert coll doc
  | .db (.updateCollection coll query update) _, s =>
    (some (.flag true), { s with rows := s.rows.map (updateRow coll query (setsOf update)) })
  | .db (.deleteDocument coll query) _, s =>
    (some (.flag true),
      { s with rows := s.rows.filter fun r => !(r.1 = coll && selects query r.2.json) })
  | .db (.getDocument coll query _) _, s =>
    (some (.text (((s.docs coll).find? (selects query)).elim [] Json.dump)), s)
  | .db (.getDocumentsQueried coll query _) _, s =>
    (some (.text (textOfAll ((s.docs coll).filter (selects query)))), s)
  | .db (.getDocumentsAll coll _) _, s => (some (.text (textOfAll (s.docs coll))), s)
  | .db .., s => (none, s)
  | .post .., s => (none, s)
  | .revoke .., s => (some (), s)

def store : DocumentStore handler where
  docs := docs
  selects := selects
  text := Json.dump

/-! ### Laws -/

variable {s : JsonStore} {coll coll' : Bytes}

lemma docs_append (s : JsonStore) (r : Bytes × JsonDoc) (n : ℕ) :
    docs ⟨s.rows ++ [r], n⟩ coll = s.docs coll ++ if r.1 = coll then [r.2.json] else [] := by
  rw [docs, docs, List.filter_append, List.map_append]
  congr 1
  rw [List.filter_singleton]
  by_cases h : r.1 = coll <;> simp [h]

lemma insert_frame {doc : Bytes} (h : coll' ≠ coll) :
    (s.insert coll doc).2.docs coll' = s.docs coll' := by
  rw [insert]
  split
  · split
    · rw [docs_append, if_neg (Ne.symm h), List.append_nil]
    · rfl
  · rfl

lemma updateRow_fst (query : Bytes) (sets : List (Bytes × Json)) (r : Bytes × JsonDoc) :
    (updateRow coll query sets r).1 = r.1 := by
  rw [updateRow]
  split_ifs <;> rfl

lemma update_docs (query : Bytes) (sets : List (Bytes × Json)) (s : JsonStore) :
    docs { s with rows := s.rows.map (updateRow coll query sets) } coll' =
      (s.rows.filter fun r => r.1 = coll').map fun r => (updateRow coll query sets r).2.json := by
  rw [docs, List.filter_map, List.map_map]
  congr 1
  refine List.filter_congr fun r _ => ?_
  rw [Function.comp_apply, updateRow_fst]

lemma update_frame (query : Bytes) (sets : List (Bytes × Json)) (h : coll' ≠ coll) :
    docs { s with rows := s.rows.map (updateRow coll query sets) } coll' = s.docs coll' := by
  rw [update_docs, docs]
  refine List.map_congr_left fun r hr => ?_
  have hcoll : r.1 = coll' := by simpa using (List.mem_filter.mp hr).2
  rw [updateRow, if_neg fun hsame => h (hcoll.symm.trans hsame.1)]

lemma delete_docs (query : Bytes) (s : JsonStore) :
    docs { s with rows := s.rows.filter fun r => !(r.1 = coll && selects query r.2.json) } coll' =
      if coll' = coll then (s.docs coll').filter fun d => !selects query d else s.docs coll' := by
  rw [docs, docs, List.filter_filter]
  split_ifs with h
  · subst h
    rw [List.filter_map, List.filter_filter]
    congr 1
    refine List.filter_congr fun r _ => ?_
    by_cases hr : r.1 = coll' <;> simp [hr]
  · congr 1
    refine List.filter_congr fun r _ => ?_
    by_cases hr : r.1 = coll'
    · simp [hr, h]
    · simp [hr]

lemma frame {o : Op} (h : o.target ≠ some coll) :
    docs (handler o s).2 coll = s.docs coll := by
  cases o with
  | post => rfl
  | revoke => rfl
  | db c ms =>
    cases c with
    | createDocument dbName coll' doc =>
      exact insert_frame fun hsame => h (congrArg some hsame.symm)
    | updateCollection coll' query update =>
      exact update_frame _ _ fun hsame => h (congrArg some hsame.symm)
    | deleteDocument coll' query =>
      exact (delete_docs query s).trans (if_neg fun hsame => h (congrArg some hsame.symm))
    | _ => rfl

lemma mem_docs {d : Json} (h : d ∈ s.docs coll) : d.writable = true := by
  obtain ⟨r, -, rfl⟩ := List.mem_map.mp h
  exact r.2.writable

lemma selects_strings {ms : List (Bytes × Bytes)} {query : Bytes}
    (hquery : dumped (.object (strings ms)) = some query) (d : Json) :
    selects query d = true ↔ ∀ m ∈ ms, d.field m.1 = some (.string m.2) := by
  rw [selects, parse_dumped hquery]
  simp [strings, text_eq_some]

lemma writable_members {ms ms' : List (Bytes × Json)} :
    writableMembers (ms ++ ms') = (writableMembers ms && writableMembers ms') := by
  induction ms with
  | nil => rfl
  | cons m ms ih =>
    rw [List.cons_append, writableMembers, writableMembers, ih, Bool.and_assoc, Bool.and_assoc,
      Bool.and_assoc]

lemma writable_filter {ms : List (Bytes × Json)} {p : Bytes × Json → Bool}
    (h : writableMembers ms = true) : writableMembers (ms.filter p) = true := by
  induction ms with
  | nil => rfl
  | cons m ms ih =>
    rw [writableMembers, Bool.and_eq_true] at h
    rw [List.filter_cons]
    split_ifs
    · rw [writableMembers, Bool.and_eq_true]
      exact ⟨h.1, ih h.2⟩
    · exact ih h.2

/-- Of members with one name those that come later count. -/
lemma field_append (ms ms' : List (Bytes × Json)) (name : Bytes) :
    (Json.object (ms ++ ms')).field name =
      ((Json.object ms').field name).or ((Json.object ms).field name) := by
  rw [field, field, field, List.reverse_append, List.find?_append, Option.map_or]

lemma field_membersOf (d : Json) (name : Bytes) :
    (Json.object (membersOf d)).field name = d.field name := by
  cases d <;> rfl

lemma field_setFields (sets : List (Bytes × Json)) (d : Json) (name : Bytes) :
    (setFields sets d).field name = ((Json.object sets).field name).or (d.field name) := by
  rw [setFields, field_append]
  cases hname : (Json.object sets).field name with
  | some v => rfl
  | none =>
    rw [Option.none_or, Option.none_or, ← field_membersOf d, field, field, ← List.filter_reverse,
      List.find?_filter]
    congr 2
    funext m
    by_cases hm : m.1 = name
    · simp [hm, hname]
    · simp [hm]

lemma writable_setFields {sets : List (Bytes × Json)} {d : Json}
    (hsets : (Json.object sets).writable = true) (hd : d.writable = true) :
    (setFields sets d).writable = true := by
  rw [setFields, writable, writable_members, Bool.and_eq_true]
  refine ⟨writable_filter ?_, by rwa [writable] at hsets⟩
  cases d with
  | object ms => rwa [writable] at hd
  | _ => rfl

lemma update_lawful {sets : List (Bytes × Json)} {update : Bytes}
    (hupdate : dumped (.object [(Bytes.ofString "$set", .object sets)]) = some update)
    (query : Bytes) (s : JsonStore) :
    docs { s with rows := s.rows.map (updateRow coll query (setsOf update)) } coll =
      (s.docs coll).map fun d => if selects query d then setFields sets d else d := by
  have hsets : setsOf update = sets := by
    rw [setsOf, parse_dumped hupdate]
    rfl
  have hwritable : (Json.object sets).writable = true := by
    rw [dumped] at hupdate
    split_ifs at hupdate with hwritable
    simp only [writable, writableMembers, Bool.and_true, Bool.and_eq_true] at hwritable
    exact hwritable.2
  rw [update_docs, docs, List.map_map, hsets]
  refine List.map_congr_left fun r hr => ?_
  have hcoll : r.1 = coll := by simpa using (List.mem_filter.mp hr).2
  rw [updateRow, Function.comp_apply]
  by_cases hselects : selects query r.2.json = true
  · rw [if_pos ⟨hcoll, hselects⟩, if_pos hselects,
      JsonDoc.ofJson_of_writable (writable_setFields hwritable r.2.writable)]
    rfl
  · rw [if_neg fun h => hselects h.2, if_neg hselects]

lemma nextId_utf8 (s : JsonStore) : Utf8.Valid s.nextId :=
  valid_of_ascii fun _ hc => ascii_of_isDigit (Decimal.isDigit_of_mem hc).1

lemma field_eq_none {ms : List (Bytes × Json)} {name : Bytes} (h : ∀ m ∈ ms, m.1 ≠ name) :
    (Json.object ms).field name = none := by
  simpa [field] using fun a b hm => h (a, b) hm

lemma insert_lawful {ms : List (Bytes × Json)} {doc : Bytes}
    (hdoc : dumped (.object ms) = some doc) (hid : ∀ m ∈ ms, m.1 ≠ Bytes.ofString "_id")
    (coll : Bytes) (s : JsonStore) :
    (s.insert coll doc).1 = some (.text s.nextId) ∧
      (s.insert coll doc).2.docs coll =
        s.docs coll ++ [.object ((Bytes.ofString "_id", objectId s.nextId) :: ms)] := by
  have hwritable : (Json.object ((Bytes.ofString "_id", objectId s.nextId) :: ms)).writable =
      true := by
    rw [dumped] at hdoc
    split_ifs at hdoc with hms
    have hname : Utf8.Valid (Bytes.ofString "_id") ∧ Utf8.Valid (Bytes.ofString "$oid") := by decide
    rw [writable] at hms
    simp [writable, writableMembers, objectId, hname, hms, nextId_utf8]
  rw [insert, parse_dumped hdoc]
  dsimp only
  rw [identified, field_eq_none hid, Option.isSome_none, if_neg Bool.false_ne_true,
    JsonDoc.ofJson_of_writable hwritable]
  exact ⟨rfl, (docs_append s _ _).trans (congrArg _ (if_pos rfl))⟩

/-- The store behaves as the handlers rely on. -/
theorem lawful : store.Lawful dumped where
  frame _ _ _ h := frame h
  getDocument _ _ _ _ := rfl
  parse_text _ _ _ hd := parse_dump (mem_docs hd)
  selects_iff hquery _ d _ := selects_strings hquery d
  createDocument hdoc hms _ coll _ s := by
    have hid := fun m hm => (hms m hm).1
    obtain ⟨htext, hdocs⟩ := insert_lawful hdoc hid coll s
    refine ⟨_, _, htext, hdocs, ?_, fun name hname => ?_⟩
    · exact (field_append [_] _ _).trans (by rw [field_eq_none hid]; rfl)
    · refine (field_append [_] _ _).trans ?_
      rw [field_eq_none (List.forall_mem_singleton.mpr (Ne.symm hname)), Option.or_none]
  updateCollection _ hupdate _ _ _ s :=
    ⟨setFields _, field_setFields _, update_lawful hupdate _ s⟩
  deleteDocument _ _ _ s := (delete_docs _ s).trans (if_pos rfl)

/-- The library of the store. -/
theorem library : JsonLibrary dumped Decimal.toInt where
  dump_isSome j := by
    rw [dumped]
    split_ifs with h
    · simp [h]
    · simp [h]
  toLong_ofInt n _ := Decimal.toInt_ofInt n

end JsonStore

end MicroServicePbx
