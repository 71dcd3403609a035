import Mathlib.Data.List.Sort
import OnPremPbx.Pbx.Documents

/-!
# A database of plain strings

The least database that has what the handlers rely on: documents whose members are strings without
escapes, and sessions of any form; filters that ask for equal strings, and a JSON library for them.
-/

open Json

namespace MicroServicePbx

/-! ### The library -/

def commas (texts : List Bytes) : Bytes := List.intercalate [0x2C] texts

mutual

/-- The text of a value whose strings need no escapes. Members are in the order of their names. -/
def write : Json → Bytes
  | .null      => Bytes.ofString "null"
  | .bool b    => Bytes.ofString (if b then "true" else "false")
  | .number t  => t
  | .string s  => quote s
  | .array es  => 0x5B :: commas (writeElems es) ++ [0x5D]
  | .object ms =>
    let sorted := (writeMembers ms).insertionSort fun a b => a.1 ≤ b.1
    0x7B :: commas (sorted.map fun m => quote m.1 ++ 0x3A :: m.2) ++ [0x7D]

def writeElems : List Json → List Bytes
  | []      => []
  | e :: es => write e :: writeElems es

def writeMembers : List (Bytes × Json) → List (Bytes × Bytes)
  | []           => []
  | (k, v) :: ms => (k, write v) :: writeMembers ms

end

/-- The members of an object of strings. -/
def allStrings : List (Bytes × Json) → Option (List (Bytes × Bytes))
  | []                      => some []
  | (key, .string s) :: ms => (allStrings ms).map ((key, s) :: ·)
  | _                       => none

lemma allStrings_strings (ms : List (Bytes × Bytes)) : allStrings (strings ms) = some ms := by
  induction ms with
  | nil => rfl
  | cons m ms ih => exact (congrArg (Option.map (m :: ·)) ih).trans rfl

lemma eq_strings {ms : List (Bytes × Json)} {l : List (Bytes × Bytes)}
    (h : allStrings ms = some l) : ms = strings l := by
  fun_induction allStrings ms generalizing l with
  | case1 =>
    cases h
    rfl
  | case2 key s ms ih =>
    obtain ⟨l', hl', rfl⟩ := Option.map_eq_some_iff.mp h
    rw [ih hl']
    rfl
  | case3 => cases h

/-- An object of strings is written only if it is plain and has one member; other objects are not
asked for. -/
def plainDump : Json → Option Bytes
  | .object ms =>
    match allStrings ms with
    | some [m] => if Plain m.1 ∧ Plain m.2 then some (concatText [m]) else none
    | _        => none
  | j          => some (write j)

/-! ### The driver -/

/-- The strings of a text that is an object without escapes. -/
def plainOf (text : Bytes) : Option (List (Bytes × Bytes)) :=
  match parse text with
  | some (.object ms) => (allStrings ms).filter fun l => concatText l = text
  | _                 => none

/-- The bytes of a document are its text. -/
def plainDriver : Driver where
  fromJson s := (plainOf s).map fun _ => s
  toJson := some
  empty := braces
  elements _ := none
  dump _ := none
  strings _ := none
  what := []

/-! ### The engine -/

/-- A document of strings without escapes. -/
structure PlainDoc where
  members : List (Bytes × Bytes)
  ne_nil : members ≠ []
  plain : ∀ m ∈ members, Plain m.1 ∧ Plain m.2

def PlainDoc.json (r : PlainDoc) : Json := .object (strings r.members)

/-- Documents and their collections. -/
structure PlainStore where
  rows : List (Bytes × PlainDoc) := []
  sessions : List Json := []

/-- What the language leaves open makes no difference here. -/
def noUndefined : Undefined := ⟨id, []⟩

namespace PlainStore

def docs (db : PlainStore) (coll : Bytes) : List Json :=
  if coll = Bytes.ofString "sessions" then db.sessions
  else (db.rows.filter fun r => r.1 = coll).map fun r => r.2.json

/-- Equal strings in all members of the filter; nothing has a path of two names. -/
def selects (filter : Bytes) (r : Json) : Bool :=
  (plainOf filter).any fun ms => ms.all fun m => rootOf m.1 = m.1 && r.text m.1 = some m.2

def membersOf : Json → List (Bytes × Bytes)
  | .object ms => (allStrings ms).getD []
  | _          => []

def render (rows : List Json) : Bytes :=
  if rows = [] then [] else arrayText (rows.map membersOf)

/-- The document of a text. -/
def docOf (text : Bytes) : Option PlainDoc :=
  let ms := (plainOf text).getD []
  if h : ms ≠ [] ∧ ∀ m ∈ ms, Plain m.1 ∧ Plain m.2 then some ⟨ms, h.1, h.2⟩ else none

/-- Nothing is updated, and there are no files. -/
def engine : Engine PlainStore where
  acquire _ := true
  insertOne _ coll doc db :=
    if coll = Bytes.ofString "sessions" then (none, db)
    else
      match docOf doc with
      | none   => (none, db)
      | some r => (some (Bytes.ofString "1"), { db with rows := db.rows ++ [(coll, r)] })
  insertMany _ _ _ db := (none, db)
  updateMany _ _ _ db := (none, db)
  updateOnes _ _ db := (none, db)
  deleteMany coll filter db :=
    if coll = Bytes.ofString "sessions" then
      (some true, { db with sessions := db.sessions.filter fun r => !selects filter r })
    else
      (some true,
        { db with rows := db.rows.filter fun r => !(r.1 = coll && selects filter r.2.json) })
  findFirst coll filter _ db :=
    some ((((docs db coll).filter (selects filter)).head?.map write).getD [])
  findAll coll filter _ db := some (render ((docs db coll).filter (selects filter)))
  nextAwbno _ db := ([], db)
  storeFile _ _ _ db := ([], db)
  fetchFile _ _ := []
  fetchFileById _ _ := []
  deleteFile _ db := (false, db)

def mongo : Mongo plainDriver engine where
  docs := docs
  value text := (parse text).getD .null
  rejects _ := false
  selects := selects
  render := render

/-! ### What the handlers rely on -/

lemma parse_of_plainOf {text : Bytes} {l : List (Bytes × Bytes)} (h : plainOf text = some l) :
    parse text = some (.object (strings l)) := by
  rw [plainOf] at h
  split at h
  next ms hparse =>
    rw [Option.filter_eq_some_iff] at h
    rw [hparse, eq_strings h.1]
  next => cases h

lemma field_strings_ne_none {l : List (Bytes × Bytes)} {m : Bytes × Bytes} (h : m ∈ l) :
    (Json.object (strings l)).field m.1 ≠ none := by
  rw [field, Ne, Option.map_eq_none_iff, List.find?_eq_none, not_forall]
  refine ⟨(m.1, .string m.2), fun hnone => hnone ?_ (beq_self_eq_true _)⟩
  exact List.mem_reverse.mpr (List.mem_map_of_mem h)

lemma membersOf_json (r : PlainDoc) : membersOf r.json = r.members := by
  rw [PlainDoc.json, membersOf, allStrings_strings]
  rfl

lemma zero_not_mem_concatText {m : Bytes × Bytes} (h : Plain m.1 ∧ Plain m.2) :
    0 ∉ concatText [m] := by
  have hclean : ∀ {s : Bytes}, Plain s → 0 ∉ s := fun hs hmem =>
    absurd (hs.1 0 hmem).1 (by decide)
  have := hclean h.1
  have := hclean h.2
  simp [concatText, membersText, memberText, quote, *]

lemma value_of_plainOf {text : Bytes} {l : List (Bytes × Bytes)} (h : plainOf text = some l) :
    mongo.value text = .object (strings l) := by
  change (parse text).getD .null = _
  rw [parse_of_plainOf h]
  rfl

/-- What the library writes is read as it was. -/
lemma value_of_dump {ms : List (Bytes × Json)} {text doc : Bytes}
    (hdump : plainDump (.object ms) = some text)
    (hdoc : plainDriver.fromJson (cStr text) = some doc) : mongo.value doc = .object ms := by
  rw [plainDump] at hdump
  split at hdump
  next m hm =>
    split_ifs at hdump with hplain
    cases hdump
    have htext : cStr (concatText [m]) = concatText [m] :=
      List.takeWhile_eq_self_iff.mpr fun c hc => decide_eq_true fun h =>
        zero_not_mem_concatText hplain (h ▸ hc)
    rw [htext] at hdoc
    obtain ⟨l, -, rfl⟩ := Option.map_eq_some_iff.mp hdoc
    change (parse (concatText [m])).getD .null = _
    rw [parse_concatText_of_plain (List.cons_ne_nil _ _) (by simpa using hplain), eq_strings hm]
    rfl
  next => cases hdump

lemma mongo_shows : mongo.Shows plainDump where
  fromJson_braces := by decide +kernel
  value_empty name := by
    have hparse : parse braces = some (.object []) := by rfl
    change ((parse braces).getD .null).field name = none
    rw [hparse]
    rfl
  dumped hdump hfilter name := by rw [value_of_dump hdump hfilter]
  findAll coll filter db := rfl
  render_nil := rfl
  parse_render db coll filter hcoll hne := by
    change parse (render _) = _
    rw [render, if_neg hne]
    have hrows : ∀ r ∈ mongo.selected db coll filter, ∃ doc : PlainDoc, r = doc.json := by
      intro r hr
      have hmem : r ∈ docs db coll := List.mem_of_mem_filter hr
      rw [docs, if_neg hcoll] at hmem
      obtain ⟨row, -, rfl⟩ := List.mem_map.mp hmem
      exact ⟨row.2, rfl⟩
    generalize mongo.selected db coll filter = rows at hne hrows ⊢
    rw [parse_arrayText (by simpa using hne), List.map_map]
    · refine congrArg (some ∘ Json.array) ((List.map_congr_left fun r hr => ?_).trans
        (List.map_id rows))
      obtain ⟨doc, rfl⟩ := hrows r hr
      rw [Function.comp_apply, membersOf_json]
      rfl
    · intro ms hms
      obtain ⟨r, hr, rfl⟩ := List.mem_map.mp hms
      obtain ⟨doc, rfl⟩ := hrows r hr
      rw [membersOf_json]
      exact ⟨doc.ne_nil, doc.plain⟩
  selects_congr {filter r r'} h := by
    change selects filter r = selects filter r'
    rw [selects, selects]
    cases hl : plainOf filter with
    | none => rfl
    | some l =>
      rw [value_of_plainOf hl] at h
      rw [Option.any_some, Option.any_some, Bool.eq_iff_iff, List.all_eq_true, List.all_eq_true]
      refine forall₂_congr fun m hm => ?_
      have hfield := (h m.1 (field_strings_ne_none hm)).2
      simp only [Bool.and_eq_true, decide_eq_true_eq]
      refine and_congr_right fun hroot => ?_
      rw [hroot] at hfield
      rw [text_eq_some, text_eq_some, hfield]

lemma json_of_docOf {text : Bytes} {r : PlainDoc} (h : docOf text = some r) :
    mongo.value text = r.json := by
  rw [docOf] at h
  split_ifs at h with hms
  cases h
  change mongo.value text = .object (strings ((plainOf text).getD []))
  cases hl : plainOf text with
  | none => exact absurd (by rw [hl]; rfl) hms.1
  | some l => exact value_of_plainOf hl

lemma mem_of_field_strings {l : List (Bytes × Bytes)} {name a : Bytes}
    (h : (Json.object (strings l)).field name = some (.string a)) : (name, a) ∈ l := by
  obtain ⟨⟨key, v⟩, hfind, rfl⟩ := Option.map_eq_some_iff.mp h
  have hkey : key = name := by simpa using List.find?_some hfind
  obtain ⟨m, hm, heq⟩ := List.mem_map.mp (List.mem_reverse.mp (List.mem_of_find?_eq_some hfind))
  cases heq
  rw [← hkey]
  exact hm

lemma mongo_writes : mongo.Writes plainDump where
  dumped_text hdump hdoc _ _ hfield := by rw [value_of_dump hdump hdoc, hfield]
  dumped_set hdump _ := by cases hdump
  insertOne dbName coll doc db coll' := by
    simp only [mongo, engine]
    split_ifs with hsessions
    · exact .inl rfl
    · cases hdoc : docOf doc with
      | none => exact .inl rfl
      | some r =>
        by_cases hcoll : coll' = coll
        · refine .inr ⟨hcoll, r.json, ?_, fun name _ => ?_⟩
          · subst hcoll
            simp [docs, hsessions]
          · exact congrArg (Json.field · name) (json_of_docOf hdoc).symm
        · refine .inl ?_
          simp [docs, Ne.symm hcoll]
  updateMany coll filter update ms db coll' _ := .inl rfl
  deleteMany coll filter db coll' := by
    simp only [mongo, engine]
    by_cases hcoll : coll' = coll
    · refine .inr ⟨hcoll, ?_⟩
      subst hcoll
      split_ifs with hsessions
      · simp [docs, hsessions]
      · simp only [docs, if_neg hsessions, List.filter_filter, List.filter_map]
        refine congrArg (List.map _) (List.filter_congr fun r _ => ?_)
        by_cases hr : r.1 = coll' <;> simp [hr]
    · refine .inl ?_
      split_ifs with hsessions
      · simp [docs, hsessions ▸ hcoll]
      · rw [docs, docs, List.filter_filter]
        refine if_congr Iff.rfl rfl (congrArg (List.map _) (List.filter_congr fun r _ => ?_))
        by_cases hr : r.1 = coll'
        · simp [hr, hcoll]
        · simp [hr]
  nextAwbno awb db coll' _ := rfl
  selects_text {filter name a r b} _ _ hfield hsel hr := by
    change selects filter r = true at hsel
    rw [selects, Option.any_eq_true] at hsel
    obtain ⟨l, hl, hall⟩ := hsel
    rw [value_of_plainOf hl] at hfield
    have hm := List.all_eq_true.mp hall _ (mem_of_field_strings hfield)
    simp only [Bool.and_eq_true, decide_eq_true_eq] at hm
    exact Option.some.inj (hm.2.symm.trans (text_eq_some.mpr hr))

end PlainStore

end MicroServicePbx
