import OnPremPbx.Text.Lines
import OnPremPbx.Pbx.ImportReport

/-!
# The report of an import in the console

`parseResponseCsv` of `BulkSubscriberImportView` reads the report of an import. The server puts a
field in quotes where it has to, and the console reads no quotes, so the two agree as long as no
field of a row that is repeated has a quote or a CR.
-/

namespace BulkSubscriberImportView

/-! ### The reader -/

structure ImportResultRow where
  flatNumber : Bytes
  name : Bytes
  email : Bytes
  sipUsername : Bytes
  generatedPassword : Bytes
  status : Bytes
  deriving DecidableEq, Repr

def field (f : List Bytes) (i : ℕ) : Bytes := f.getD i []

/-- The row with these fields. The password of the portal, in the sixth column, is left out. -/
def rowOf (f : List Bytes) : ImportResultRow where
  flatNumber := field f 0
  name := field f 1
  email := field f 2
  sipUsername := field f 3
  generatedPassword := field f 4
  status := field f 6

/-- The row of a line, unless the line is empty. -/
def parseLine (line : Bytes) : Option ImportResultRow :=
  if line = [] then none
  else
    let line := if line.getLast? = some 0x0D then line.dropLast else line
    if line = [] then none else some (rowOf (line.splitOn 0x2C))

/-- The rows of a report. Its characters are the bytes of the response; the first line is the
header. -/
def parseResponseCsv (csv : Bytes) : List ImportResultRow :=
  if csv = [] then [] else ((csv.splitOn 0x0A).tail).filterMap parseLine

end BulkSubscriberImportView

namespace MicroServicePbx

open BulkSubscriberImportView Text

/-! ### What is written -/

/-- The lines are those of the rows, one after the other: each tells of a row that was skipped, or
of one with the credentials that were drawn for it. -/
inductive Written (env : Env) (header : List Bytes) :
    ℕ → List (List Bytes) → List (List Bytes) → Prop
  | nil (r : ℕ) : Written env header r [] []
  | skipped {r : ℕ} {rows lines : List (List Bytes)} (row : List Bytes) :
      Written env header (r + 1) rows lines →
      Written env header r (row :: rows) (skippedFields header row :: lines)
  | created {r : ℕ} {rows lines : List (List Bytes)} (row : List Bytes) :
      Written env header (r + 1) rows lines →
      Written env header r (row :: rows)
        (createdFields header row (userOf env r) (sipPasswordOf env r) (portalPasswordOf env r) ::
          lines)

/-- The table of a request. -/
def HasTable (env : Env) (req : Bytes) (header : List Bytes) (rows : List (List Bytes)) : Prop :=
  ∃ parsed, Http.ofBytes env.decompress req = some parsed ∧
    tableOf parsed.body = .ok (header, rows)

variable {env : Env} {c : MongodbClient.Passwords} {header : List Bytes}
  {rows lines : List (List Bytes)} {r : ℕ}

/-- Whatever the database answers. -/
abbrev anyAnswer (o : Op) : Option (Answer o) → Prop := fun _ => True

lemma yields_createSubscriber (societyId realm flatId : Bytes) (row : List Bytes) :
    (createSubscriber env societyId realm flatId header row r).Yields anyAnswer
      fun line => line = createdLine env header row r := by
  rw [createSubscriber_eq]
  exact Program.yields_bind fun _ => Program.yields_bind fun _ => Program.yields_pure rfl

/-- An import that comes to its end has written a line for each row. -/
lemma yields_importRows (henv : env.Draws c) (societyId realm : Bytes) (r : ℕ)
    (rows : List (List Bytes)) (outCsv : Bytes) (created skipped : ℕ) :
    (importRows env societyId realm header r rows outCsv created skipped).Yields anyAnswer
      fun resp => IsOk resp → ∃ lines created' skipped', Written env header r rows lines ∧
        resp = importResponse (outCsv ++ (lines.map lineText).flatten) created' skipped' := by
  induction rows generalizing r outCsv created skipped with
  | nil =>
    apply Program.yields_pure
    intro _
    exact ⟨[], created, skipped, Written.nil r, by simp⟩
  | cons row rows ih =>
    rw [importRows]
    split_ifs
    · apply Program.yields_bind
      intro flat
      cases flat with
      | none =>
        apply Program.yields_pure
        exact fun hok => absurd hok (not_isOk_rowError _ _)
      | some flatId =>
        apply Program.yields_bind
        intro existing
        split_ifs
        · refine (ih (r + 1) _ created (skipped + 1)).mono fun resp hresp hok => ?_
          obtain ⟨lines, created', skipped', hlines, rfl⟩ := hresp hok
          refine ⟨skippedFields header row :: lines, created', skipped', hlines.skipped row, ?_⟩
          rw [List.map_cons, List.flatten_cons, ← List.append_assoc, ← skippedLine_eq]
          rfl
        · refine (yields_createSubscriber societyId realm flatId row).bind ?_
          rintro _ rfl
          refine (ih (r + 1) _ (created + 1) skipped).mono fun resp hresp hok => ?_
          obtain ⟨lines, created', skipped', hlines, rfl⟩ := hresp hok
          refine ⟨_, created', skipped', hlines.created row, ?_⟩
          rw [createdLine_eq henv, List.map_cons, List.flatten_cons, ← List.append_assoc]
    · apply Program.yields_pure
      exact fun hok => absurd hok (not_isOk_rowError _ _)

/-- The response with status 200 is the one of the lines. -/
lemma yields_handleSubscriberImportPOST (henv : env.Draws c) (req : Bytes) :
    (handleSubscriberImportPOST env req).Yields anyAnswer fun resp => IsOk resp →
      ∃ header rows lines created skipped, HasTable env req header rows ∧
        Written env header 1 rows lines ∧
        resp = importResponse (reportHeader ++ (lines.map lineText).flatten) created skipped := by
  have herror : ∀ (code : ℕ) (reason : String) (cause : Bytes), ((ofNat code).take 3 ≠
      Bytes.ofString "200") → (ofNat code).length = 3 → ∀ {P : Prop},
      IsOk (responseError code reason cause) → P := fun code reason cause hcode hlen P hok =>
    absurd hok (not_isOk_responseError hcode hlen reason cause)
  rw [handleSubscriberImportPOST]
  apply Program.yields_ofOption_bind
  intro parsed hparsed
  dsimp only
  split_ifs
  · exact Program.yields_pure (herror _ _ _ (by decide) (by decide))
  · apply Program.yields_bind
    intro societyDoc
    split_ifs
    · exact Program.yields_pure (herror _ _ _ (by decide) (by decide))
    · split
      · exact Program.yields_pure (herror _ _ _ (by decide) (by decide))
      · rw [importTable]
        cases htable : tableOf parsed.body with
        | error err =>
          apply Program.yields_pure
          exact fun hok => absurd hok (not_isOk_tableOf htable)
        | ok table =>
          obtain ⟨header, rows⟩ := table
          refine (yields_importRows henv _ _ 1 rows reportHeader 0 0).mono fun resp hresp hok => ?_
          obtain ⟨lines, created, skipped, hlines, heq⟩ := hresp hok
          exact ⟨header, rows, lines, created, skipped, ⟨parsed, hparsed, htable⟩, hlines, heq⟩

lemma exists_written {σ : Type} {h : Program.Handler Answer σ} (henv : env.Draws c)
    {req resp : Bytes} {s s' : σ}
    (hrun : (handleSubscriberImportPOST env req).run h s = (some resp, s')) (hok : IsOk resp) :
    ∃ header rows lines created skipped, HasTable env req header rows ∧
      Written env header 1 rows lines ∧
      resp = importResponse (reportHeader ++ (lines.map lineText).flatten) created skipped := by
  have hyields := Program.Yields.run (h := h) (A := anyAnswer) (fun _ _ => trivial)
    (yields_handleSubscriberImportPOST henv req) s
  rw [hrun] at hyields
  exact hyields resp rfl hok

/-! ### Fields -/

lemma not_mem_of_mem_getlines {d : UInt8} {s l : Bytes} (h : l ∈ getlines d s) : d ∉ l := by
  induction s generalizing l with
  | nil => exact absurd h List.not_mem_nil
  | cons x s ih =>
    rw [getlines] at h
    split_ifs at h with hx
    · rcases List.mem_cons.mp h with rfl | h
      · exact List.not_mem_nil
      · exact ih h
    · split at h
      · rw [List.mem_singleton.mp h, List.mem_singleton]
        exact Ne.symm hx
      · next l' ls hlines =>
        rcases List.mem_cons.mp h with rfl | h
        · rw [List.mem_cons, not_or]
          exact ⟨Ne.symm hx, ih (hlines ▸ List.mem_cons_self)⟩
        · exact ih (hlines ▸ List.mem_cons_of_mem l' h)

/-- The field fits on a line between commas. -/
def IsCell (f : Bytes) : Prop := 0x2C ∉ f ∧ 0x0A ∉ f

instance (f : Bytes) : Decidable (IsCell f) := inferInstanceAs (Decidable (_ ∧ _))

lemma isCell_nil : IsCell [] := ⟨List.not_mem_nil, List.not_mem_nil⟩

lemma isCell_of_isText {f : Bytes} (h : ∀ b ∈ f, Csv.isText b = true) : IsCell f :=
  ⟨fun hmem => absurd (h _ hmem) (by decide), fun hmem => absurd (h _ hmem) (by decide)⟩

/-- The fields of a table are pieces of its lines. -/
lemma HasTable.isCell {req : Bytes} (h : HasTable env req header rows) {row : List Bytes}
    (hrow : row ∈ rows) {f : Bytes} (hf : f ∈ row) : IsCell f := by
  obtain ⟨parsed, -, htable⟩ := h
  have hmem : row ∈ csvRows parsed.body := by
    rw [tableOf] at htable
    split at htable
    · next header' row' rows' heq =>
      split_ifs at htable
      cases htable
      rw [heq]
      exact List.mem_cons_of_mem _ hrow
    · cases htable
  rw [csvRows, List.mem_map] at hmem
  obtain ⟨line, hline, rfl⟩ := hmem
  have hLF := not_mem_of_mem_getlines (List.mem_of_mem_filter hline)
  obtain ⟨hcomma, hsub⟩ := not_mem_of_mem_splitOn hf
  refine ⟨hcomma, fun hmem => hLF ?_⟩
  have hchop := hsub _ hmem
  rw [chopCR] at hchop
  split_ifs at hchop
  · exact List.mem_of_mem_dropLast hchop
  · exact hchop

lemma isCell_column {row : List Bytes} (hrow : ∀ f ∈ row, IsCell f) (col : String) :
    IsCell (column header row col) := by
  rw [column]
  cases hfield : (header.idxOf? (Bytes.ofString col)).bind fun i => row[i]? with
  | none => exact isCell_nil
  | some f =>
    obtain ⟨i, -, hi⟩ := Option.bind_eq_some_iff.mp hfield
    exact hrow f (List.mem_of_getElem? hi)

lemma isCell_rowFields {row : List Bytes} (hrow : ∀ f ∈ row, IsCell f) :
    ∀ f ∈ rowFields header row, IsCell f := by
  intro f hf
  simp only [rowFields, List.mem_cons, List.not_mem_nil, or_false] at hf
  rcases hf with rfl | rfl | rfl <;> exact isCell_column hrow _

/-- Quotes are doubled and put around a field, and nothing else is. -/
lemma mem_csvEscape {f : Bytes} {b : UInt8} (h : b ∈ csvEscape f) : b = 0x22 ∨ b ∈ f := by
  rw [csvEscape] at h
  split_ifs at h
  · exact Or.inr h
  · simp only [List.mem_append, List.mem_cons, List.mem_flatMap, List.not_mem_nil, or_false] at h
    rcases h with (rfl | ⟨a, ha, hb⟩) | rfl
    · exact Or.inl rfl
    · split_ifs at hb with hquote
      · rcases List.mem_pair.mp hb with rfl | rfl <;> exact Or.inl rfl
      · rw [List.mem_singleton.mp hb]
        exact Or.inr ha
    · exact Or.inl rfl

lemma IsCell.csvEscape {f : Bytes} (h : IsCell f) : IsCell (csvEscape f) :=
  ⟨fun hmem => (mem_csvEscape hmem).elim (by decide) h.1,
    fun hmem => (mem_csvEscape hmem).elim (by decide) h.2⟩

/-- A field stays as it is exactly if it needs no quotes. -/
lemma csvEscape_eq_self_iff {f : Bytes} (h : IsCell f) :
    csvEscape f = f ↔ 0x22 ∉ f ∧ 0x0D ∉ f := by
  constructor
  · intro heq
    have htext : f.all (fun c => c != 0x2C && c != 0x22 && c != 0x0D && c != 0x0A) = true := by
      by_contra hnot
      rw [MicroServicePbx.csvEscape, if_neg hnot] at heq
      have hlength := congrArg List.length heq
      have hle : f.length ≤ (f.flatMap fun c => if c = 0x22 then [0x22, 0x22] else [c]).length := by
        rw [List.length_flatMap]
        refine le_of_eq_of_le ?_ (List.sum_le_sum (f := fun _ => 1) fun c _ => ?_)
        · simp
        · split_ifs <;> simp
      simp only [List.length_append, List.length_cons] at hlength
      omega
    rw [List.all_eq_true] at htext
    exact ⟨fun hmem => absurd (htext _ hmem) (by decide),
      fun hmem => absurd (htext _ hmem) (by decide)⟩
  · rintro ⟨hquote, hCR⟩
    apply csvEscape_of_isText
    intro b hb
    have hne : ∀ k ∉ f, b ≠ k := fun k hk heq => hk (heq ▸ hb)
    simp [Csv.isText, Csv.comma, Csv.quote, Csv.CR, Csv.LF, hne _ h.1, hne _ hquote, hne _ hCR,
      hne _ h.2]

/-! ### The reading of a report -/

/-- The fields can be put on a line, and there are several. -/
structure IsRecord (l : List Bytes) : Prop where
  several : 2 ≤ l.length
  isCell : ∀ f ∈ l, IsCell f

lemma Written.isRecord (henv : env.Draws c) (h : Written env header r rows lines)
    (hrows : ∀ row ∈ rows, ∀ f ∈ row, IsCell f) : ∀ l ∈ lines, IsRecord l := by
  induction h with
  | nil r => exact fun _ hl => absurd hl List.not_mem_nil
  | skipped row _ ih =>
    obtain ⟨hrow, hrows⟩ := List.forall_mem_cons.mp hrows
    refine List.forall_mem_cons.mpr ⟨⟨?_, fun f hf => ?_⟩, ih hrows⟩
    · simp [skippedFields, rowFields]
    · rcases List.mem_append.mp hf with hf | hf
      · exact isCell_rowFields hrow f hf
      · have hrest : ∀ f ∈ [[], [], [], Bytes.ofString "skipped"], IsCell f := by decide
        exact hrest f hf
  | @created r rows lines row _ ih =>
    obtain ⟨hrow, hrows⟩ := List.forall_mem_cons.mp hrows
    refine List.forall_mem_cons.mpr ⟨⟨?_, fun f hf => ?_⟩, ih hrows⟩
    · simp [createdFields, rowFields]
    · rcases List.mem_append.mp hf with hf | hf
      · exact isCell_rowFields hrow f hf
      · simp only [List.mem_cons, List.not_mem_nil, or_false] at hf
        rcases hf with rfl | rfl | rfl | rfl
        · exact isCell_of_isText (henv.isText_userOf r)
        · exact isCell_of_isText (henv.isText _ _)
        · exact isCell_of_isText (henv.isText _ _)
        · exact (by decide : IsCell (Bytes.ofString "created"))

/-- The fields between their commas. -/
def joined (l : List Bytes) : Bytes := List.intercalate [0x2C] (l.map csvEscape)

lemma lineText_eq (l : List Bytes) : lineText l = (joined l ++ [0x0D]) ++ [0x0A] := by
  rw [lineText, csvLine, joined, List.append_assoc]
  rfl

lemma IsRecord.joined_ne_nil {l : List Bytes} (h : IsRecord l) : joined l ≠ [] := by
  obtain ⟨hlength, -⟩ := h
  match l, hlength with
  | a :: b :: l, _ =>
    rw [joined, List.map_cons, List.map_cons, List.intercalate_cons_cons]
    simp

lemma IsRecord.splitOn_joined {l : List Bytes} (h : IsRecord l) :
    (joined l).splitOn 0x2C = l.map csvEscape := by
  have hne : l ≠ [] := List.ne_nil_of_length_pos (by have := h.several; omega)
  apply List.splitOn_intercalate
  · exact List.forall_mem_map.mpr fun f hf => (h.isCell f hf).csvEscape.1
  · exact mt List.map_eq_nil_iff.mp hne

lemma IsRecord.not_mem_joined {l : List Bytes} (h : IsRecord l) : 0x0A ∉ joined l ++ [0x0D] := by
  rw [List.mem_append, not_or]
  refine ⟨?_, by decide⟩
  apply not_mem_intercalate (by decide)
  exact List.forall_mem_map.mpr fun f hf => (h.isCell f hf).csvEscape.2

lemma IsRecord.parseLine {l : List Bytes} (h : IsRecord l) :
    parseLine (joined l ++ [0x0D]) = some (rowOf (l.map csvEscape)) := by
  rw [BulkSubscriberImportView.parseLine, if_neg (by simp)]
  simp only [List.getLast?_append, List.getLast?_singleton, Option.some_or, if_true,
    List.dropLast_concat]
  rw [if_neg h.joined_ne_nil, h.splitOn_joined]

/-- The lines of a text whose lines all end. -/
lemma splitOn_lines {ts : List Bytes} (h : ∀ t ∈ ts, 0x0A ∉ t) :
    ((ts.map (· ++ [0x0A])).flatten).splitOn 0x0A = ts ++ [[]] := by
  induction ts with
  | nil => exact List.splitOn_nil _
  | cons t ts ih =>
    obtain ⟨ht, hts⟩ := List.forall_mem_cons.mp h
    rw [List.map_cons, List.flatten_cons, List.append_assoc, List.singleton_append,
      List.splitOn_append_cons_self_of_not_mem ht, ih hts, List.cons_append]

/-- The console has a row for each line, with the fields as they are written. -/
theorem parseResponseCsv_report (hlines : ∀ l ∈ lines, IsRecord l) :
    parseResponseCsv (reportHeader ++ (lines.map lineText).flatten) =
      lines.map fun l => rowOf (l.map csvEscape) := by
  have hrecords : ∀ l ∈ columnNames :: lines, IsRecord l :=
    List.forall_mem_cons.mpr ⟨⟨by decide, by decide⟩, hlines⟩
  have htext : reportHeader ++ (lines.map lineText).flatten =
      (((columnNames :: lines).map fun l => joined l ++ [0x0D]).map (· ++ [0x0A])).flatten := by
    rw [reportHeader_eq, ← List.flatten_cons, ← List.map_cons, List.map_map]
    congr 2
    funext l
    exact lineText_eq l
  have hne : reportHeader ++ (lines.map lineText).flatten ≠ [] := by
    rw [reportHeader_eq, lineText_eq]
    simp
  rw [parseResponseCsv, if_neg hne, htext, splitOn_lines (List.forall_mem_map.mpr fun l hl =>
    (hrecords l hl).not_mem_joined), List.map_cons, List.cons_append, List.tail_cons,
    List.filterMap_append, List.filterMap_map]
  have hnil : List.filterMap parseLine [[]] = [] := by decide
  rw [hnil, List.append_nil, ← List.filterMap_eq_map]
  exact List.filterMap_congr fun l hl => (hlines l hl).parseLine

/-! ### Agreement -/

/-- The fields of the row that are repeated need no quotes. -/
def NoQuotes (header row : List Bytes) : Prop :=
  ∀ f ∈ rowFields header row, 0x22 ∉ f ∧ 0x0D ∉ f

/-- The row is the one that was meant exactly if its first three fields are. -/
lemma rowOf_eq_iff {row rest : List Bytes} (hrow : ∀ f ∈ row, IsCell f)
    (hrest : rest.map csvEscape = rest) :
    rowOf ((rowFields header row ++ rest).map csvEscape) = rowOf (rowFields header row ++ rest) ↔
      NoQuotes header row := by
  have hiff : ∀ col, csvEscape (column header row col) = column header row col ↔
      0x22 ∉ column header row col ∧ 0x0D ∉ column header row col :=
    fun col => csvEscape_eq_self_iff (isCell_column hrow col)
  rw [List.map_append, hrest, NoQuotes]
  simp only [rowFields, List.map_cons, List.map_nil, List.forall_mem_cons, List.not_mem_nil,
    false_implies, implies_true, and_true, ← hiff]
  simp [rowOf, field]

lemma Written.map_rowOf_iff (henv : env.Draws c) (h : Written env header r rows lines)
    (hrows : ∀ row ∈ rows, ∀ f ∈ row, IsCell f) :
    (lines.map fun l => rowOf (l.map csvEscape)) = lines.map rowOf ↔
      ∀ row ∈ rows, NoQuotes header row := by
  induction h with
  | nil r => simp
  | skipped row _ ih =>
    obtain ⟨hrow, hrows⟩ := List.forall_mem_cons.mp hrows
    rw [List.map_cons, List.map_cons, List.cons_eq_cons, ih hrows, List.forall_mem_cons,
      skippedFields, rowOf_eq_iff hrow (by decide)]
  | @created r rows lines row _ ih =>
    obtain ⟨hrow, hrows⟩ := List.forall_mem_cons.mp hrows
    have hrest : [userOf env r, sipPasswordOf env r, portalPasswordOf env r,
        Bytes.ofString "created"].map csvEscape =
        [userOf env r, sipPasswordOf env r, portalPasswordOf env r, Bytes.ofString "created"] := by
      have hcreated : csvEscape (Bytes.ofString "created") = Bytes.ofString "created" := by decide
      have hsip : csvEscape (sipPasswordOf env r) = sipPasswordOf env r := henv.csvEscape _ _
      have hportal : csvEscape (portalPasswordOf env r) = portalPasswordOf env r :=
        henv.csvEscape _ _
      simp only [List.map_cons, List.map_nil, hcreated, hsip, hportal,
        csvEscape_of_isText (henv.isText_userOf r)]
    rw [List.map_cons, List.map_cons, List.cons_eq_cons, ih hrows, List.forall_mem_cons,
      createdFields, rowOf_eq_iff hrow hrest]

/-- What the console makes of the report on the rows of a table. -/
lemma HasTable.agrees_iff (henv : env.Draws c) {req : Bytes} (htable : HasTable env req header rows)
    (hlines : Written env header 1 rows lines) :
    parseResponseCsv (reportHeader ++ (lines.map lineText).flatten) = lines.map rowOf ↔
      ∀ row ∈ rows, NoQuotes header row := by
  have hrows : ∀ row ∈ rows, ∀ f ∈ row, IsCell f := fun _ hrow _ hf => htable.isCell hrow hf
  rw [parseResponseCsv_report (hlines.isRecord henv hrows)]
  exact hlines.map_rowOf_iff henv hrows

/-- A line has fields. -/
lemma Written.ne_nil (h : Written env header r rows lines) : ∀ l ∈ lines, l ≠ [] := by
  induction h with
  | nil r => exact fun _ hl => absurd hl List.not_mem_nil
  | skipped row _ ih => exact List.forall_mem_cons.mpr ⟨List.cons_ne_nil _ _, ih⟩
  | created row _ ih => exact List.forall_mem_cons.mpr ⟨List.cons_ne_nil _ _, ih⟩

/-- The console shows what the server meant, exactly if no field that is repeated needs quotes. The
lines that the server means are those that RFC 4180 reads in the body, one for each row. -/
theorem import_results_agree_iff {σ : Type} {h : Program.Handler Answer σ} (henv : env.Draws c)
    {req resp : Bytes} {s s' : σ}
    (hrun : (handleSubscriberImportPOST env req).run h s = (some resp, s')) (hok : IsOk resp) :
    ∃ header rows lines, HasTable env req header rows ∧ Written env header 1 rows lines ∧
      Csv.read (bodyOf resp) = some (columnNames :: lines) ∧
      (parseResponseCsv (bodyOf resp) = lines.map rowOf ↔
        ∀ row ∈ rows, NoQuotes header row) := by
  obtain ⟨header, rows, lines, created, skipped, htable, hlines, rfl⟩ :=
    exists_written henv hrun hok
  rw [bodyOf_importResponse]
  exact ⟨header, rows, lines, htable, hlines, read_table hlines.ne_nil,
    htable.agrees_iff henv hlines⟩

theorem import_results_agree_iff_sameEmail : ∃ resp s',
    reportRun JsonStore.handler = (some resp, s') ∧ IsOk resp ∧
    ∃ header rows lines, HasTable reportEnv sameEmailRequest header rows ∧
      Written reportEnv header 1 rows lines ∧
      Csv.read (bodyOf resp) = some (columnNames :: lines) ∧
      (parseResponseCsv (bodyOf resp) = lines.map rowOf ↔
        ∀ row ∈ rows, NoQuotes header row) := by
  obtain ⟨resp, s', hrun, hok⟩ := reportRun_isOk
  have hrun' : (handleSubscriberImportPOST reportEnv sameEmailRequest).run JsonStore.handler
    gardenStore = (some resp, s') := hrun
  exact ⟨resp, s', hrun, hok, import_results_agree_iff reportEnv_draws hrun' hok⟩

lemma not_noQuotes_sameEmail {header : List Bytes} {rows : List (List Bytes)}
    (h : HasTable reportEnv sameEmailRequest header rows) :
    ¬ ∀ row ∈ rows, NoQuotes header row := by
  have htable : ((Http.ofBytes reportEnv.decompress sameEmailRequest).bind fun parsed =>
      (tableOf parsed.body).toOption) = some (["flat_number", "name", "email", "role"].map
        Bytes.ofString, [["1", "\"A\" B", "a@x", "guard"].map Bytes.ofString,
          ["2", "C", "a@x", "guard"].map Bytes.ofString]) := by
    decide +kernel
  obtain ⟨parsed, hparsed, htable'⟩ := h
  rw [hparsed, Option.bind_some, htable', Except.toOption, Option.some.injEq, Prod.mk.injEq]
    at htable
  obtain ⟨rfl, rfl⟩ := htable
  intro hall
  exact absurd (hall _ List.mem_cons_self _ (List.mem_cons_of_mem _ List.mem_cons_self)).1
    (by decide)

/-- A name with quotes in it is shown with more of them. -/
theorem quotes_shown : ∃ resp s' lines, reportRun JsonStore.handler = (some resp, s') ∧
    IsOk resp ∧ Csv.read (bodyOf resp) = some (columnNames :: lines) ∧
    parseResponseCsv (bodyOf resp) ≠ lines.map rowOf := by
  obtain ⟨resp, s', hrun, hok⟩ := reportRun_isOk
  have hrun' : (handleSubscriberImportPOST reportEnv sameEmailRequest).run JsonStore.handler
    gardenStore = (some resp, s') := hrun
  obtain ⟨header, rows, lines, created, skipped, htable, hlines, heq⟩ :=
    exists_written reportEnv_draws hrun' hok
  refine ⟨resp, s', lines, hrun, hok, ?_⟩
  rw [heq, bodyOf_importResponse]
  exact ⟨read_table hlines.ne_nil,
    mt (htable.agrees_iff reportEnv_draws hlines).mp (not_noQuotes_sameEmail htable)⟩

end MicroServicePbx
