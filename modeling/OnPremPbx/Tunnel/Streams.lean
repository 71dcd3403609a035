import OnPremPbx.Tunnel.SipFrame

/-!
# Streams inside the tunnel

A browser's dialog is the stream of its id: an OPEN, the DATA frames, and a CLOSE. `dataOf` reads
a stream out of the frames of the tunnel, and `OpenFirst` is the order that keeps streams apart:
nothing of a stream comes before its OPEN, and there is only one OPEN.
-/

/-- What a record holds under a key, in order. -/
def ofKey {κ β : Type*} [DecidableEq κ] (k : κ) (l : List (κ × β)) : List β :=
  (l.filter (·.1 = k)).map (·.2)

section

variable {κ β : Type*} [DecidableEq κ]

@[simp] lemma ofKey_nil (k : κ) : ofKey k ([] : List (κ × β)) = [] := rfl

@[simp] lemma ofKey_append (k : κ) (l l' : List (κ × β)) :
    ofKey k (l ++ l') = ofKey k l ++ ofKey k l' := by simp [ofKey]

@[simp] lemma ofKey_self (k : κ) (x : β) : ofKey k [(k, x)] = [x] := by simp [ofKey]

lemma ofKey_of_ne {k j : κ} (h : j ≠ k) (x : β) : ofKey k [(j, x)] = [] := by simp [ofKey, h]

lemma mem_ofKey {k : κ} {x : β} {l : List (κ × β)} : x ∈ ofKey k l ↔ (k, x) ∈ l := by
  simp [ofKey]

lemma ofKey_eq_nil {k : κ} {l : List (κ × β)} (h : ∀ x, (k, x) ∉ l) : ofKey k l = [] :=
  List.eq_nil_iff_forall_not_mem.mpr fun x hx => h x (mem_ofKey.mp hx)

end

namespace SipFrame

/-- A frame that belongs to a stream. -/
def Frame.IsStream (f : Frame) : Prop := f.op = .OPEN ∨ f.op = .DATA ∨ f.op = .CLOSE

instance (f : Frame) : Decidable f.IsStream := inferInstanceAs (Decidable (_ ∨ _))

/-- A DATA frame of the stream `i`. -/
def isData (i : UInt32) (f : Frame) : Bool := f.op = .DATA ∧ f.streamId = i

/-- The payloads of the DATA frames of the stream `i`. -/
def dataOf (i : UInt32) (fs : List Frame) : List Bytes := (fs.filter (isData i)).map (·.payload)

/-- The stream `i` is opened among these frames. -/
def Opens (i : UInt32) (fs : List Frame) : Prop := ∃ f ∈ fs, f.op = .OPEN ∧ f.streamId = i

/-- The stream `i` is closed among these frames. -/
def Closes (i : UInt32) (fs : List Frame) : Prop := ∃ f ∈ fs, f.op = .CLOSE ∧ f.streamId = i

instance (i : UInt32) (fs : List Frame) : Decidable (Opens i fs) :=
  inferInstanceAs (Decidable (∃ f ∈ fs, _))

instance (i : UInt32) (fs : List Frame) : Decidable (Closes i fs) :=
  inferInstanceAs (Decidable (∃ f ∈ fs, _))

/-- If `g` opens a stream, then `f`, which comes before it, is not of that stream. -/
def OpenFirst (f g : Frame) : Prop := g.op = .OPEN → f.IsStream → f.streamId ≠ g.streamId

variable {i : UInt32} {fs gs : List Frame}

@[simp] lemma dataOf_nil (i : UInt32) : dataOf i [] = [] := rfl

@[simp] lemma dataOf_append (i : UInt32) (fs gs : List Frame) :
    dataOf i (fs ++ gs) = dataOf i fs ++ dataOf i gs := by simp [dataOf]

@[simp] lemma dataOf_self (i : UInt32) (p : Bytes) : dataOf i [⟨.DATA, i, p⟩] = [p] := by
  simp [dataOf, isData]

lemma dataOf_singleton {f : Frame} (h : isData i f = false) : dataOf i [f] = [] := by
  simp [dataOf, h]

lemma isData_of_op {f : Frame} (h : f.op ≠ .DATA) : isData i f = false := by simp [isData, h]

lemma isData_of_ne {f : Frame} (h : f.streamId ≠ i) : isData i f = false := by simp [isData, h]

lemma dataOf_prefix (h : fs <+: gs) : dataOf i fs <+: dataOf i gs := (h.filter _).map _

lemma dataOf_eq_nil (h : ∀ f ∈ fs, f.op = .DATA → f.streamId ≠ i) : dataOf i fs = [] := by
  have hnil : fs.filter (isData i) = [] := by
    rw [List.filter_eq_nil_iff]
    intro f hf hdata
    simp only [isData, decide_eq_true_eq] at hdata
    exact h f hf hdata.1 hdata.2
  rw [dataOf, hnil, List.map_nil]

lemma Opens.mono (h : Opens i fs) (hsub : ∀ f ∈ fs, f ∈ gs) : Opens i gs := by
  obtain ⟨f, hf, hop⟩ := h
  exact ⟨f, hsub f hf, hop⟩

lemma Closes.mono (h : Closes i fs) (hsub : ∀ f ∈ fs, f ∈ gs) : Closes i gs := by
  obtain ⟨f, hf, hop⟩ := h
  exact ⟨f, hsub f hf, hop⟩

lemma opens_append : Opens i (fs ++ gs) ↔ Opens i fs ∨ Opens i gs := by
  simp [Opens, or_and_right, exists_or]

lemma closes_append : Closes i (fs ++ gs) ↔ Closes i fs ∨ Closes i gs := by
  simp [Closes, or_and_right, exists_or]

lemma opens_singleton {f : Frame} : Opens i [f] ↔ f.op = .OPEN ∧ f.streamId = i := by
  simp [Opens]

lemma closes_singleton {f : Frame} : Closes i [f] ↔ f.op = .CLOSE ∧ f.streamId = i := by
  simp [Closes]

@[simp] lemma not_opens_nil : ¬ Opens i [] := by simp [Opens]

@[simp] lemma not_closes_nil : ¬ Closes i [] := by simp [Closes]

/-- A stretch that opens a stream is preceded by none of the stream's data. -/
lemma dataOf_eq_nil_of_opens (h : (fs ++ gs).Pairwise OpenFirst) (hopen : Opens i gs) :
    dataOf i fs = [] := by
  obtain ⟨g, hg, hop, rfl⟩ := hopen
  apply dataOf_eq_nil
  intro f hf hdata
  exact (List.pairwise_append.mp h).2.2 f hf g hg hop (Or.inr (Or.inl hdata))

end SipFrame
