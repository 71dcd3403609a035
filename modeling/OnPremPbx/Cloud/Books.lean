import OnPremPbx.Cloud.Invariant
import OnPremPbx.Tunnel.Streams

/-!
# The books of the cloud end

`Books` is what the streams of the browsers look like from above: who is registered under which
id, what each browser sent and was given, what was handed to the tunnel and heard from it.
`Books.Orderly` is the invariant that keeps the streams apart, and the operations below are the
changes that the entry points make to the books.
-/

open Framing SipFrame

/-- The part of the state that the streams depend on. -/
structure Cloud.Books where
  out : Outbound ConnId Frame
  /-- the bridge has a tunnel -/
  tunnel : Bool
  next : UInt32
  browsers : AList fun _ : UInt32 => BrowserSink
  issued : List UInt32
  fromBrowser : List (BrowserSink × Bytes)
  toBrowser : List (BrowserSink × Bytes)
  heard : List (ConnId × Frame)

namespace Cloud

def books (s : Cloud) : Books where
  out := s.outbound
  tunnel := s.bridge.tunnel.isSome
  next := s.bridge.nextStreamId
  browsers := s.bridge.browsers
  issued := s.trace.issued
  fromBrowser := s.trace.fromBrowser
  toBrowser := s.trace.toBrowser
  heard := s.trace.heard

namespace Books

/-- The frames handed to the tunnel. -/
def posted (b : Books) : List Frame := kept b.out.passed

def post (f : Frame) (b : Books) : Books := { b with out := b.out.post f }

/-- The agent is lost: no browser stays. -/
def lose (b : Books) : Books := { b with out := b.out.drop, tunnel := false, browsers := ∅ }

/-- The agent is lost in a failed write. -/
def tear (c : ConnId) (f : Frame) (n : ℕ) (b : Books) : Books :=
  { b with out := b.out.tear c f n, tunnel := false, browsers := ∅ }

def attach (c : ConnId) (b : Books) : Books := { b with out := b.out.flush c, tunnel := true }

/-- An agent that is lost while the queue is flushed to it. -/
def attachUpTo (c : ConnId) (sent : List Frame) (f : Frame) (rest : List Frame) (n : ℕ)
    (b : Books) : Books :=
  { b with out := b.out.flushUpTo c sent f rest n, tunnel := false, browsers := ∅ }

/-- The next upgrade. -/
def register (b : Books) : Books :=
  { b with
    next := b.next + 1
    browsers := if b.next ∈ b.browsers then b.browsers else b.browsers.insert b.next b.issued.length
    issued := b.issued ++ [b.next] }

def deregister (i : UInt32) (b : Books) : Books := { b with browsers := b.browsers.erase i }

def recordData (k : BrowserSink) (bytes : Bytes) (b : Books) : Books :=
  { b with fromBrowser := b.fromBrowser ++ [(k, bytes)] }

def deliver (k : BrowserSink) (bytes : Bytes) (b : Books) : Books :=
  { b with toBrowser := b.toBrowser ++ [(k, bytes)] }

def hear (c : ConnId) (f : Frame) (b : Books) : Books := { b with heard := b.heard ++ [(c, f)] }

/-- The invariant of the streams. -/
structure Orderly (b : Books) : Prop where
  /-- the ids are issued in order -/
  issued_eq : b.issued = (List.range b.issued.length).map fun k => UInt32.ofNat (k + 1)
  next_eq : b.next = UInt32.ofNat (b.issued.length + 1)
  lookup : ∀ i k, b.browsers.lookup i = some k → b.issued[k]? = some i
  /-- a stream is handed to the tunnel with its OPEN first, under the id it was issued -/
  stream_issued : ∀ f ∈ b.posted, f.IsStream → f.streamId ∈ b.issued
  open_first : b.posted.Pairwise OpenFirst
  /-- the OPEN of a registered stream went to the agent, or waits for one -/
  open_placed : ∀ i ∈ b.browsers, Opens i b.posted →
    (∀ c, b.out.conn = some c → Opens i (b.out.on c)) ∧ (b.out.conn = none → Opens i b.out.queue)
  tunnel_armed : ∀ i ∈ b.browsers, Opens i b.posted → b.tunnel = true
  /-- an opened stream carries what its browser sent -/
  data_posted : ∀ k i, b.issued[k]? = some i → Opens i b.posted →
    dataOf i b.posted <+: ofKey k b.fromBrowser ∧
    (i ∈ b.browsers → dataOf i b.posted = ofKey k b.fromBrowser)
  from_issued : ∀ k x, (k, x) ∈ b.fromBrowser → k < b.issued.length
  to_issued : ∀ k x, (k, x) ∈ b.toBrowser → k < b.issued.length
  /-- a browser is given what was heard of its stream from the agent the stream was opened on -/
  to_heard : ∀ k i, b.issued[k]? = some i → ofKey k b.toBrowser = [] ∨
    ∃ c, Opens i (b.out.on c) ∧ ofKey k b.toBrowser <+: dataOf i (ofKey c b.heard)
  to_live : ∀ i k, b.browsers.lookup i = some k →
    (∀ c, b.out.conn = some c → ofKey k b.toBrowser = dataOf i (ofKey c b.heard)) ∧
    (b.out.conn = none → ofKey k b.toBrowser = [])
  heard_opened : ∀ c f, (c, f) ∈ b.heard → f.op = .DATA → Opens f.streamId b.posted
  heard_used : ∀ c f, (c, f) ∈ b.heard → c ∈ b.out.used

namespace Orderly

variable {b : Books}

/-! ### Stream ids -/

lemma getElem?_issued (hb : b.Orderly) {k : ℕ} {i : UInt32} (h : b.issued[k]? = some i) :
    k < b.issued.length ∧ i = UInt32.ofNat (k + 1) := by
  obtain ⟨hk, -⟩ := List.getElem?_eq_some_iff.mp h
  rw [hb.issued_eq, List.getElem?_map, List.getElem?_range hk] at h
  exact ⟨hk, (Option.some.inj h).symm⟩

private lemma toNat_id {k n : ℕ} (hk : k < n) (hn : n < 2 ^ 32) :
    (UInt32.ofNat (k + 1)).toNat = k + 1 :=
  UInt32.toNat_ofNat_of_lt' (lt_of_le_of_lt hk hn)

/-- No id is issued twice, as long as they do not wrap around. -/
lemma issued_inj (hb : b.Orderly) (hmax : b.issued.length < 2 ^ 32) {k l : ℕ} {i : UInt32}
    (hk : b.issued[k]? = some i) (hl : b.issued[l]? = some i) : k = l := by
  obtain ⟨hklt, hki⟩ := hb.getElem?_issued hk
  obtain ⟨hllt, hli⟩ := hb.getElem?_issued hl
  have heq := congrArg UInt32.toNat (hki.symm.trans hli)
  rw [toNat_id hklt hmax, toNat_id hllt hmax] at heq
  omega

/-- The next id is a new one. -/
lemma next_notMem (hb : b.Orderly) (hmax : b.issued.length + 1 < 2 ^ 32) : b.next ∉ b.issued := by
  intro hmem
  obtain ⟨k, hk⟩ := List.mem_iff_getElem?.mp hmem
  obtain ⟨hklt, hki⟩ := hb.getElem?_issued hk
  have heq := congrArg UInt32.toNat (hb.next_eq.symm.trans hki)
  rw [toNat_id (Nat.lt_succ_self _) hmax, toNat_id (Nat.lt_succ_of_lt hklt) hmax] at heq
  omega

lemma mem_issued (hb : b.Orderly) {i : UInt32} (h : i ∈ b.browsers) : i ∈ b.issued := by
  obtain ⟨k, hk⟩ := AList.lookup_isSome.mpr h |> Option.isSome_iff_exists.mp
  exact List.mem_of_getElem? (hb.lookup i k hk)

lemma issued_of_opens (hb : b.Orderly) {i : UInt32} (h : Opens i b.posted) : i ∈ b.issued := by
  obtain ⟨f, hf, hop, rfl⟩ := h
  exact hb.stream_issued f hf (Or.inl hop)

/-! ### The operations keep the books orderly -/

/-- Losing the agent: no browser stays, and nothing more is posted. -/
private lemma abandon (hb : b.Orderly) {out : Outbound ConnId Frame}
    (hposted : kept out.passed = b.posted) (hon : ∀ c, ∀ f ∈ b.out.on c, f ∈ out.on c)
    (hused : ∀ c ∈ b.out.used, c ∈ out.used) :
    Orderly { b with out := out, tunnel := false, browsers := ∅ } := by
  obtain ⟨out₀, tunnel, next, browsers, issued, sent, given, heard⟩ := b
  simp only [posted] at hposted hon hused
  have hnone : ∀ i, i ∉ (∅ : AList fun _ : UInt32 => BrowserSink) := fun i => AList.notMem_empty i
  refine
    { issued_eq := hb.issued_eq
      next_eq := hb.next_eq
      lookup := by simp
      stream_issued := ?_
      open_first := ?_
      open_placed := fun i h => absurd h (hnone i)
      tunnel_armed := fun i h => absurd h (hnone i)
      data_posted := ?_
      from_issued := hb.from_issued
      to_issued := hb.to_issued
      to_heard := ?_
      to_live := by simp
      heard_opened := ?_
      heard_used := fun c f h => hused c (hb.heard_used c f h) }
  · simpa only [posted, hposted] using hb.stream_issued
  · simpa only [posted, hposted] using hb.open_first
  · simp only [posted, hposted]
    exact fun k i hk hopen => ⟨(hb.data_posted k i hk hopen).1, fun h => absurd h (hnone i)⟩
  · intro k i hk
    obtain hnil | ⟨c, hopen, hpre⟩ := hb.to_heard k i hk
    · exact Or.inl hnil
    · exact Or.inr ⟨c, hopen.mono (hon c), hpre⟩
  · simpa only [posted, hposted] using hb.heard_opened

lemma lose (hb : b.Orderly) : b.lose.Orderly :=
  hb.abandon rfl (fun _ _ h => h) fun _ h => h

lemma tear (hb : b.Orderly) (c : ConnId) (f : Frame) (n : ℕ) : (b.tear c f n).Orderly :=
  hb.abandon rfl (fun d g hg => by simpa using hg) fun _ h => h

lemma attachUpTo (hb : b.Orderly) (c : ConnId) (sent : List Frame) (f : Frame)
    (rest : List Frame) (n : ℕ) : (b.attachUpTo c sent f rest n).Orderly :=
  hb.abandon rfl (fun d => b.out.on_subset_flushUpTo f c d sent rest n)
    fun _ h => List.mem_append_left _ h

lemma attach (hb : b.Orderly) (hconn : b.out.conn = none) {c : ConnId} (hc : c ∉ b.out.used) :
    (b.attach c).Orderly where
  issued_eq := hb.issued_eq
  next_eq := hb.next_eq
  lookup := hb.lookup
  stream_issued := hb.stream_issued
  open_first := hb.open_first
  open_placed i hi hopen := by
    refine ⟨?_, fun hnone => by simp [Books.attach, Outbound.flush] at hnone⟩
    intro d hd
    obtain rfl := Option.some.inj hd
    exact ((hb.open_placed i hi hopen).2 hconn).mono fun g hg => by simp [Books.attach, hg]
  tunnel_armed _ _ _ := rfl
  data_posted := hb.data_posted
  from_issued := hb.from_issued
  to_issued := hb.to_issued
  to_heard k i hk := by
    obtain hnil | ⟨d, hopen, hpre⟩ := hb.to_heard k i hk
    · exact Or.inl hnil
    · exact Or.inr ⟨d, hopen.mono (b.out.on_subset_flush c d), hpre⟩
  to_live i k hk := by
    refine ⟨?_, fun hnone => by simp [Books.attach, Outbound.flush] at hnone⟩
    intro d hd
    obtain rfl := Option.some.inj hd
    -- nothing was heard yet on the new connection
    have hnil : ofKey c b.heard = [] := ofKey_eq_nil fun f hf => hc (hb.heard_used c f hf)
    exact ((hb.to_live i k hk).2 hconn).trans (congrArg (dataOf i) hnil).symm
  heard_opened := hb.heard_opened
  heard_used c f h := List.mem_append_left _ (hb.heard_used c f h)

/-- Posting a frame, with what the browsers have sent by then. -/
private lemma post_of (hb : b.Orderly) {f : Frame} (sent : List (BrowserSink × Bytes))
    (hissued : f.IsStream → f.streamId ∈ b.issued)
    (hfirst : ∀ g ∈ b.posted, OpenFirst g f)
    (harmed : f.op = .OPEN → f.streamId ∈ b.browsers → b.tunnel = true)
    (hsent : ∀ k x, (k, x) ∈ sent → k < b.issued.length)
    (hdata : ∀ k i, b.issued[k]? = some i → Opens i (b.posted ++ [f]) →
      dataOf i (b.posted ++ [f]) <+: ofKey k sent ∧
      (i ∈ b.browsers → dataOf i (b.posted ++ [f]) = ofKey k sent)) :
    (Books.post f { b with fromBrowser := sent }).Orderly := by
  have hposted : (Books.post f { b with fromBrowser := sent }).posted = b.posted ++ [f] :=
    b.out.kept_passed_post f
  have hmono : ∀ c i, Opens i (b.out.on c) → Opens i ((b.out.post f).on c) :=
    fun c i h => h.mono (b.out.on_subset_post f c)
  refine
    { issued_eq := hb.issued_eq
      next_eq := hb.next_eq
      lookup := hb.lookup
      stream_issued := ?_
      open_first := ?_
      open_placed := ?_
      tunnel_armed := ?_
      data_posted := by rwa [hposted]
      from_issued := hsent
      to_issued := hb.to_issued
      to_heard := ?_
      to_live := ?_
      heard_opened := ?_
      heard_used := fun c g h => by simpa [Books.post] using hb.heard_used c g h }
  · rw [hposted]
    intro g hg
    obtain hg | hg := List.mem_append.mp hg
    · exact hb.stream_issued g hg
    · rwa [List.mem_singleton.mp hg]
  · rw [hposted, List.pairwise_append]
    exact ⟨hb.open_first, by simp, by simpa using hfirst⟩
  · intro i hi hopen
    rw [hposted, opens_append] at hopen
    simp only [Books.post, Outbound.conn_post]
    constructor
    · intro c hc
      rw [Outbound.on_post_of_some f hc, opens_append]
      exact hopen.imp_left fun h => (hb.open_placed i hi h).1 c hc
    · intro hnone
      rw [Outbound.queue_post_of_none f hnone, opens_append]
      exact hopen.imp_left fun h => (hb.open_placed i hi h).2 hnone
  · intro i hi hopen
    rw [hposted, opens_append] at hopen
    obtain hopen | hopen := hopen
    · exact hb.tunnel_armed i hi hopen
    · obtain ⟨hop, rfl⟩ := opens_singleton.mp hopen
      exact harmed hop hi
  · intro k i hk
    obtain hnil | ⟨c, hopen, hpre⟩ := hb.to_heard k i hk
    · exact Or.inl hnil
    · exact Or.inr ⟨c, hmono c i hopen, hpre⟩
  · simpa only [Books.post, Outbound.conn_post] using hb.to_live
  · rw [hposted]
    exact fun c g hg hop => opens_append.mpr (Or.inl (hb.heard_opened c g hg hop))

/-- A frame of no stream. -/
lemma post_control (hb : b.Orderly) {f : Frame} (hf : ¬ f.IsStream) : (b.post f).Orderly := by
  have hdata : f.op ≠ .DATA := fun h => hf (Or.inr (Or.inl h))
  have hopen : f.op ≠ .OPEN := fun h => hf (Or.inl h)
  refine hb.post_of b.fromBrowser (fun h => absurd h hf) (fun g _ h => absurd h hopen)
    (fun h => absurd h hopen) hb.from_issued fun k i hk hop => ?_
  have hop' : Opens i b.posted := by
    obtain h | h := opens_append.mp hop
    · exact h
    · exact absurd (opens_singleton.mp h).1 hopen
  rw [dataOf_append, dataOf_singleton (isData_of_op hdata), List.append_nil]
  exact hb.data_posted k i hk hop'

/-- The OPEN of a stream of which nothing was posted and whose browser has sent nothing. -/
lemma post_open (hb : b.Orderly) {i : UInt32} (openMeta : Bytes) (hi : i ∈ b.issued)
    (hnew : ∀ g ∈ b.posted, g.IsStream → g.streamId ≠ i)
    (harmed : i ∈ b.browsers → b.tunnel = true)
    (hfrom : ∀ k, b.issued[k]? = some i → ofKey k b.fromBrowser = []) :
    (b.post ⟨.OPEN, i, openMeta⟩).Orderly := by
  refine hb.post_of b.fromBrowser (fun _ => hi) (fun g hg _ => hnew g hg)
    (fun _ => harmed) hb.from_issued fun k j hk hop => ?_
  rw [dataOf_append, dataOf_singleton (isData_of_op (by simp)), List.append_nil]
  obtain h | h := opens_append.mp hop
  · exact hb.data_posted k j hk h
  · obtain ⟨-, rfl⟩ := opens_singleton.mp h
    have hnil : dataOf i b.posted = [] :=
      dataOf_eq_nil fun g hg hop => hnew g hg (Or.inr (Or.inl hop))
    rw [hnil, hfrom k hk]
    exact ⟨List.prefix_rfl, fun _ => rfl⟩

/-- The DATA of a stream, recorded and posted. -/
lemma post_data (hb : b.Orderly) (hmax : b.issued.length < 2 ^ 32) {k : BrowserSink}
    {i : UInt32} (hk : b.issued[k]? = some i) (bytes : Bytes)
    (hall : Opens i b.posted → dataOf i b.posted = ofKey k b.fromBrowser) :
    ((b.recordData k bytes).post ⟨.DATA, i, bytes⟩).Orderly := by
  refine hb.post_of (b.fromBrowser ++ [(k, bytes)]) (fun _ => List.mem_of_getElem? hk)
    (fun g _ h => by cases h) (fun h => by cases h) ?_ fun l j hl hop => ?_
  · intro l x hx
    obtain hx | hx := List.mem_append.mp hx
    · exact hb.from_issued l x hx
    · obtain ⟨rfl, rfl⟩ := Prod.mk.inj (List.mem_singleton.mp hx)
      exact (hb.getElem?_issued hk).1
  · have hop' : Opens j b.posted := by
      obtain h | h := opens_append.mp hop
      · exact h
      · cases (opens_singleton.mp h).1
    by_cases hlk : l = k
    · subst hlk
      obtain rfl := Option.some.inj (hk.symm.trans hl)
      rw [dataOf_append, dataOf_self, ofKey_append, ofKey_self, hall hop']
      exact ⟨List.prefix_rfl, fun _ => rfl⟩
    · have hij : i ≠ j := by
        rintro rfl
        exact hlk (hb.issued_inj hmax hl hk)
      rw [dataOf_append, dataOf_singleton (isData_of_ne hij), ofKey_append,
        ofKey_of_ne (Ne.symm hlk), List.append_nil, List.append_nil]
      exact hb.data_posted l j hl hop'

/-- Data that is recorded and not posted, of a stream that is not registered or not opened. -/
lemma recordData (hb : b.Orderly) {k : BrowserSink} {i : UInt32} (hk : b.issued[k]? = some i)
    (bytes : Bytes)
    (hdead : Opens i b.posted → i ∉ b.browsers) : (b.recordData k bytes).Orderly where
  issued_eq := hb.issued_eq
  next_eq := hb.next_eq
  lookup := hb.lookup
  stream_issued := hb.stream_issued
  open_first := hb.open_first
  open_placed := hb.open_placed
  tunnel_armed := hb.tunnel_armed
  data_posted l j hl hop := by
    obtain ⟨hpre, heq⟩ := hb.data_posted l j hl hop
    simp only [Books.recordData, ofKey_append]
    refine ⟨hpre.trans (List.prefix_append _ _), ?_⟩
    intro hj
    have hlk : k ≠ l := by
      rintro rfl
      obtain rfl := Option.some.inj (hk.symm.trans hl)
      exact hdead hop hj
    rw [ofKey_of_ne hlk, List.append_nil]
    exact heq hj
  from_issued l x hx := by
    obtain hx | hx := List.mem_append.mp hx
    · exact hb.from_issued l x hx
    · obtain ⟨rfl, rfl⟩ := Prod.mk.inj (List.mem_singleton.mp hx)
      exact (hb.getElem?_issued hk).1
  to_issued := hb.to_issued
  to_heard := hb.to_heard
  to_live := hb.to_live
  heard_opened := hb.heard_opened
  heard_used := hb.heard_used

/-- The CLOSE of a stream that is no longer registered. -/
lemma post_close (hb : b.Orderly) {i : UInt32} (hi : i ∈ b.issued) (reason : Bytes) :
    (b.post ⟨.CLOSE, i, reason⟩).Orderly := by
  refine hb.post_of b.fromBrowser (fun _ => hi) (fun g _ h => by cases h)
    (fun h => by cases h) hb.from_issued fun k j hk hop => ?_
  have hop' : Opens j b.posted := by
    obtain h | h := opens_append.mp hop
    · exact h
    · cases (opens_singleton.mp h).1
  rw [dataOf_append, dataOf_singleton (isData_of_op (by simp)), List.append_nil]
  exact hb.data_posted k j hk hop'

lemma lookup_of_erase {i j : UInt32} {k : BrowserSink}
    (h : (b.browsers.erase j).lookup i = some k) : b.browsers.lookup i = some k := by
  by_cases hij : i = j
  · subst hij
    simp at h
  · rwa [AList.lookup_erase_ne hij] at h

lemma deregister (hb : b.Orderly) (j : UInt32) : (b.deregister j).Orderly where
  issued_eq := hb.issued_eq
  next_eq := hb.next_eq
  lookup i k h := hb.lookup i k (lookup_of_erase h)
  stream_issued := hb.stream_issued
  open_first := hb.open_first
  open_placed i hi := hb.open_placed i (AList.mem_erase.mp hi).2
  tunnel_armed i hi := hb.tunnel_armed i (AList.mem_erase.mp hi).2
  data_posted k i hk hopen :=
    ⟨(hb.data_posted k i hk hopen).1,
      fun hi => (hb.data_posted k i hk hopen).2 (AList.mem_erase.mp hi).2⟩
  from_issued := hb.from_issued
  to_issued := hb.to_issued
  to_heard := hb.to_heard
  to_live i k h := hb.to_live i k (lookup_of_erase h)
  heard_opened := hb.heard_opened
  heard_used := hb.heard_used

/-- What is registered after an upgrade. -/
lemma lookup_register (hb : b.Orderly) (hmax : b.issued.length + 1 < 2 ^ 32) {i : UInt32}
    {k : BrowserSink} (h : b.register.browsers.lookup i = some k) :
    b.browsers.lookup i = some k ∨ i = b.next ∧ k = b.issued.length := by
  have hnew : b.next ∉ b.browsers := fun hmem => hb.next_notMem hmax (hb.mem_issued hmem)
  simp only [Books.register, hnew, if_false] at h
  by_cases hi : i = b.next
  · subst hi
    rw [AList.lookup_insert] at h
    exact Or.inr ⟨rfl, (Option.some.inj h).symm⟩
  · rw [AList.lookup_insert_ne hi] at h
    exact Or.inl h

lemma mem_register (hb : b.Orderly) (hmax : b.issued.length + 1 < 2 ^ 32) {i : UInt32}
    (h : i ∈ b.register.browsers) : i ∈ b.browsers ∨ i = b.next := by
  obtain ⟨k, hk⟩ := Option.isSome_iff_exists.mp (AList.lookup_isSome.mpr h)
  obtain hold | ⟨rfl, -⟩ := hb.lookup_register hmax hk
  · exact Or.inl (AList.lookup_isSome.mp (by simp [hold]))
  · exact Or.inr rfl

/-- Nothing was posted under the next id. -/
lemma stream_ne_next (hb : b.Orderly) (hmax : b.issued.length + 1 < 2 ^ 32) :
    ∀ g ∈ b.posted, g.IsStream → g.streamId ≠ b.next :=
  fun g hg hs heq => hb.next_notMem hmax (heq ▸ hb.stream_issued g hg hs)

lemma not_opens_next (hb : b.Orderly) (hmax : b.issued.length + 1 < 2 ^ 32) :
    ¬ Opens b.next b.posted :=
  fun h => hb.next_notMem hmax (hb.issued_of_opens h)

lemma register (hb : b.Orderly) (hmax : b.issued.length + 1 < 2 ^ 32) : b.register.Orderly where
  issued_eq := by
    simp only [Books.register, List.length_append, List.length_singleton, List.range_succ,
      List.map_append, List.map_singleton, ← hb.issued_eq, hb.next_eq]
  next_eq := by
    simp only [Books.register, hb.next_eq, List.length_append, List.length_singleton]
    exact (UInt32.ofNat_add _ _).symm
  lookup i k h := by
    obtain hold | ⟨rfl, rfl⟩ := hb.lookup_register hmax h
    · have hk := hb.lookup i k hold
      rw [Books.register, List.getElem?_append_left (hb.getElem?_issued hk).1]
      exact hk
    · simp [Books.register]
  stream_issued f hf hs := List.mem_append_left _ (hb.stream_issued f hf hs)
  open_first := hb.open_first
  open_placed i hi hopen := by
    obtain hold | rfl := hb.mem_register hmax hi
    · exact hb.open_placed i hold hopen
    · exact absurd hopen (hb.not_opens_next hmax)
  tunnel_armed i hi hopen := by
    obtain hold | rfl := hb.mem_register hmax hi
    · exact hb.tunnel_armed i hold hopen
    · exact absurd hopen (hb.not_opens_next hmax)
  data_posted k i hk hopen := by
    have hi : i ∈ b.issued := hb.issued_of_opens hopen
    have hk' : b.issued[k]? = some i := by
      rw [Books.register, List.getElem?_append] at hk
      split_ifs at hk with hlt
      · exact hk
      · have : i = b.next := by simpa using List.mem_of_getElem? hk
        exact absurd (this ▸ hi) (hb.next_notMem hmax)
    refine ⟨(hb.data_posted k i hk' hopen).1, ?_⟩
    intro hmem
    obtain hold | rfl := hb.mem_register hmax hmem
    · exact (hb.data_posted k i hk' hopen).2 hold
    · exact absurd hopen (hb.not_opens_next hmax)
  from_issued k x hx := by
    simpa [Books.register] using Nat.lt_succ_of_lt (hb.from_issued k x hx)
  to_issued k x hx := by
    simpa [Books.register] using Nat.lt_succ_of_lt (hb.to_issued k x hx)
  to_heard k i hk := by
    rw [Books.register, List.getElem?_append] at hk
    split_ifs at hk with hlt
    · exact hb.to_heard k i hk
    · exact Or.inl (ofKey_eq_nil fun x hx => hlt (hb.to_issued k x hx))
  to_live i k h := by
    obtain hold | ⟨rfl, rfl⟩ := hb.lookup_register hmax h
    · exact hb.to_live i k hold
    · have hto : ofKey b.issued.length b.toBrowser = [] :=
        ofKey_eq_nil fun x hx => (hb.to_issued _ x hx).false
      refine ⟨fun c _ => hto.trans (dataOf_eq_nil fun f hf hop heq => ?_).symm, fun _ => hto⟩
      exact hb.not_opens_next hmax (heq ▸ hb.heard_opened c f (mem_ofKey.mp hf) hop)
  heard_opened := hb.heard_opened
  heard_used := hb.heard_used

/-- Hearing a frame that is not delivered: one that is not DATA, or of no registered stream. -/
lemma hear (hb : b.Orderly) {c : ConnId} {f : Frame} (hc : c ∈ b.out.used)
    (hopen : f.op = .DATA → Opens f.streamId b.posted)
    (hdead : f.op = .DATA → f.streamId ∉ b.browsers) : (b.hear c f).Orderly where
  issued_eq := hb.issued_eq
  next_eq := hb.next_eq
  lookup := hb.lookup
  stream_issued := hb.stream_issued
  open_first := hb.open_first
  open_placed := hb.open_placed
  tunnel_armed := hb.tunnel_armed
  data_posted := hb.data_posted
  from_issued := hb.from_issued
  to_issued := hb.to_issued
  to_heard k i hk := by
    obtain hnil | ⟨d, hop, hpre⟩ := hb.to_heard k i hk
    · exact Or.inl hnil
    · refine Or.inr ⟨d, hop, hpre.trans ( dataOf_prefix ?_)⟩
      rw [Books.hear, ofKey_append]
      exact List.prefix_append _ _
  to_live i k hk := by
    refine ⟨?_, (hb.to_live i k hk).2⟩
    intro d hd
    have hother : dataOf i (ofKey d [(c, f)]) = [] := by
      apply dataOf_eq_nil
      intro g hg hop heq
      obtain ⟨rfl, rfl⟩ := Prod.mk.inj (List.mem_singleton.mp (mem_ofKey.mp hg))
      exact hdead hop (heq ▸ AList.lookup_isSome.mp (Option.isSome_iff_exists.mpr ⟨k, hk⟩))
    rw [Books.hear, ofKey_append, dataOf_append, hother, List.append_nil]
    exact (hb.to_live i k hk).1 d hd
  heard_opened d g hg hop := by
    obtain hg | hg := List.mem_append.mp hg
    · exact hb.heard_opened d g hg hop
    · obtain ⟨rfl, rfl⟩ := Prod.mk.inj (List.mem_singleton.mp hg)
      exact hopen hop
  heard_used d g hg := by
    obtain hg | hg := List.mem_append.mp hg
    · exact hb.heard_used d g hg
    · obtain ⟨rfl, rfl⟩ := Prod.mk.inj (List.mem_singleton.mp hg)
      exact hc

/-- Delivering the DATA of a registered stream. -/
lemma deliver (hb : b.Orderly) {c : ConnId} {i : UInt32} {k : BrowserSink} {p : Bytes}
    (hconn : b.out.conn = some c) (hc : c ∈ b.out.used)
    (hopen : Opens i b.posted) (hk : b.browsers.lookup i = some k) :
    ((b.deliver k p).hear c ⟨.DATA, i, p⟩).Orderly := by
  have hmem : i ∈ b.browsers := AList.lookup_isSome.mp (by simp [hk])
  have hki : b.issued[k]? = some i := hb.lookup i k hk
  have hall : ofKey k b.toBrowser = dataOf i (ofKey c b.heard) := (hb.to_live i k hk).1 c hconn
  refine
    { issued_eq := hb.issued_eq
      next_eq := hb.next_eq
      lookup := hb.lookup
      stream_issued := hb.stream_issued
      open_first := hb.open_first
      open_placed := hb.open_placed
      tunnel_armed := hb.tunnel_armed
      data_posted := hb.data_posted
      from_issued := hb.from_issued
      to_issued := ?_
      to_heard := ?_
      to_live := ?_
      heard_opened := ?_
      heard_used := ?_ }
  · intro l x hx
    obtain hx | hx := List.mem_append.mp hx
    · exact hb.to_issued l x hx
    · obtain ⟨rfl, rfl⟩ := Prod.mk.inj (List.mem_singleton.mp hx)
      exact (hb.getElem?_issued hki).1
  · intro l j hl
    simp only [Books.hear, Books.deliver, ofKey_append]
    by_cases hlk : l = k
    · subst hlk
      obtain rfl := Option.some.inj (hki.symm.trans hl)
      refine Or.inr ⟨c, (hb.open_placed i hmem hopen).1 c hconn, ?_⟩
      rw [ofKey_self, ofKey_self, dataOf_append, dataOf_self, hall]
    · rw [ofKey_of_ne (Ne.symm hlk), List.append_nil]
      obtain hnil | ⟨d, hop, hpre⟩ := hb.to_heard l j hl
      · exact Or.inl hnil
      · exact Or.inr ⟨d, hop, hpre.trans ( dataOf_prefix (List.prefix_append _ _))⟩
  · intro j l hl
    constructor
    · intro d hd
      obtain rfl : c = d := Option.some.inj (hconn.symm.trans hd)
      simp only [Books.hear, Books.deliver, ofKey_append, ofKey_self, dataOf_append]
      by_cases hij : i = j
      · subst hij
        obtain rfl : k = l := Option.some.inj (hk.symm.trans hl)
        rw [ofKey_self, dataOf_self, hall]
      · have hlk : k ≠ l := by
          rintro rfl
          exact hij (Option.some.inj (hki.symm.trans (hb.lookup j k hl)))
        rw [ofKey_of_ne hlk, dataOf_singleton (isData_of_ne hij), List.append_nil, List.append_nil]
        exact (hb.to_live j l hl).1 c hconn
    · intro hnone
      exact absurd (hconn.symm.trans hnone) (by simp)
  · intro d g hg hop
    obtain hg | hg := List.mem_append.mp hg
    · exact hb.heard_opened d g hg hop
    · obtain ⟨rfl, rfl⟩ := Prod.mk.inj (List.mem_singleton.mp hg)
      exact hopen
  · intro d g hg
    obtain hg | hg := List.mem_append.mp hg
    · exact hb.heard_used d g hg
    · obtain ⟨rfl, rfl⟩ := Prod.mk.inj (List.mem_singleton.mp hg)
      exact hc

end Orderly

end Books

end Cloud
