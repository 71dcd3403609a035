import OnPremPbx.Agent.Invariant
import OnPremPbx.Tunnel.Streams

/-!
# The books of the agent end

The counterpart of the books of the cloud end: which streams to Asterisk are open under which id,
what each of them was given and produced, what was handed to the tunnel and heard from it.
-/

open Framing SipFrame

/-- The part of the state that the streams depend on. -/
structure Agent.Books where
  out : Outbound ConnId Frame
  transport : Option ConnId
  /-- the demux has a tunnel -/
  tunnel : Bool
  streams : AList fun _ : UInt32 => AsteriskStream
  opened : List UInt32
  handed : List (AsteriskStream × Bytes)
  produced : List (AsteriskStream × Bytes)
  heard : List (ConnId × Frame)

namespace Agent

def books (s : Agent) : Books where
  out := s.outbound
  transport := s.connector.transport
  tunnel := s.demux.tunnel.isSome
  streams := s.demux.streams
  opened := s.trace.opened
  handed := s.trace.handed
  produced := s.trace.produced
  heard := s.trace.heard

namespace Books

/-- The frames handed to the tunnel. -/
def posted (b : Books) : List Frame := kept b.out.passed

def post (f : Frame) (b : Books) : Books := { b with out := b.out.post f }

/-- A disconnect is put off to the next tick. -/
def request (b : Books) : Books := { b with out := b.out.drop }

/-- A disconnect is put off after a failed write. -/
def tear (c : ConnId) (f : Frame) (n : ℕ) (b : Books) : Books :=
  { b with out := b.out.tear c f n }

/-- The connection is given up: no stream stays. -/
def lose (b : Books) : Books :=
  { b with out := b.out.drop, transport := none, tunnel := false, streams := ∅ }

def attach (c : ConnId) (b : Books) : Books :=
  { b with out := b.out.flush c, transport := some c, tunnel := true }

/-- A connection that is lost while the queue is flushed to it. -/
def attachUpTo (c : ConnId) (sent : List Frame) (f : Frame) (rest : List Frame) (n : ℕ)
    (b : Books) : Books :=
  { b with out := b.out.flushUpTo c sent f rest n, transport := none, tunnel := true,
           streams := ∅ }

def enter (i : UInt32) (b : Books) : Books :=
  { b with streams := b.streams.insert i b.opened.length, opened := b.opened ++ [i] }

def forget (i : UInt32) (b : Books) : Books := { b with streams := b.streams.erase i }

def recordData (r : AsteriskStream) (bytes : Bytes) (b : Books) : Books :=
  { b with produced := b.produced ++ [(r, bytes)] }

def hand (r : AsteriskStream) (bytes : Bytes) (b : Books) : Books :=
  { b with handed := b.handed ++ [(r, bytes)] }

def hear (c : ConnId) (f : Frame) (b : Books) : Books := { b with heard := b.heard ++ [(c, f)] }

/-- The invariant of the streams. -/
structure Orderly (b : Books) : Prop where
  lookup : ∀ i r, b.streams.lookup i = some r → b.opened[r]? = some i
  opened_nodup : b.opened.Nodup
  armed : b.transport.isSome → b.tunnel = true
  /-- only an open stream hands its data to the tunnel, all that it produces -/
  data_opened : ∀ f ∈ b.posted, f.op = .DATA → f.streamId ∈ b.opened
  data_posted : ∀ r i, b.opened[r]? = some i →
    dataOf i b.posted <+: ofKey r b.produced ∧
    (i ∈ b.streams → dataOf i b.posted = ofKey r b.produced)
  produced_opened : ∀ r x, (r, x) ∈ b.produced → r < b.opened.length
  handed_opened : ∀ r x, (r, x) ∈ b.handed → r < b.opened.length
  /-- a stream belongs to the connection its OPEN was heard on: it is given what is heard of it
  there, and what it produces goes there first -/
  opened_on : ∀ r i, b.opened[r]? = some i → ∃ c, Opens i (ofKey c b.heard) ∧
    b.out.First (isData i) c ∧ ofKey r b.handed <+: dataOf i (ofKey c b.heard) ∧
    (i ∈ b.streams → b.transport = some c ∧ ofKey r b.handed = dataOf i (ofKey c b.heard))
  heard_used : ∀ c f, (c, f) ∈ b.heard → c ∈ b.out.used
  /-- a stream that either side closed is not open -/
  close_posted : ∀ i, Closes i b.posted → i ∉ b.streams ∧ ∃ c, Opens i (ofKey c b.heard)
  close_heard : ∀ c i, b.transport = some c → Closes i (ofKey c b.heard) → i ∉ b.streams

namespace Orderly

variable {b : Books}

lemma mem_of_lookup {i : UInt32} {r : AsteriskStream} (h : b.streams.lookup i = some r) :
    i ∈ b.streams := AList.lookup_isSome.mp (Option.isSome_iff_exists.mpr ⟨r, h⟩)

lemma exists_lookup {i : UInt32} (h : i ∈ b.streams) : ∃ r, b.streams.lookup i = some r :=
  Option.isSome_iff_exists.mp (AList.lookup_isSome.mpr h)

/-- No id is opened twice. -/
lemma opened_inj (hb : b.Orderly) {r r' : AsteriskStream} {i : UInt32}
    (hr : b.opened[r]? = some i) (hr' : b.opened[r']? = some i) : r = r' := by
  obtain ⟨hlt, hi⟩ := List.getElem?_eq_some_iff.mp hr
  obtain ⟨hlt', hi'⟩ := List.getElem?_eq_some_iff.mp hr'
  exact (hb.opened_nodup.getElem_inj_iff).mp (hi.trans hi'.symm)

lemma opens_of_opened (hb : b.Orderly) {i : UInt32} (h : i ∈ b.opened) :
    ∃ c, Opens i (ofKey c b.heard) := by
  obtain ⟨r, hr⟩ := List.mem_iff_getElem?.mp h
  obtain ⟨c, hopen, -⟩ := hb.opened_on r i hr
  exact ⟨c, hopen⟩

/-- An open stream belongs to the current connection. -/
lemma opens_of_stream (hb : b.Orderly) {i : UInt32} (h : i ∈ b.streams) :
    ∃ c, b.transport = some c ∧ Opens i (ofKey c b.heard) := by
  obtain ⟨r, hr⟩ := exists_lookup h
  obtain ⟨c, hopen, -, -, hlive⟩ := hb.opened_on r i (hb.lookup i r hr)
  exact ⟨c, (hlive h).1, hopen⟩

lemma tunnel_of_stream (hb : b.Orderly) {i : UInt32} (h : i ∈ b.streams) : b.tunnel = true := by
  obtain ⟨c, hc, -⟩ := hb.opens_of_stream h
  exact hb.armed (by simp [hc])

/-! ### The operations keep the books orderly -/

/-- The queue changes, nothing is posted, and the connection may be gone with its streams. -/
private lemma rewire (hb : b.Orderly) {out : Outbound ConnId Frame} {transport : Option ConnId}
    {tunnel : Bool} {streams : AList fun _ : UInt32 => AsteriskStream}
    (hposted : kept out.passed = b.posted) (hused : ∀ c ∈ b.out.used, c ∈ out.used)
    (hfirst : ∀ i c, b.out.First (isData i) c → out.First (isData i) c)
    (harmed : transport.isSome → tunnel = true)
    (hstreams : streams = ∅ ∨ streams = b.streams ∧ transport = b.transport) :
    Orderly
      { b with out := out, transport := transport, tunnel := tunnel, streams := streams } := by
  have hlookup : ∀ i r, streams.lookup i = some r → b.streams.lookup i = some r := by
    obtain rfl | ⟨rfl, -⟩ := hstreams
    · simp
    · exact fun _ _ h => h
  have hmem : ∀ i, i ∈ streams → i ∈ b.streams ∧ transport = b.transport := by
    intro i hi
    obtain rfl | ⟨rfl, rfl⟩ := hstreams
    · exact absurd hi (AList.notMem_empty i)
    · exact ⟨hi, rfl⟩
  refine
    { lookup := fun i r h => hb.lookup i r (hlookup i r h)
      opened_nodup := hb.opened_nodup
      armed := harmed
      data_opened := ?_
      data_posted := ?_
      produced_opened := hb.produced_opened
      handed_opened := hb.handed_opened
      opened_on := ?_
      heard_used := fun c f h => hused c (hb.heard_used c f h)
      close_posted := ?_
      close_heard := ?_ }
  · simpa only [posted, hposted] using hb.data_opened
  · simp only [posted, hposted]
    exact fun r i hr =>
      ⟨(hb.data_posted r i hr).1, fun hi => (hb.data_posted r i hr).2 (hmem i hi).1⟩
  · intro r i hr
    obtain ⟨c, hopen, hf, hpre, hlive⟩ := hb.opened_on r i hr
    refine ⟨c, hopen, hfirst i c hf, hpre, ?_⟩
    intro hi
    obtain ⟨hi', htransport⟩ := hmem i hi
    exact ⟨htransport.trans (hlive hi').1, (hlive hi').2⟩
  · simp only [posted, hposted]
    exact fun i hi => ⟨fun hs => (hb.close_posted i hi).1 (hmem i hs).1, (hb.close_posted i hi).2⟩
  · intro c i hc hclose hi
    obtain ⟨hi', htransport⟩ := hmem i hi
    exact hb.close_heard c i (htransport ▸ hc) hclose hi'

lemma request (hb : b.Orderly) : b.request.Orderly :=
  hb.rewire rfl (fun _ h => h) (fun _ _ h => h.drop) hb.armed (Or.inr ⟨rfl, rfl⟩)

lemma tear (hb : b.Orderly) (c : ConnId) (f : Frame) (n : ℕ) : (b.tear c f n).Orderly :=
  hb.rewire rfl (fun _ h => h) (fun _ _ h => h.tear c f n) hb.armed (Or.inr ⟨rfl, rfl⟩)

lemma lose (hb : b.Orderly) : b.lose.Orderly :=
  hb.rewire rfl (fun _ h => h) (fun _ _ h => h.drop) (by simp) (Or.inl rfl)

lemma streams_eq_empty (hb : b.Orderly) (hnone : b.transport = none) : b.streams = ∅ := by
  have hnil : b.streams.entries = [] := by
    refine List.eq_nil_iff_forall_not_mem.mpr ?_
    rintro ⟨i, r⟩ hmem
    obtain ⟨c, hc, -⟩ := hb.opens_of_stream (mem_of_lookup (AList.mem_lookup_iff.mpr hmem))
    simp [hnone] at hc
  exact AList.ext hnil

lemma attach (hb : b.Orderly) (hnone : b.transport = none) {c : ConnId} (hc : c ∉ b.out.used) :
    (b.attach c).Orderly := by
  have h : Orderly
      { b with out := b.out.flush c, transport := some c, tunnel := true, streams := ∅ } :=
    hb.rewire rfl (fun _ h => List.mem_append_left _ h) (fun _ _ h => h.flush hc) (fun _ => rfl)
      (Or.inl rfl)
  rwa [← hb.streams_eq_empty hnone] at h

lemma attachUpTo (hb : b.Orderly) (hconn : b.out.conn = none) {c : ConnId} (hc : c ∉ b.out.used)
    (sent : List Frame) (f : Frame) (rest : List Frame) (n : ℕ) :
    (b.attachUpTo c sent f rest n).Orderly :=
  hb.rewire rfl (fun _ h => List.mem_append_left _ h)
    (fun _ _ h => h.flushUpTo hc hconn sent f rest n) (by simp) (Or.inl rfl)

/-- Posting a frame, with what the streams have produced by then. -/
private lemma post_of (hb : b.Orderly) {f : Frame} (produced : List (AsteriskStream × Bytes))
    (hopened : f.op = .DATA → f.streamId ∈ b.opened)
    (hproduced : ∀ r x, (r, x) ∈ produced → r < b.opened.length)
    (hdata : ∀ r i, b.opened[r]? = some i →
      dataOf i (b.posted ++ [f]) <+: ofKey r produced ∧
      (i ∈ b.streams → dataOf i (b.posted ++ [f]) = ofKey r produced))
    (hclose : f.op = .CLOSE → f.streamId ∉ b.streams ∧
      ∃ c, Opens f.streamId (ofKey c b.heard)) :
    (Books.post f { b with produced := produced }).Orderly := by
  have hposted : (Books.post f { b with produced := produced }).posted = b.posted ++ [f] :=
    b.out.kept_passed_post f
  refine
    { lookup := hb.lookup
      opened_nodup := hb.opened_nodup
      armed := hb.armed
      data_opened := ?_
      data_posted := by rwa [hposted]
      produced_opened := hproduced
      handed_opened := hb.handed_opened
      opened_on := ?_
      heard_used := fun c g h => by simpa [Books.post] using hb.heard_used c g h
      close_posted := ?_
      close_heard := hb.close_heard }
  · rw [hposted]
    intro g hg
    obtain hg | hg := List.mem_append.mp hg
    · exact hb.data_opened g hg
    · rwa [List.mem_singleton.mp hg]
  · intro r i hr
    obtain ⟨c, hopen, hfirst, hrest⟩ := hb.opened_on r i hr
    exact ⟨c, hopen, hfirst.post f, hrest⟩
  · rw [hposted]
    intro i hi
    obtain hi | hi := closes_append.mp hi
    · exact hb.close_posted i hi
    · obtain ⟨hop, rfl⟩ := closes_singleton.mp hi
      exact hclose hop

/-- What was posted of a stream does not change with a frame that is not DATA. -/
private lemma data_posted_append (hb : b.Orderly) {f : Frame} (hf : f.op ≠ .DATA) :
    ∀ r i, b.opened[r]? = some i → dataOf i (b.posted ++ [f]) <+: ofKey r b.produced ∧
      (i ∈ b.streams → dataOf i (b.posted ++ [f]) = ofKey r b.produced) := by
  intro r i hr
  rw [dataOf_append, dataOf_singleton (isData_of_op hf), List.append_nil]
  exact hb.data_posted r i hr

/-- A frame that is neither DATA nor CLOSE. -/
lemma post_control (hb : b.Orderly) {f : Frame} (hdata : f.op ≠ .DATA) (hclose : f.op ≠ .CLOSE) :
    (b.post f).Orderly :=
  hb.post_of b.produced (fun h => absurd h hdata) hb.produced_opened
    (hb.data_posted_append hdata) fun h => absurd h hclose

/-- The CLOSE of a stream that was opened or asked for, and is not open. -/
lemma post_close (hb : b.Orderly) {i : UInt32} (hi : i ∉ b.streams)
    (hopen : ∃ c, Opens i (ofKey c b.heard)) (reason : Bytes) :
    (b.post ⟨.CLOSE, i, reason⟩).Orderly :=
  hb.post_of b.produced (fun h => by cases h) hb.produced_opened
    (hb.data_posted_append (by simp)) fun _ => ⟨hi, hopen⟩

private lemma produced_lt (hb : b.Orderly) {r : AsteriskStream} {i : UInt32}
    (hr : b.opened[r]? = some i) (bytes : Bytes) :
    ∀ r' x, (r', x) ∈ b.produced ++ [(r, bytes)] → r' < b.opened.length := by
  intro r' x hx
  obtain hx | hx := List.mem_append.mp hx
  · exact hb.produced_opened r' x hx
  · obtain ⟨rfl, rfl⟩ := Prod.mk.inj (List.mem_singleton.mp hx)
    exact (List.getElem?_eq_some_iff.mp hr).1

/-- What an open stream produces, recorded and posted. -/
lemma post_data (hb : b.Orderly) {r : AsteriskStream} {i : UInt32} (hr : b.opened[r]? = some i)
    (hi : i ∈ b.streams) (bytes : Bytes) :
    ((b.recordData r bytes).post ⟨.DATA, i, bytes⟩).Orderly := by
  refine hb.post_of (b.produced ++ [(r, bytes)]) (fun _ => List.mem_of_getElem? hr)
    (hb.produced_lt hr bytes) (fun l j hl => ?_) fun h => by cases h
  by_cases hlr : l = r
  · subst hlr
    obtain rfl := Option.some.inj (hr.symm.trans hl)
    rw [dataOf_append, dataOf_self, ofKey_append, ofKey_self, (hb.data_posted l i hr).2 hi]
    exact ⟨List.prefix_rfl, fun _ => rfl⟩
  · have hij : i ≠ j := by
      rintro rfl
      exact hlr (hb.opened_inj hl hr)
    rw [dataOf_append, dataOf_singleton (isData_of_ne hij), ofKey_append,
      ofKey_of_ne (Ne.symm hlr), List.append_nil, List.append_nil]
    exact hb.data_posted l j hl

/-- What a stream produces that is no longer open. -/
lemma recordData (hb : b.Orderly) {r : AsteriskStream} {i : UInt32} (hr : b.opened[r]? = some i)
    (hi : i ∉ b.streams) (bytes : Bytes) : (b.recordData r bytes).Orderly where
  lookup := hb.lookup
  opened_nodup := hb.opened_nodup
  armed := hb.armed
  data_opened := hb.data_opened
  data_posted l j hl := by
    obtain ⟨hpre, heq⟩ := hb.data_posted l j hl
    simp only [Books.recordData, ofKey_append]
    refine ⟨hpre.trans (List.prefix_append _ _), ?_⟩
    intro hj
    have hlr : r ≠ l := by
      rintro rfl
      obtain rfl := Option.some.inj (hr.symm.trans hl)
      exact hi hj
    rw [ofKey_of_ne hlr, List.append_nil]
    exact heq hj
  produced_opened := hb.produced_lt hr bytes
  handed_opened := hb.handed_opened
  opened_on := hb.opened_on
  heard_used := hb.heard_used
  close_posted := hb.close_posted
  close_heard := hb.close_heard

lemma forget (hb : b.Orderly) (j : UInt32) : (b.forget j).Orderly where
  lookup i r h := by
    by_cases hij : i = j
    · subst hij
      simp [Books.forget] at h
    · rw [Books.forget, AList.lookup_erase_ne hij] at h
      exact hb.lookup i r h
  opened_nodup := hb.opened_nodup
  armed := hb.armed
  data_opened := hb.data_opened
  data_posted r i hr :=
    ⟨(hb.data_posted r i hr).1, fun hi => (hb.data_posted r i hr).2 (AList.mem_erase.mp hi).2⟩
  produced_opened := hb.produced_opened
  handed_opened := hb.handed_opened
  opened_on r i hr := by
    obtain ⟨c, hopen, hfirst, hpre, hlive⟩ := hb.opened_on r i hr
    exact ⟨c, hopen, hfirst, hpre, fun hi => hlive (AList.mem_erase.mp hi).2⟩
  heard_used := hb.heard_used
  close_posted i hi :=
    ⟨fun hs => (hb.close_posted i hi).1 (AList.mem_erase.mp hs).2, (hb.close_posted i hi).2⟩
  close_heard c i hc hclose hi := hb.close_heard c i hc hclose (AList.mem_erase.mp hi).2

private lemma heard_mem (hb : b.Orderly) {c : ConnId} (f : Frame) (hc : c ∈ b.out.used) :
    ∀ d g, (d, g) ∈ b.heard ++ [(c, f)] → d ∈ b.out.used := by
  intro d g hg
  obtain hg | hg := List.mem_append.mp hg
  · exact hb.heard_used d g hg
  · obtain ⟨rfl, rfl⟩ := Prod.mk.inj (List.mem_singleton.mp hg)
    exact hc

private lemma opens_heard {c d : ConnId} {f : Frame} {i : UInt32}
    (h : Opens i (ofKey d b.heard)) : Opens i (ofKey d (b.heard ++ [(c, f)])) := by
  rw [ofKey_append]
  exact opens_append.mpr (Or.inl h)

/-- Hearing a frame that concerns no open stream. -/
lemma hear (hb : b.Orderly) {c : ConnId} {f : Frame} (hc : c ∈ b.out.used)
    (hdead : f.op = .DATA ∨ f.op = .CLOSE → f.streamId ∉ b.streams) : (b.hear c f).Orderly where
  lookup := hb.lookup
  opened_nodup := hb.opened_nodup
  armed := hb.armed
  data_opened := hb.data_opened
  data_posted := hb.data_posted
  produced_opened := hb.produced_opened
  handed_opened := hb.handed_opened
  opened_on r i hr := by
    obtain ⟨d, hopen, hfirst, hpre, hlive⟩ := hb.opened_on r i hr
    refine ⟨d, opens_heard hopen, hfirst, ?_, ?_⟩
    · rw [Books.hear, ofKey_append, dataOf_append]
      exact hpre.trans (List.prefix_append _ _)
    · intro hi
      have hother : dataOf i (ofKey d [(c, f)]) = [] := by
        apply dataOf_eq_nil
        intro g hg hop heq
        obtain ⟨rfl, rfl⟩ := Prod.mk.inj (List.mem_singleton.mp (mem_ofKey.mp hg))
        exact hdead (Or.inl hop) (heq ▸ hi)
      rw [Books.hear, ofKey_append, dataOf_append, hother, List.append_nil]
      exact hlive hi
  heard_used := hb.heard_mem f hc
  close_posted i hi := by
    obtain ⟨hs, d, hopen⟩ := hb.close_posted i hi
    exact ⟨hs, d, opens_heard hopen⟩
  close_heard d i hd hclose hi := by
    rw [Books.hear, ofKey_append, closes_append] at hclose
    obtain hclose | ⟨g, hg, hop, heq⟩ := hclose
    · exact hb.close_heard d i hd hclose hi
    · obtain ⟨rfl, rfl⟩ := Prod.mk.inj (List.mem_singleton.mp (mem_ofKey.mp hg))
      exact hdead (Or.inr hop) (heq ▸ hi)

/-- Handing the DATA of an open stream to it. -/
lemma hand (hb : b.Orderly) {c : ConnId} {i : UInt32} {r : AsteriskStream} {p : Bytes}
    (htransport : b.transport = some c) (hc : c ∈ b.out.used)
    (hr : b.streams.lookup i = some r) : ((b.hand r p).hear c ⟨.DATA, i, p⟩).Orderly := by
  have hi : i ∈ b.streams := mem_of_lookup hr
  have hri : b.opened[r]? = some i := hb.lookup i r hr
  refine
    { lookup := hb.lookup
      opened_nodup := hb.opened_nodup
      armed := hb.armed
      data_opened := hb.data_opened
      data_posted := hb.data_posted
      produced_opened := hb.produced_opened
      handed_opened := ?_
      opened_on := ?_
      heard_used := hb.heard_mem _ hc
      close_posted := ?_
      close_heard := ?_ }
  · intro l x hx
    obtain hx | hx := List.mem_append.mp hx
    · exact hb.handed_opened l x hx
    · obtain ⟨rfl, rfl⟩ := Prod.mk.inj (List.mem_singleton.mp hx)
      exact (List.getElem?_eq_some_iff.mp hri).1
  · intro l j hl
    obtain ⟨d, hopen, hfirst, hpre, hlive⟩ := hb.opened_on l j hl
    simp only [Books.hear, Books.hand, ofKey_append, dataOf_append]
    refine ⟨d, opens_append.mpr (Or.inl hopen), hfirst, ?_⟩
    by_cases hlr : l = r
    · subst hlr
      obtain rfl := Option.some.inj (hri.symm.trans hl)
      obtain ⟨htd, hall⟩ := hlive hi
      obtain rfl : c = d := Option.some.inj (htransport.symm.trans htd)
      rw [ofKey_self, ofKey_self, dataOf_self, hall]
      exact ⟨List.prefix_rfl, fun _ => ⟨htransport, rfl⟩⟩
    · have hij : i ≠ j := by
        rintro rfl
        exact hlr (hb.opened_inj hl hri)
      have hother : dataOf j (ofKey d [(c, (⟨.DATA, i, p⟩ : Frame))]) = [] := by
        apply dataOf_eq_nil
        intro g hg _
        obtain ⟨rfl, rfl⟩ := Prod.mk.inj (List.mem_singleton.mp (mem_ofKey.mp hg))
        exact hij
      rw [ofKey_of_ne (Ne.symm hlr), hother, List.append_nil, List.append_nil]
      exact ⟨hpre, hlive⟩
  · intro j hj
    obtain ⟨hs, d, hopen⟩ := hb.close_posted j hj
    exact ⟨hs, d, opens_heard hopen⟩
  · intro d j hd hclose
    rw [Books.hear, ofKey_append, closes_append] at hclose
    obtain hclose | ⟨g, hg, hop, -⟩ := hclose
    · exact hb.close_heard d j hd hclose
    · obtain ⟨rfl, rfl⟩ := Prod.mk.inj (List.mem_singleton.mp (mem_ofKey.mp hg))
      cases hop

/-- Opening a stream whose OPEN was just heard, and which is new. -/
lemma enter (hb : b.Orderly) {c : ConnId} {i : UInt32} (htransport : b.transport = some c)
    (hopen : Opens i (ofKey c b.heard)) (hnew : i ∉ b.opened)
    (hnodata : dataOf i (ofKey c b.heard) = []) (hnoclose : ¬ Closes i (ofKey c b.heard))
    (hnoposted : ¬ Closes i b.posted) (hfirst : b.out.First (isData i) c) :
    (b.enter i).Orderly := by
  have hnone : dataOf i b.posted = [] :=
    dataOf_eq_nil fun f hf hop heq => hnew (heq ▸ hb.data_opened f hf hop)
  have hold : ∀ {r j}, (b.opened ++ [i])[r]? = some j →
      b.opened[r]? = some j ∨ r = b.opened.length ∧ j = i := by
    intro r j hr
    rw [List.getElem?_append] at hr
    split_ifs at hr with hlt
    · exact Or.inl hr
    · rw [List.getElem?_singleton] at hr
      split_ifs at hr with hz
      exact Or.inr ⟨by omega, (Option.some.inj hr).symm⟩
  have hstream : ∀ {j}, j ∈ (b.enter i).streams → j ≠ i → j ∈ b.streams := by
    intro j hj hji
    simpa [Books.enter, AList.mem_insert, hji] using hj
  have hne : ∀ {r j}, b.opened[r]? = some j → j ≠ i :=
    fun hr heq => hnew (heq ▸ List.mem_of_getElem? hr)
  refine
    { lookup := fun j r h => ?_
      opened_nodup := ?_
      armed := hb.armed
      data_opened := fun f hf hop => List.mem_append_left _ (hb.data_opened f hf hop)
      data_posted := fun r j hr => ?_
      produced_opened := fun r x hx => ?_
      handed_opened := fun r x hx => ?_
      opened_on := fun r j hr => ?_
      heard_used := hb.heard_used
      close_posted := fun j hj => ?_
      close_heard := fun d j hd hclose hj => ?_ }
  · by_cases hji : j = i
    · subst hji
      rw [Books.enter, AList.lookup_insert] at h
      obtain rfl := Option.some.inj h
      simp [Books.enter]
    · rw [Books.enter, AList.lookup_insert_ne hji] at h
      have hr := hb.lookup j r h
      rw [Books.enter, List.getElem?_append_left (List.getElem?_eq_some_iff.mp hr).1]
      exact hr
  · exact List.nodup_append.mpr ⟨hb.opened_nodup, List.nodup_singleton _,
      fun x hx y hy heq => hnew (List.mem_singleton.mp hy ▸ heq ▸ hx)⟩
  · obtain hr | ⟨rfl, rfl⟩ := hold hr
    · exact ⟨(hb.data_posted r j hr).1,
        fun hj => (hb.data_posted r j hr).2 (hstream hj (hne hr))⟩
    · have hnil : ofKey b.opened.length b.produced = [] :=
        ofKey_eq_nil fun x hx => (hb.produced_opened _ x hx).false
      simp only [Books.enter, posted] at hnone ⊢
      rw [hnone, hnil]
      exact ⟨List.prefix_rfl, fun _ => rfl⟩
  · simpa [Books.enter] using Nat.lt_succ_of_lt (hb.produced_opened r x hx)
  · simpa [Books.enter] using Nat.lt_succ_of_lt (hb.handed_opened r x hx)
  · obtain hr | ⟨rfl, rfl⟩ := hold hr
    · obtain ⟨d, hop, hf, hpre, hlive⟩ := hb.opened_on r j hr
      exact ⟨d, hop, hf, hpre, fun hj => hlive (hstream hj (hne hr))⟩
    · have hnil : ofKey b.opened.length b.handed = [] :=
        ofKey_eq_nil fun x hx => (hb.handed_opened _ x hx).false
      refine ⟨c, hopen, hfirst, ?_, fun _ => ⟨htransport, ?_⟩⟩
      · rw [Books.enter, hnil]
        exact List.nil_prefix
      · rw [Books.enter, hnil, hnodata]
  · have hji : j ≠ i := by
      rintro rfl
      exact hnoposted hj
    exact ⟨fun hs => (hb.close_posted j hj).1 (hstream hs hji), (hb.close_posted j hj).2⟩
  · have hji : j ≠ i := by
      rintro rfl
      obtain rfl : c = d := Option.some.inj (htransport.symm.trans hd)
      exact hnoclose hclose
    exact hb.close_heard d j hd hclose (hstream hj hji)

end Orderly

end Books

end Agent
