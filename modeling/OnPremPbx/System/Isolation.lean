import OnPremPbx.System.Invariant

/-!
# Streams are isolated and in order

What an Asterisk stream is given is a beginning of what the browser of its stream id sent, and
what a browser is given is a beginning of what the one Asterisk stream of its id produced.
-/

open Framing SipFrame

namespace System

/-- The byte strings that a browser sent, and that were handed to it. -/
def sentBy (s : System) (b : BrowserSink) : List Bytes := ofKey b s.cloud.trace.fromBrowser
def givenTo (s : System) (b : BrowserSink) : List Bytes := ofKey b s.cloud.trace.toBrowser

/-- The byte strings that an Asterisk stream produced, and that were handed to it. -/
def producedBy (s : System) (a : ℕ) (r : AsteriskStream) : List Bytes :=
  ofKey r (s.agents a).trace.produced
def handedTo (s : System) (a : ℕ) (r : AsteriskStream) : List Bytes :=
  ofKey r (s.agents a).trace.handed

/-- The stream `r` of the agent `a` was opened for the stream id `i`. -/
def OpenedFor (s : System) (a : ℕ) (r : AsteriskStream) (i : UInt32) : Prop :=
  (s.agents a).trace.opened[r]? = some i

/-- The upgrade of the browser `b` returned the stream id `i`. -/
def IssuedTo (s : System) (b : BrowserSink) (i : UInt32) : Prop :=
  s.cloud.trace.issued[b]? = some i

instance (s : System) (a : ℕ) (r : AsteriskStream) (i : UInt32) :
    Decidable (s.OpenedFor a r i) :=
  inferInstanceAs (Decidable (_ = _))

instance (s : System) (b : BrowserSink) (i : UInt32) : Decidable (s.IssuedTo b i) :=
  inferInstanceAs (Decidable (_ = _))

namespace Inv

variable {s : System}

/-- What the cloud wrote of a stream to the connection it opened it on is a beginning of what it
posted of it. -/
lemma dataOf_on_prefix (hs : s.Inv) {i : UInt32} {c : ConnId}
    (h : Opens i (s.cloud.outbound.on c)) :
    dataOf i (s.cloud.outbound.on c) <+: dataOf i s.cloud.books.posted := by
  obtain ⟨before, later, hposted, -⟩ := hs.cloud.wf.segment c
  have hfirst : (before ++ s.cloud.outbound.on c ++ later).Pairwise OpenFirst :=
    hposted ▸ hs.cloud_orderly.open_first
  have hnil : dataOf i before = [] :=
    dataOf_eq_nil_of_opens (List.pairwise_append.mp hfirst).1 h
  have hsplit : s.cloud.books.posted = before ++ s.cloud.outbound.on c ++ later := hposted
  rw [hsplit, dataOf_append, dataOf_append, hnil, List.nil_append]
  exact List.prefix_append _ _

lemma handed_prefix (hs : s.Inv) {a : ℕ} {r : AsteriskStream} {i : UInt32}
    (h : s.OpenedFor a r i) : ∃ b, s.IssuedTo b i ∧ s.handedTo a r <+: s.sentBy b := by
  obtain ⟨c, hopen, -, hhanded, -⟩ := (hs.agent_orderly a).opened_on r i h
  have hon : Opens i (s.cloud.outbound.on c) := hopen.mono (hs.heard_down a c).subset
  obtain ⟨b, hb⟩ := List.mem_iff_getElem?.mp
    (hs.cloud_orderly.issued_of_opens (hs.on_opens_posted hon))
  refine ⟨b, hb, ?_⟩
  calc s.handedTo a r
      <+: dataOf i (ofKey c (s.agents a).trace.heard) := hhanded
    _ <+: dataOf i (s.cloud.outbound.on c) := dataOf_prefix (hs.heard_down a c)
    _ <+: dataOf i s.cloud.books.posted := hs.dataOf_on_prefix hon
    _ <+: s.sentBy b := (hs.cloud_orderly.data_posted b i hb (hs.on_opens_posted hon)).1

/-- What an agent wrote of a stream to the connection it was opened on is a beginning of what the
stream produced. -/
lemma dataOf_on_produced (hs : s.Inv) {a : ℕ} {r : AsteriskStream} {i : UInt32} {c : ConnId}
    (h : s.OpenedFor a r i) (hc : Opens i (s.cloud.outbound.on c)) :
    dataOf i ((s.agents a).outbound.on c) <+: s.producedBy a r := by
  obtain ⟨d, hopen, hfirst, -⟩ := (hs.agent_orderly a).opened_on r i h
  obtain rfl := hs.open_conn_unique (hopen.mono (hs.heard_down a d).subset) hc
  have hposted : dataOf i ((s.agents a).outbound.on d) <+: dataOf i (s.agents a).books.posted :=
    hfirst.prefix_passed.map _
  exact hposted.trans ((hs.agent_orderly a).data_posted r i h).1

lemma given_prefix (hs : s.Inv) {b : BrowserSink} {i : UInt32} (h : s.IssuedTo b i) :
    s.givenTo b = [] ∨ ∃ a r, s.OpenedFor a r i ∧ s.givenTo b <+: s.producedBy a r := by
  obtain hnil | ⟨c, hopen, hgiven⟩ := hs.cloud_orderly.to_heard b i h
  · exact Or.inl hnil
  · have hup := dataOf_prefix (i := i) (hs.heard_up c)
    by_cases hdata : dataOf i ((s.agents (s.owner c)).outbound.on c) = []
    · -- nothing of the stream came up, so nothing was given to the browser
      rw [hdata] at hup
      exact Or.inl (List.prefix_nil.mp (hgiven.trans hup))
    · obtain ⟨p, hp⟩ := List.exists_mem_of_ne_nil _ hdata
      obtain ⟨f, hf, -⟩ := List.mem_map.mp hp
      obtain ⟨hon, hfi⟩ := List.mem_filter.mp hf
      simp only [isData, decide_eq_true_eq] at hfi
      have hposted := ((hs.agent (s.owner c)).wf.on_sublist c).subset hon
      have hmem := (hs.agent_orderly (s.owner c)).data_opened f hposted hfi.1
      obtain ⟨r, hr⟩ := List.mem_iff_getElem?.mp (hfi.2 ▸ hmem)
      exact Or.inr ⟨s.owner c, r, hr, (hgiven.trans hup).trans (hs.dataOf_on_produced hr hopen)⟩

/-- A stream id is opened by one agent, once. -/
lemma opened_unique (hs : s.Inv) {a a' : ℕ} {r r' : AsteriskStream} {i : UInt32}
    (h : s.OpenedFor a r i) (h' : s.OpenedFor a' r' i) : a = a' ∧ r = r' := by
  obtain ⟨c, hopen, -⟩ := (hs.agent_orderly a).opened_on r i h
  obtain ⟨c', hopen', -⟩ := (hs.agent_orderly a').opened_on r' i h'
  obtain rfl := hs.open_conn_unique (hopen.mono (hs.heard_down a c).subset)
    (hopen'.mono (hs.heard_down a' c').subset)
  obtain ⟨f, hf, -⟩ := hopen
  obtain ⟨f', hf', -⟩ := hopen'
  have hc := (hs.agent_orderly a).heard_used c f (mem_ofKey.mp hf)
  have hc' := (hs.agent_orderly a').heard_used c f' (mem_ofKey.mp hf')
  obtain rfl : a = a' := (hs.owner_eq hc).symm.trans (hs.owner_eq hc')
  exact ⟨rfl, (hs.agent_orderly a).opened_inj h h'⟩

end Inv

/-- In every run whose payloads fit, with fewer than `2 ^ 32 - 1` upgrades: every Asterisk stream
was opened for the id of one browser and is given a beginning of what that browser sent; every
browser is given nothing, or a beginning of what the Asterisk stream opened for its id produced;
and an id belongs to one browser and to at most one Asterisk stream. -/
theorem streams_isolated (setup : Setup) (is : List Input)
    (hsized : Transition.Along step Sized (init setup) is) (hmax : upgrades is < 2 ^ 32 - 1) :
    let s := (init setup).run is
    (∀ a r i, s.OpenedFor a r i → ∃ b, s.IssuedTo b i ∧ s.handedTo a r <+: s.sentBy b) ∧
    (∀ b i, s.IssuedTo b i →
      s.givenTo b = [] ∨ ∃ a r, s.OpenedFor a r i ∧ s.givenTo b <+: s.producedBy a r) ∧
    (∀ b b' i, s.IssuedTo b i → s.IssuedTo b' i → b = b') ∧
    (∀ a a' r r' i, s.OpenedFor a r i → s.OpenedFor a' r' i → a = a' ∧ r = r') := by
  intro s
  have hs : s.Inv := inv_run hsized hmax
  have hlength : s.cloud.trace.issued.length < 2 ^ 32 := by
    have := length_issued_run (init setup) is
    simp only [init, Cloud.init, List.length_nil, zero_add] at this
    exact lt_of_le_of_lt this (by omega)
  exact ⟨fun _ _ _ h => hs.handed_prefix h, fun _ _ h => hs.given_prefix h,
    fun _ _ _ h h' => hs.cloud_orderly.issued_inj hlength h h',
    fun _ _ _ _ _ h h' => hs.opened_unique h h'⟩

/-- A browser sends one byte string through the tunnel and gets one back. -/
theorem streams_isolated_dialog :
    let s := (init {}).run
      [{ event := .agentTick 0 true [] }, { event := .attach 0 }, { event := .browserUpgrade [] },
        { event := .agentRead 0 10 }, { event := .browserData 0 [1, 2] },
        { event := .agentRead 0 12 }, { event := .asteriskData 0 0 [3] },
        { event := .cloudRead 11 }]
    s.OpenedFor 0 0 1 ∧ s.handedTo 0 0 = [[1, 2]] ∧ s.givenTo 0 = [[3]] ∧
      ∃ b, s.IssuedTo b 1 ∧ s.handedTo 0 0 <+: s.sentBy b :=
  ⟨by decide +kernel, by decide +kernel, by decide +kernel,
    (streams_isolated {} _ (by decide +kernel) (by decide +kernel)).1 0 0 1 (by decide +kernel)⟩

end System
