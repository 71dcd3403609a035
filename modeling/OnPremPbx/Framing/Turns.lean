import OnPremPbx.Framing.Link

/-!
# Connection after connection

The connections of a sending side take frames one after the other, so that what was passed is what
was written to each of them, in the order in which they were set up, and then the queue. Seen from
the other end, what a connection took is what was heard on it and what was missed: as long as the
connection is up, the latter is what is still to be decoded and to be read.
-/

namespace Framing

variable {α C F : Type*} [DecidableEq C]

namespace Outbound

variable {o o' : Outbound C F} {c : C}

/-- Only the last connection takes frames, and the writes are grouped by connection. -/
structure InTurn (o : Outbound C F) : Prop where
  nodup : o.used.Nodup
  last : ∀ c, o.conn = some c → ∃ before, o.used = before ++ [c]
  accepted : acceptedOf o.writes = o.used.flatMap fun c => framesOn c o.writes

namespace InTurn

/-- Writes to the last connection come after those to the others. -/
private lemma flatMap_concat {before : List C} {ws vs : List (Write C F)}
    (hnodup : (before ++ [c]).Nodup) (hvs : ∀ v ∈ vs, v.conn = c) :
    (before ++ [c]).flatMap (fun d => framesOn d (ws ++ vs)) =
      (before ++ [c]).flatMap (fun d => framesOn d ws) ++ acceptedOf vs := by
  have hbefore : ∀ d ∈ before, framesOn d (ws ++ vs) = framesOn d ws := by
    intro d hd
    have hne : ∀ v ∈ vs, v.conn ≠ d := by
      rintro v hv rfl
      exact (List.nodup_append.mp hnodup).2.2 _ hd c (List.mem_singleton_self c) (hvs v hv)
    rw [framesOn_append, framesOn_eq_nil hne, List.append_nil]
  have hall : vs.filter (fun v => v.conn = c) = vs := by simpa using hvs
  rw [List.flatMap_append, List.flatMap_append, List.flatMap_congr hbefore]
  simp [framesOn, hall]

/-- A new connection is given `vs`. -/
private lemma attach (h : o.InTurn) (ho : o.Wf) (hc : c ∉ o.used) {vs : List (Write C F)}
    (hvs : ∀ v ∈ vs, v.conn = c) : (o.used ++ [c]).Nodup ∧
      acceptedOf (o.writes ++ vs) =
        (o.used ++ [c]).flatMap fun d => framesOn d (o.writes ++ vs) := by
  have hnodup : (o.used ++ [c]).Nodup := by
    refine List.nodup_append.mpr ⟨h.nodup, List.nodup_singleton c, fun d hd e he hde => hc ?_⟩
    rwa [← List.mem_singleton.mp he, ← hde]
  have hnil : framesOn c o.writes = [] := ho.on_eq_nil hc
  refine ⟨hnodup, ?_⟩
  rw [flatMap_concat hnodup hvs, List.flatMap_append, ← h.accepted, acceptedOf_append]
  simp [hnil]

/-- A failed write adds nothing. -/
private lemma fail (h : o.InTurn) (f : F) (n : ℕ) :
    acceptedOf (o.writes ++ [⟨c, f, .failed n⟩]) =
      o.used.flatMap fun d => framesOn d (o.writes ++ [⟨c, f, .failed n⟩]) := by
  simp [h.accepted]

lemma step (h : o.InTurn) (ho : o.Wf) (hstep : Step o o') : o'.InTurn := by
  cases hstep with
  | queued f hnone hroom | refused f hnone hfull => exact ⟨h.nodup, h.last, h.accepted⟩
  | sent d f hconn =>
    obtain ⟨before, hused⟩ := h.last d hconn
    refine ⟨h.nodup, h.last, ?_⟩
    have hsplit : (before ++ [d]).flatMap (fun e => framesOn e (o.writes ++ [⟨d, f, .ok⟩])) = _ :=
      flatMap_concat (hused ▸ h.nodup) (by simp)
    rw [← hused, ← h.accepted] at hsplit
    exact acceptedOf_append _ _ ▸ hsplit.symm
  | broke d f n hconn hroom | brokeRefused d f n hconn hfull =>
    exact ⟨h.nodup, by simp, h.fail f n⟩
  | dropped => exact ⟨h.nodup, by simp, h.accepted⟩
  | connected d hnone hd =>
    have hvs : ∀ v ∈ o.queue.map (⟨d, ·, .ok⟩ : F → Write C F), v.conn = d := by simp
    obtain ⟨hnodup, haccepted⟩ := h.attach ho hd hvs
    refine ⟨hnodup, ?_, haccepted⟩
    rintro e ⟨⟩
    exact ⟨o.used, rfl⟩
  | brokeFlushing d sent f rest n hnone hd hq =>
    have hvs : ∀ v ∈ sent.map (⟨d, ·, .ok⟩) ++ [(⟨d, f, .failed n⟩ : Write C F)], v.conn = d := by
      intro v hv
      obtain hv | hv := List.mem_append.mp hv
      · obtain ⟨g, -, rfl⟩ := List.mem_map.mp hv
        rfl
      · rw [List.mem_singleton.mp hv]
    obtain ⟨hnodup, haccepted⟩ := h.attach ho hd hvs
    exact ⟨hnodup, by simp [hnone], haccepted⟩

lemma steps (h : o.InTurn) (ho : o.Wf) (hsteps : o.Steps o') : o'.InTurn := by
  induction hsteps with
  | refl => exact h
  | tail hsteps hstep ih => exact ih.step (ho.steps hsteps) hstep

/-- What was passed is what each connection took, one after the other, and what waits. -/
lemma kept_eq (h : o.InTurn) (ho : o.Wf) : kept o.passed = o.used.flatMap o.on ++ o.queue := by
  rw [← ho.accepted_append_queue, h.accepted]
  rfl

end InTurn

/-- A connection that is up at the beginning and at the end takes all that is passed meanwhile. -/
lemma taken_while (hsteps : o.Steps o') (ho : o.Wf) (hc : o.conn = some c)
    (hc' : o'.conn = some c) :
    ∃ fs, o'.on c = o.on c ++ fs ∧ kept o'.passed = kept o.passed ++ fs := by
  -- a connection that was given up is not set up again
  have hcases : (o'.conn = some c ∧
      ∃ fs, o'.on c = o.on c ++ fs ∧ kept o'.passed = kept o.passed ++ fs) ∨
      o'.conn ≠ some c ∧ c ∈ o'.used := by
    clear hc'
    induction hsteps with
    | refl => exact Or.inl ⟨hc, [], by simp⟩
    | tail hsteps hstep ih =>
      rcases ih with ⟨hconn, fs, hon, hpassed⟩ | ⟨hconn, hused⟩
      · have hused := (ho.steps hsteps).conn_mem_used c hconn
        cases hstep with
        | queued f hnone | refused f hnone | connected d hnone | brokeFlushing d sent f rest n hnone =>
          simp [hnone] at hconn
        | sent d f hd =>
          obtain rfl := Option.some.inj (hd.symm.trans hconn)
          refine Or.inl ⟨hconn, fs ++ [f], ?_, by simp [hpassed]⟩
          rw [on, framesOn_append]
          exact (congrArg (· ++ _) hon).trans (by simp)
        | broke | brokeRefused | dropped => exact Or.inr ⟨by simp, hused⟩
      · refine Or.inr ?_
        cases hstep with
        | queued | refused | sent => exact ⟨hconn, hused⟩
        | broke | brokeRefused | dropped => exact ⟨by simp, hused⟩
        | connected d hnone hd =>
          refine ⟨?_, List.mem_append_left _ hused⟩
          rintro ⟨⟩
          exact hd hused
        | brokeFlushing d sent f rest n hnone => exact ⟨hconn, List.mem_append_left _ hused⟩
  exact (hcases.resolve_right fun h => h.1 hc').2

/-- A connection that is up carries whole frames only. -/
lemma Wf.wire_of_conn {k : Codec α F} (ho : o.Wf) (hc : o.conn = some c) :
    o.wire k c = k.encodeAll (o.on c) := by
  obtain ⟨oks, last, hfilter, hoks, hlast⟩ := ho.torn c
  obtain rfl : last = [] := hlast.resolve_right fun h => h.1 hc
  rw [List.append_nil] at hfilter
  rw [wire, wireOn, on, framesOn, hfilter, k.flatMap_data_ok hoks]

end Outbound

/-- What one end of a connection has not heard of what the other end wrote to it. While the other
end keeps the connection up, it is what is still to be decoded and to be read. -/
lemma Link.missed {k : Codec α F} {o : Outbound C F} {c : C} {read : ℕ} {heard : List F}
    {buffer : List α} (hl : Link k o c read heard buffer) (ho : o.Wf) (hc : o.conn = some c) :
    k.encodeAll ((o.on c).drop heard.length) = buffer ++ (o.wire k c).drop read := by
  have hon : heard ++ (o.on c).drop heard.length = o.on c :=
    List.prefix_iff_eq_append.mp hl.heard_prefix
  apply (List.append_right_inj (k.encodeAll heard)).mp
  rw [← k.encodeAll_append, hon, ← ho.wire_of_conn hc, ← List.append_assoc, ← hl.read_eq,
    List.take_append_drop]

end Framing
