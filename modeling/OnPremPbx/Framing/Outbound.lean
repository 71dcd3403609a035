import Mathlib.Logic.Relation
import OnPremPbx.Framing.Decoder

/-!
# Outbound queues

The sending side of a connection that is lost and replaced from time to time. A frame that is
passed while a connection is up is written to it; a frame whose write fails, and every frame
passed while there is no connection, waits in a queue that the next connection is given first.
`Outbound.Wf` says that nothing is lost, doubled or reordered, and that what is written to one
connection is a contiguous part of what was passed.
-/

namespace Framing

variable {α C F : Type*}

/-- The outcome of a write: all of it went out, or an error after that many symbols. -/
inductive SendResult where
  | ok
  | failed (written : ℕ)
  deriving DecidableEq, Repr

/-- A write of a frame to a connection. -/
structure Write (C F : Type*) where
  conn : C
  frame : F
  result : SendResult
  deriving DecidableEq, Repr

/-- What a write puts on the wire. A failed write stops short of the last symbol. -/
def Codec.data (k : Codec α F) (w : Write C F) : List α :=
  match w.result with
  | .ok       => k.encode w.frame
  | .failed n => (k.encode w.frame).take (min n ((k.encode w.frame).length - 1))

/-- The frames that were not refused. -/
def kept (passed : List (F × Bool)) : List F := (passed.filter (·.2)).map (·.1)

@[simp] lemma kept_append (l l' : List (F × Bool)) : kept (l ++ l') = kept l ++ kept l' := by
  simp [kept]

@[simp] lemma kept_true (f : F) : kept [(f, true)] = [f] := rfl

@[simp] lemma kept_false (f : F) : kept [(f, false)] = [] := rfl

/-- The state of a sending side: the connection that takes frames, the frames that wait for one
and how many of them may wait (`0` for any number), every write so far, the frames that were
passed and whether they were kept or refused, and the connections that were ever used. -/
structure Outbound (C F : Type*) where
  conn : Option C
  queue : List F
  cap : ℕ
  writes : List (Write C F)
  passed : List (F × Bool)
  used : List C

namespace Outbound

/-- The queue takes another frame. -/
def Room (o : Outbound C F) : Prop := o.cap = 0 ∨ o.queue.length < o.cap

/-- One step of a sending side. A connection is given the whole queue before it takes frames. -/
inductive Step : Outbound C F → Outbound C F → Prop where
  | queued {o : Outbound C F} (f : F) (h : o.conn = none) (hroom : o.Room) :
      Step o { o with queue := o.queue ++ [f], passed := o.passed ++ [(f, true)] }
  | refused {o : Outbound C F} (f : F) (h : o.conn = none) (hfull : ¬ o.Room) :
      Step o { o with passed := o.passed ++ [(f, false)] }
  | sent {o : Outbound C F} (c : C) (f : F) (h : o.conn = some c) :
      Step o { o with writes := o.writes ++ [⟨c, f, .ok⟩], passed := o.passed ++ [(f, true)] }
  | broke {o : Outbound C F} (c : C) (f : F) (n : ℕ) (h : o.conn = some c) (hroom : o.Room) :
      Step o { o with conn := none, queue := o.queue ++ [f],
                      writes := o.writes ++ [⟨c, f, .failed n⟩],
                      passed := o.passed ++ [(f, true)] }
  | brokeRefused {o : Outbound C F} (c : C) (f : F) (n : ℕ) (h : o.conn = some c)
      (hfull : ¬ o.Room) :
      Step o { o with conn := none, writes := o.writes ++ [⟨c, f, .failed n⟩],
                      passed := o.passed ++ [(f, false)] }
  | dropped {o : Outbound C F} : Step o { o with conn := none }
  | connected {o : Outbound C F} (c : C) (h : o.conn = none) (hc : c ∉ o.used) :
      Step o { o with conn := some c, queue := [], used := o.used ++ [c],
                      writes := o.writes ++ o.queue.map (⟨c, ·, .ok⟩) }
  | brokeFlushing {o : Outbound C F} (c : C) (sent : List F) (f : F) (rest : List F) (n : ℕ)
      (h : o.conn = none) (hc : c ∉ o.used) (hq : o.queue = sent ++ f :: rest) :
      Step o { o with queue := f :: rest, used := o.used ++ [c],
                      writes := o.writes ++ (sent.map (⟨c, ·, .ok⟩) ++ [⟨c, f, .failed n⟩]) }

/-- Pass a frame to an unbounded queue whose connection, if there is one, takes it. -/
def post (f : F) (o : Outbound C F) : Outbound C F :=
  match o.conn with
  | none   => { o with queue := o.queue ++ [f], passed := o.passed ++ [(f, true)] }
  | some c => { o with writes := o.writes ++ [⟨c, f, .ok⟩], passed := o.passed ++ [(f, true)] }

/-- Give the connection up. -/
def drop (o : Outbound C F) : Outbound C F := { o with conn := none }

/-- Give the connection `c` up after a failed write. -/
def tear (c : C) (f : F) (n : ℕ) (o : Outbound C F) : Outbound C F :=
  { o with conn := none, writes := o.writes ++ [⟨c, f, .failed n⟩] }

/-- Set a connection up and give it the queue. -/
def flush (c : C) (o : Outbound C F) : Outbound C F :=
  { o with conn := some c, queue := [], used := o.used ++ [c],
           writes := o.writes ++ o.queue.map (⟨c, ·, .ok⟩) }

/-- Set a connection up and lose it when all of the queue but `f :: rest` was sent. -/
def flushUpTo (c : C) (sent : List F) (f : F) (rest : List F) (n : ℕ) (o : Outbound C F) :
    Outbound C F :=
  { o with queue := f :: rest, used := o.used ++ [c],
           writes := o.writes ++ (sent.map (⟨c, ·, .ok⟩) ++ [⟨c, f, .failed n⟩]) }

/-- Any number of steps. -/
def Steps : Outbound C F → Outbound C F → Prop := Relation.ReflTransGen Step

lemma Steps.refl (o : Outbound C F) : Steps o o := Relation.ReflTransGen.refl

lemma Step.steps {o o' : Outbound C F} (h : Step o o') : Steps o o' :=
  Relation.ReflTransGen.single h

lemma Steps.trans {o o' o'' : Outbound C F} (h : Steps o o') (h' : Steps o' o'') :
    Steps o o'' := Relation.ReflTransGen.trans h h'

lemma writes_prefix {o o' : Outbound C F} (h : Steps o o') : o.writes <+: o'.writes := by
  induction h with
  | refl => exact List.prefix_rfl
  | tail _ hstep ih =>
    refine ih.trans ?_
    cases hstep <;> simp

lemma passed_prefix {o o' : Outbound C F} (h : Steps o o') : o.passed <+: o'.passed := by
  induction h with
  | refl => exact List.prefix_rfl
  | tail _ hstep ih =>
    refine ih.trans ?_
    cases hstep <;> simp

lemma used_prefix {o o' : Outbound C F} (h : Steps o o') : o.used <+: o'.used := by
  induction h with
  | refl => exact List.prefix_rfl
  | tail _ hstep ih =>
    refine ih.trans ?_
    cases hstep <;> simp

lemma cap_eq {o o' : Outbound C F} (h : Steps o o') : o'.cap = o.cap := by
  induction h with
  | refl => rfl
  | tail _ hstep ih => cases hstep <;> exact ih

lemma post_of_none (f : F) {o : Outbound C F} (h : o.conn = none) :
    o.post f = { o with queue := o.queue ++ [f], passed := o.passed ++ [(f, true)] } := by
  simp [post, h]

lemma post_of_some (f : F) {o : Outbound C F} {c : C} (h : o.conn = some c) :
    o.post f =
      { o with writes := o.writes ++ [⟨c, f, .ok⟩], passed := o.passed ++ [(f, true)] } := by
  simp [post, h]

@[simp] lemma conn_post (f : F) (o : Outbound C F) : (o.post f).conn = o.conn := by
  rcases h : o.conn with _ | c <;> simp [post, h]

@[simp] lemma used_post (f : F) (o : Outbound C F) : (o.post f).used = o.used := by
  rcases h : o.conn with _ | c <;> simp [post, h]

@[simp] lemma kept_passed_post (f : F) (o : Outbound C F) :
    kept (o.post f).passed = kept o.passed ++ [f] := by
  rcases h : o.conn with _ | c <;> simp [post, h]

lemma queue_post_of_none (f : F) {o : Outbound C F} (h : o.conn = none) :
    (o.post f).queue = o.queue ++ [f] := by simp [post, h]

end Outbound

/-! ### Reading the writes -/

/-- The frames whose write succeeded, over all connections. -/
def acceptedOf (ws : List (Write C F)) : List F :=
  ws.filterMap fun w => if w.result = .ok then some w.frame else none

@[simp] lemma acceptedOf_append (ws vs : List (Write C F)) :
    acceptedOf (ws ++ vs) = acceptedOf ws ++ acceptedOf vs := List.filterMap_append

@[simp] lemma acceptedOf_ok (c : C) (f : F) : acceptedOf [⟨c, f, .ok⟩] = [f] := rfl

@[simp] lemma acceptedOf_failed (c : C) (f : F) (n : ℕ) :
    acceptedOf [⟨c, f, .failed n⟩] = [] := rfl

@[simp] lemma acceptedOf_map_ok (c : C) (fs : List F) :
    acceptedOf (fs.map (⟨c, ·, .ok⟩)) = fs := by
  simp [acceptedOf, List.filterMap_map]

variable [DecidableEq C]

/-- The frames whose write to `c` succeeded. -/
def framesOn (c : C) (ws : List (Write C F)) : List F :=
  acceptedOf (ws.filter fun w => w.conn = c)

/-- What was put on the wire of `c`. -/
def wireOn (k : Codec α F) (c : C) (ws : List (Write C F)) : List α :=
  (ws.filter fun w => w.conn = c).flatMap k.data

@[simp] lemma framesOn_append (c : C) (ws vs : List (Write C F)) :
    framesOn c (ws ++ vs) = framesOn c ws ++ framesOn c vs := by simp [framesOn]

@[simp] lemma framesOn_ok (c d : C) (f : F) :
    framesOn c [⟨d, f, .ok⟩] = if d = c then [f] else [] := by
  by_cases h : d = c <;> simp [framesOn, acceptedOf, h]

@[simp] lemma framesOn_failed (c d : C) (f : F) (n : ℕ) :
    framesOn c [⟨d, f, .failed n⟩] = [] := by
  by_cases h : d = c <;> simp [framesOn, acceptedOf, h]

@[simp] lemma framesOn_map_ok (c d : C) (fs : List F) :
    framesOn c (fs.map (⟨d, ·, .ok⟩)) = if d = c then fs else [] := by
  by_cases h : d = c <;>
    simp [framesOn, acceptedOf, h, List.filter_map, List.filterMap_map, Function.comp_def]

lemma framesOn_eq_nil {c : C} {ws : List (Write C F)} (h : ∀ w ∈ ws, w.conn ≠ c) :
    framesOn c ws = [] := by
  have hnil : ws.filter (fun w => w.conn = c) = [] := by simpa using h
  rw [framesOn, hnil]
  rfl

namespace Outbound

/-- The frames whose write to `c` succeeded. -/
def on (o : Outbound C F) (c : C) : List F := framesOn c o.writes

/-- What was put on the wire of `c`. -/
def wire (k : Codec α F) (o : Outbound C F) (c : C) : List α := wireOn k c o.writes

lemma on_prefix {o o' : Outbound C F} (h : Steps o o') (c : C) : o.on c <+: o'.on c := by
  obtain ⟨ws, hws⟩ := writes_prefix h
  rw [on, on, ← hws, framesOn_append]
  exact List.prefix_append _ _

lemma wire_prefix (k : Codec α F) {o o' : Outbound C F} (h : Steps o o') (c : C) :
    o.wire k c <+: o'.wire k c := by
  obtain ⟨ws, hws⟩ := writes_prefix h
  simp [wire, wireOn, ← hws]

section Post

variable (f : F) (o : Outbound C F)

lemma on_post_of_some {o : Outbound C F} {c : C} (h : o.conn = some c) :
    (o.post f).on c = o.on c ++ [f] := by simp [post, h, on]

lemma on_subset_post (c : C) : ∀ g ∈ o.on c, g ∈ (o.post f).on c := by
  intro g hg
  rcases h : o.conn with _ | d
  · simpa [post, h, on] using hg
  · simpa [post, h, on] using Or.inl hg

@[simp] lemma on_drop (c : C) : o.drop.on c = o.on c := rfl

@[simp] lemma on_tear (c d : C) (n : ℕ) : (o.tear c f n).on d = o.on d := by simp [tear, on]

@[simp] lemma on_flush (c : C) : (o.flush c).on c = o.on c ++ o.queue := by simp [flush, on]

lemma on_subset_flush (c d : C) : ∀ g ∈ o.on d, g ∈ (o.flush c).on d := by
  intro g hg
  rw [on, flush, framesOn_append]
  exact List.mem_append_left _ hg

lemma on_subset_flushUpTo (c d : C) (sent rest : List F) (n : ℕ) :
    ∀ g ∈ o.on d, g ∈ (o.flushUpTo c sent f rest n).on d := by
  intro g hg
  rw [on, flushUpTo, framesOn_append]
  exact List.mem_append_left _ hg

end Post

/-- The invariant of a sending side. -/
structure Wf (o : Outbound C F) : Prop where
  /-- nothing is lost, doubled or reordered -/
  accepted_append_queue : acceptedOf o.writes ++ o.queue = kept o.passed
  /-- the queue keeps to its bound, and without one nothing is refused -/
  length_queue_le : o.cap = 0 ∨ o.queue.length ≤ o.cap
  kept_of_unbounded : o.cap = 0 → ∀ x ∈ o.passed, x.2 = true
  /-- nothing waits while a connection is up -/
  queue_eq_nil : ∀ c, o.conn = some c → o.queue = []
  conn_mem_used : ∀ c, o.conn = some c → c ∈ o.used
  write_mem_used : ∀ w ∈ o.writes, w.conn ∈ o.used
  write_mem_passed : ∀ w ∈ o.writes, w.frame ∈ o.passed.map Prod.fst
  /-- the frames on one connection are contiguous in what was passed -/
  segment : ∀ c, ∃ before later, kept o.passed = before ++ o.on c ++ later ∧
    (o.conn = some c → later = [])
  /-- at most the last write to a connection failed, and then it takes no more frames -/
  torn : ∀ c, ∃ oks last, o.writes.filter (fun w => w.conn = c) = oks ++ last ∧
    (∀ w ∈ oks, w.result = .ok) ∧
    (last = [] ∨ o.conn ≠ some c ∧ ∃ f n, last = [⟨c, f, .failed n⟩])

namespace Wf

variable {o o' : Outbound C F}

lemma on_eq_nil (ho : Wf o) {c : C} (hc : c ∉ o.used) : o.on c = [] :=
  framesOn_eq_nil fun w hw hwc => hc (hwc ▸ ho.write_mem_used w hw)

private lemma step_accepted (ho : Wf o) (h : Step o o') :
    acceptedOf o'.writes ++ o'.queue = kept o'.passed := by
  have hacc := ho.accepted_append_queue
  cases h with
  | queued f h hroom => simp [← hacc]
  | refused f h hfull => simp [← hacc]
  | sent c f h => simp [← hacc, ho.queue_eq_nil c h]
  | broke c f n h hroom => simp [← hacc]
  | brokeRefused c f n h hfull => simp [← hacc]
  | dropped => exact hacc
  | connected c h hc => simp [← hacc]
  | brokeFlushing c sent f rest n h hc hq => simp [← hacc, hq]

private lemma step_segment (ho : Wf o) (h : Step o o') (c : C) :
    ∃ before later, kept o'.passed = before ++ o'.on c ++ later ∧
      (o'.conn = some c → later = []) := by
  obtain ⟨before, later, hpassed, hlater⟩ := ho.segment c
  cases h with
  | queued f h hroom => exact ⟨before, later ++ [f], by simp [hpassed, on], by simp [h]⟩
  | refused f h hfull => exact ⟨before, later, by simp [hpassed, on], hlater⟩
  | sent d f h =>
    by_cases hd : d = c
    · subst hd
      exact ⟨before, [], by simp [hpassed, hlater h, on], fun _ => rfl⟩
    · refine ⟨before, later ++ [f], by simp [hpassed, hd, on], ?_⟩
      intro hc
      exact absurd (Option.some.inj (h.symm.trans hc)) hd
  | broke d f n h hroom => exact ⟨before, later ++ [f], by simp [hpassed, on], by simp⟩
  | brokeRefused d f n h hfull => exact ⟨before, later, by simp [hpassed, on], by simp⟩
  | dropped => exact ⟨before, later, hpassed, by simp⟩
  | connected d h hd =>
    by_cases hdc : d = c
    · subst hdc
      refine ⟨acceptedOf o.writes, [], ?_, fun _ => rfl⟩
      have hnil : framesOn d o.writes = [] := ho.on_eq_nil hd
      simp [on, hnil, ← ho.accepted_append_queue]
    · exact ⟨before, later, by simp [hpassed, hdc, on], fun hc => absurd (by simpa using hc) hdc⟩
  | brokeFlushing d sent f rest n h hd hq =>
    by_cases hdc : d = c
    · subst hdc
      refine ⟨acceptedOf o.writes, f :: rest, ?_, by simp [h]⟩
      have hnil : framesOn d o.writes = [] := ho.on_eq_nil hd
      simp [on, hnil, ← ho.accepted_append_queue, hq]
    · exact ⟨before, later, by simp [hpassed, hdc, on], by simp [h]⟩

private lemma step_torn (ho : Wf o) (h : Step o o') (c : C) :
    ∃ oks last, o'.writes.filter (fun w => w.conn = c) = oks ++ last ∧
      (∀ w ∈ oks, w.result = .ok) ∧
      (last = [] ∨ o'.conn ≠ some c ∧ ∃ f n, last = [⟨c, f, .failed n⟩]) := by
  obtain ⟨oks, last, hfilter, hoks, hlast⟩ := ho.torn c
  have hwhole : o.conn = some c → last = [] := fun hc => hlast.resolve_right fun h => h.1 hc
  have hfresh : c ∉ o.used → oks = [] ∧ last = [] := by
    intro hc
    rw [← List.append_eq_nil_iff, ← hfilter]
    simpa using fun w hw (hwc : w.conn = c) => hc (hwc ▸ ho.write_mem_used w hw)
  cases h with
  | queued f h hroom =>
    exact ⟨oks, last, hfilter, hoks, hlast.imp_right fun h' => ⟨by simp [h], h'.2⟩⟩
  | refused f h hfull => exact ⟨oks, last, hfilter, hoks, hlast⟩
  | sent d f h =>
    by_cases hd : d = c
    · subst hd
      refine ⟨oks ++ [⟨d, f, .ok⟩], [], by simp [hfilter, hwhole h], ?_, Or.inl rfl⟩
      simpa [or_imp, forall_and] using hoks
    · exact ⟨oks, last, by simp [hfilter, hd], hoks, hlast⟩
  | broke d f n h hroom =>
    by_cases hd : d = c
    · subst hd
      exact ⟨oks, [⟨d, f, .failed n⟩], by simp [hfilter, hwhole h], hoks,
        Or.inr ⟨by simp, f, n, rfl⟩⟩
    · exact ⟨oks, last, by simp [hfilter, hd], hoks, hlast.imp_right fun h' => ⟨by simp, h'.2⟩⟩
  | brokeRefused d f n h hfull =>
    by_cases hd : d = c
    · subst hd
      exact ⟨oks, [⟨d, f, .failed n⟩], by simp [hfilter, hwhole h], hoks,
        Or.inr ⟨by simp, f, n, rfl⟩⟩
    · exact ⟨oks, last, by simp [hfilter, hd], hoks, hlast.imp_right fun h' => ⟨by simp, h'.2⟩⟩
  | dropped => exact ⟨oks, last, hfilter, hoks, hlast.imp_right fun h' => ⟨by simp, h'.2⟩⟩
  | connected d h hd =>
    by_cases hdc : d = c
    · subst hdc
      obtain ⟨rfl, rfl⟩ := hfresh hd
      exact ⟨o.queue.map (⟨d, ·, .ok⟩), [], by simp [hfilter, List.filter_map, Function.comp_def],
        by simp, Or.inl rfl⟩
    · refine ⟨oks, last, by simp [hfilter, hdc, List.filter_map, Function.comp_def], hoks,
        hlast.imp_right fun h' => ⟨by simpa using hdc, h'.2⟩⟩
  | brokeFlushing d sent f rest n h hd hq =>
    by_cases hdc : d = c
    · subst hdc
      obtain ⟨rfl, rfl⟩ := hfresh hd
      exact ⟨sent.map (⟨d, ·, .ok⟩), [⟨d, f, .failed n⟩],
        by simp [hfilter, List.filter_map, Function.comp_def], by simp,
        Or.inr ⟨by simp [h], f, n, rfl⟩⟩
    · exact ⟨oks, last, by simp [hfilter, hdc, List.filter_map, Function.comp_def], hoks,
        hlast.imp_right fun h' => ⟨by simp [h], h'.2⟩⟩

private lemma step_length_queue (ho : Wf o) (h : Step o o') :
    o'.cap = 0 ∨ o'.queue.length ≤ o'.cap := by
  have hle := ho.length_queue_le
  cases h with
  | queued f h hroom => simpa [Room] using hroom
  | broke c f n h hroom => simpa [Room] using hroom
  | connected c h hc => simp
  | brokeFlushing c sent f rest n h hc hq =>
    rw [hq, List.length_append] at hle
    exact hle.imp_right fun hle => (Nat.le_add_left _ _).trans hle
  | refused f h hfull | sent c f h | brokeRefused c f n h hfull | dropped => exact hle

private lemma step_kept (ho : Wf o) (h : Step o o') :
    o'.cap = 0 → ∀ x ∈ o'.passed, x.2 = true := by
  intro hcap
  have hkept := ho.kept_of_unbounded
  cases h with
  | refused f h hfull => exact absurd (Or.inl hcap) hfull
  | brokeRefused c f n h hfull => exact absurd (Or.inl hcap) hfull
  | queued f h hroom | sent c f h | broke c f n h hroom =>
    simpa [or_imp, forall_and] using hkept hcap
  | dropped | connected c h hc | brokeFlushing c sent f rest n h hc hq => exact hkept hcap

private lemma step_queue_eq_nil (ho : Wf o) (h : Step o o') :
    ∀ c, o'.conn = some c → o'.queue = [] := by
  have hnil := ho.queue_eq_nil
  cases h with
  | refused f h hfull | sent c f h => exact hnil
  | connected c h hc => exact fun _ _ => rfl
  | queued f h hroom => simp [h]
  | brokeFlushing c sent f rest n h hc hq => simp [h]
  | broke c f n h hroom | brokeRefused c f n h hfull | dropped => simp

private lemma step_conn_mem_used (ho : Wf o) (h : Step o o') :
    ∀ c, o'.conn = some c → c ∈ o'.used := by
  have hused := ho.conn_mem_used
  cases h with
  | refused f h hfull | sent c f h | queued f h hroom => exact hused
  | connected c h hc => simp
  | brokeFlushing c sent f rest n h hc hq => simp [h]
  | broke c f n h hroom | brokeRefused c f n h hfull | dropped => simp

private lemma step_write_mem_used (ho : Wf o) (h : Step o o') :
    ∀ w ∈ o'.writes, w.conn ∈ o'.used := by
  have hwrite := ho.write_mem_used
  have hused := ho.conn_mem_used
  cases h with
  | queued f h hroom | refused f h hfull | dropped => exact hwrite
  | sent c f h => simpa [or_imp, forall_and] using ⟨hwrite, hused c h⟩
  | broke c f n h hroom => simpa [or_imp, forall_and] using ⟨hwrite, hused c h⟩
  | brokeRefused c f n h hfull => simpa [or_imp, forall_and] using ⟨hwrite, hused c h⟩
  | connected c h hc =>
    simp only [List.mem_append, or_imp, forall_and]
    exact ⟨fun w hw => Or.inl (hwrite w hw), by simp⟩
  | brokeFlushing c sent f rest n h hc hq =>
    simp only [List.mem_append, or_imp, forall_and]
    exact ⟨fun w hw => Or.inl (hwrite w hw), by simp, by simp⟩

lemma queue_subset_passed (ho : Wf o) : ∀ f ∈ o.queue, f ∈ o.passed.map Prod.fst := by
  intro f hf
  have hkept : f ∈ kept o.passed := by
    rw [← ho.accepted_append_queue]
    exact List.mem_append_right _ hf
  obtain ⟨x, hx, rfl⟩ := List.mem_map.mp hkept
  exact List.mem_map_of_mem (List.mem_of_mem_filter hx)

private lemma step_write_mem_passed (ho : Wf o) (h : Step o o') :
    ∀ w ∈ o'.writes, w.frame ∈ o'.passed.map Prod.fst := by
  have hwrite := ho.write_mem_passed
  have hqueue := ho.queue_subset_passed
  cases h with
  | dropped => exact hwrite
  | queued f h hroom | refused f h hfull =>
    intro w hw
    rw [List.map_append]
    exact List.mem_append_left _ (hwrite w hw)
  | sent c f h | broke c f n h hroom | brokeRefused c f n h hfull =>
    intro w hw
    rw [List.map_append]
    obtain hw | hw := List.mem_append.mp hw
    · exact List.mem_append_left _ (hwrite w hw)
    · rw [List.mem_singleton.mp hw]
      exact List.mem_append_right _ (by simp)
  | connected c h hc =>
    intro w hw
    obtain hw | hw := List.mem_append.mp hw
    · exact hwrite w hw
    · obtain ⟨f, hf, rfl⟩ := List.mem_map.mp hw
      exact hqueue f hf
  | brokeFlushing c sent f rest n h hc hq =>
    intro w hw
    have hsent : ∀ g ∈ sent ++ [f], g ∈ o.passed.map Prod.fst := by
      intro g hg
      apply hqueue
      rw [hq, List.append_cons]
      exact List.mem_append_left _ hg
    simp only [List.mem_append, List.mem_map, List.mem_singleton] at hw
    obtain hw | ⟨g, hg, rfl⟩ | rfl := hw
    · exact hwrite w hw
    · exact hsent g (by simp [hg])
    · exact hsent f (by simp)

/-- Every step keeps the invariant. -/
theorem step (ho : Wf o) (h : Step o o') : Wf o' where
  accepted_append_queue := ho.step_accepted h
  length_queue_le := ho.step_length_queue h
  kept_of_unbounded := ho.step_kept h
  queue_eq_nil := ho.step_queue_eq_nil h
  conn_mem_used := ho.step_conn_mem_used h
  write_mem_used := ho.step_write_mem_used h
  write_mem_passed := ho.step_write_mem_passed h
  segment := ho.step_segment h
  torn := ho.step_torn h

theorem steps (ho : Wf o) (h : Steps o o') : Wf o' := by
  induction h with
  | refl => exact ho
  | tail _ hstep ih => exact ih.step hstep

lemma on_sublist (ho : Wf o) (c : C) : (o.on c).Sublist (kept o.passed) := by
  obtain ⟨before, later, hpassed, -⟩ := ho.segment c
  rw [hpassed, List.append_assoc]
  exact (List.sublist_append_left _ _).trans (List.sublist_append_right _ _)

/-- Frames on different connections stand in one order or the other in what was passed. -/
lemma rel_of_on (ho : Wf o) {R : F → F → Prop} (hR : (kept o.passed).Pairwise R) {c d : C}
    (hcd : c ≠ d) {f g : F} (hf : f ∈ o.on c) (hg : g ∈ o.on d) : R f g ∨ R g f := by
  rw [← ho.accepted_append_queue, List.pairwise_append, acceptedOf, List.pairwise_filterMap] at hR
  obtain ⟨w, hw, hwf⟩ := List.mem_filterMap.mp hf
  obtain ⟨v, hv, hvg⟩ := List.mem_filterMap.mp hg
  rw [List.mem_filter] at hw hv
  have hwc : w.conn = c := by simpa using hw.2
  have hvd : v.conn = d := by simpa using hv.2
  have hne : w ≠ v := fun heq => hcd (hwc ▸ hvd ▸ congrArg Write.conn heq)
  let S (w v : Write C F) : Prop := ∀ f, (if w.result = .ok then some w.frame else none) = some f →
    ∀ g, (if v.result = .ok then some v.frame else none) = some g → R f g ∨ R g f
  have : Std.Symm S := ⟨fun _ _ h f hf g hg => (h g hg f hf).symm⟩
  have hS : o.writes.Pairwise S := hR.1.imp fun h f hf g hg => Or.inl (h f hf g hg)
  exact hS.forall hw.1 hv.1 hne f hwf g hvg

end Wf

/-- Of the frames with the property `p`, the first ones that were passed went to `c`, and all of
them while `c` takes frames. -/
structure First (p : F → Bool) (c : C) (o : Outbound C F) : Prop where
  mem_used : c ∈ o.used
  prefix_passed : (o.on c).filter p <+: (kept o.passed).filter p
  eq_passed : o.conn = some c → (o.on c).filter p = (kept o.passed).filter p

namespace First

variable {o o' : Outbound C F} {p : F → Bool} {c : C}

/-- It holds of a connection in use as long as no such frame was passed. -/
lemma start (ho : Wf o) (hc : c ∈ o.used) (hnone : (kept o.passed).filter p = []) :
    First p c o := by
  have hnil : (o.on c).filter p = [] :=
    List.sublist_nil.mp (hnone ▸ (ho.on_sublist c).filter p)
  exact ⟨hc, by rw [hnil]; exact List.nil_prefix, fun _ => hnil.trans hnone.symm⟩

lemma drop (hf : First p c o) : First p c o.drop :=
  ⟨hf.mem_used, hf.prefix_passed, by simp [Outbound.drop]⟩

lemma tear (hf : First p c o) (d : C) (f : F) (n : ℕ) : First p c (o.tear d f n) :=
  ⟨hf.mem_used, by rw [on_tear]; exact hf.prefix_passed, by simp [Outbound.tear]⟩

lemma post (hf : First p c o) (f : F) : First p c (o.post f) := by
  refine ⟨by simpa using hf.mem_used, ?_, ?_⟩
  · rw [kept_passed_post, List.filter_append]
    rcases h : o.conn with _ | d
    · rw [post_of_none f h]
      exact hf.prefix_passed.trans (List.prefix_append _ _)
    · by_cases hd : d = c
      · subst hd
        rw [on_post_of_some f h, List.filter_append, hf.eq_passed h]
      · have hon : (o.post f).on c = o.on c := by simp [post_of_some f h, on, hd]
        rw [hon]
        exact hf.prefix_passed.trans (List.prefix_append _ _)
  · intro hc
    rw [conn_post] at hc
    rw [kept_passed_post, on_post_of_some f hc, List.filter_append, List.filter_append,
      hf.eq_passed hc]

lemma flush (hf : First p c o) {d : C} (hd : d ∉ o.used) : First p c (o.flush d) := by
  have hdc : d ≠ c := fun heq => hd (heq ▸ hf.mem_used)
  have hon : (o.flush d).on c = o.on c := by simp [Outbound.flush, on, hdc]
  exact ⟨List.mem_append_left _ hf.mem_used, by rw [hon]; exact hf.prefix_passed,
    fun hc => absurd (Option.some.inj hc) hdc⟩

lemma flushUpTo (hf : First p c o) {d : C} (hd : d ∉ o.used) (hnone : o.conn = none)
    (sent : List F) (f : F) (rest : List F) (n : ℕ) :
    First p c (o.flushUpTo d sent f rest n) := by
  have hdc : d ≠ c := fun heq => hd (heq ▸ hf.mem_used)
  have hon : (o.flushUpTo d sent f rest n).on c = o.on c := by
    simp [Outbound.flushUpTo, on, hdc]
  exact ⟨List.mem_append_left _ hf.mem_used, by rw [hon]; exact hf.prefix_passed,
    fun hc => absurd (hnone.symm.trans hc) (by simp)⟩

end First

end Outbound

end Framing
