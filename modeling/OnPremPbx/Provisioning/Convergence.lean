import OnPremPbx.Provisioning.Watcher
import OnPremPbx.Transition.Run

/-!
# Endpoints follow the collection

`Deployment` is the `subscribers` collection with the watcher and Asterisk: documents are inserted,
updated, replaced and deleted, every change becomes an event that carries the document as it is
then, and the watcher handles the events in order, some time later. Scans read the collection as it
is, ahead of the events that are still to come.
-/

open Transition

structure Deployment where
  docs : AList fun _ : String => Subscriber := ∅
  /-- the events that the watcher has not handled yet -/
  pending : List ChangeEvent := []
  watcher : SubscriberWatcher Unit
  /-- what was in Asterisk when the watcher started -/
  objects : Asterisk := ∅
  /-- for the record: the user name that each document had last in the society -/
  names : AList fun _ : String => String := ∅

namespace Deployment

def societyId (s : Deployment) : String := s.watcher.societyId

/-- The document has the society of the watcher. -/
def isMember (s : Deployment) (d : Subscriber) : Bool := d.societyId = some s.societyId

/-- The documents of the society. -/
def members (s : Deployment) : List Subscriber :=
  (s.docs.entries.map Sigma.snd).filter s.isMember

/-- An endpoint of this name is there for the document. -/
def wants (user : String) (d : Subscriber) : Bool := d.isActive && d.sipUsername = some user

/-- A document of the society asks for the endpoint. -/
def Wanted (user : String) (s : Deployment) : Prop := ∃ d ∈ s.members, wants user d

/-- The endpoint is in Asterisk. -/
def hasEndpoint (user : String) (s : Deployment) : Bool := s.watcher.present s.objects user

/-! ### Changes -/

inductive Change where
  | insert (d : Subscriber)
  | update (d : Subscriber)
  | replace (d : Subscriber)
  | delete (id : String)
  deriving DecidableEq, Repr

/-- The document is there as `d`, and an event with it is on its way. -/
def write (op : OperationType) (d : Subscriber) (s : Deployment) : Deployment :=
  { s with
    docs := s.docs.insert d.id d
    pending := s.pending ++
      [{ operationType := op, documentKey := some d.id, fullDocument := some d }]
    names := if s.isMember d ∧ d.sipUser ≠ "" then s.names.insert d.id d.sipUser else s.names }

/-- The document is gone, and an event with its id is on its way. -/
def remove (id : String) (s : Deployment) : Deployment :=
  { s with
    docs := s.docs.erase id
    pending := s.pending ++ [{ operationType := .delete, documentKey := some id }]
    names := s.names.erase id }

/-- An insertion fails when the id is taken; an update, a replacement and a deletion find nothing
when it is not. -/
def commit (c : Change) (s : Deployment) : Deployment :=
  match c with
  | .insert d  => if d.id ∈ s.docs then s else s.write .insert d
  | .update d  => if d.id ∈ s.docs then s.write .update d else s
  | .replace d => if d.id ∈ s.docs then s.write .replace d else s
  | .delete id => if id ∈ s.docs then s.remove id else s

/-- The watcher handles the next event. -/
def deliver (s : Deployment) : Deployment :=
  match s.pending with
  | []      => s
  | e :: es => { s with pending := es, watcher := s.watcher.handleEvent e }

/-- A scan finds the documents of the society, in any order. -/
def resync (rows : List Subscriber) (s : Deployment) : Deployment :=
  if rows.Perm s.members then { s with watcher := s.watcher.resync rows } else s

inductive Input where
  | change (c : Change)
  | deliver
  | resync (rows : List Subscriber)
  deriving DecidableEq, Repr

def step (s : Deployment) (i : Input) : Deployment :=
  match i with
  | .change c    => s.commit c
  | .deliver     => s.deliver
  | .resync rows => s.resync rows

/-- The state after the inputs `is`. -/
def run (s : Deployment) (is : List Input) : Deployment := is.foldl step s

/-- The collection holds `ds` and the watcher has done nothing. -/
def start (societyId : String) (objects : Asterisk) (ds : List Subscriber) : Deployment :=
  let s : Deployment := { watcher := { societyId := societyId }, objects := objects }
  { ds.foldl (fun s d => s.commit (.insert d)) s with pending := [] }

/-! ### When the endpoints follow -/

/-- A document other than that with the id asks for the endpoint. -/
def WantedByOther (id user : String) (s : Deployment) : Prop :=
  ∃ d ∈ s.members, d.id ≠ id ∧ wants user d

instance (id user : String) (s : Deployment) : Decidable (s.WantedByOther id user) :=
  inferInstanceAs (Decidable (∃ d ∈ s.members, d.id ≠ id ∧ wants user d))

/-- The document may become `d`: an endpoint that was there for it is still there for a document of
that name in the society, active or not, or for another document; a disabled document does not have
the name of an active one; and an active document has a name that is not empty. -/
structure MayWrite (s : Deployment) (d : Subscriber) : Prop where
  keeps : ∀ old ∈ s.docs.lookup d.id, s.isMember old → old.isActive → ∀ user ∈ old.sipUsername,
    s.isMember d ∧ d.sipUsername = some user ∨ s.WantedByOther d.id user
  frees : s.isMember d → d.isActive = false → ∀ user ∈ d.sipUsername, ¬ s.WantedByOther d.id user
  named : s.isMember d → d.isActive → d.sipUsername ≠ some ""

/-- The document may be deleted: the name it had last in the society is not that of another active
document. -/
def MayRemove (s : Deployment) (id : String) : Prop :=
  ∀ user ∈ s.names.lookup id, ¬ s.WantedByOther id user

/-- The collection may be scanned: documents of one name are all active or all disabled, and none
was deleted and inserted again with the deletion still to be handled. -/
structure MayScan (s : Deployment) : Prop where
  agree : ∀ d ∈ s.members, ∀ d' ∈ s.members, d.sipUser = d'.sipUser → d.sipUser ≠ "" →
    d.isActive = d'.isActive
  deleted : ∀ e ∈ s.pending, e.operationType = .delete → ∀ d ∈ s.members,
    e.documentKey = some d.id → d.sipUser = ""

instance (s : Deployment) (d : Subscriber) : Decidable (s.MayWrite d) :=
  decidable_of_iff (_ ∧ _ ∧ _) ⟨fun h => ⟨h.1, h.2.1, h.2.2⟩, fun h => ⟨h.keeps, h.frees, h.named⟩⟩

instance (s : Deployment) (id : String) : Decidable (s.MayRemove id) :=
  inferInstanceAs (Decidable (∀ user ∈ s.names.lookup id, ¬ s.WantedByOther id user))

instance (s : Deployment) : Decidable s.MayScan :=
  decidable_of_iff (_ ∧ _) ⟨fun h => ⟨h.1, h.2⟩, fun h => ⟨h.agree, h.deleted⟩⟩

/-- The input is not one that leaves an endpoint behind or takes one away. -/
def Ok (s : Deployment) (i : Input) : Prop :=
  match i with
  | .change (.insert d)  => d.id ∉ s.docs → s.MayWrite d
  | .change (.update d)  => d.id ∈ s.docs → s.MayWrite d
  | .change (.replace d) => d.id ∈ s.docs → s.MayWrite d
  | .change (.delete id) => id ∈ s.docs → s.MayRemove id
  | .deliver             => True
  | .resync rows         => rows.Perm s.members → s.MayScan

instance (s : Deployment) (i : Input) : Decidable (s.Ok i) := by
  unfold Ok
  split <;> infer_instance

/-- The first scan may find this: documents of one name are all active or all disabled, active
documents have names that are not empty, and every endpoint in Asterisk has the name of a
document. -/
structure MayBootstrap (s : Deployment) : Prop where
  agree : ∀ d ∈ s.members, ∀ d' ∈ s.members, d.sipUser = d'.sipUser → d.sipUser ≠ "" →
    d.isActive = d'.isActive
  named : ∀ d ∈ s.members, d.isActive → d.sipUsername ≠ some ""
  found : ∀ o ∈ s.objects, o.1 = .endpoint → ∃ d ∈ s.members, d.sipUser = o.2 ∧ o.2 ≠ ""

instance (s : Deployment) : Decidable s.MayBootstrap :=
  decidable_of_iff (_ ∧ _ ∧ _) ⟨fun h => ⟨h.1, h.2.1, h.2.2⟩, fun h => ⟨h.agree, h.named, h.found⟩⟩

/-! ### Documents -/

lemma isMember_iff {s : Deployment} {d : Subscriber} :
    s.isMember d = true ↔ d.societyId = some s.societyId := decide_eq_true_iff

/-- The documents are found by their ids. -/
def Keyed (s : Deployment) : Prop := ∀ id, ∀ d ∈ s.docs.lookup id, d.id = id

section Members

variable {s : Deployment} (hkeyed : s.Keyed)

include hkeyed

lemma mem_members {d : Subscriber} :
    d ∈ s.members ↔ s.docs.lookup d.id = some d ∧ s.isMember d = true := by
  rw [members, List.mem_filter, List.mem_map]
  refine and_congr_left fun _ => ⟨?_, ?_⟩
  · rintro ⟨⟨id, d'⟩, hmem, rfl⟩
    have hlookup : s.docs.lookup id = some d' := AList.mem_lookup_iff.mpr hmem
    rwa [← hkeyed id d' hlookup] at hlookup
  · intro hlookup
    exact ⟨⟨d.id, d⟩, AList.mem_lookup_iff.mp hlookup, rfl⟩

/-- The document with an id asks for the endpoint, or another one does. -/
lemma wanted_iff (id user : String) :
    s.Wanted user ↔ (∃ d, s.docs.lookup id = some d ∧ s.isMember d = true ∧ wants user d = true) ∨
      s.WantedByOther id user := by
  constructor
  · rintro ⟨d, hd, hwants⟩
    by_cases hid : d.id = id
    · obtain ⟨hlookup, hmember⟩ := (mem_members hkeyed).mp hd
      exact Or.inl ⟨d, hid ▸ hlookup, hmember, hwants⟩
    · exact Or.inr ⟨d, hd, hid, hwants⟩
  · rintro (⟨d, hlookup, hmember, hwants⟩ | ⟨d, hd, -, hwants⟩)
    · have hid : d.id = id := hkeyed id d hlookup
      exact ⟨d, (mem_members hkeyed).mpr ⟨hid.symm ▸ hlookup, hmember⟩, hwants⟩
    · exact ⟨d, hd, hwants⟩

lemma keyed_write (op : OperationType) (d : Subscriber) : (s.write op d).Keyed := by
  intro id d' hd'
  by_cases hid : id = d.id
  · subst hid
    rw [write, AList.lookup_insert] at hd'
    rw [Option.some.inj hd']
  · rw [write, AList.lookup_insert_ne hid] at hd'
    exact hkeyed id d' hd'

lemma keyed_remove (id : String) : (s.remove id).Keyed := by
  intro k d hd
  by_cases hk : k = id
  · subst hk
    simp [remove] at hd
  · rw [remove, AList.lookup_erase_ne hk] at hd
    exact hkeyed k d hd

lemma wantedByOther_write (op : OperationType) (d : Subscriber) (user : String) :
    (s.write op d).WantedByOther d.id user ↔ s.WantedByOther d.id user := by
  refine exists_congr fun d' => ?_
  rw [mem_members (keyed_write hkeyed op d), mem_members hkeyed]
  by_cases hid : d'.id = d.id
  · simp [hid]
  · rw [write, AList.lookup_insert_ne hid]
    rfl

lemma wanted_write (op : OperationType) (d : Subscriber) (user : String) :
    (s.write op d).Wanted user ↔
      s.isMember d = true ∧ wants user d = true ∨ s.WantedByOther d.id user := by
  rw [wanted_iff (keyed_write hkeyed op d) d.id, wantedByOther_write hkeyed]
  refine or_congr_left ⟨?_, ?_⟩
  · rintro ⟨d', hlookup, h⟩
    rw [write, AList.lookup_insert] at hlookup
    obtain rfl := Option.some.inj hlookup
    exact h
  · intro h
    exact ⟨d, by rw [write, AList.lookup_insert], h⟩

lemma wanted_remove (id user : String) : (s.remove id).Wanted user ↔ s.WantedByOther id user := by
  refine exists_congr fun d => ?_
  rw [mem_members (keyed_remove hkeyed id), mem_members hkeyed]
  by_cases hid : d.id = id
  · subst hid
    simp [remove]
  · rw [remove, AList.lookup_erase_ne hid]
    simp only [hid, ne_eq, not_false_eq_true, true_and]
    rfl

/-- The documents of the society have different ids. -/
lemma eq_of_mem_members {d d' : Subscriber} (hd : d ∈ s.members) (hd' : d' ∈ s.members)
    (hid : d.id = d'.id) : d = d' := by
  have hlookup := ((mem_members hkeyed).mp hd).1
  rw [hid, ((mem_members hkeyed).mp hd').1] at hlookup
  exact (Option.some.inj hlookup).symm

end Members

/-! ### What every step keeps -/

/-- The watcher once it has handled the events that are on their way. -/
def settled (s : Deployment) : SubscriberWatcher Unit := s.watcher.handleAll s.pending

structure Inv (s : Deployment) : Prop where
  society : s.societyId ≠ ""
  keyed : s.Keyed
  present : ∀ user, s.settled.present s.objects user = true ↔ s.Wanted user
  cache : ∀ id, s.settled.idToSipuser.lookup id = s.names.lookup id
  known : ∀ d ∈ s.members, d.sipUser ≠ "" → s.names.lookup d.id = some d.sipUser
  named : ∀ d ∈ s.members, d.isActive = true → d.sipUsername ≠ some ""

lemma isOf_iff {s : Deployment} (hsoc : s.societyId ≠ "") (d : Subscriber) :
    d.isOf s.societyId = s.isMember d := by
  rcases hd : d.societyId with _ | soc
  · simp [Subscriber.isOf, isMember, hd, Ne.symm hsoc]
  · simp [Subscriber.isOf, isMember, hd]

lemma sipUsername_of_ne {d : Subscriber} (h : d.sipUser ≠ "") :
    d.sipUsername = some d.sipUser := by
  rcases hd : d.sipUsername with _ | user
  · simp [Subscriber.sipUser, hd] at h
  · simp [Subscriber.sipUser, hd]

lemma wants_iff {user : String} {d : Subscriber} :
    wants user d = true ↔ d.isActive = true ∧ d.sipUsername = some user := by simp [wants]

lemma sipUser_of_wants {user : String} {d : Subscriber} (h : wants user d = true) :
    d.sipUser = user := by
  simp [Subscriber.sipUser, (wants_iff.mp h).2]

/-- The row of a name is there for it exactly if the name is wanted. -/
lemma isActive_iff_wanted {s : Deployment}
    (hagree : ∀ d ∈ s.members, ∀ d' ∈ s.members, d.sipUser = d'.sipUser →
      d.sipUser ≠ "" → d.isActive = d'.isActive) {d : Subscriber} (hd : d ∈ s.members)
    (hne : d.sipUser ≠ "") : d.isActive = true ↔ s.Wanted d.sipUser := by
  constructor
  · intro hactive
    exact ⟨d, hd, wants_iff.mpr ⟨hactive, sipUsername_of_ne hne⟩⟩
  · rintro ⟨d', hd', hwants⟩
    rw [hagree d hd d' hd' (sipUser_of_wants hwants).symm hne]
    exact (wants_iff.mp hwants).1

namespace Inv

variable {s : Deployment} (hs : s.Inv)

include hs

/-- The event of a document that is written touches the endpoint of its name, if it is one of the
society with a name. -/
lemma member_settled (op : OperationType) (d : Subscriber) :
    s.settled.member { operationType := op, documentKey := some d.id, fullDocument := some d } =
      if s.isMember d ∧ d.sipUser ≠ "" then some d else none := by
  have hsociety : s.settled.societyId = s.societyId := SubscriberWatcher.societyId_handleAll _ _
  simp only [SubscriberWatcher.member, hsociety, isOf_iff hs.society]

lemma present_write {op : OperationType} (hop : op ≠ .delete) {d : Subscriber}
    (hd : s.MayWrite d) (user : String) :
    (s.write op d).settled.present s.objects user = true ↔ (s.write op d).Wanted user := by
  have hother : (∃ old, s.docs.lookup d.id = some old ∧ s.isMember old = true ∧
      wants user old = true) → user ≠ "" ∧
      (s.isMember d = true ∧ d.sipUsername = some user ∨ s.WantedByOther d.id user) := by
    rintro ⟨old, hlookup, hmember, hwants⟩
    obtain ⟨hactive, hname⟩ := wants_iff.mp hwants
    refine ⟨?_, hd.keeps old hlookup hmember hactive user hname⟩
    rintro rfl
    have hid : old.id = d.id := hs.keyed _ old hlookup
    exact hs.named old ((mem_members hs.keyed).mpr ⟨hid ▸ hlookup, hmember⟩) hactive hname
  have hsettled : (s.write op d).settled = s.settled.handleEvent _ :=
    SubscriberWatcher.handleAll_concat _ _ _
  rw [hsettled, SubscriberWatcher.present_handleEvent, wanted_write hs.keyed,
    SubscriberWatcher.touch, if_neg hop, hs.member_settled]
  split_ifs with hmember
  · obtain ⟨hmember, hne⟩ := hmember
    have hname := sipUsername_of_ne hne
    rw [Option.map_some, SubscriberWatcher.put_some]
    split_ifs with huser
    · subst huser
      cases hactive : d.isActive with
      | true => simp [hmember, wants_iff, hactive, hname]
      | false =>
        have hfree := hd.frees hmember hactive _ hname
        simp [wants_iff, hactive, hfree]
    · rw [hs.present, wanted_iff hs.keyed d.id]
      constructor
      · rintro (hold | h)
        · obtain ⟨-, ⟨-, h⟩ | h⟩ := hother hold
          · exact absurd (Option.some.inj (h.symm.trans hname)) huser
          · exact Or.inr h
        · exact Or.inr h
      · rintro (⟨-, h⟩ | h)
        · exact absurd (sipUser_of_wants h).symm huser
        · exact Or.inr h
  · rw [Option.map_none, SubscriberWatcher.put_none, hs.present, wanted_iff hs.keyed d.id]
    -- a document of the society without a name asks for nothing
    have hnot : s.isMember d = true → d.sipUser = "" := by
      intro h
      by_contra hne
      exact hmember ⟨h, hne⟩
    constructor
    · rintro (hold | h)
      · obtain ⟨hne, ⟨h, hname⟩ | h⟩ := hother hold
        · have hempty := hnot h
          simp only [Subscriber.sipUser, hname, Option.getD_some] at hempty
          exact absurd hempty hne
        · exact Or.inr h
      · exact Or.inr h
    · rintro (⟨h, hwants⟩ | h)
      · obtain ⟨hactive, hname⟩ := wants_iff.mp hwants
        have hempty := hnot h
        simp only [Subscriber.sipUser, hname, Option.getD_some] at hempty
        exact absurd (hempty ▸ hname) (hd.named h hactive)
      · exact Or.inr h

lemma write {op : OperationType} (hop : op ≠ .delete) {d : Subscriber} (hd : s.MayWrite d) :
    (s.write op d).Inv where
  society := hs.society
  keyed := keyed_write hs.keyed op d
  present := hs.present_write hop hd
  cache id := by
    have hsettled : (s.write op d).settled = s.settled.handleEvent _ :=
      SubscriberWatcher.handleAll_concat _ _ _
    rw [hsettled, SubscriberWatcher.lookup_handleEvent, SubscriberWatcher.learn, if_neg hop,
      hs.member_settled, hs.cache, Deployment.write]
    split_ifs with hmember
    · by_cases hid : id = d.id
      · rw [Option.map_some, SubscriberWatcher.put_some, if_pos hid, hid, AList.lookup_insert]
      · rw [Option.map_some, SubscriberWatcher.put_some, if_neg hid, AList.lookup_insert_ne hid]
    · rfl
  known d' hd' hne := by
    obtain ⟨hlookup, hmember⟩ := (mem_members (keyed_write hs.keyed op d)).mp hd'
    rw [Deployment.write] at hlookup ⊢
    by_cases hid : d'.id = d.id
    · rw [hid, AList.lookup_insert] at hlookup
      obtain rfl := Option.some.inj hlookup
      have hthis : s.isMember d = true ∧ d.sipUser ≠ "" := ⟨hmember, hne⟩
      rw [if_pos hthis, AList.lookup_insert]
    · rw [AList.lookup_insert_ne hid] at hlookup
      have hbefore := hs.known d' ((mem_members hs.keyed).mpr ⟨hlookup, hmember⟩) hne
      split_ifs
      · rw [AList.lookup_insert_ne hid, hbefore]
      · exact hbefore
  named d' hd' hactive := by
    obtain ⟨hlookup, hmember⟩ := (mem_members (keyed_write hs.keyed op d)).mp hd'
    rw [Deployment.write] at hlookup
    by_cases hid : d'.id = d.id
    · rw [hid, AList.lookup_insert] at hlookup
      obtain rfl := Option.some.inj hlookup
      exact hd.named hmember hactive
    · rw [AList.lookup_insert_ne hid] at hlookup
      exact hs.named d' ((mem_members hs.keyed).mpr ⟨hlookup, hmember⟩) hactive

lemma present_remove {id : String} (hid : s.MayRemove id) (user : String) :
    (s.remove id).settled.present s.objects user = true ↔ (s.remove id).Wanted user := by
  -- the name of a document that asks for an endpoint is known
  have hold : (∃ d, s.docs.lookup id = some d ∧ s.isMember d = true ∧ wants user d = true) →
      user ≠ "" ∧ s.names.lookup id = some user := by
    rintro ⟨d, hlookup, hmember, hwants⟩
    have hdid : d.id = id := hs.keyed _ d hlookup
    have hmem : d ∈ s.members := (mem_members hs.keyed).mpr ⟨hdid ▸ hlookup, hmember⟩
    obtain ⟨hactive, hname⟩ := wants_iff.mp hwants
    have huser := sipUser_of_wants hwants
    have hne : user ≠ "" := by
      rintro rfl
      exact hs.named d hmem hactive hname
    rw [← hdid, ← huser]
    exact ⟨huser ▸ hne, hs.known d hmem (huser ▸ hne)⟩
  have hsettled : (s.remove id).settled = s.settled.handleEvent _ :=
    SubscriberWatcher.handleAll_concat _ _ _
  rw [hsettled, SubscriberWatcher.present_handleEvent, wanted_remove hs.keyed,
    SubscriberWatcher.touch, if_pos rfl, SubscriberWatcher.known, Option.bind_some, hs.cache]
  have hkeep : (∀ known, s.names.lookup id = some known → known ≠ "" → user ≠ known) →
      (s.settled.present s.objects user = true ↔ s.WantedByOther id user) := by
    intro hnot
    rw [hs.present, wanted_iff hs.keyed id]
    refine or_iff_right ?_
    intro h
    obtain ⟨hne, hknown⟩ := hold h
    exact hnot user hknown hne rfl
  rcases hnames : s.names.lookup id with _ | known
  · exact hkeep (by simp [hnames])
  · by_cases hempty : known = ""
    · simp only [hempty, if_true, Option.map_none, SubscriberWatcher.put_none]
      exact hkeep (by simp [hnames, hempty])
    · simp only [hempty, if_false, Option.map_some, SubscriberWatcher.put_some]
      split_ifs with huser
      · subst huser
        simpa using hid user hnames
      · exact hkeep (by simpa [hnames, hempty] using huser)

lemma remove {id : String} (hid : s.MayRemove id) : (s.remove id).Inv where
  society := hs.society
  keyed := keyed_remove hs.keyed id
  present := hs.present_remove hid
  cache k := by
    have hsettled : (s.remove id).settled = s.settled.handleEvent _ :=
      SubscriberWatcher.handleAll_concat _ _ _
    rw [hsettled, SubscriberWatcher.lookup_handleEvent, SubscriberWatcher.learn, if_pos rfl,
      Option.map_some, SubscriberWatcher.put_some, hs.cache, Deployment.remove]
    split_ifs with hk
    · rw [hk, AList.lookup_erase]
    · rw [AList.lookup_erase_ne hk]
  known d hd hne := by
    obtain ⟨hlookup, hmember⟩ := (mem_members (keyed_remove hs.keyed id)).mp hd
    rw [Deployment.remove] at hlookup ⊢
    by_cases hk : d.id = id
    · rw [hk, AList.lookup_erase] at hlookup
      cases hlookup
    · rw [AList.lookup_erase_ne hk] at hlookup ⊢
      exact hs.known d ((mem_members hs.keyed).mpr ⟨hlookup, hmember⟩) hne
  named d hd hactive := by
    obtain ⟨hlookup, hmember⟩ := (mem_members (keyed_remove hs.keyed id)).mp hd
    rw [Deployment.remove] at hlookup
    by_cases hk : d.id = id
    · rw [hk, AList.lookup_erase] at hlookup
      cases hlookup
    · rw [AList.lookup_erase_ne hk] at hlookup
      exact hs.named d ((mem_members hs.keyed).mpr ⟨hlookup, hmember⟩) hactive

/-- Only the watcher goes on, to a state from which the events that are left lead to the same. -/
lemma of_watcher {w : SubscriberWatcher Unit} {es : List ChangeEvent}
    (hsociety : w.societyId = s.watcher.societyId)
    (hpresent : ∀ user, (w.handleAll es).present s.objects user =
      s.settled.present s.objects user)
    (hcache : ∀ id, (w.handleAll es).idToSipuser.lookup id = s.settled.idToSipuser.lookup id) :
    Inv { s with watcher := w, pending := es } := by
  set t : Deployment := { s with watcher := w, pending := es }
  have hmember : t.isMember = s.isMember := by
    funext d
    rw [Bool.eq_iff_iff, isMember_iff, isMember_iff]
    simp only [t, societyId, hsociety]
  have hmembers : t.members = s.members := by rw [members, members, hmember]
  constructor
  · have htsociety : t.societyId = s.societyId := hsociety
    rw [htsociety]
    exact hs.society
  · exact hs.keyed
  · intro user
    rw [Wanted, hmembers]
    exact (iff_of_eq (congrArg (· = true) (hpresent user))).trans (hs.present user)
  · intro id
    exact (hcache id).trans (hs.cache id)
  · rw [hmembers]
    exact hs.known
  · rw [hmembers]
    exact hs.named

lemma deliver : s.deliver.Inv := by
  rcases hpending : s.pending with _ | ⟨e, es⟩
  · simpa [Deployment.deliver, hpending] using hs
  · have hsettled : s.settled = (s.watcher.handleEvent e).handleAll es := by
      simp [settled, hpending, SubscriberWatcher.handleAll]
    simp only [Deployment.deliver, hpending]
    apply hs.of_watcher (SubscriberWatcher.societyId_handleEvent e s.watcher)
    · intro user
      rw [hsettled]
    · intro id
      rw [hsettled]

lemma resync {rows : List Subscriber} (hscan : rows.Perm s.members → s.MayScan) :
    (s.resync rows).Inv := by
  rw [Deployment.resync]
  split_ifs with hperm
  · obtain ⟨hagree, hdeleted⟩ := hscan hperm
    have hmem : ∀ d, d ∈ rows ↔ d ∈ s.members := fun d => hperm.mem_iff
    have hrows : ∀ d ∈ rows, ∀ d' ∈ rows, d.sipUser = d'.sipUser → d.sipUser ≠ "" →
        d.isActive = d'.isActive := by
      intro d hd d' hd'
      exact hagree d ((hmem d).mp hd) d' ((hmem d').mp hd')
    have hids : ∀ d ∈ rows, ∀ d' ∈ rows, d.id = d'.id → d = d' := by
      intro d hd d' hd'
      exact eq_of_mem_members hs.keyed ((hmem d).mp hd) ((hmem d').mp hd')
    have hsociety : (s.watcher.resync rows).societyId = s.watcher.societyId :=
      SubscriberWatcher.societyId_runFullScan rows s.watcher
    obtain ⟨hpresent, hlookup⟩ := SubscriberWatcher.alike_handleAll s.objects s.pending
      hsociety (by
        intro e he hdelete id hkey
        apply SubscriberWatcher.lookup_runFullScan_of_forall
        intro d hd hid
        exact hdeleted e he hdelete d ((hmem d).mp hd) (hid ▸ hkey))
    apply hs.of_watcher hsociety
    · intro user
      by_cases hrow : ∃ d ∈ rows, d.sipUser = user ∧ user ≠ ""
      · obtain ⟨d, hd, rfl, hne⟩ := hrow
        obtain h | ⟨-, h⟩ := hpresent d.sipUser
        · exact h.symm
        · rw [h, SubscriberWatcher.resync,
            SubscriberWatcher.present_runFullScan_of_mem hrows hd hne, Bool.eq_iff_iff,
            isActive_iff_wanted hagree ((hmem d).mp hd) hne, hs.present]
      · have hsame : (s.watcher.resync rows).present s.objects user =
            s.watcher.present s.objects user := by
          apply SubscriberWatcher.present_runFullScan_of_forall
          intro d hd huser
          by_contra hne
          exact hrow ⟨d, hd, huser, hne⟩
        obtain h | ⟨h, h'⟩ := hpresent user
        · exact h.symm
        · rw [h', hsame, ← h]
          rfl
    · intro id
      by_cases hrow : ∃ d ∈ rows, d.id = id ∧ d.sipUser ≠ ""
      · obtain ⟨d, hd, rfl, hne⟩ := hrow
        obtain h | ⟨-, h⟩ := hlookup d.id
        · exact h.symm
        · rw [h, SubscriberWatcher.resync, SubscriberWatcher.lookup_runFullScan_of_mem hids hd hne,
            hs.cache, hs.known d ((hmem d).mp hd) hne]
      · have hsame : (s.watcher.resync rows).idToSipuser.lookup id =
            s.watcher.idToSipuser.lookup id := by
          apply SubscriberWatcher.lookup_runFullScan_of_forall
          intro d hd hid
          by_contra hne
          exact hrow ⟨d, hd, hid, hne⟩
        obtain h | ⟨h, h'⟩ := hlookup id
        · exact h.symm
        · rw [h', hsame, ← h]
          rfl
  · exact hs

lemma step {i : Input} (hi : s.Ok i) : (s.step i).Inv := by
  cases i with
  | deliver => exact hs.deliver
  | resync rows => exact hs.resync hi
  | change c =>
    cases c with
    | insert d =>
      simp only [Deployment.step, commit]
      split_ifs with hmem
      · exact hs
      · exact hs.write (by decide) (hi hmem)
    | update d =>
      simp only [Deployment.step, commit]
      split_ifs with hmem
      · exact hs.write (by decide) (hi hmem)
      · exact hs
    | replace d =>
      simp only [Deployment.step, commit]
      split_ifs with hmem
      · exact hs.write (by decide) (hi hmem)
      · exact hs
    | delete id =>
      simp only [Deployment.step, commit]
      split_ifs with hmem
      · exact hs.remove (hi hmem)
      · exact hs

end Inv

/-! ### The bootstrap scan -/

/-- The collection before the scan: the names are those of the documents of the society. -/
structure Fresh (s : Deployment) : Prop where
  keyed : s.Keyed
  names : ∀ id user, s.names.lookup id = some user ↔
    ∃ d ∈ s.members, d.id = id ∧ d.sipUser = user ∧ user ≠ ""

lemma Fresh.insert {s : Deployment} (hs : s.Fresh) (d : Subscriber) :
    (s.commit (.insert d)).Fresh := by
  simp only [commit]
  split_ifs with hmem
  · exact hs
  · have hkeyed := keyed_write hs.keyed .insert d
    refine ⟨hkeyed, ?_⟩
    intro id user
    by_cases hid : id = d.id
    · subst hid
      have hthis : ∀ d', d' ∈ (s.write .insert d).members ∧ d'.id = d.id ↔
          d' = d ∧ s.isMember d = true := by
        intro d'
        rw [mem_members hkeyed]
        constructor
        · rintro ⟨⟨hlookup, hmember⟩, hid⟩
          rw [hid, write, AList.lookup_insert] at hlookup
          obtain rfl := Option.some.inj hlookup
          exact ⟨rfl, hmember⟩
        · rintro ⟨rfl, hmember⟩
          exact ⟨⟨by rw [write, AList.lookup_insert], hmember⟩, rfl⟩
      have hnone : s.names.lookup d.id = none := by
        by_contra hsome
        obtain ⟨user, huser⟩ := Option.ne_none_iff_exists'.mp hsome
        obtain ⟨d', hd', hid, -⟩ := (hs.names _ _).mp huser
        have hlookup := ((mem_members hs.keyed).mp hd').1
        rw [hid, AList.lookup_eq_none.mpr hmem] at hlookup
        cases hlookup
      have hexists : (∃ d' ∈ (s.write .insert d).members, d'.id = d.id ∧ d'.sipUser = user ∧
          user ≠ "") ↔ s.isMember d = true ∧ d.sipUser = user ∧ user ≠ "" := by
        constructor
        · rintro ⟨d', hd', hid, h⟩
          obtain ⟨rfl, hmember⟩ := (hthis d').mp ⟨hd', hid⟩
          exact ⟨hmember, h⟩
        · rintro ⟨hmember, h⟩
          obtain ⟨hd', hid⟩ := (hthis d).mpr ⟨rfl, hmember⟩
          exact ⟨d, hd', hid, h⟩
      rw [hexists, write]
      split_ifs with hnamed
      · rw [AList.lookup_insert, Option.some.injEq]
        constructor
        · rintro rfl
          exact ⟨hnamed.1, rfl, hnamed.2⟩
        · rintro ⟨-, rfl, -⟩
          rfl
      · rw [hnone]
        refine iff_of_false (by simp) ?_
        rintro ⟨hmember, rfl, hne⟩
        exact hnamed ⟨hmember, hne⟩
    · have hsame : (s.write .insert d).names.lookup id = s.names.lookup id := by
        rw [write]
        split_ifs
        · rw [AList.lookup_insert_ne hid]
        · rfl
      rw [hsame, hs.names]
      refine exists_congr fun d' => ?_
      rw [mem_members hkeyed, mem_members hs.keyed]
      by_cases hd' : d'.id = d.id
      · simp [hd', Ne.symm hid]
      · rw [write, AList.lookup_insert_ne hd']
        rfl

lemma fresh_start (societyId : String) (objects : Asterisk) (ds : List Subscriber) :
    (start societyId objects ds).Fresh := by
  have hinsert : ∀ (s : Deployment), s.Fresh →
      (ds.foldl (fun s d => s.commit (.insert d)) s).Fresh := by
    intro s hs
    exact run_invariant (P := Fresh) (fun s d hs => hs.insert d) hs ds
  have hempty : Fresh { watcher := { societyId := societyId }, objects := objects } :=
    ⟨by simp [Keyed], by simp [members]⟩
  obtain ⟨hkeyed, hnames⟩ := hinsert _ hempty
  exact ⟨hkeyed, hnames⟩

lemma watcher_start (societyId : String) (objects : Asterisk) (ds : List Subscriber) :
    (start societyId objects ds).watcher = { societyId := societyId } ∧
      (start societyId objects ds).objects = objects := by
  have hcommit : ∀ (s : Deployment) d, (s.commit (.insert d)).watcher = s.watcher ∧
      (s.commit (.insert d)).objects = s.objects := by
    intro s d
    simp only [commit]
    split_ifs <;> exact ⟨rfl, rfl⟩
  have hfold := run_invariant (f := fun (s : Deployment) d => s.commit (.insert d))
    (P := fun s => s.watcher = { societyId := societyId } ∧ s.objects = objects)
    (fun s d hs => ⟨(hcommit s d).1.trans hs.1, (hcommit s d).2.trans hs.2⟩)
    (s := { watcher := { societyId := societyId }, objects := objects }) ⟨rfl, rfl⟩ ds
  exact hfold

/-- The endpoints follow the collection once it has been scanned. -/
lemma inv_bootstrap {societyId : String} (hsoc : societyId ≠ "") {objects : Asterisk}
    {ds rows : List Subscriber} (hrows : rows.Perm (start societyId objects ds).members)
    (hboot : (start societyId objects ds).MayBootstrap) :
    ((start societyId objects ds).resync rows).Inv := by
  set s := start societyId objects ds
  obtain ⟨hwatcher, hobjects⟩ : s.watcher = { societyId := societyId } ∧ s.objects = objects :=
    watcher_start societyId objects ds
  have hfresh : s.Fresh := fresh_start societyId objects ds
  have hmem : ∀ d, d ∈ rows ↔ d ∈ s.members := fun d => hrows.mem_iff
  set t := s.resync rows
  have ht : t = { s with watcher := s.watcher.resync rows } := if_pos hrows
  have hsociety : t.societyId = s.societyId := by
    rw [ht]
    exact SubscriberWatcher.societyId_runFullScan rows s.watcher
  have hsettled : t.settled = s.watcher.runFullScan rows := by
    rw [ht]
    rfl
  have hmember : t.isMember = s.isMember := by
    funext d
    rw [Bool.eq_iff_iff, isMember_iff, isMember_iff, hsociety]
  have hmembers : t.members = s.members := by
    rw [members, members, hmember, ht]
  have hnames : t.names = s.names := by rw [ht]
  constructor
  · rw [hsociety, Deployment.societyId, hwatcher]
    exact hsoc
  · rw [ht]
    exact hfresh.keyed
  · intro user
    have htobjects : t.objects = s.objects := by rw [ht]
    rw [hsettled, htobjects, Wanted, hmembers]
    by_cases hrow : ∃ d ∈ rows, d.sipUser = user ∧ user ≠ ""
    · obtain ⟨d, hd, rfl, hne⟩ := hrow
      rw [SubscriberWatcher.present_runFullScan_of_mem _ hd hne]
      · exact isActive_iff_wanted hboot.agree ((hmem d).mp hd) hne
      · intro d hd d' hd'
        exact hboot.agree d ((hmem d).mp hd) d' ((hmem d').mp hd')
    · rw [SubscriberWatcher.present_runFullScan_of_forall]
      · refine iff_of_false ?_ ?_
        · intro h
          have hobject : (ConfigType.endpoint, user) ∈ s.objects := by
            simpa [SubscriberWatcher.present, hwatcher, Asterisk.after] using h
          obtain ⟨d, hd, huser, hne⟩ := hboot.found _ hobject rfl
          exact hrow ⟨d, (hmem d).mpr hd, huser, hne⟩
        · rintro ⟨d, hd, hwants⟩
          obtain ⟨hactive, hname⟩ := wants_iff.mp hwants
          refine hrow ⟨d, (hmem d).mpr hd, sipUser_of_wants hwants, ?_⟩
          rintro rfl
          exact hboot.named d hd hactive hname
      · intro d hd huser
        by_contra hne
        exact hrow ⟨d, hd, huser, hne⟩
  · intro id
    rw [hsettled, hnames]
    by_cases hrow : ∃ d ∈ rows, d.id = id ∧ d.sipUser ≠ ""
    · obtain ⟨d, hd, rfl, hne⟩ := hrow
      rw [SubscriberWatcher.lookup_runFullScan_of_mem _ hd hne]
      · exact ((hfresh.names _ _).mpr ⟨d, (hmem d).mp hd, rfl, rfl, hne⟩).symm
      · intro d hd d' hd'
        exact eq_of_mem_members hfresh.keyed ((hmem d).mp hd) ((hmem d').mp hd')
    · rw [SubscriberWatcher.lookup_runFullScan_of_forall, hwatcher]
      · symm
        by_contra hsome
        obtain ⟨user, huser⟩ := Option.ne_none_iff_exists'.mp hsome
        obtain ⟨d, hd, hid, rfl, hne⟩ := (hfresh.names _ _).mp huser
        exact hrow ⟨d, (hmem d).mpr hd, hid, hne⟩
      · intro d hd hid
        by_contra hne
        exact hrow ⟨d, hd, hid, hne⟩
  · rw [hmembers, hnames]
    intro d hd hne
    exact (hfresh.names _ _).mpr ⟨d, hd, rfl, rfl, hne⟩
  · rw [hmembers]
    exact hboot.named

/-- In every run that starts with a scan, whose changes and scans leave no endpoint behind and take
none away: once all events are handled, the endpoints in Asterisk are those of the active documents
of the society. -/
theorem provisioning_converges {societyId : String} (hsoc : societyId ≠ "") (objects : Asterisk)
    (ds rows : List Subscriber) (is : List Input)
    (hrows : rows.Perm (start societyId objects ds).members)
    (hboot : (start societyId objects ds).MayBootstrap)
    (hok : Along step Ok ((start societyId objects ds).resync rows) is) :
    let s := ((start societyId objects ds).resync rows).run is
    s.pending = [] → ∀ user, s.hasEndpoint user = true ↔ s.Wanted user := by
  intro s hpending user
  have hs : s.Inv :=
    hok.invariant (P := Inv) (fun _ _ hi hs => hs.step hi) (inv_bootstrap hsoc hrows hboot)
  have hsettled : s.settled = s.watcher := by
    rw [settled, hpending]
    rfl
  rw [← hs.present user, hsettled, hasEndpoint]

/-- The document of a subscriber of the society `soc`. -/
def subscriber (id user status : String) : Subscriber :=
  { id := id, societyId := some "soc", sipUsername := some user, status := some status }

/-- One subscriber is disabled and another one is added, with a scan in between. -/
theorem provisioning_converges_disabled :
    let s := ((start "soc" ∅ [subscriber "1" "a" "active"]).resync
      [subscriber "1" "a" "active"]).run
        [.change (.insert (subscriber "2" "b" "active")),
          .change (.update (subscriber "1" "a" "disabled")),
          .resync [subscriber "1" "a" "disabled", subscriber "2" "b" "active"], .deliver, .deliver]
    s.pending = [] ∧ (s.hasEndpoint "b" = true ↔ s.Wanted "b") := by
  intro s
  have hpending : s.pending = [] := by decide +kernel
  exact ⟨hpending, provisioning_converges (by decide) ∅ [subscriber "1" "a" "active"]
    [subscriber "1" "a" "active"] _ (by decide +kernel) (by decide +kernel) (by decide +kernel)
    hpending "b"⟩

/-- A subscriber gets another user name: the endpoint of the old one stays. -/
theorem endpoint_of_old_name :
    let s := ((start "soc" ∅ [subscriber "1" "a" "active"]).resync
      [subscriber "1" "a" "active"]).run
        [.change (.update (subscriber "1" "b" "active")), .deliver]
    s.pending = [] ∧ s.hasEndpoint "a" = true ∧ ¬ s.Wanted "a" := by
  intro s
  refine ⟨by decide +kernel, by decide +kernel, ?_⟩
  rw [Wanted]
  decide +kernel

end Deployment
