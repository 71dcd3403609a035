import OnPremPbx.Transition.Slot

/-!
# The media of the mobile app

`MediaSession` (`mediaSession.ts`) has one place for a peer connection and one for the stream of the
microphone. `createOffer` fills the first at once and the second after its first wait, and `close`
releases what is there at the time. Peer connections and tracks are numbered in the order in which
the session gets them; a call of `createOffer` has the number of its peer connection.
-/

open Transition

/-- What a call of `createOffer` waits for. -/
inductive OfferWait where
  | micStream
  | offer
  | localDescription
  /-- it has returned or thrown -/
  | nothing
  deriving DecidableEq, Repr

structure MediaSession where
  pc : Option ℕ := none
  /-- the tracks of the stream -/
  localStream : Option (List ℕ) := none
  offers : List OfferWait := []
  /-- the number of tracks acquired so far -/
  tracks : ℕ := 0
  closed : List ℕ := []
  stopped : List ℕ := []

namespace MediaSession

/-- `createOffer` up to its first wait; without a peer connection it throws. -/
def createOffer (created : Bool) (s : MediaSession) : MediaSession :=
  if created then { s with pc := some s.offers.length, offers := s.offers ++ [.micStream] } else s

/-- The microphone is there, with so many tracks, and is added to the peer connection, which may
throw. -/
def gotMicStream (k n : ℕ) (added : Bool) (s : MediaSession) : MediaSession :=
  { s with
    localStream := some (List.range' s.tracks n)
    tracks := s.tracks + n
    offers := s.offers.set k (if added then .offer else .nothing) }

def close (s : MediaSession) : MediaSession :=
  { s with
    stopped := s.stopped ++ s.localStream.getD []
    localStream := none
    closed := s.closed ++ s.pc.toList
    pc := none }

/-! ### Runs -/

inductive Event where
  | createOffer (created : Bool)
  /-- what the call with that number waits for has come -/
  | gotMicStream (k n : ℕ) (added : Bool)
  | gotOffer (k : ℕ)
  | setLocalDescription (k : ℕ)
  /-- or it was rejected -/
  | rejected (k : ℕ)
  | close
  deriving DecidableEq, Repr

/-- A call goes on where it waits. -/
def step (s : MediaSession) : Event → MediaSession
  | .createOffer created      => s.createOffer created
  | .gotMicStream k n added   =>
    if s.offers[k]? = some .micStream then s.gotMicStream k n added else s
  | .gotOffer k               =>
    if s.offers[k]? = some .offer then { s with offers := s.offers.set k .localDescription } else s
  | .setLocalDescription k    =>
    if s.offers[k]? = some .localDescription then { s with offers := s.offers.set k .nothing }
    else s
  | .rejected k               => { s with offers := s.offers.set k .nothing }
  | .close                    => s.close

/-- The last call is `close`, and nothing is waited for. -/
def Ended (is : List Event) : Prop :=
  (is.filter fun i => match i with
    | .createOffer _ | .close => true
    | _                       => false).getLast? = some .close ∧
  ∀ w ∈ (is.foldl step {}).offers, w = .nothing

/-- Every peer connection is closed, and every track is stopped. -/
def Released (s : MediaSession) : Prop :=
  (∀ pc < s.offers.length, pc ∈ s.closed) ∧ ∀ track < s.tracks, track ∈ s.stopped

/-! ### The two places -/

/-- What a step does to the place of the peer connection. -/
def pcOps (s : MediaSession) : Event → List (Slot.Op ℕ)
  | .createOffer true => [.put [s.offers.length]]
  | .close            => [.free]
  | _                 => []

/-- What it does to the place of the stream. -/
def streamOps (s : MediaSession) : Event → List (Slot.Op ℕ)
  | .gotMicStream k n _ =>
    if s.offers[k]? = some .micStream then [.put (List.range' s.tracks n)] else []
  | .close              => [.free]
  | _                   => []

def pcPlace (s : MediaSession) : Slot.State ℕ := ⟨s.pc.toList, s.closed⟩

def streamPlace (s : MediaSession) : Slot.State ℕ := ⟨s.localStream.getD [], s.stopped⟩

lemma pcPlace_step (s : MediaSession) (i : Event) :
    (s.step i).pcPlace = (s.pcOps i).foldl Slot.step s.pcPlace := by
  cases i with
  | createOffer created => cases created <;> rfl
  | gotMicStream k n added =>
    rw [step]
    split_ifs <;> rfl
  | gotOffer k | setLocalDescription k =>
    rw [step]
    split_ifs <;> rfl
  | rejected k | close => rfl

lemma streamPlace_step (s : MediaSession) (i : Event) :
    (s.step i).streamPlace = (s.streamOps i).foldl Slot.step s.streamPlace := by
  cases i with
  | createOffer created => cases created <;> rfl
  | gotMicStream k n added =>
    rw [step, streamOps]
    split_ifs <;> rfl
  | gotOffer k | setLocalDescription k =>
    rw [step]
    split_ifs <;> rfl
  | rejected k | close => rfl

lemma length_offers_step (s : MediaSession) (i : Event) :
    ∃ n, (s.step i).offers.length = s.offers.length + n ∧
      Slot.acquired (s.pcOps i) = List.range' s.offers.length n := by
  cases i with
  | createOffer created =>
    cases created with
    | true => exact ⟨1, by simp [step, createOffer], rfl⟩
    | false => exact ⟨0, rfl, rfl⟩
  | gotMicStream k n added =>
    refine ⟨0, ?_, rfl⟩
    rw [step]
    split_ifs <;> simp [MediaSession.gotMicStream]
  | gotOffer k | setLocalDescription k =>
    refine ⟨0, ?_, rfl⟩
    rw [step]
    split_ifs <;> simp
  | rejected k => exact ⟨0, by simp [step], rfl⟩
  | close => exact ⟨0, rfl, rfl⟩

lemma tracks_step (s : MediaSession) (i : Event) :
    ∃ n, (s.step i).tracks = s.tracks + n ∧
      Slot.acquired (s.streamOps i) = List.range' s.tracks n := by
  cases i with
  | createOffer created => exact ⟨0, by cases created <;> rfl, rfl⟩
  | gotMicStream k n added =>
    rw [step, streamOps]
    split_ifs
    · exact ⟨n, rfl, List.append_nil _⟩
    · exact ⟨0, rfl, rfl⟩
  | gotOffer k | setLocalDescription k =>
    refine ⟨0, ?_, rfl⟩
    rw [step]
    split_ifs <;> rfl
  | rejected k | close => exact ⟨0, rfl, rfl⟩

/-- All is released if and only if `close` comes between any two peer connections and after the last
one, and likewise after each stream with tracks and before the next one. -/
theorem run_released_iff (is : List Event) :
    Released (is.foldl step {}) ↔
      Slot.FreedInTime (Slot.opsAlong step pcOps {} is) ∧
        Slot.FreedInTime (Slot.opsAlong step streamOps {} is) := by
  have hpc : (∀ pc < (is.foldl step {}).offers.length, pc ∈ (is.foldl step {}).pcPlace.released) ↔
      Slot.FreedInTime (Slot.opsAlong step pcOps {} is) :=
    @Slot.released_iff_of_numbered _ _ _ pcOps pcPlace (·.offers.length) pcPlace_step
      length_offers_step {} rfl rfl is
  have hstream : (∀ track < (is.foldl step {}).tracks,
      track ∈ (is.foldl step {}).streamPlace.released) ↔
      Slot.FreedInTime (Slot.opsAlong step streamOps {} is) :=
    @Slot.released_iff_of_numbered _ _ _ streamOps streamPlace (·.tracks) streamPlace_step
      tracks_step {} rfl rfl is
  exact and_congr hpc hstream

/-- The session is closed while the user is asked for the microphone. -/
theorem microphone_left_on :
    Ended [.createOffer true, .close, .gotMicStream 0 1 false] ∧
      ¬ Released ([.createOffer true, .close, .gotMicStream 0 1 false].foldl step {}) := by
  refine ⟨⟨rfl, by decide⟩, fun h => ?_⟩
  have hstopped := h.2 0 (by decide)
  revert hstopped
  decide

end MediaSession
