import Mathlib.Data.List.AList
import OnPremPbx.Transition.History
import OnPremPbx.Transition.Run

/-!
# The forked-ring router

`CallRouter` (`call_router.cpp`) resolves a dialed extension to the subscribers behind it, rings a
leg for each of them, and connects the caller with the first that answers. It is driven by the
events that `AriClient` forwards and acts through requests to ARI; it never waits for an answer.

What the code does not decide is read off a `Script`: the status of every response, and what the
database returns. The log is a record that no function reads. The sets of the source are lists
here, whose order nothing depends on.
-/

/-- A request to ARI. -/
inductive AriRequest where
  | continueInDialplan (channelId context extension : String) (priority : ℤ)
  | originate (endpoint app appArgs channelId callerId : String)
  | createBridge (bridgeId type : String)
  | addChannelToBridge (bridgeId channelId : String)
  | hangup (channelId reason : String)
  | answer (channelId : String)
  deriving DecidableEq, Repr

/-- The status of a response that means success. -/
def isSuccess (status : ℤ) : Bool := 200 ≤ status ∧ status < 300

/-- What `resolve_targets` asks of the `subscribers` collection. -/
inductive SubscriberFilter where
  | guards (societyId : String)
  | flat (societyId flatNumber : String)
  deriving DecidableEq, Repr

/-- The fields of a row that are strings. -/
structure SubscriberRow where
  status : Option String := none
  sipUsername : Option String := none
  deriving DecidableEq, Repr

/-- A row is rung unless it is disabled or has no user name. -/
def SubscriberRow.target (row : SubscriberRow) : Option String :=
  if row.status.any (· ≠ "active") then none else row.sipUsername.filter (· ≠ "")

namespace CallRouter

/-- What the surroundings do while one entry point runs. The responses that are not listed have
status 200, and the database throws, or returns something that is not an array, for `none`. -/
structure Script where
  statuses : List ℤ := []
  subscribers : SubscriberFilter → Option (List SubscriberRow) := fun _ => none

/-- What happened. -/
inductive Entry where
  | request (r : AriRequest) (status : ℤ)
  | callerStart (caller : String)
  | legStart (leg caller : String)
  /-- a channel was reported gone, and whether it was a caller with a call -/
  | gone (channelId : String) (hadCall : Bool)
  /-- the call of a caller was entered into the table -/
  | began (caller : String)
  deriving DecidableEq, Repr

structure PendingCall where
  dialedExt : String
  ringingLegs : List String
  /-- empty until a leg has answered -/
  connectedLeg : String := ""
  deriving DecidableEq, Repr

end CallRouter

structure CallRouter where
  societyId : String := ""
  appName : String := "pbx"
  calls : AList fun _ : String => CallRouter.PendingCall := ∅
  legToCaller : AList fun _ : String => String := ∅
  script : CallRouter.Script := {}
  log : List CallRouter.Entry := []

namespace CallRouter

def kGuardExtension : String := "0"

def kOutboundTag : String := "outbound"

/-! ### Requests -/

/-- Add to the record. -/
def note (e : Entry) (s : CallRouter) : CallRouter := { s with log := s.log ++ [e] }

/-- Make a request, and answer with the status of its response. -/
def request (r : AriRequest) (s : CallRouter) : CallRouter × ℤ :=
  let status := s.script.statuses.headD 200
  ({ s.note (.request r status) with script.statuses := s.script.statuses.tail }, status)

/-- Make a request whose response is not looked at. -/
def demand (r : AriRequest) (s : CallRouter) : CallRouter := (s.request r).1

def hangup (channelId reason : String) (s : CallRouter) : CallRouter :=
  s.demand (.hangup channelId reason)

def hangupAll (legs : List String) (reason : String) (s : CallRouter) : CallRouter :=
  legs.foldl (fun s leg => s.hangup leg reason) s

/-! ### The tables -/

/-- Replace a call that is in the table. -/
def setCall (caller : String) (call : PendingCall) (s : CallRouter) : CallRouter :=
  { s with calls := s.calls.insert caller call }

/-- `m_calls.emplace`. -/
def beginCall (caller : String) (call : PendingCall) (s : CallRouter) : CallRouter :=
  (s.setCall caller call).note (.began caller)

/-- `m_calls.erase`. -/
def endCall (caller : String) (s : CallRouter) : CallRouter :=
  { s with calls := s.calls.erase caller }

/-- `m_leg_to_caller[leg] = caller`. -/
def recordLeg (leg caller : String) (s : CallRouter) : CallRouter :=
  { s with legToCaller := s.legToCaller.insert leg caller }

def forgetLeg (leg : String) (s : CallRouter) : CallRouter :=
  { s with legToCaller := s.legToCaller.erase leg }

/-! ### The entry points -/

def resolveTargets (dialedExt : String) (s : CallRouter) : List String :=
  if dialedExt = "" then []
  else
    let filter : SubscriberFilter :=
      if dialedExt = kGuardExtension then .guards s.societyId else .flat s.societyId dialedExt
    ((s.script.subscribers filter).getD []).filterMap SubscriberRow.target

/-- The channel id of the leg number `i` of a call. -/
def legId (caller : String) (i : ℕ) : String := caller ++ "-leg-" ++ toString i

/-- The bridge of a call. -/
def bridgeId (caller : String) : String := caller ++ "-bridge"

def originateLeg (caller callerId user : String) (i : ℕ) (s : CallRouter) : CallRouter × ℤ :=
  s.request (.originate ("PJSIP/" ++ user) s.appName (kOutboundTag ++ "," ++ caller)
    (legId caller i) callerId)

/-- The loop of `on_caller_start` over the targets from the number `i` on, with the legs that ring
by then. -/
def ringTargets (caller callerId : String) :
    ℕ → List String → List String → CallRouter → CallRouter × List String
  | _, [], ringing, s            => (s, ringing)
  | i, user :: rest, ringing, s =>
    let out := s.originateLeg caller callerId user i
    if isSuccess out.2 then
      ringTargets caller callerId (i + 1) rest (ringing.insert (legId caller i))
        (out.1.recordLeg (legId caller i) caller)
    else ringTargets caller callerId (i + 1) rest ringing out.1

def onCallerStart (caller callerId dialedExt : String) (s : CallRouter) : CallRouter :=
  let s := s.note (.callerStart caller)
  if caller ∈ s.calls then s
  else
    let targets := s.resolveTargets dialedExt
    if targets = [] then s.hangup caller "congestion"
    else
      let out := s.ringTargets caller callerId 0 targets []
      if out.2 = [] then out.1.hangup caller "congestion"
      else out.1.beginCall caller { dialedExt := dialedExt, ringingLegs := out.2 }

/-- The requests that connect the caller with the leg that has answered. -/
def connect (caller leg : String) (s : CallRouter) : CallRouter :=
  (((s.demand (.answer caller)).demand (.createBridge (bridgeId caller) "mixing")).demand
    (.addChannelToBridge (bridgeId caller) caller)).demand
    (.addChannelToBridge (bridgeId caller) leg)

def onLegStart (leg caller : String) (s : CallRouter) : CallRouter :=
  let s := s.note (.legStart leg caller)
  match s.calls.lookup caller with
  | none      => s.hangup leg "normal"
  | some call =>
    if call.connectedLeg ≠ "" then
      if call.connectedLeg = leg then s
      else (s.hangup leg "answered").setCall caller
        { call with ringingLegs := call.ringingLegs.erase leg }
    else
      -- first answer wins: the others are hung up
      let ringing := call.ringingLegs.erase leg
      (((s.connect caller leg).hangupAll ringing "answered").setCall caller
        { call with connectedLeg := leg, ringingLegs := [] })

/-- The caller of a call is gone. -/
def callerGone (caller : String) (call : PendingCall) (s : CallRouter) : CallRouter :=
  let s := s.hangupAll call.ringingLegs "normal"
  let s := if call.connectedLeg ≠ "" then s.hangup call.connectedLeg "normal" else s
  s.endCall caller

/-- A leg of a call is gone. -/
def legGone (leg caller : String) (call : PendingCall) (s : CallRouter) : CallRouter :=
  if leg = call.connectedLeg then (s.hangup caller "normal").endCall caller
  else
    let call := { call with ringingLegs := call.ringingLegs.erase leg }
    let s := s.setCall caller call
    if call.connectedLeg = "" ∧ call.ringingLegs = [] then
      (s.hangup caller "no_answer").endCall caller
    else s

def onChannelGone (channelId : String) (s : CallRouter) : CallRouter :=
  let s := s.note (.gone channelId (channelId ∈ s.calls))
  match s.calls.lookup channelId with
  | some call => s.callerGone channelId call
  | none      =>
    match s.legToCaller.lookup channelId with
    | none        => s
    | some caller =>
      let s := s.forgetLeg channelId
      match s.calls.lookup caller with
      | none      => s
      | some call => s.legGone channelId caller call

/-! ### Runs -/

inductive Event where
  | callerStart (caller callerId dialedExt : String)
  | legStart (leg caller : String)
  | channelGone (channelId : String)
  deriving DecidableEq, Repr

def handle (e : Event) (s : CallRouter) : CallRouter :=
  match e with
  | .callerStart caller callerId dialedExt => s.onCallerStart caller callerId dialedExt
  | .legStart leg caller                   => s.onLegStart leg caller
  | .channelGone channelId                 => s.onChannelGone channelId

/-- An event, with what the surroundings do while it is handled. -/
abbrev Input := Event × Script

def setScript (script : Script) (s : CallRouter) : CallRouter := { s with script := script }

def step (s : CallRouter) (i : Input) : CallRouter := (s.setScript i.2).handle i.1

/-- The state after the inputs `is`. -/
def run (s : CallRouter) (is : List Input) : CallRouter := is.foldl step s

def init (societyId appName : String) : CallRouter := { societyId := societyId, appName := appName }

end CallRouter
