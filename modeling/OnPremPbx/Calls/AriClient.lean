import OnPremPbx.Calls.RouterSteps

/-!
# The ARI client

`AriClient` (`ari_client.cpp`) handles the events of Asterisk one by one. It decides which callers
are admitted, hands them and the legs that answer to the router, counts the bridges, writes a call
detail record when a caller is gone, and publishes which subscribers are registered.

Events are modelled after parsing and only with the fields that are looked at. A string that the
source reads with `value` makes the handler throw when it has another type, and nothing has changed
by then. The client and the router make their requests over one connection, whose record is the
router's.
-/

/-- A field of an event. -/
inductive JsonField where
  | absent
  | text (s : String)
  /-- a value that is not a string -/
  | other
  deriving DecidableEq, Repr

namespace JsonField

/-- `contains` and `is_string`. -/
def string? : JsonField → Option String
  | .text s => some s
  | _       => none

/-- `value(key, "")`, which throws for `none`. -/
def value : JsonField → Option String
  | .absent => some ""
  | .text s => some s
  | .other  => none

end JsonField

/-- The channel of a `StasisStart`. -/
structure StasisChannel where
  id : JsonField
  name : JsonField := .absent
  callerNumber : Option String := none
  dialplanExten : Option String := none
  deriving DecidableEq, Repr

/-- The endpoint of an `EndpointStateChange` or a `ContactStatusChange`. -/
structure AriEndpoint where
  technology : JsonField
  resource : JsonField
  state : JsonField := .absent
  deriving DecidableEq, Repr

/-- The subscriber of an endpoint, where something is published for it. -/
def AriEndpoint.subscriber (ep : AriEndpoint) : Option String :=
  if ep.technology.value = some "PJSIP" then ep.resource.value.filter (· ≠ "") else none

/-- An event, with `none` for an object that is absent or not an object. The id of a bridge that is
not an object is absent, and arguments that are not an array are empty. -/
inductive AriEvent where
  | stasisStart (channel : Option StasisChannel) (args : List JsonField)
  | bridgeCreated (id type : JsonField)
  | bridgeDestroyed (id : JsonField)
  | channelEnteredBridge (channel bridge : Option JsonField)
  | channelLeftBridge (channelId bridgeId : String)
  | channelDestroyed (channel : Option JsonField) (causeTxt : JsonField)
  | endpointStateChange (endpoint : Option AriEndpoint)
  | contactStatusChange (endpoint : Option AriEndpoint) (contactStatus : Option JsonField)
  | other
  deriving DecidableEq, Repr

namespace AriClient

structure Config where
  societyId : String := ""
  maxConcurrentCalls : ℤ := 5
  busyContext : String := "pbx-busy"
  busyExtension : String := "s"
  busyPriority : ℤ := 1
  deriving DecidableEq, Repr

structure ChannelCtx where
  callerFlat : String
  calleeFlat : String
  bridgeId : String := ""
  startedAt : ℤ
  /-- zero until the channel has entered a bridge -/
  answeredAt : ℤ := 0
  deriving DecidableEq, Repr

structure BridgeCtx where
  bridgeType : String
  channelIds : List String := []
  deriving DecidableEq, Repr

inductive CallType where
  | p2p
  | conference
  deriving DecidableEq, Repr

/-- A call detail record. -/
structure Cdr where
  societyId : String
  callId : String
  fromFlat : String
  toFlat : String
  startedAt : ℤ
  answeredAt : ℤ
  endedAt : ℤ
  durationSec : ℤ
  type : CallType
  conferenceBridge : Option String
  hangupCause : String
  deriving DecidableEq, Repr

/-- What the surroundings do while one event is handled. The document of a subscriber is found by
the society and the user name, and counts if it has a flat number. -/
structure Script where
  now : ℤ := 0
  flatNumber : String → String → Option String := fun _ _ => none
  router : CallRouter.Script := {}

/-- What the events said. -/
inductive Mark where
  | admitted (channelId : String) (now : ℤ)
  | entered (channelId bridgeId : String) (now : ℤ)
  | left (channelId bridgeId : String)
  | destroyed (channelId : String)
  | bridgeCreated (bridgeId : String)
  | bridgeDestroyed (bridgeId : String)
  deriving DecidableEq, Repr

end AriClient

/-- The client with the router it drives. `cdrs` are the documents it has created, `published` the
calls of the register state handler, and `marks` a record that no function reads. -/
structure AriClient where
  cfg : AriClient.Config := {}
  router : CallRouter := {}
  activeBridges : ℤ := 0
  channels : AList fun _ : String => AriClient.ChannelCtx := ∅
  bridges : AList fun _ : String => AriClient.BridgeCtx := ∅
  hasRegisterStateHandler : Bool := true
  script : AriClient.Script := {}
  cdrs : List AriClient.Cdr := []
  published : List (String × Bool) := []
  marks : List AriClient.Mark := []

namespace AriClient

def kConfExtension : String := "conf"

/-! ### Texts -/

def isXDigit (c : Char) : Bool := c.isDigit || ('a' ≤ c && c ≤ 'f') || ('A' ≤ c && c ≤ 'F')

/-- The endpoint of a channel name `PJSIP/<endpoint>-<8 hex>`. -/
def sipUserFromChannelName (name : String) : String :=
  let s := if '/' ∈ name.toList then (name.toList.dropWhile (· ≠ '/')).tail else name.toList
  let tail := s.drop (s.length - 9)
  if 9 < s.length ∧ tail.head? = some '-' ∧ tail.tail.all isXDigit then
    String.ofList (s.take (s.length - 9))
  else String.ofList s

/-- `find` of a text in another. -/
def contains (s pat : String) : Bool := pat.toList <:+: s.toList

def hangupCause (causeTxt : JsonField) : String :=
  match causeTxt.string? with
  | none   => "normal"
  | some s =>
    let lc := s.map Char.toLower
    if contains lc "busy" then "busy"
    else if contains lc "no answer" then "missed"
    else if contains lc "normal" then "normal"
    else s

/-! ### Requests -/

/-- Add to the record. -/
def note (m : Mark) (s : AriClient) : AriClient := { s with marks := s.marks ++ [m] }

def withRouter (f : CallRouter → CallRouter) (s : AriClient) : AriClient :=
  { s with router := f s.router }

def request (r : AriRequest) (s : AriClient) : AriClient × ℤ :=
  let out := s.router.request r
  ({ s with router := out.1 }, out.2)

def demand (r : AriRequest) (s : AriClient) : AriClient := s.withRouter (·.demand r)

/-! ### StasisStart -/

def overAdmissionCap (s : AriClient) : Bool := s.cfg.maxConcurrentCalls ≤ s.activeBridges

def lookupFlatNumber (sipUsername : String) (s : AriClient) : String :=
  if sipUsername = "" then "" else (s.script.flatNumber s.cfg.societyId sipUsername).getD ""

/-- The caller of an originated leg, whose arguments are `outbound` and the caller. -/
def outboundCaller : List JsonField → Option String
  | .text tag :: .text caller :: _ => if tag = CallRouter.kOutboundTag then some caller else none
  | _                              => none

def callerFlat (ch : StasisChannel) (name : String) (s : AriClient) : String :=
  let flat := s.lookupFlatNumber (sipUserFromChannelName name)
  if flat = "" then ch.callerNumber.getD "" else flat

def calleeFlat (ch : StasisChannel) (args : List JsonField) : String :=
  let exten := ch.dialplanExten.getD ""
  if exten = "" then (args.head?.bind JsonField.string?).getD "" else exten

/-- The bridge that all who dial `conf` share. -/
def confBridge (s : AriClient) : String := s.cfg.societyId ++ "-conf"

def kHttpConflict : ℤ := 409

def handleConferenceJoin (channelId : String) (s : AriClient) : AriClient :=
  let created := s.request (.createBridge s.confBridge "mixing")
  -- a conflict says that the bridge is there
  if isSuccess created.2 ∨ created.2 = kHttpConflict then
    let added := created.1.request (.addChannelToBridge s.confBridge channelId)
    if isSuccess added.2 then added.1 else added.1.demand (.hangup channelId "congestion")
  else created.1.demand (.hangup channelId "congestion")

/-- `m_channels.emplace`, which keeps an entry that is there. -/
def addChannel (channelId : String) (cx : ChannelCtx) (s : AriClient) : AriClient :=
  if channelId ∈ s.channels then s else { s with channels := s.channels.insert channelId cx }

/-- What `handle_stasis_start` does with a caller that is not bounced. -/
def admitCaller (channelId : String) (ch : StasisChannel) (name : String) (args : List JsonField)
    (s : AriClient) : AriClient :=
  let caller := s.callerFlat ch name
  let callee := calleeFlat ch args
  let s := (s.note (.admitted channelId s.script.now)).addChannel channelId
    { callerFlat := caller, calleeFlat := callee, startedAt := s.script.now }
  if callee = kConfExtension then s.handleConferenceJoin channelId
  else s.withRouter (·.onCallerStart channelId caller callee)

def bounce (channelId : String) (s : AriClient) : AriClient :=
  s.demand (.continueInDialplan channelId s.cfg.busyContext s.cfg.busyExtension
    s.cfg.busyPriority)

def handleStasisStart (channel : Option StasisChannel) (args : List JsonField) (s : AriClient) :
    AriClient :=
  match channel with
  | none    => s
  | some ch =>
    match ch.id.string? with
    | none           => s
    | some channelId =>
      match outboundCaller args with
      | some caller => s.withRouter (·.onLegStart channelId caller)
      | none        =>
        if s.overAdmissionCap then s.bounce channelId
        else
          match ch.name.value with
          | none      => s
          | some name => s.admitCaller channelId ch name args

/-! ### Bridges -/

def handleBridgeCreated (id type : JsonField) (s : AriClient) : AriClient :=
  match id.string? with
  | none          => s
  | some bridgeId =>
    let s := s.note (.bridgeCreated bridgeId)
    if bridgeId ∈ s.bridges then s
    else { s with
      bridges := s.bridges.insert bridgeId { bridgeType := type.string?.getD "" }
      activeBridges := s.activeBridges + 1 }

def handleBridgeDestroyed (id : JsonField) (s : AriClient) : AriClient :=
  match id.string? with
  | none          => s
  | some bridgeId =>
    let s := s.note (.bridgeDestroyed bridgeId)
    if bridgeId ∈ s.bridges then
      { s with
        bridges := s.bridges.erase bridgeId
        activeBridges := if 0 < s.activeBridges then s.activeBridges - 1 else s.activeBridges }
    else s

/-- The entry of a channel after it has entered a bridge. -/
def ChannelCtx.enter (bridgeId : String) (now : ℤ) (cx : ChannelCtx) : ChannelCtx :=
  { cx with
    bridgeId := bridgeId
    answeredAt := if cx.answeredAt = 0 then now else cx.answeredAt }

def BridgeCtx.enter (channelId : String) (bx : BridgeCtx) : BridgeCtx :=
  { bx with channelIds := bx.channelIds.insert channelId }

/-- Change the entry of a key that is there. -/
def modify {β : Type} (key : String) (f : β → β) (l : AList fun _ : String => β) :
    AList fun _ : String => β :=
  match l.lookup key with
  | some v => l.insert key (f v)
  | none   => l

def enterBridge (channelId bridgeId : String) (s : AriClient) : AriClient :=
  { s.note (.entered channelId bridgeId s.script.now) with
    channels := modify channelId (ChannelCtx.enter bridgeId s.script.now) s.channels
    bridges := modify bridgeId (BridgeCtx.enter channelId) s.bridges }

def handleChannelEnteredBridge (channel bridge : Option JsonField) (s : AriClient) : AriClient :=
  match channel, bridge with
  | some ch, some br =>
    match ch.value, br.value with
    | some channelId, some bridgeId =>
      if channelId = "" ∨ bridgeId = "" then s else s.enterBridge channelId bridgeId
    | _, _ => s
  | _, _ => s

/-! ### ChannelDestroyed -/

def callType (cx : ChannelCtx) (s : AriClient) : CallType :=
  match s.bridges.lookup cx.bridgeId with
  | some bx => if cx.bridgeId ≠ "" ∧ 3 ≤ bx.channelIds.length then .conference else .p2p
  | none    => .p2p

def makeCdr (channelId : String) (cx : ChannelCtx) (causeTxt : JsonField) (s : AriClient) :
    Cdr where
  societyId := s.cfg.societyId
  callId := channelId
  fromFlat := cx.callerFlat
  toFlat := cx.calleeFlat
  startedAt := cx.startedAt
  answeredAt := cx.answeredAt
  endedAt := s.script.now
  durationSec :=
    if 0 < cx.answeredAt ∧ cx.answeredAt ≤ s.script.now then s.script.now - cx.answeredAt else 0
  type := s.callType cx
  conferenceBridge := if cx.bridgeId = "" then none else some cx.bridgeId
  hangupCause := hangupCause causeTxt

/-- What `handle_channel_destroyed` does once the router was told. -/
def finishCall (channelId : String) (causeTxt : JsonField) (s : AriClient) : AriClient :=
  match s.channels.lookup channelId with
  | none    => s
  | some cx =>
    { s with
      channels := s.channels.erase channelId
      cdrs := s.cdrs ++ [s.makeCdr channelId cx causeTxt] }

def handleChannelDestroyed (channel : Option JsonField) (causeTxt : JsonField) (s : AriClient) :
    AriClient :=
  match channel.bind JsonField.value with
  | none           => s
  | some channelId =>
    if channelId = "" then s
    else ((s.note (.destroyed channelId)).withRouter (·.onChannelGone channelId)).finishCall
      channelId causeTxt

/-! ### Registrations -/

def publish (resource : String) (online : Bool) (s : AriClient) : AriClient :=
  { s with published := s.published ++ [(resource, online)] }

def handleEndpointStateChange (endpoint : Option AriEndpoint) (s : AriClient) : AriClient :=
  if s.hasRegisterStateHandler then
    match endpoint with
    | none    => s
    | some ep =>
      match ep.subscriber, ep.state.value with
      | some resource, some state => s.publish resource (state = "online")
      | _, _                      => s
  else s

/-- The contact is bound, whether or not it is qualified. -/
def isBound (status : String) : Bool :=
  status = "Created" ∨ status = "Reachable" ∨ status = "NonQualified"

def handleContactStatusChange (endpoint : Option AriEndpoint) (contactStatus : Option JsonField)
    (s : AriClient) : AriClient :=
  if s.hasRegisterStateHandler then
    match endpoint with
    | none    => s
    | some ep =>
      match ep.subscriber, contactStatus.bind JsonField.value with
      | some resource, some status => s.publish resource (isBound status)
      | _, _                       => s
  else s

/-! ### Runs -/

def onEvent (e : AriEvent) (s : AriClient) : AriClient :=
  match e with
  | .stasisStart channel args             => s.handleStasisStart channel args
  | .bridgeCreated id type                => s.handleBridgeCreated id type
  | .bridgeDestroyed id                   => s.handleBridgeDestroyed id
  | .channelEnteredBridge channel bridge  => s.handleChannelEnteredBridge channel bridge
  | .channelDestroyed channel causeTxt    => s.handleChannelDestroyed channel causeTxt
  | .endpointStateChange endpoint         => s.handleEndpointStateChange endpoint
  | .contactStatusChange endpoint status  => s.handleContactStatusChange endpoint status
  -- ignored, but for the record
  | .channelLeftBridge channelId bridgeId => s.note (.left channelId bridgeId)
  | .other                                => s

/-- An event, with what the surroundings do while it is handled. -/
abbrev Input := AriEvent × Script

def setScript (script : Script) (s : AriClient) : AriClient :=
  { s with script := script, router := s.router.setScript script.router }

def step (s : AriClient) (i : Input) : AriClient := (s.setScript i.2).onEvent i.1

/-- The state after the inputs `is`. -/
def run (s : AriClient) (is : List Input) : AriClient := is.foldl step s

def init (cfg : Config) (appName : String) : AriClient :=
  { cfg := cfg, router := CallRouter.init cfg.societyId appName }

end AriClient
