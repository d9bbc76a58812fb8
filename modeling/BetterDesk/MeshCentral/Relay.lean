import BetterDesk.MeshCentral.ControlWS
import BetterDesk.Lib.Exec
import BetterDesk.Lib.SyncMap

/-! # The mesh relay (meshcentral/relay_ws.go, relay_hub.go, cookies.go) -/

namespace BetterDesk.MeshCentral
open Exec Db

structure RelayCookieData where
  ruserID : String
  nodeID : String
  rights : ℕ
  expireMin : ℤ
  issuedAt : ℤ

/-- AES-GCM over the JSON text, under the key of the server: sealing with a nonce,
and opening. -/
structure CookieCodec where
  sealCookie : ℕ → RelayCookieData → String
  openCookie : String → Option RelayCookieData

def CookieCodec.encode (c : CookieCodec) (now : ℤ) (nonce : ℕ) (data : RelayCookieData) (ttlMinutes : ℤ) :
    String := let data := if data.issuedAt=0 then {data with issuedAt := now} else data
  let data := if data.expireMin=0 ∧ 0<ttlMinutes then {data with expireMin := ttlMinutes} else data
  c.sealCookie nonce data

def cookieExpiry (data : RelayCookieData) (maxTTLMinutes : ℤ) : ℤ :=
  if data.expireMin=0 then data.issuedAt+maxTTLMinutes*60 else data.issuedAt+data.expireMin*60

def CookieCodec.decode (c : CookieCodec) (now : ℤ) (cookie : String) (maxTTLMinutes : ℤ) :
    Option RelayCookieData := (c.openCookie cookie).filter fun data =>
    !(0<data.issuedAt&&0 < maxTTLMinutes&&cookieExpiry data maxTTLMinutes<now)

def meshNodeID (g : MeshGateway) (peerID : PeerID) : String :=
  match g.agents.find? fun a => a.peerID==peerID with
  | some a => a.meshNodeID
  | none => ((g.nodes.find? fun n => n.1==peerID).map Prod.snd).getD ""

/-- What `SendTunnel` asks of the agent. -/
structure TunnelMessage where
  relayID : String
  protocol : ℕ
  rauth : String
  rights : ℕ
  desktopviewonly : Bool

def sendTunnelMessage (relayID : String) (protocol : ℕ) (rauth : String) (rights : ℕ) (viewOnly : Bool) :
    TunnelMessage :=
  {relayID,protocol,rauth,rights := if rights=0 then 0xFFFFFFFF else rights,desktopviewonly := viewOnly}

/-- A tunnel that was handed out: the cookie in the browser's URL and the one in the agent's. -/
structure Tunnel where
  relayID : String
  nodeID : String
  viewOnly : Bool
  authCookie : String
  rauthCookie : String
  message : TunnelMessage

def tunnelRights (viewOnly : Bool) : ℕ := if viewOnly then 0x00000002 else 0xFFFFFFFF

structure TunnelRequest where
  peerID : PeerID
  userID : String
  protocol : ℕ
  viewOnly : Bool

/-- `createRelayTunnel`, with the random relay ID and nonces it draws. -/
def createRelayTunnel (c : CookieCodec) (g : MeshGateway) (now : ℤ) (r : TunnelRequest) (relayID : String)
    (nonce nonce' : ℕ) : Tunnel := let nodeID:=meshNodeID g r.peerID
  let rights:=tunnelRights r.viewOnly
  let authCookie:=c.encode now nonce ⟨r.userID,nodeID,rights,240,0⟩ 240
  let rauthCookie:=c.encode now nonce' ⟨r.userID,nodeID,0,240,0⟩ 240
  { relayID,nodeID,viewOnly := r.viewOnly,authCookie,rauthCookie,
    message := sendTunnelMessage relayID r.protocol rauthCookie rights r.viewOnly}

structure RelayQuery where
  id : String
  auth : String
  rauth : String
  browser : String
  p : String
  deriving DecidableEq

def RelayQuery.cookies (q : RelayQuery) : List String := [q.auth,q.rauth].filter (· ≠ "")

structure WebSocket where
  number : ℕ
  query : RelayQuery
  acceptedAt : ℤ
  deriving DecidableEq

structure RelayPeer where
  ws : WebSocket
  authenticated : Bool
  userID : String
  browser : Bool
  deriving DecidableEq

/-- The decoded cookie, `none` where a cookie is refused. The last one counts. -/
def relayCookieData (c : CookieCodec) (now : ℤ) (q : RelayQuery) : Option (Option RelayCookieData) :=
  let cookieData := if q.auth="" then some none else (c.decode now q.auth 240).map some
  match cookieData with
  | none => none
  | some cookieData => if q.rauth="" then some cookieData else (c.decode now q.rauth 240).map some

def isKvmRelayProto (proto : String) : Bool := proto=="2"

def Tunnel.Admits (t : Tunnel) (ws : WebSocket) : Prop :=
  ∃ cookie∈ws.query.cookies,cookie=t.authCookie ∨ cookie=t.rauthCookie

instance (t : Tunnel) (ws : WebSocket) : Decidable (t.Admits ws) :=
  inferInstanceAs (Decidable (∃ cookie∈ws.query.cookies,_ ∨ _))

structure RelaySession where
  id : String
  peer1 : Option RelayPeer
  state : ℕ

/-- A running `pipeRelay` with its two copying directions. -/
structure Pipe where
  relayID : String
  peer1 : RelayPeer
  peer2 : RelayPeer
  toPeer2 : Bool
  toPeer1 : Bool
  ended : Bool

/-- The goroutine `readAgent`. -/
inductive Pump
  | idle
  | starting
  | reading (agent : RelayPeer)
  deriving DecidableEq

/-- `handlers` are the connections that wait for their context, `readers` the
running `readViewer` loops. -/
structure RelayHub where
  relayID : String
  agent : Option RelayPeer
  viewers : List RelayPeer
  started : Bool
  done : Bool
  pump : Pump
  readers : List RelayPeer
  handlers : List RelayPeer

def RelayHub.empty (relayID : String) : RelayHub := ⟨relayID,none,[],false,false,.idle,[],[]⟩

def RelayHub.startPiping (h : RelayHub) : RelayHub :=
  if h.started then h
  else {h with started := true,pump := if h.agent.isSome then .starting else h.pump}

def RelayHub.attach (h : RelayHub) (peer : RelayPeer) : RelayHub :=
  let h:={h with handlers := h.handlers++[peer]}
  if peer.browser then
    let h:={h with viewers := h.viewers++[peer]}
    let h := if !h.started&&h.agent.isSome then h.startPiping else h
    {h with readers := h.readers++[peer]}
  else
    let h:={h with agent := some peer}
    if !h.started&&!h.viewers.isEmpty then h.startPiping else h

def RelayHub.detach (h : RelayHub) (peer : RelayPeer) : RelayHub :=
  let h:={h with handlers := h.handlers.erase peer,readers := h.readers.filter (·≠peer)}
  if peer.browser then {h with viewers := h.viewers.erase peer}
  else if h.agent=some peer then {h with agent := none}
  else h

/-- Two endpoints that a session brings together; in a hub the agent is the first. -/
structure Joint where
  relayID : String
  kvm : Bool
  session : ℕ
  first : RelayPeer
  second : RelayPeer

def Joint.endpoints (j : Joint) : List ℕ := [j.first.ws.number,j.second.ws.number]

structure CleanupTimer where
  kvm : Bool
  relayID : String
  due : ℤ

/-- Sessions and hubs by number, the registries that name them, and what was
handed out, brought together and delivered so far. -/
structure RelayState where
  now : ℤ
  accepted : ℕ
  tunnels : List Tunnel
  sessions : List RelaySession
  relays : SyncMap String ℕ
  pipes : List Pipe
  hubs : List RelayHub
  relayHubs : SyncMap String ℕ
  timers : List CleanupTimer
  closed : List ℕ
  joined : List Joint
  delivered : List (RelayPeer × RelayPeer)

def RelayState.init (now : ℤ) : RelayState := ⟨now,0,[],[],[],[],[],[],[],[],[],[]⟩

def handleRelayWS (c : CookieCodec) (s : RelayState) (q : RelayQuery) : Option RelayPeer :=
  if q.id="" then none
  else (relayCookieData c s.now q).map fun cookieData =>
    { ws := ⟨s.accepted,q,s.now⟩
      authenticated := cookieData.isSome
      userID := (cookieData.map RelayCookieData.ruserID).getD ""
      browser := q.browser=="1"}

def RelayState.loadOrStoreRelay (s : RelayState) (relayID : String) : ℕ × RelayState :=
  match s.relays.load relayID with
  | some n => (n,s)
  | none => (s.sessions.length,{s with
      sessions := s.sessions++[⟨relayID,none,0⟩]
      relays := s.relays.store relayID s.sessions.length
      timers := s.timers++[⟨false,relayID,s.now+120⟩]})

def RelayState.peer1 (s : RelayState) (n : ℕ) : Option RelayPeer := s.sessions[n]?.bind RelaySession.peer1

def RelayState.loadOrStoreHub (s : RelayState) (relayID : String) : ℕ × RelayState :=
  match s.relayHubs.load relayID with
  | some n => (n,s)
  | none => (s.hubs.length,{s with
      hubs := s.hubs++[.empty relayID]
      relayHubs := s.relayHubs.store relayID s.hubs.length
      timers := s.timers++[⟨true,relayID,s.now+120⟩]})

def RelayState.runKvmRelayHub (s : RelayState) (peer : RelayPeer) : RelayState :=
  let (n,s):=s.loadOrStoreHub peer.ws.query.id
  {s with hubs := s.hubs.modify n (·.attach peer)}

def RelayState.pairRelay (s : RelayState) (peer : RelayPeer) : RelayState :=
  let relayID:=peer.ws.query.id
  if isKvmRelayProto peer.ws.query.p then s.runKvmRelayHub peer
  else
    let (n,s):=s.loadOrStoreRelay relayID
    match s.peer1 n with
    | none => {s with sessions := s.sessions.modify n fun session => {session with peer1 := some peer}}
    | some peer1 => {s with
        sessions := s.sessions.modify n fun session => {session with state := 1}
        pipes := s.pipes++[⟨relayID,peer1,peer,true,true,false⟩]}

/-- The agents whose messages reach the viewers, or who get theirs: a replaced
agent is read on. -/
def RelayHub.agentSide (h : RelayHub) : List RelayPeer :=
  h.agent.toList++(match h.pump with
    | .reading agent => [agent]
    | _ => [])

def RelayHub.joints (h : RelayHub) (n : ℕ) (peer : RelayPeer) : List Joint :=
  if peer.browser then h.agentSide.map fun agent => ⟨h.relayID,true,n,agent,peer⟩
  else h.viewers.map fun viewer => ⟨h.relayID,true,n,peer,viewer⟩

def RelayState.joints (s : RelayState) (peer : RelayPeer) : List Joint :=
  if isKvmRelayProto peer.ws.query.p then
    match s.relayHubs.load peer.ws.query.id with
    | none => []
    | some n => (s.hubs[n]?.map fun h => h.joints n peer).getD []
  else
    match s.relays.load peer.ws.query.id with
    | none => []
    | some n => ((s.peer1 n).map fun peer1 => ⟨peer.ws.query.id,false,n,peer1,peer⟩).toList

inductive RelayAction
  | tick (seconds : ℕ)
  | createTunnel (g : MeshGateway) (r : TunnelRequest) (relayID : String) (nonce nonce' : ℕ)
  | connect (q : RelayQuery)
  /-- The context of a first connection ends: it is closed. -/
  | waitEnds (session : ℕ)
  | timerStops (timer : ℕ)
  | timerFires (timer : ℕ)
  | copy (pipe : ℕ) (toPeer2 : Bool)
  | copyStops (pipe : ℕ) (toPeer2 : Bool)
  | pipeEnds (pipe : ℕ)
  | leaveHub (hub ws : ℕ)
  | readAgentStarts (hub : ℕ)
  | readAgent (hub : ℕ)
  | readAgentEnds (hub : ℕ)
  | readViewer (hub ws : ℕ)
  | readViewerEnds (hub ws : ℕ)

def RelayState.finish (s : RelayState) (n : ℕ) (h : RelayHub) : RelayState :=
  if h.done then {s with hubs := s.hubs.set n h}
  else {s with
    hubs := s.hubs.set n {h with done := true}
    relayHubs := s.relayHubs.delete h.relayID}

def Pipe.copies (p : Pipe) (closed : List ℕ) (toPeer2 : Bool) : Bool :=
  !p.ended&&!closed.contains p.peer1.ws.number&&!closed.contains p.peer2.ws.number &&
    (if toPeer2 then p.toPeer2 else p.toPeer1)

def Pipe.stop (p : Pipe) (toPeer2 : Bool) : Pipe :=
  if toPeer2 then {p with toPeer2 := false} else {p with toPeer1 := false}

def findPeer (peers : List RelayPeer) (ws : ℕ) : Option RelayPeer := peers.find? fun peer => peer.ws.number==ws

def RelayHub.readAgentEnds (h : RelayHub) : RelayHub := {h with agent := none,pump := .idle}

def step (c : CookieCodec) (s : RelayState) : RelayAction → Option RelayState
  | .tick seconds => some {s with now := s.now+seconds}
  | .createTunnel g r relayID nonce nonce' =>
    -- a relay ID is 16 random bytes; without a connected agent the cookies are dropped
    if s.tunnels.any (fun t => t.relayID==relayID)||!g.isConnected r.peerID then none
    else some {s with tunnels := s.tunnels++[createRelayTunnel c g s.now r relayID nonce nonce']}
  | .connect q =>
    match handleRelayWS c s q with
    | none => some s
    | some peer => some {s.pairRelay peer with
        accepted := s.accepted+1
        joined := s.joined++s.joints peer}
  | .waitEnds session => (s.peer1 session).map fun peer => {s with closed := peer.ws.number::s.closed}
  | .timerStops timer => some {s with timers := s.timers.eraseIdx timer}
  | .timerFires timer => do
    let t ← s.timers[timer]?
    if s.now<t.due then none
    else
      let s:={s with timers := s.timers.eraseIdx timer}
      some (if t.kvm then {s with relayHubs := s.relayHubs.delete t.relayID}
        else {s with relays := s.relays.delete t.relayID})
  | .copy pipe toPeer2 => do
    let p ← s.pipes[pipe]?
    if p.copies s.closed toPeer2 then
      some {s with delivered := s.delivered++[if toPeer2 then (p.peer1,p.peer2) else (p.peer2,p.peer1)]}
    else none
  | .copyStops pipe toPeer2 => some {s with pipes := s.pipes.modify pipe (·.stop toPeer2)}
  | .pipeEnds pipe => do
    let p ← s.pipes[pipe]?
    if p.ended||p.toPeer2||p.toPeer1 then none
    else some {s with
      pipes := s.pipes.set pipe {p with ended := true}
      closed := p.peer1.ws.number::p.peer2.ws.number::s.closed
      relays := s.relays.delete p.relayID}
  | .leaveHub hub ws => do
    let h ← s.hubs[hub]?
    let peer ← findPeer h.handlers ws
    let h:=h.detach peer
    some (if h.agent.isNone&&h.viewers.isEmpty then s.finish hub h else {s with hubs := s.hubs.set hub h})
  | .readAgentStarts hub => do
    let h ← s.hubs[hub]?
    if h.pump ≠ .starting then none
    else match h.agent with
      | none => some (s.finish hub h.readAgentEnds)
      | some agent => some {s with hubs := s.hubs.set hub {h with pump := .reading agent}}
  | .readAgent hub => do
    let h ← s.hubs[hub]?
    match h.pump with
    | .reading agent => some {s with delivered := s.delivered++h.viewers.map fun v => (agent,v)}
    | _ => none
  | .readAgentEnds hub => do
    let h ← s.hubs[hub]?
    match h.pump with
    | .reading _ => some (s.finish hub h.readAgentEnds)
    | _ => none
  | .readViewer hub ws => do
    let h ← s.hubs[hub]?
    let viewer ← findPeer h.readers ws
    some {s with delivered := s.delivered++h.agent.toList.map fun agent => (viewer,agent)}
  | .readViewerEnds hub ws => do
    let h ← s.hubs[hub]?
    some {s with hubs := s.hubs.set hub {h with readers := h.readers.filter fun r => r.ws.number≠ws}}

end BetterDesk.MeshCentral
