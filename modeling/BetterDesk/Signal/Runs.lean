import BetterDesk.Signal.RegisterPk
import BetterDesk.Signal.Responses
import BetterDesk.Lib.Exec

/-! # Runs of the signal server (signal/server.go, signal/ws.go) -/

namespace BetterDesk.Signal
open Db Text

/-- Heartbeats, the clean-up, connections that close, other writers of the store,
the relay and the clock: they open no ticket and no pending session. -/
structure Outside where
  change : Server → Server
  issued : ∀ s, (change s).registry.issued=s.registry.issued
  authorizations : ∀ s, (change s).authorizations=s.authorizations
  pairs : ∀ s, ∀ x∈(change s).pendingRelayUUIDs, x∈s.pendingRelayUUIDs
  byUUID : ∀ s, ∀ x∈(change s).pendingRelayByUUID, x∈s.pendingRelayByUUID
  byAdvertised : ∀ s, ∀ x∈(change s).pendingRelayByAdvertised, x∈s.pendingRelayByAdvertised

inductive Action
  | registerPk (transport : ConnType) (m : RegisterPk) (addr : Addr)
  | punchHoleRequest (transport : ConnType) (m : PunchHoleRequest) (raddr : Addr)
  | requestRelay (transport : ConnType) (m : RequestRelay) (raddr : Addr)
  | relayResponse (transport : ConnType) (rr : RelayResponseIn) (sender : Addr)
  | punchHoleSent (transport : ConnType) (phs : PunchHoleSent) (sender : Addr)
  | fetchLocalAddr (m : FetchLocalAddr) (raddr : Addr)
  | localAddr (m : LocalAddr) (raddr : Addr)
  | punchFallback (addr : Addr)
  | lanFallback (key : PendingKey)
  | outside (o : Outside)

namespace Server
variable (s : Server)

def arrive (transport : ConnType) (addr : Addr) : Server := match transport with
  | .udp => s
  | .tcp => s.openTCP addr
  | .ws => {s with wsPunchConns := Function.update s.wsPunchConns addr true}

def handle : Action → Turn
  | .registerPk transport m addr => ⟨(s.handleRegisterPk transport m addr).server,[]⟩
  | .punchHoleRequest .udp m raddr => s.handlePunchHoleRequest m raddr
  | .punchHoleRequest transport m raddr =>
    (s.arrive transport raddr).handlePunchHoleRequestTCP m raddr transport
  | .requestRelay .udp m raddr => s.handleRequestRelay m raddr
  | .requestRelay transport m raddr =>
    (s.arrive transport raddr).handleRequestRelayTCP m raddr transport
  | .relayResponse .udp _ _ => ⟨s,[]⟩
  | .relayResponse transport rr sender =>
    (s.arrive transport sender).handleRelayResponseForward rr sender
  | .punchHoleSent transport phs sender =>
    (s.arrive transport sender).handlePunchHoleSent phs sender (transport=.udp)
  | .fetchLocalAddr m raddr => s.handleFetchLocalAddr m raddr
  | .localAddr m raddr => s.completeLANAddr m raddr
  | .punchFallback addr => s.firePunchFallback addr
  | .lanFallback key => s.fireLANFallback key
  | .outside o => ⟨o.change s,[]⟩

def passes (raddr : Addr) (token : Bytes) (udpPort : ℤ) (targetID : PeerID) :
    Option (PeerID × PeerID) := match s.requireAuthorizedInitiator raddr token udpPort with
  | (some i,s) => if s.targetAcceptsInboundSession targetID then some (s.initiatorID i,targetID)
      else none
  | (none,_) => none

def passed : Action → Option (PeerID × PeerID)
  | .punchHoleRequest transport m raddr =>
    (s.arrive transport raddr).passes raddr m.token m.udpPort m.id
  | .requestRelay transport m raddr =>
    ((s.arrive transport raddr).relayUUID m.uuid).2.passes raddr m.token 0 m.id
  | _ => none

end Server

def Action.overWS : Action → Bool
  | .registerPk transport .. | .punchHoleRequest transport .. | .requestRelay transport ..
  | .relayResponse transport .. | .punchHoleSent transport .. => transport=.ws
  | _ => false

/-- A panic stops the process; the HTTP server recovers one in the handler of a WebSocket. -/
def Turn.stops (turn : Turn) (a : Action) : Bool := .panic∈turn.sent&&!a.overWS

structure System where
  server : Server
  admitted : List (PeerID × PeerID)
  stopped : Bool

def step (sys : System) (a : Action) : Option System :=
  if sys.stopped then none
  else
    let turn:=sys.server.handle a
    some ⟨turn.server,(sys.server.passed a).toList ++ sys.admitted,turn.stops a⟩

structure System.Fresh (sys : System) : Prop where
  issued : sys.server.registry.issued=[]
  pairs : sys.server.pendingRelayUUIDs=[]
  byUUID : sys.server.pendingRelayByUUID=[]
  byAdvertised : sys.server.pendingRelayByAdvertised=[]

end BetterDesk.Signal
