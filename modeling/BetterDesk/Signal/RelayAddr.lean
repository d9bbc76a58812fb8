import BetterDesk.Policy.AddressText
import BetterDesk.Signal.Devices

/-! # Which relay a session is sent to (signal/handler.go) -/

namespace BetterDesk.Signal
open Db Text

def sameLANSubnet (a b : IP) (lanNet : Option IPNet) : Bool := match lanNet with
  | some net => a.within net&&b.within net
  | none => match a, b with
    | .v4 a, .v4 b => a/2^8=b/2^8
    | _, _ => false

def isV4 : IP → Bool
  | .v4 _ => true
  | .v6 _ => false

def isSameNetwork (a b : IP) (lanNet : Option IPNet) : Bool :=
  a=b||(a.isLoopback&&b.isPrivateIP)||(b.isLoopback&&a.isPrivateIP) ||
    (isV4 a&&isV4 b&&a.isPrivateIP&&b.isPrivateIP&&sameLANSubnet a b lanNet)

def isSamePublicIP (a b : IP) : Bool := a=b&&!a.isPrivateIP&&!a.isLoopback&&!a.isUnspecified

def isLANRelayReachableFromPeers (lanIP : IP) (lanNet : Option IPNet) (peers : List IP) : Bool :=
  isV4 lanIP&&lanIP.isPrivateIP &&
    peers.any fun ip => isV4 ip&&!ip.isLoopback&&ip.isPrivateIP &&
      (lanIP=ip||sameLANSubnet lanIP ip lanNet)

def joinPort (host : Bytes) (port : ℕ) : Bytes := host++lit ":" ++ lit (toString port)

/-- `net.SplitHostPort` and `strconv.Atoi` of the port, when it is positive. -/
def portOf (relay : Bytes) : Option ℕ := (Policy.splitHostPort relay).bind fun (_,port) =>
  let digits := if port.head?=some 43 then port.drop 1 else port
  if digits=[] ∨ ¬ digits.all Policy.isDigit then none
  else
    let n:=Policy.decimalValue digits
    if 0<n ∧ n<2^63 then some n else none

namespace Server
variable (s : Server)

def getRelayServer : Bytes := match s.cfg.relayServers with
  | relay::_ => relay
  | [] => match s.localIP with
    | some ip => joinPort ip s.cfg.relayPort
    | none => match s.lanIP with
      | some host => joinPort host.text s.cfg.relayPort
      | none => joinPort [] s.cfg.relayPort

def getLANRelayServer (defaultRelay : Bytes) (a b : Addr) : Bytes := match s.lanIP with
  | none => defaultRelay
  | some host =>
    if isLANRelayReachableFromPeers host.ip s.lanNet [a.ip,b.ip] then
      joinPort host.text ((s.cfg.relayServers.head?.bind portOf).getD s.cfg.relayPort)
    else defaultRelay

structure Selected where
  relay : Bytes
  sameLAN : Bool
  samePublicIP : Bool

/-- `b` is absent for a target without a UDP address. -/
def selectPeerRelayServer (defaultRelay : Bytes) (a : Addr) (b : Option Addr) : Selected :=
  let relay := if defaultRelay=[] then s.getRelayServer else defaultRelay
  match b with
  | none => ⟨relay,false,false⟩
  | some b =>
    if s.cfg.connection.sameNATRelay&&isSamePublicIP a.ip b.ip then
      ⟨s.getRelayServer,false,true⟩
    else if isSameNetwork a.ip b.ip s.lanNet then ⟨s.getLANRelayServer relay a b,true,false⟩
    else ⟨relay,false,false⟩

def applyNetworkRelayPolicy (defaultRelay : Bytes) (peerIDs : List PeerID) : Bytes × Server :=
  let r:=Policy.resolveRelay s.now s.networkPolicy defaultRelay peerIDs
  (r.1,{s with networkPolicy := r.2})

def shouldForceRelayForPeers (peerIDs : List PeerID) : Bool × Server :=
  let r:=Policy.shouldForceRelay s.now s.networkPolicy peerIDs
  (r.1,{s with networkPolicy := r.2})

end Server

end BetterDesk.Signal
