import BetterDesk.Signal.TransportAgreement
import BetterDesk.Signal.Sessions
import BetterDesk.Lib.Table

/-! # Which transport a device is reached on (peer/map.go, signal/ws.go) -/

namespace BetterDesk.Signal
open Db Text Table List Option

structure Link where
  connType : ConnType
  udpAddr : Option Addr
  wsConn : Option Addr

def Dest.addr : Dest → Addr
  | udp addr => addr
  | conn addr => addr

def Entry.link (e : Entry) : Link := ⟨e.connType,e.udpAddr,e.wsConn⟩

def Server.linkOf (s : Server) (d : PeerID) : Option Link := (s.peers.get d).map Entry.link

/-- The transport that a device is kept on: the WebSocket connection of its last registration over
one, and the address of its last heartbeat as long as there is none. -/
inductive Route
  | unreached
  | udp (addr : Addr)
  | ws (conn : Addr)
  | lost
  deriving DecidableEq

def Route.heard (raddr : Addr) : Route → Route
  | unreached => udp raddr
  | udp _ => udp raddr
  | ws conn => ws conn
  | lost => lost

/-- `latest` is the transport of the last registration or heartbeat that was accepted. -/
structure Routed where
  server : Server
  latest : PeerID → Option Dest
  route : PeerID → Route

inductive TransportAction
  | message (env : Environment) (a : KeyAction)
  | disconnect (conn : Addr)
  | network (delivers : Addr → Bool)

namespace Server
variable (s : Server) (env : Environment)

def accepted : KeyAction → Option (PeerID × Dest)
  | .registerPeer id raddr =>
    if ((s.underEnv env).handleRegisterPeer env id raddr).1.isSome then
      ((s.underEnv env).registrationID id raddr).map fun d => (d,.udp raddr)
    else none
  | .registerPeerWS id addr =>
    if ((s.underEnv env).handleRegisterPeerWS env id addr).1.isSome then
      ((s.underEnv env).registrationID id addr).map fun d => (d,.conn addr)
    else none
  | .registerPk transport m addr =>
    let o:=(s.underEnv env).handleRegisterPk transport m addr
    if o.result=.ok then some (o.id,if transport=.udp then .udp addr else .conn addr) else none
  | .keepAlive conn => (s.peers.find? fun e => e.wsConn=some conn).map fun e => (e.id,.conn conn)
  | _ => none

/-- The end of `wsSignalLoop`: the entries are left alone. -/
def closeWS (conn : Addr) : Server := {s with wsPunchConns := Function.update s.wsPunchConns conn false}

end Server

namespace Routed
variable (x : Routed)

def reroute (env : Environment) (d : PeerID) : KeyAction → Route
  | .registerPeer id raddr =>
    if x.server.accepted env (.registerPeer id raddr)=some (d,.udp raddr) then (x.route d).heard raddr
    else x.route d
  | .registerPeerWS id addr => match x.server.accepted env (.registerPeerWS id addr) with
    | none => x.route d
    | some (d',_) =>
      if d=d' ∧ d'=id then .ws addr
      -- a renamed device: the connection is bound under the ID of the message
      else if d=d' ∨ d=id then .lost
      else x.route d
  | .registerPk transport m addr =>
    let a:=KeyAction.registerPk transport m addr
    if transport=.ws ∧ x.server.accepted env a=some (d,.conn addr) then .ws addr
    else match x.server.renames env a with
      | none => x.route d
      | some (old,new) => if d=new then x.route old else x.route d
  | _ => x.route d

def handle : TransportAction → Routed
  | .message env a =>
    let t:=x.server.perform env a
    { server := t
      latest := match x.server.accepted env a with
        | none => x.latest
        | some (d,dest) => Function.update x.latest d (some dest)
      route := fun d => if t.linkOf d=none then .unreached else x.reroute env d a}
  | .disconnect conn =>
    { x with
      server := x.server.closeWS conn
      route := fun d => if x.route d=.ws conn then .lost else x.route d}
  | .network delivers => {x with server := {x.server with delivers := delivers}}

def run (x : Routed) (as : List TransportAction) : Routed := as.foldl handle x

def start (s : Server) : Routed := ⟨s.restart,fun _ => none,fun _ => .unreached⟩

def Follows (d : PeerID) : Prop := match x.route d with
  | .unreached => ∀ dest, x.server.sendToPeer d=some dest →
      ∃ conn, x.server.tcpPunchConnForPeer d=some conn ∧ dest=.conn conn
  | .udp addr => x.server.sendToPeer d = if x.server.delivers addr then some (.udp addr) else none
  | .ws conn => x.server.sendToPeer d = if x.server.delivers conn then some (.conn conn) else none
  | .lost => True

end Routed

namespace PeerMap
variable {m : PeerMap}

def Unique (m : PeerMap) : Prop := (List.map Entry.id m).Nodup

theorem Unique.get (h : m.Unique) {e : Entry} (he : e∈m) : m.get e.id=some e := by
  obtain ⟨f,hf⟩ : ∃ f, m.get e.id=some f := by
    rw [← isSome_iff_exists]
    unfold PeerMap.get
    rw [List.find?_isSome]
    exact ⟨e,he,by simp⟩
  obtain ⟨hmem,hid⟩:=Server.mem_of_get hf
  rw [hf,eq_of_key h hmem he hid]

theorem Unique.filter (h : m.Unique) (p : Entry → Bool) : Unique (List.filter p m) := nodup_filter_key h p

theorem Unique.put (h : m.Unique) (e : Entry) : (m.put e).Unique := by
  unfold Unique PeerMap.put
  rw [map_cons,nodup_cons]
  refine ⟨fun hmem => ?_,nodup_filter_key h _⟩
  obtain ⟨f,hf,hid⟩:=mem_map.mp hmem
  exact absurd hid (by simpa using (mem_filter.mp hf).2)

theorem Unique.map (h : m.Unique) {f : Entry → Entry} (hf : ∀ e, (f e).id=e.id) : Unique (List.map f m) := by
  unfold Unique
  rw [map_key fun e _ => hf e]
  exact h

theorem get_map_at (m : PeerMap) {id : PeerID} {u : Entry → Entry} (hu : ∀ e, (u e).id=e.id) (d : PeerID) :
    PeerMap.get (List.map (fun e => if e.id=id then u e else e) m) d =
      if d=id then (m.get d).map u else m.get d := by
  rw [get_map fun e => by split <;> simp [hu]]
  cases hget : m.get d with
  | none => simp
  | some e =>
    have hid:=(Server.mem_of_get hget).2
    simp only [map_some,hid]
    split <;> rfl

end PeerMap

def freshLink : Link := ⟨.udp,none,none⟩

def Settles (before after : Option Link) : Prop := ∀ l, after=some l →
  l.udpAddr=(before.getD freshLink).udpAddr ∧ l.wsConn=(before.getD freshLink).wsConn ∧
    (l.connType=.ws ↔ (before.getD freshLink).connType=.ws)

theorem Settles.refl (l : Option Link) : Settles l l := by
  intro l' h
  rw [h]
  exact ⟨rfl,rfl,Iff.rfl⟩

namespace Server
variable {s t u : Server} {env : Environment}

structure Fades (s t : Server) : Prop where
  links : ∀ d, t.linkOf d=none ∨ t.linkOf d=s.linkOf d
  unique : s.peers.Unique → t.peers.Unique

structure Settled (s t : Server) : Prop where
  links : ∀ d, Settles (s.linkOf d) (t.linkOf d)
  unique : s.peers.Unique → t.peers.Unique

structure Sets (s t : Server) (id : PeerID) (l : Link) : Prop where
  there : t.linkOf id=some l
  elsewhere : ∀ d, d≠id → t.linkOf d=none ∨ t.linkOf d=s.linkOf d
  unique : s.peers.Unique → t.peers.Unique

theorem Fades.of_peers (h : t.peers=s.peers) : Fades s t := by
  refine ⟨fun d => .inr ?_,fun hu => h ▸ hu⟩
  unfold linkOf
  rw [h]

theorem Drops.fades (h : Drops s t) : Fades s t := by
  obtain ⟨gone,hp⟩:=h.peers
  refine ⟨fun d => ?_,fun hu => hp ▸ hu.filter _⟩
  unfold linkOf
  rw [hp]
  by_cases hd : gone d=true
  · left
    rw [map_eq_none_iff]
    refine List.find?_eq_none.mpr fun e he => ?_
    have hkept:=(mem_filter.mp he).2
    rintro heq
    simp_all
  · right
    congr 1
    unfold PeerMap.get
    rw [List.find?_filter]
    congr 1
    funext e
    by_cases heq : e.id=d <;> simp_all

theorem Fades.trans (h : Fades s t) (h' : Fades t u) : Fades s u := by
  refine ⟨fun d => ?_,fun hu => h'.unique (h.unique hu)⟩
  rcases h'.links d with hd | hd
  · exact .inl hd
  · rw [hd]
    exact h.links d

theorem Fades.settled (h : Fades s t) : Settled s t := by
  refine ⟨fun d => ?_,h.unique⟩
  rcases h.links d with hd | hd
  · rw [hd]
    intro l hl
    cases hl
  · rw [hd]
    exact .refl _

theorem Settled.plain (h : Settled (s.underEnv env) t) : Settled s t := ⟨h.links,h.unique⟩

variable {id : PeerID} {e : Entry} {l : Link}

theorem Sets.then_peers (h : Sets s t id l) (h' : u.peers=t.peers) : Sets s u id l := by
  have hlink (d : PeerID) : u.linkOf d=t.linkOf d := by
    unfold linkOf
    rw [h']
  refine ⟨(hlink id).trans h.there,fun d hd => ?_,fun hu => h' ▸ h.unique hu⟩
  rw [hlink]
  exact h.elsewhere d hd

theorem Sets.of_peers (h : Sets t u id l) (h' : t.peers=s.peers) : Sets s u id l := by
  have hlink (d : PeerID) : t.linkOf d=s.linkOf d := by
    unfold linkOf
    rw [h']
  refine ⟨h.there,fun d hd => ?_,fun hu => h.unique (h' ▸ hu)⟩
  rw [← hlink]
  exact h.elsewhere d hd

theorem sets_put (hp : t.peers=s.peers.put e) (hid : e.id=id) (hl : e.link=l) : Sets s t id l := by
  subst hid hl
  refine ⟨?_,fun d hd => .inr ?_,fun hu => hp ▸ hu.put e⟩
  · unfold linkOf
    rw [hp,PeerMap.get_put,if_pos rfl]
    rfl
  · unfold linkOf
    rw [hp,PeerMap.get_put,if_neg (Ne.symm hd)]

theorem sets_map {u : Entry → Entry} (hget : s.peers.get id=some e)
    (hp : t.peers=s.peers.map fun e => if e.id=id then u e else e) (hu : ∀ e, (u e).id=e.id) :
    Sets s t id (u e).link := by
  have hlink (d : PeerID) : t.linkOf d = if d=id then ((s.peers.get d).map u).map Entry.link else s.linkOf d := by
    unfold linkOf
    rw [hp,PeerMap.get_map_at _ hu]
    split <;> rfl
  refine ⟨?_,fun d hd => .inr ?_,fun hun => ?_⟩
  · rw [hlink,if_pos rfl,hget]
    rfl
  · rw [hlink,if_neg hd]
  · rw [hp]
    refine hun.map fun e => ?_
    split
    · exact hu e
    · rfl

theorem heartbeatPeer_links {raddr : Addr} (hget : s.peers.get id=some e) :
    ((s.heartbeatPeer env id e raddr).1=none → Fades s (s.heartbeatPeer env id e raddr).2) ∧
      ((s.heartbeatPeer env id e raddr).1.isSome=true → Sets s (s.heartbeatPeer env id e raddr).2 id
        ⟨if e.connType=.ws then .ws else .udp,some raddr,e.wsConn⟩) := by
  by_cases hun : s.Unbanned id e
  · have hacc:=(heartbeatPeer_accepts env raddr hun).1
    refine ⟨fun h => (by rw [h] at hacc; cases hacc),fun _ => ?_⟩
    unfold heartbeatPeer
    rw [hun.1,hun.2]
    dsimp only
    rw [if_neg (by decide)]
    let r : Server := {s with peers := s.peers.updateHeartbeat id raddr s.now}
    have hbeat : Sets s r id ⟨if e.connType=.ws then .ws else .udp,some raddr,e.wsConn⟩ :=
      sets_map hget (u := fun e => {e with
        lastReg := s.now
        udpAddr := some raddr
        ip := some raddr
        connType := if e.connType=.ws then .ws else .udp}) rfl fun _ => rfl
    have hkey:=r.peerPublicKey_peers id e
    have hpeers : ((r.peerPublicKey id (some e)).2.updatePeerStatus env id raddr.ip).peers =
        (r.peerPublicKey id (some e)).2.peers := updatePeerStatus_peers id raddr.ip
    by_cases hk : r.keyFromRow id e=[]
    · rw [if_pos hk] at hkey
      exact hbeat.then_peers (hpeers.trans hkey)
    · rw [if_neg hk] at hkey
      -- the key does not matter to the link
      have hfill (d : PeerID) : ((r.peers.setPKIfEmpty id (r.keyFromRow id e)).get d).map Entry.link=r.linkOf d := by
        unfold PeerMap.setPKIfEmpty linkOf
        rw [PeerMap.get_map fun e => by split <;> rfl,Option.map_map]
        refine congrArg (fun f => (r.peers.get d).map f) (funext fun e => ?_)
        show (if _ then _ else e : Entry).link=e.link
        split <;> rfl
      have hlink (d : PeerID) : ((r.peerPublicKey id (some e)).2.updatePeerStatus env id raddr.ip).linkOf d=r.linkOf d := by
        unfold linkOf at hfill ⊢
        rw [hpeers,hkey]
        exact hfill d
      refine ⟨(hlink id).trans hbeat.there,fun d hd => ?_,fun hu => ?_⟩
      · rw [hlink]
        exact hbeat.elsewhere d hd
      · rw [hpeers,hkey]
        exact (hbeat.unique hu).map fun e => by split <;> rfl
  · have hrej:=(heartbeat_rejects env raddr hun).1
    refine ⟨fun _ => ?_,fun h => (by rw [hrej] at h; cases h)⟩
    unfold heartbeatPeer
    by_cases hb : e.banned=true
    · rw [if_pos hb]
      exact (revokeBannedPeerAccess_drops id none).fades
    · have hrow : s.db.isPeerBanned id ≠ .ok false := fun hrow => hun ⟨Bool.eq_false_iff.mpr hb,hrow⟩
      rw [if_neg hb]
      split
      · exact .of_peers rfl
      · exact (revokeBannedPeerAccess_drops id none).fades
      · exact absurd (by assumption) hrow

theorem heartbeatPeerWS_links {addr : Addr} (hget : s.peers.get id=some e) :
    ((s.heartbeatPeerWS env id e addr).1=none → Fades s (s.heartbeatPeerWS env id e addr).2) ∧
      ((s.heartbeatPeerWS env id e addr).1.isSome=true → Sets s (s.heartbeatPeerWS env id e addr).2 id
        ⟨.ws,e.udpAddr,e.wsConn⟩) := by
  unfold heartbeatPeerWS
  split
  · exact ⟨fun _ => (revokeBannedPeerAccess_drops id none).fades,fun h => (by cases h)⟩
  · split
    · exact ⟨fun _ => .of_peers rfl,fun h => (by cases h)⟩
    · split
      · exact ⟨fun _ => .of_peers rfl,fun h => (by cases h)⟩
      · exact ⟨fun _ => (revokeBannedPeerAccess_drops id none).fades,fun h => (by cases h)⟩
      · refine ⟨fun h => (by cases h),fun _ => ?_⟩
        have hbeat : Sets s {s with peers := s.peers.updateHeartbeatWS id addr s.now} id ⟨.ws,e.udpAddr,e.wsConn⟩ :=
          sets_map hget (u := fun e => {e with lastReg := s.now,connType := .ws,ip := some addr}) rfl fun _ => rfl
        exact hbeat.then_peers (updatePeerStatus_peers id addr.ip)

theorem newPeer_links (id : PeerID) (raddr : Addr) :
    ((s.newPeer env id raddr).1=none → Fades s (s.newPeer env id raddr).2) ∧
      ((s.newPeer env id raddr).1.isSome=true → Sets s (s.newPeer env id raddr).2 id ⟨.udp,some raddr,none⟩) := by
  have hp:=s.checkEnrollmentPermission_peers id
  unfold newPeer
  split
  · exact ⟨fun _ => .of_peers rfl,fun h => (by cases h)⟩
  · split
    · rename_i t ht
      rw [ht] at hp
      split
      · refine ⟨fun h => (by cases h),fun _ => ?_⟩
        have hput : Sets t (t.retainPendingSignalPeer id raddr (some raddr) .udp) id ⟨.udp,some raddr,none⟩ :=
          sets_put rfl rfl rfl
        exact hput.of_peers hp
      · exact ⟨fun _ => .of_peers hp,fun h => (by cases h)⟩
    · rename_i t ht
      rw [ht] at hp
      split
      · exact ⟨fun _ => .of_peers hp,fun h => (by cases h)⟩
      · exact ⟨fun _ => (Fades.of_peers hp).trans ((revokeBannedPeerAccess_drops id none).fades),fun h => (by cases h)⟩
      · refine ⟨fun h => (by cases h),fun _ => ?_⟩
        generalize hentry : hydrate _ _=entry
        have hlink : entry.id=id ∧ entry.link=⟨.udp,some raddr,none⟩ := by
          rw [← hentry]
          unfold hydrate
          split <;> exact ⟨rfl,rfl⟩
        have hput : Sets t {t with peers := t.peers.put entry} id ⟨.udp,some raddr,none⟩ :=
          sets_put rfl hlink.1 hlink.2
        exact (hput.then_peers (updatePeerStatus_peers id raddr.ip)).of_peers hp

theorem newPeerWS_links (id : PeerID) (addr : Addr) :
    ((s.newPeerWS env id addr).1=none → Fades s (s.newPeerWS env id addr).2) ∧
      ((s.newPeerWS env id addr).1.isSome=true → Sets s (s.newPeerWS env id addr).2 id ⟨.ws,none,none⟩) := by
  have hp:=s.checkEnrollmentPermission_peers id
  unfold newPeerWS
  split
  · exact ⟨fun _ => .of_peers rfl,fun h => (by cases h)⟩
  · split
    · rename_i t ht
      rw [ht] at hp
      split
      · refine ⟨fun h => (by cases h),fun _ => ?_⟩
        have hput : Sets t (t.retainPendingSignalPeer id addr none .ws) id ⟨.ws,none,none⟩ := sets_put rfl rfl rfl
        exact hput.of_peers hp
      · exact ⟨fun _ => .of_peers hp,fun h => (by cases h)⟩
    · rename_i t ht
      rw [ht] at hp
      split
      · exact ⟨fun _ => .of_peers hp,fun h => (by cases h)⟩
      · exact ⟨fun _ => (Fades.of_peers hp).trans ((revokeBannedPeerAccess_drops id none).fades),fun h => (by cases h)⟩
      · refine ⟨fun h => (by cases h),fun _ => ?_⟩
        let entry : Entry := ⟨id,[],[],some addr,none,0,.ws,none,t.now,false⟩
        have hput : Sets t {t with peers := t.peers.put entry} id ⟨.ws,none,none⟩ := sets_put rfl rfl rfl
        exact (hput.then_peers (updatePeerStatus_peers id addr.ip)).of_peers hp

theorem handleRegisterPeer_links (env : Environment) (id : PeerID) (raddr : Addr) :
    ((s.handleRegisterPeer env id raddr).1=none → Fades s (s.handleRegisterPeer env id raddr).2) ∧
      ((s.handleRegisterPeer env id raddr).1.isSome=true → ∃ d, s.registrationID id raddr=some d ∧
        Sets s (s.handleRegisterPeer env id raddr).2 d
          ⟨if (s.linkOf d).any (·.connType=.ws) then .ws else .udp,some raddr,(s.linkOf d).bind Link.wsConn⟩) := by
  unfold handleRegisterPeer
  cases s.registrationID id raddr with
  | none => exact ⟨fun _ => .of_peers rfl,fun h => (by cases h)⟩
  | some d =>
    dsimp only
    split
    · exact ⟨fun _ => .of_peers rfl,fun h => (by cases h)⟩
    · cases hget : s.peers.get d with
      | some e =>
        have hlink : s.linkOf d=some e.link := congrArg (Option.map Entry.link) hget
        refine ⟨(heartbeatPeer_links hget).1,fun h => ⟨d,rfl,?_⟩⟩
        have hset:=(heartbeatPeer_links hget).2 h
        rw [hlink]
        simpa [Entry.link] using hset
      | none =>
        have hlink : s.linkOf d=none := congrArg (Option.map Entry.link) hget
        refine ⟨(newPeer_links d raddr).1,fun h => ⟨d,rfl,?_⟩⟩
        rw [hlink]
        exact (newPeer_links d raddr).2 h

theorem handleRegisterPeerWS_links (env : Environment) (id : PeerID) (addr : Addr) :
    ((s.handleRegisterPeerWS env id addr).1=none → Fades s (s.handleRegisterPeerWS env id addr).2) ∧
      ((s.handleRegisterPeerWS env id addr).1.isSome=true → ∃ d l, s.registrationID id addr=some d ∧
        Sets s (s.handleRegisterPeerWS env id addr).2 d l) := by
  unfold handleRegisterPeerWS
  cases s.registrationID id addr with
  | none => exact ⟨fun _ => .of_peers rfl,fun h => (by cases h)⟩
  | some d =>
    dsimp only
    split
    · exact ⟨fun _ => .of_peers rfl,fun h => (by cases h)⟩
    · cases hget : s.peers.get d with
      | some e => exact ⟨(heartbeatPeerWS_links hget).1,fun h => ⟨d,_,rfl,(heartbeatPeerWS_links hget).2 h⟩⟩
      | none => exact ⟨(newPeerWS_links d addr).1,fun h => ⟨d,_,rfl,(newPeerWS_links d addr).2 h⟩⟩

theorem Sets.settled (h : Sets s t id l) (hl : Settles (s.linkOf id) (some l)) : Settled s t := by
  refine ⟨fun d => ?_,h.unique⟩
  by_cases hd : d=id
  · subst hd
    rw [h.there]
    exact hl
  · rcases h.elsewhere d hd with hn | hs
    · rw [hn]
      intro l hl
      cases hl
    · rw [hs]
      exact .refl _

theorem Sets.put (h : Sets s t id l) (hid : e.id=id) (hp : u.peers=t.peers.put e) : Sets s u id e.link := by
  have hput : Sets t u id e.link := sets_put hp hid rfl
  refine ⟨hput.there,fun d hd => ?_,fun hu => hput.unique (h.unique hu)⟩
  rcases hput.elsewhere d hd with hn | hs
  · exact .inl hn
  · rw [hs]
    exact h.elsewhere d hd

theorem bindTCPSessionPeer_peers (addr : Addr) (id : PeerID) : (s.bindTCPSessionPeer addr id).peers=s.peers := by
  unfold bindTCPSessionPeer
  split <;> rfl

theorem registered_settles (e : Entry) (m : RegisterPk) (addr : Addr) {before : Option Link}
    (h : e.link=before.getD freshLink) : Settles before (some (s.registered e m addr).link) := by
  intro l hl
  cases hl
  rw [← h]
  refine ⟨rfl,rfl,?_⟩
  show (if e.udpAddr.isNone ∧ e.connType ≠ .ws then ConnType.tcp else e.connType)=.ws ↔ e.connType=.ws
  split
  · rename_i hc
    simp [hc.2]
  · exact Iff.rfl

theorem claimEntry_settled (id : PeerID) (existing : Option Row) (m : RegisterPk) (addr : Addr) :
    Settled s (s.claimEntry id existing m addr).server := by
  let fresh : Entry := ⟨id,[],[],none,none,0,.udp,none,s.now,false⟩
  have he : (hydrate existing ((s.peers.get id).getD fresh)).id=id ∧
      (hydrate existing ((s.peers.get id).getD fresh)).link=(s.linkOf id).getD freshLink := by
    have hhydrate (e : Entry) : (hydrate existing e).id=e.id ∧ (hydrate existing e).link=e.link := by
      unfold hydrate
      split <;> exact ⟨rfl,rfl⟩
    rw [(hhydrate _).1,(hhydrate _).2]
    unfold linkOf
    cases hget : s.peers.get id with
    | none => exact ⟨rfl,rfl⟩
    | some e => exact ⟨(mem_of_get hget).2,rfl⟩
  unfold claimEntry
  simp only [show (⟨id,[],[],none,none,0,.udp,none,s.now,false⟩ : Entry)=fresh from rfl]
  generalize hydrate existing ((s.peers.get id).getD fresh)=e at he
  have hsame : Settles (s.linkOf id) (some e.link) := by
    intro l hl
    cases hl
    rw [he.2]
    exact ⟨rfl,rfl,Iff.rfl⟩
  generalize hs₁ : (if s.peers.get id=some e then s else {s with peers := s.peers.put e})=s₁
  have hset : Sets s s₁ id e.link := by
    rw [← hs₁]
    split
    · rename_i hget
      exact ⟨congrArg (Option.map Entry.link) hget,fun d _ => .inr rfl,fun hu => hu⟩
    · exact sets_put rfl he.1 rfl
  split
  · exact hset.settled hsame
  · split
    · exact hset.settled hsame
    · have hbind:=s₁.bindTCPSessionPeer_peers addr id
      have hput : Sets s {s₁.bindTCPSessionPeer addr id with
          peers := s₁.peers.put (s₁.registered e m addr)
          db := s₁.db.upsertPeer id (hexEncode (s₁.registered e m addr).uuid) (s₁.registered e m addr).pk} id
          (s₁.registered e m addr).link := hset.put he.1 rfl
      exact hput.settled (s₁.registered_settles e m addr he.2)

structure Moves (s t : Server) (old new : PeerID) : Prop where
  moved : ∀ d, t.linkOf d = if d=new then s.linkOf old else if d=old then none else s.linkOf d
  unique : s.peers.Unique → t.peers.Unique

theorem Moves.plain {old new : PeerID} (h : Moves (s.underEnv env) t old new) : Moves s t old new := ⟨h.moved,h.unique⟩

theorem processIDChange_links {m : RegisterPk} :
    ((s.processIDChange m).result ≠ .ok → (s.processIDChange m).server.peers=s.peers) ∧
      ((s.processIDChange m).result=.ok → Moves s (s.processIDChange m).server m.oldID m.id) := by
  unfold processIDChange
  split
  · exact ⟨fun _ => rfl,fun h => (by cases h)⟩
  · split
    · exact ⟨fun _ => rfl,fun h => (by cases h)⟩
    · exact ⟨fun _ => rfl,fun h => (by cases h)⟩
    · split
      · rename_i r hal
        exact ⟨fun _ => rfl,fun h => absurd h (idChangeAllowed_error hal)⟩
      · split
        · exact ⟨fun _ => rfl,fun h => (by cases h)⟩
        · rename_i hfree
          have hfree : s.linkOf m.id=none := by
            unfold linkOf
            rw [not_isSome_iff_eq_none.mp hfree]
            rfl
          split
          · exact ⟨fun _ => rfl,fun h => (by cases h)⟩
          · split
            · split
              · rename_i hold
                refine ⟨fun h => absurd rfl h,fun _ => ⟨fun d => ?_,fun hu => hu⟩⟩
                have hold : s.linkOf m.oldID=none := congrArg (Option.map Entry.link) hold
                show s.linkOf d=_
                rw [hold]
                split
                · rename_i hd
                  rw [hd]
                  exact hfree
                · split
                  · rename_i hd
                    rw [hd]
                    exact hold
                  · rfl
              · rename_i db e hold
                refine ⟨fun h => absurd rfl h,fun _ => ⟨fun d => ?_,fun hu => ?_⟩⟩
                · have hold : s.linkOf m.oldID=some e.link := congrArg (Option.map Entry.link) hold
                  show (PeerMap.get (PeerMap.put _ _) d).map Entry.link=_
                  rw [PeerMap.get_put,PeerMap.get_remove,hold]
                  by_cases hd : d=m.id
                  · rw [if_pos hd,if_pos hd.symm]
                    rfl
                  · rw [if_neg hd,if_neg fun h => hd h.symm]
                    split
                    · rfl
                    · rfl
                · exact PeerMap.Unique.put (hu.filter _) _
            · rename_i hr _
              exact ⟨fun _ => rfl,fun h => absurd h (by simpa using hr)⟩
          · exact ⟨fun _ => rfl,fun h => (by cases h)⟩

theorem processRegisterPk_links (s : Server) (m : RegisterPk) (addr : Addr) :
    (m.oldID="" ∨ (s.processRegisterPk m addr).result ≠ .ok → Settled s (s.processRegisterPk m addr).server) ∧
      (m.oldID≠"" → (s.processRegisterPk m addr).result=.ok →
        Moves s (s.processRegisterPk m addr).server m.oldID m.id ∧ (s.processRegisterPk m addr).id=m.id) := by
  have hkept : Settled s s := ⟨fun d => .refl _,fun hu => hu⟩
  have hid : (s.processIDChange m).id=m.id := by
    unfold processIDChange
    repeat' split
    all_goals rfl
  unfold processRegisterPk
  cases hsight : s.refusedRegistration m addr with
  | some r => exact ⟨fun _ => hkept,fun _ h => absurd h (refusedRegistration_some hsight)⟩
  | none =>
    dsimp only
    by_cases hold : m.oldID≠""
    · rw [if_pos hold]
      refine ⟨fun h => ?_,fun _ h => ⟨processIDChange_links.2 h,hid⟩⟩
      have hpeers:=processIDChange_links.1 (h.resolve_left hold)
      exact (Fades.of_peers hpeers).settled
    · rw [if_neg hold]
      refine ⟨fun _ => ?_,fun h => absurd h hold⟩
      cases s.resolveRegistrationPeerID m.id addr.ip m.uuid m.pk with
      | none => exact hkept
      | some id =>
        dsimp only
        split
        · exact hkept
        · have hadm:=(admitRegistration_drops (s := s) id).fades
          generalize hs : s.admitRegistration id=result at hadm
          obtain ⟨admitted,t⟩:=result
          cases admitted with
          | error r => exact hadm.settled
          | ok existing =>
            obtain ⟨-,rfl⟩:=admitRegistration_ok.mp hs
            exact claimEntry_settled id existing m addr

theorem bindPeerWSConn_links (id : PeerID) (addr : Addr) :
    (∀ d, (s.bindPeerWSConn id addr).linkOf d =
      if d=id then (s.linkOf id).map fun l => ⟨.ws,l.udpAddr,some addr⟩ else s.linkOf d) ∧
      (s.peers.Unique → (s.bindPeerWSConn id addr).peers.Unique) := by
  unfold bindPeerWSConn
  cases hget : s.peers.get id with
  | none =>
    refine ⟨fun d => ?_,fun hu => hu⟩
    have hnone : s.linkOf id=none := congrArg (Option.map Entry.link) hget
    show s.linkOf d=_
    by_cases hd : d=id
    · rw [if_pos hd,hd,hnone]
      rfl
    · rw [if_neg hd]
  | some e =>
    have hsome : s.linkOf id=some e.link := congrArg (Option.map Entry.link) hget
    refine ⟨fun d => ?_,fun hu => hu.put _⟩
    show (PeerMap.get (PeerMap.put _ _) d).map Entry.link=_
    rw [PeerMap.get_put,hsome]
    by_cases hd : d=id
    · rw [if_pos hd,if_pos ((mem_of_get hget).2.trans hd.symm)]
      rfl
    · rw [if_neg hd,if_neg fun h => hd (h.symm.trans (mem_of_get hget).2)]
      rfl

theorem registerPeerWS_links (env : Environment) (id : PeerID) (addr : Addr) :
    ((s.handleRegisterPeerWS env id addr).1=none → Fades s (s.registerPeerWS env id addr)) ∧
      ((s.handleRegisterPeerWS env id addr).1.isSome=true → ∃ d, s.registrationID id addr=some d ∧
        (d=id → ∃ l, (s.registerPeerWS env id addr).linkOf id=some l ∧ l.connType=.ws ∧ l.wsConn=some addr) ∧
        (∀ d', d'≠d → d'≠id → (s.registerPeerWS env id addr).linkOf d'=none ∨
          (s.registerPeerWS env id addr).linkOf d'=s.linkOf d') ∧
        (s.peers.Unique → (s.registerPeerWS env id addr).peers.Unique)) := by
  obtain ⟨hrejected,haccepted⟩:=s.handleRegisterPeerWS_links env id addr
  unfold registerPeerWS
  cases hresult : s.handleRegisterPeerWS env id addr with
  | mk reply t =>
    rw [hresult] at hrejected haccepted
    cases reply with
    | none => exact ⟨hrejected,fun h => (by cases h)⟩
    | some asks =>
      refine ⟨fun h => (by cases h),fun h => ?_⟩
      obtain ⟨d,l,hid,hset⟩:=haccepted h
      obtain ⟨hbind,hunique⟩:=t.bindPeerWSConn_links id addr
      refine ⟨d,hid,fun hd => ?_,fun d' hne hne' => ?_,fun hu => hunique (hset.unique hu)⟩
      · subst hd
        refine ⟨⟨.ws,l.udpAddr,some addr⟩,(hbind d).trans ?_,rfl,rfl⟩
        rw [if_pos rfl,hset.there]
        rfl
      · have hlink : (t.bindPeerWSConn id addr).linkOf d'=t.linkOf d' := (hbind d').trans (if_neg hne')
        rcases hset.elsewhere d' hne with hn | hs
        · exact .inl (hlink.trans hn)
        · exact .inr (hlink.trans hs)

theorem openTCP_peers (addr : Addr) : (s.openTCP addr).peers=s.peers := by
  unfold openTCP
  split <;> rfl

theorem handleRegisterPk_links (transport : ConnType) (hws : transport ≠ .ws) (m : RegisterPk) (addr : Addr) :
    (m.oldID="" ∨ (s.handleRegisterPk transport m addr).result ≠ .ok →
      Settled s (s.handleRegisterPk transport m addr).server) ∧
      (m.oldID≠"" → (s.handleRegisterPk transport m addr).result=.ok →
        Moves s (s.handleRegisterPk transport m addr).server m.oldID m.id) := by
  cases transport with
  | ws => exact absurd rfl hws
  | udp => exact ⟨(s.processRegisterPk_links m addr).1,fun hold h => ((s.processRegisterPk_links m addr).2 hold h).1⟩
  | tcp =>
    have hopen:=s.openTCP_peers addr
    have hlink (d : PeerID) : (s.openTCP addr).linkOf d=s.linkOf d := by
      unfold linkOf
      rw [hopen]
    obtain ⟨hsettled,hmoves⟩:=(s.openTCP addr).processRegisterPk_links m addr
    refine ⟨fun h => ?_,fun hold h => ?_⟩
    · have hs:=hsettled h
      exact ⟨fun d => hlink d ▸ hs.links d,fun hu => hs.unique (hopen ▸ hu)⟩
    · have hm:=(hmoves hold h).1
      refine ⟨fun d => ?_,fun hu => hm.unique (hopen ▸ hu)⟩
      rw [← hlink,← hlink]
      exact hm.moved d

theorem handleRegisterPk_ws (s : Server) (m : RegisterPk) (addr : Addr) :
    ((s.handleRegisterPk .ws m addr).result ≠ .ok → Settled s (s.handleRegisterPk .ws m addr).server) ∧
      ((s.handleRegisterPk .ws m addr).result=.ok → ∃ t : Server,
        (m.oldID="" → Settled s t) ∧
        (m.oldID≠"" → Moves s t m.oldID m.id ∧ (s.handleRegisterPk .ws m addr).id=m.id) ∧
        (∀ d, (s.handleRegisterPk .ws m addr).server.linkOf d = if d=(s.handleRegisterPk .ws m addr).id then
          (t.linkOf d).map fun l => ⟨.ws,l.udpAddr,some addr⟩ else t.linkOf d) ∧
        (t.peers.Unique → (s.handleRegisterPk .ws m addr).server.peers.Unique)) := by
  obtain ⟨hsettled,hmoves⟩:=s.processRegisterPk_links m addr
  unfold handleRegisterPk
  dsimp only
  by_cases hok : (s.processRegisterPk m addr).result ≠ .ok
  · rw [if_pos hok]
    exact ⟨fun _ => hsettled (.inr hok),fun h => absurd h hok⟩
  · rw [if_neg hok]
    refine ⟨fun h => absurd h hok,fun h => ⟨(s.processRegisterPk m addr).server,fun hold => hsettled (.inl hold),
      fun hold => hmoves hold h,fun d => ?_,?_⟩⟩
    · have hbind:=(bindPeerWSConn_links (s := (s.processRegisterPk m addr).server) (s.processRegisterPk m addr).id addr).1 d
      refine hbind.trans ?_
      split
      · rename_i hd
        rw [hd]
      · rfl
    · exact (bindPeerWSConn_links (s := (s.processRegisterPk m addr).server) (s.processRegisterPk m addr).id addr).2

theorem cleanup_fades (hu : s.peers.Unique) : Fades s s.cleanup := by
  refine ⟨fun d => ?_,fun hu => hu.filter _⟩
  show (PeerMap.get (List.filter _ s.peers) d).map Entry.link=none ∨ (PeerMap.get (List.filter _ s.peers) d).map Entry.link=_
  cases hget : PeerMap.get (List.filter (fun e => !e.isExpired s.now) s.peers) d with
  | none => exact .inl rfl
  | some e =>
    obtain ⟨hmem,hid⟩:=mem_of_get hget
    have hold:=hu.get (mem_filter.mp hmem).1
    rw [hid] at hold
    exact .inr (congrArg (Option.map Entry.link) hold.symm)

theorem keepAlive_fades (hu : s.peers.Unique) (conn : Addr) :
    Fades s {s with peers := s.peers.touchWSHeartbeat conn s.now} := by
  unfold PeerMap.touchWSHeartbeat
  split
  · exact .of_peers rfl
  · rename_i e he
    have hget:=hu.get (mem_of_find?_eq_some he)
    refine ⟨fun d => .inr ?_,fun hu => hu.put _⟩
    show (PeerMap.get (PeerMap.put _ _) d).map Entry.link=(s.peers.get d).map Entry.link
    rw [PeerMap.get_put]
    split
    · rename_i hd
      have hd : e.id=d := hd
      rw [← hd,hget]
      rfl
    · rfl

end Server

def Route.Allows (l : Option Link) : Route → Prop
  | unreached => ∀ l', l=some l' → l'.connType ≠ .ws ∧ l'.udpAddr=none
  | udp addr => ∃ l', l=some l' ∧ l'.connType ≠ .ws ∧ l'.udpAddr=some addr
  | ws conn => ∃ l', l=some l' ∧ l'.connType=.ws ∧ l'.wsConn=some conn
  | lost => True

theorem Route.Allows.settles {r : Route} {before after : Option Link} (h : r.Allows before) (hs : Settles before after)
    (hne : after≠none) : r.Allows after := by
  obtain ⟨l,rfl⟩:=ne_none_iff_exists'.mp hne
  obtain ⟨hudp,hconn,hws⟩:=hs l rfl
  cases r with
  | unreached =>
    intro l' hl'
    cases hl'
    rw [hudp,ne_eq,hws]
    cases before with
    | none => exact ⟨by decide,rfl⟩
    | some b => exact h b rfl
  | udp addr =>
    obtain ⟨b,rfl,hb,haddr⟩:=h
    exact ⟨l,rfl,fun hc => hb (hws.mp hc),hudp.trans haddr⟩
  | ws conn =>
    obtain ⟨b,rfl,hb,hc⟩:=h
    exact ⟨l,rfl,hws.mpr hb,hconn.trans hc⟩
  | lost => trivial

theorem Route.Allows.heard {r : Route} {before : Option Link} (h : r.Allows before) (raddr : Addr) :
    (r.heard raddr).Allows (some ⟨if before.any (·.connType=.ws) then .ws else .udp,some raddr,before.bind Link.wsConn⟩) := by
  cases r with
  | unreached =>
    refine ⟨_,rfl,?_,rfl⟩
    cases before with
    | none => simp
    | some b =>
      have hb : b.connType ≠ .ws := (h b rfl).1
      simp [hb]
  | udp addr =>
    obtain ⟨b,rfl,hb,-⟩:=h
    refine ⟨_,rfl,?_,rfl⟩
    simp [hb]
  | ws conn =>
    obtain ⟨b,rfl,hb,hc⟩:=h
    exact ⟨_,rfl,by simp [hb],hc⟩
  | lost => trivial

namespace Routed
variable {x : Routed}

structure Kept (x : Routed) : Prop where
  unique : x.server.peers.Unique
  routes : ∀ d, (x.route d).Allows (x.server.linkOf d)

theorem Kept.settled (h : x.Kept) {t : Server} (hs : Server.Settled x.server t) (d : PeerID) (hne : t.linkOf d≠none) :
    (x.route d).Allows (t.linkOf d) := (h.routes d).settles (hs.links d) hne

theorem Kept.registerPeer (h : x.Kept) (env : Environment) (id : PeerID) (raddr : Addr) :
    ((x.server.perform env (.registerPeer id raddr)).peers.Unique) ∧
      ∀ d, (x.server.perform env (.registerPeer id raddr)).linkOf d≠none →
        (x.reroute env d (.registerPeer id raddr)).Allows ((x.server.perform env (.registerPeer id raddr)).linkOf d) := by
  obtain ⟨hrejected,haccepted⟩:=(x.server.underEnv env).handleRegisterPeer_links env id raddr
  have hacc : x.server.accepted env (.registerPeer id raddr) =
      if ((x.server.underEnv env).handleRegisterPeer env id raddr).1.isSome then
        ((x.server.underEnv env).registrationID id raddr).map fun d => (d,.udp raddr)
      else none := rfl
  have hroute (d : PeerID) : x.reroute env d (.registerPeer id raddr) =
      if x.server.accepted env (.registerPeer id raddr)=some (d,.udp raddr) then (x.route d).heard raddr
      else x.route d := rfl
  cases hreply : ((x.server.underEnv env).handleRegisterPeer env id raddr).1 with
  | none =>
    have hfades:=hrejected hreply
    refine ⟨hfades.unique h.unique,fun d hne => ?_⟩
    rw [hroute,hacc,hreply,if_neg (by simp)]
    exact h.settled hfades.settled.plain d hne
  | some asks =>
    obtain ⟨d₀,hid,hset⟩:=haccepted (by rw [hreply]; rfl)
    refine ⟨hset.unique h.unique,fun d hne => ?_⟩
    rw [hreply,hid] at hacc
    have hacc : x.server.accepted env (.registerPeer id raddr)=some (d₀,.udp raddr) := hacc
    rw [hroute,hacc]
    by_cases hd : d=d₀
    · subst hd
      rw [if_pos rfl]
      show Route.Allows (((x.server.underEnv env).handleRegisterPeer env id raddr).2.linkOf d) _
      rw [hset.there]
      exact (h.routes d).heard raddr
    · rw [if_neg fun he => hd (congrArg Prod.fst (Option.some.inj he)).symm]
      rcases hset.elsewhere d hd with hn | hs
      · exact absurd hn hne
      · show Route.Allows (((x.server.underEnv env).handleRegisterPeer env id raddr).2.linkOf d) _
        rw [hs]
        exact h.routes d

theorem Kept.registerPeerWS (h : x.Kept) (env : Environment) (id : PeerID) (addr : Addr) :
    ((x.server.perform env (.registerPeerWS id addr)).peers.Unique) ∧
      ∀ d, (x.server.perform env (.registerPeerWS id addr)).linkOf d≠none →
        (x.reroute env d (.registerPeerWS id addr)).Allows ((x.server.perform env (.registerPeerWS id addr)).linkOf d) := by
  obtain ⟨hrejected,haccepted⟩:=(x.server.underEnv env).registerPeerWS_links env id addr
  have hacc : x.server.accepted env (.registerPeerWS id addr) =
      if ((x.server.underEnv env).handleRegisterPeerWS env id addr).1.isSome then
        ((x.server.underEnv env).registrationID id addr).map fun d => (d,.conn addr)
      else none := rfl
  have hroute (d : PeerID) : x.reroute env d (.registerPeerWS id addr) =
      match x.server.accepted env (.registerPeerWS id addr) with
        | none => x.route d
        | some (d',_) => if d=d' ∧ d'=id then .ws addr else if d=d' ∨ d=id then .lost else x.route d := rfl
  cases hreply : ((x.server.underEnv env).handleRegisterPeerWS env id addr).1 with
  | none =>
    have hfades:=hrejected hreply
    refine ⟨hfades.unique h.unique,fun d hne => ?_⟩
    rw [hroute,hacc,hreply]
    exact h.settled hfades.settled.plain d hne
  | some asks =>
    obtain ⟨d₀,hid,hbound,helse,hunique⟩:=haccepted (by rw [hreply]; rfl)
    refine ⟨hunique h.unique,fun d hne => ?_⟩
    rw [hreply,hid] at hacc
    have hacc : x.server.accepted env (.registerPeerWS id addr)=some (d₀,.conn addr) := hacc
    rw [hroute,hacc]
    dsimp only
    split
    · rename_i hd
      obtain ⟨rfl,rfl⟩:=hd
      obtain ⟨l,hl,hws,hconn⟩:=hbound rfl
      exact ⟨l,hl,hws,hconn⟩
    · split
      · trivial
      · rename_i hd
        rw [not_or] at hd
        rcases helse d hd.1 hd.2 with hn | hs
        · exact absurd hn hne
        · show Route.Allows (((x.server.underEnv env).registerPeerWS env id addr).linkOf d) _
          rw [hs]
          exact h.routes d

theorem Kept.moves (h : x.Kept) {t : Server} {old new : PeerID} (hm : Server.Moves x.server t old new) (d : PeerID)
    (hne : t.linkOf d≠none) : (if d=new then x.route old else x.route d).Allows (t.linkOf d) := by
  rw [hm.moved]
  by_cases hd : d=new
  · rw [if_pos hd,if_pos hd]
    exact h.routes old
  · rw [if_neg hd,if_neg hd]
    by_cases ho : d=old
    · rw [hm.moved,if_neg hd,if_pos ho] at hne
      exact absurd rfl hne
    · rw [if_neg ho]
      exact h.routes d

theorem Kept.registerPk (h : x.Kept) (env : Environment) (transport : ConnType) (m : RegisterPk) (addr : Addr) :
    ((x.server.perform env (.registerPk transport m addr)).peers.Unique) ∧
      ∀ d, (x.server.perform env (.registerPk transport m addr)).linkOf d≠none →
        (x.reroute env d (.registerPk transport m addr)).Allows
          ((x.server.perform env (.registerPk transport m addr)).linkOf d) := by
  let o:=(x.server.underEnv env).handleRegisterPk transport m addr
  let stays (d : PeerID) : Route := match x.server.renames env (.registerPk transport m addr) with
    | none => x.route d
    | some (old,new) => if d=new then x.route old else x.route d
  have hrenames : x.server.renames env (.registerPk transport m addr) =
      if m.oldID≠"" ∧ o.result=.ok then some (m.oldID,m.id) else none := rfl
  have hroute (d : PeerID) : x.reroute env d (.registerPk transport m addr) =
      if transport=.ws ∧ x.server.accepted env (.registerPk transport m addr)=some (d,.conn addr) then .ws addr
      else stays d := rfl
  have hstay {t : Server} (hc : ¬ (m.oldID≠"" ∧ o.result=.ok)) (hs : Server.Settled (x.server.underEnv env) t) (d : PeerID)
      (hne : t.linkOf d≠none) : (stays d).Allows (t.linkOf d) := by
    have hsame : stays d=x.route d := by
      simp only [stays,hrenames,if_neg hc]
    rw [hsame]
    exact h.settled hs.plain d hne
  have hmove {t : Server} (hc : m.oldID≠"" ∧ o.result=.ok) (hm : Server.Moves (x.server.underEnv env) t m.oldID m.id)
      (d : PeerID) (hne : t.linkOf d≠none) : (stays d).Allows (t.linkOf d) := by
    have hmoved : stays d = if d=m.id then x.route m.oldID else x.route d := by
      simp only [stays,hrenames,if_pos hc]
    rw [hmoved]
    exact h.moves hm.plain d hne
  by_cases hws : transport=.ws
  · subst hws
    obtain ⟨hrefused,haccepted⟩:=(x.server.underEnv env).handleRegisterPk_ws m addr
    by_cases hok : o.result=.ok
    · obtain ⟨t,hsettled,hmoves,hlink,hunique⟩:=haccepted hok
      have hacc : x.server.accepted env (.registerPk .ws m addr)=some (o.id,.conn addr) := if_pos hok
      have huniqueT : x.server.peers.Unique → t.peers.Unique := by
        by_cases hold : m.oldID=""
        · exact (hsettled hold).unique
        · exact (hmoves hold).1.unique
      refine ⟨hunique (huniqueT h.unique),fun d hne => ?_⟩
      rw [hroute,hacc]
      by_cases hd : d=o.id
      · rw [if_pos ⟨rfl,by rw [hd]⟩]
        have hlink : o.server.linkOf d=(t.linkOf d).map fun l => ⟨.ws,l.udpAddr,some addr⟩ :=
          (hlink d).trans (if_pos hd)
        have hne : o.server.linkOf d≠none := hne
        rw [hlink] at hne
        cases hl : t.linkOf d with
        | none =>
          rw [hl] at hne
          exact absurd rfl hne
        | some l =>
          rw [hl] at hlink
          exact ⟨_,hlink,rfl,rfl⟩
      · have hlink : (x.server.perform env (.registerPk .ws m addr)).linkOf d=t.linkOf d := (hlink d).trans (if_neg hd)
        rw [hlink] at hne ⊢
        rw [if_neg fun he => hd (congrArg Prod.fst (Option.some.inj he.2)).symm]
        by_cases hold : m.oldID=""
        · exact hstay (fun hc => hc.1 hold) (hsettled hold) d hne
        · exact hmove ⟨hold,hok⟩ (hmoves hold).1 d hne
    · have hs:=hrefused hok
      refine ⟨hs.unique h.unique,fun d hne => ?_⟩
      have hacc : x.server.accepted env (.registerPk .ws m addr)=none := if_neg hok
      rw [hroute,hacc,if_neg (by simp)]
      exact hstay (fun hc => hok hc.2) hs d hne
  · obtain ⟨hsettled,hmoves⟩:=Server.handleRegisterPk_links (s := x.server.underEnv env) transport hws m addr
    by_cases hc : m.oldID≠"" ∧ o.result=.ok
    · have hm:=hmoves hc.1 hc.2
      refine ⟨hm.unique h.unique,fun d hne => ?_⟩
      rw [hroute,if_neg fun hc => hws hc.1]
      exact hmove hc hm d hne
    · have hs:=hsettled (by
        by_cases hold : m.oldID=""
        · exact .inl hold
        · exact .inr fun hok => hc ⟨hold,hok⟩)
      refine ⟨hs.unique h.unique,fun d hne => ?_⟩
      rw [hroute,if_neg fun hc => hws hc.1]
      exact hstay hc hs d hne

theorem Kept.message (h : x.Kept) (env : Environment) (a : KeyAction) : (x.handle (.message env a)).Kept := by
  have hstep : (x.server.perform env a).peers.Unique ∧ ∀ d, (x.server.perform env a).linkOf d≠none →
      (x.reroute env d a).Allows ((x.server.perform env a).linkOf d) := by
    cases a with
    | registerPeer id raddr => exact h.registerPeer env id raddr
    | registerPeerWS id addr => exact h.registerPeerWS env id addr
    | registerPk transport m addr => exact h.registerPk env transport m addr
    | keepAlive conn =>
      have hf:=Server.keepAlive_fades h.unique conn
      exact ⟨hf.unique h.unique,fun d hne => h.settled hf.settled d hne⟩
    | tick elapsed => exact ⟨h.unique,fun d _ => h.routes d⟩
    | cleanup =>
      have hf:=Server.cleanup_fades h.unique
      exact ⟨hf.unique h.unique,fun d hne => h.settled hf.settled d hne⟩
    | restart => exact ⟨nodup_nil,fun d hne => absurd rfl hne⟩
  refine ⟨hstep.1,fun d => ?_⟩
  show (if (x.server.perform env a).linkOf d=none then Route.unreached else x.reroute env d a).Allows
    ((x.server.perform env a).linkOf d)
  split
  · rename_i hnone
    intro l hl
    rw [hnone] at hl
    cases hl
  · rename_i hne
    exact hstep.2 d hne

theorem Kept.handle (h : x.Kept) (a : TransportAction) : (x.handle a).Kept := by
  cases a with
  | message env a => exact h.message env a
  | disconnect conn =>
    refine ⟨h.unique,fun d => ?_⟩
    show (if x.route d=.ws conn then Route.lost else x.route d).Allows (x.server.linkOf d)
    split
    · trivial
    · exact h.routes d
  | network delivers => exact ⟨h.unique,h.routes⟩

theorem start_kept (s : Server) : (start s).Kept := by
  refine ⟨nodup_nil,fun d => ?_⟩
  intro l hl
  cases hl

theorem Kept.run (h : x.Kept) (as : List TransportAction) : (x.run as).Kept := by
  induction as generalizing x with
  | nil => exact h
  | cons a as ih => exact ih (h.handle a)

theorem Kept.follows (h : x.Kept) (d : PeerID) : x.Follows d := by
  have hroute:=h.routes d
  unfold Follows
  cases hr : x.route d with
  | unreached =>
    rw [hr] at hroute
    intro dest hdest
    unfold Server.sendToPeer at hdest
    unfold Server.linkOf at hroute
    cases he : x.server.peers.get d with
    | none =>
      rw [he] at hdest
      cases hdest
    | some e =>
      rw [he] at hroute hdest
      obtain ⟨hws,hudp⟩:=hroute e.link rfl
      have hws : e.connType ≠ .ws := hws
      have hudp : e.udpAddr=none := hudp
      simp only [bind_eq_bind,bind_some,hws,if_false,hudp] at hdest
      obtain ⟨conn,hconn,hdest⟩:=bind_eq_some_iff.mp hdest
      refine ⟨conn,hconn,?_⟩
      split at hdest
      · exact (Option.some.inj hdest).symm
      · cases hdest
  | udp addr =>
    rw [hr] at hroute
    obtain ⟨l,hl,hws,haddr⟩:=hroute
    obtain ⟨e,he,rfl⟩:=map_eq_some_iff.mp hl
    have hws : e.connType ≠ .ws := hws
    have haddr : e.udpAddr=some addr := haddr
    unfold Server.sendToPeer
    simp [he,hws,haddr]
  | ws conn =>
    rw [hr] at hroute
    obtain ⟨l,hl,hws,hconn⟩:=hroute
    obtain ⟨e,he,rfl⟩:=map_eq_some_iff.mp hl
    have hws : e.connType=.ws := hws
    have hconn : e.wsConn=some conn := hconn
    unfold Server.sendToPeer
    simp [he,hws,hconn]
  | lost => trivial

end Routed

open Routed

theorem signals_follow_route (s : Server) (as : List TransportAction) (d : PeerID) : ((start s).run as).Follows d :=
  ((start_kept s).run as).follows d

def panel : Addr := ⟨.v4 3325256809,52000⟩

/-- `device-7` registers over a WebSocket, and a heartbeat of it arrives over UDP. -/
def switchRun : List TransportAction :=
  [.message Keyed.answering (.registerPeerWS "device-7" panel),
    .message Keyed.answering (.registerPeer "device-7" Keyed.client)]

theorem heartbeat_leaves_websocket :
    ¬ ∀ (s : Server) (as : List TransportAction) (d : PeerID) (dest : Dest),
      ((start s).run as).latest d=some dest →
        ((start s).run as).server.sendToPeer d =
          if ((start s).run as).server.delivers dest.addr then some dest else none := by
  intro h
  have hsent:=h Server.empty switchRun "device-7" (.udp Keyed.client) (by decide)
  have hconn : ((start Server.empty).run switchRun).server.sendToPeer "device-7" = some (.conn panel) := by
    decide
  rw [hconn] at hsent
  split at hsent <;> cases hsent

end BetterDesk.Signal
