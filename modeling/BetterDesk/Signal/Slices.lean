import BetterDesk.Signal.AddrMangle
import BetterDesk.Signal.RegisterPeer
import BetterDesk.Signal.RelayDelivery

/-! # Slices of what clients send (signal/handler.go, signal/lan_exchange.go) -/

namespace BetterDesk.Signal
open Db Text List Option

inductive ClientMessage
  | punchHoleRequest (m : PunchHoleRequest)
  | requestRelay (m : RequestRelay)
  | relayResponse (socketAddr : Bytes) (id : PeerID) (uuid : Relay.UUID)
  | punchHoleSent (socketAddr : Bytes) (id : PeerID) (relayServer : Bytes) (natType : ℕ)
  | registerPeer (id : PeerID)
  | registerPk (m : RegisterPk)
  | localAddr (socketAddr localAddr : Bytes) (id : PeerID)

/-- `uuid[:8]` in a log line. -/
def logSlice (uuid : Relay.UUID) : Slice := ⟨uuid.utf8ByteSize,0,8⟩

/-- The same behind a check of the length, as `relayUUIDLogID` does it. -/
def guardedLogSlices (uuid : Relay.UUID) : List Slice := if 8<uuid.utf8ByteSize then [logSlice uuid] else []

def firstSlices (length : ℕ) : List Slice := if 0<length then [.index length 0] else []

def onlySlices (length : ℕ) : List Slice := if length=1 then [.index length 0] else []

def historySlices (length : ℕ) : List Slice := if 5<length then [⟨length,length-5,length⟩] else []

def fixedSlices : List Slice := [⟨32,0,8⟩,⟨32,0,32⟩]++(List.range 3).map (Slice.index 4)

def ShortUUID (uuid : Relay.UUID) : Prop := uuid≠"" ∧ uuid.utf8ByteSize<8

instance (uuid : Relay.UUID) : Decidable (ShortUUID uuid) := inferInstanceAs (Decidable (_ ∧ _))

namespace Server
variable (s : Server)

/-- Expressions that every request may evaluate: the only live peer at its address or
port, the first relay, addresses that are sent, and those of fixed length. -/
def requestSlices (raddr : Addr) (udpPort : ℤ) : List Slice :=
  let atPort:=(s.livePeersAt raddr.ip).filter fun e => e.udpAddr.any (·.port=udpPort.toNat)
  onlySlices (s.livePeersAt raddr.ip).length++onlySlices atPort.length ++
    firstSlices s.cfg.relayServers.length++encodeSlices++fixedSlices

/-- A new UUID is logged by its first 8 bytes, and so is that of a granted session. -/
def requestRelaySlices (transport : ConnType) (m : RequestRelay) (raddr : Addr) : List Slice :=
  let arrived:=s.arrive transport raddr
  arrived.requestSlices raddr 0++(if m.uuid="" then [logSlice arrived.newUUID.1] else []) ++
    (s.requestedSession transport m raddr).toList.map fun x => logSlice x.uuid

/-- The UUID of the found session is checked for its length, the stored one is not. -/
def recoverSlices (rr : RelayResponseIn) (pending : Option PendingUUID) (targetID : PeerID) (initiatorAddr : Addr) :
    List Slice := let pendingUUID:=(pending.map PendingUUID.uuid).getD ""
  let stored:=((s.pendingRelayUUIDs.load (targetID,initiatorAddr)).map PendingUUID.uuid).getD ""
  if rr.uuid≠"" then []
  else if pendingUUID≠"" then guardedLogSlices pendingUUID
  else if stored≠"" then [logSlice stored]
  else [logSlice s.newUUID.1]

def relayResponseSlices (rr : RelayResponseIn) (sender : Addr) : List Slice := match rr.socketAddr with
  | none => []
  | some initiatorAddr =>
    if s.refusesSource rr sender then []
    else
      let pending:=s.pendingOf rr initiatorAddr
      s.recoverSlices rr pending (s.resolveTarget rr pending sender) initiatorAddr ++
        firstSlices s.cfg.relayServers.length++encodeSlices++fixedSlices

/-- `history` is the number of addresses that a peer has roamed from. -/
def slices (history : PeerID → ℕ) (transport : ConnType) (m : ClientMessage) (addr : Addr) : List Slice := match m with
  | .punchHoleRequest m =>
    let arrived:=s.arrive transport addr
    arrived.requestSlices addr m.udpPort++[logSlice arrived.newUUID.1]
  | .requestRelay m => s.requestRelaySlices transport m addr
  | .relayResponse socketAddr id uuid =>
    if transport=.udp then []
    else decodeSlices socketAddr ++
      (s.arrive transport addr).relayResponseSlices ⟨(decodeAddr socketAddr).join,id,uuid⟩ addr
  | .punchHoleSent socketAddr _ _ _ =>
    decodeSlices socketAddr++firstSlices s.cfg.relayServers.length++encodeSlices++fixedSlices
  | .registerPeer id => historySlices (history id)
  | .registerPk _ => []
  | .localAddr socketAddr localAddr _ => decodeSlices socketAddr++decodeSlices localAddr++encodeSlices++fixedSlices

def receive (env : Environment) (transport : ConnType) (m : ClientMessage) (addr : Addr) : Option Turn := match m with
  | .punchHoleRequest m => some (s.handle (.punchHoleRequest transport m addr))
  | .requestRelay m => some (s.handle (.requestRelay transport m addr))
  | .relayResponse socketAddr id uuid =>
    (decodeAddr socketAddr).map fun a => s.handle (.relayResponse transport ⟨a,id,uuid⟩ addr)
  | .punchHoleSent socketAddr id relayServer natType =>
    (decodeAddr socketAddr).map fun a => s.handle (.punchHoleSent transport ⟨a,id,relayServer,natType⟩ addr)
  | .registerPeer id => match transport with
    | .udp => some ⟨(s.handleRegisterPeer env id addr).2,[]⟩
    | .tcp => some ⟨s,[]⟩
    | .ws => some ⟨s.registerPeerWS env id addr,[]⟩
  | .registerPk m => some (s.handle (.registerPk transport m addr))
  | .localAddr socketAddr localAddr id =>
    (decodeAddr socketAddr).bind fun a => (decodeAddr localAddr).map fun l =>
      s.handle (.localAddr ⟨a,l,id⟩ addr)

/-- A panic in a handler. Nothing recovers it but the HTTP server under a WebSocket. -/
def Panics (env : Environment) (transport : ConnType) (m : ClientMessage) (addr : Addr) : Prop :=
  match s.receive env transport m addr with
  | none => True
  | some turn => .panic∈turn.sent

/-- A response without a UUID is let in, its session has none either, and the one that
is stored for its target and address is too short. -/
def RecoversShortUUID (rr : RelayResponseIn) (sender : Addr) : Prop :=
  ∃ a∈rr.socketAddr,s.refusesSource rr sender=false ∧ rr.uuid="" ∧
    ((s.pendingOf rr a).map PendingUUID.uuid).getD "" = "" ∧
    ShortUUID (((s.pendingRelayUUIDs.load (s.resolveTarget rr (s.pendingOf rr a) sender,a)).map PendingUUID.uuid).getD "")

def CutsShortUUID (transport : ConnType) (m : ClientMessage) (addr : Addr) : Prop := match m with
  | .requestRelay m => ShortUUID m.uuid ∧ (s.requestedSession transport m addr).isSome
  | .relayResponse socketAddr id uuid => transport ≠ .udp ∧
      (s.arrive transport addr).RecoversShortUUID ⟨(decodeAddr socketAddr).join,id,uuid⟩ addr
  | _ => False

end Server

theorem logSlice_inBounds {uuid : Relay.UUID} : (logSlice uuid).InBounds ↔ 8≤uuid.utf8ByteSize :=
  ⟨fun h => h.inside,fun h => ⟨by simp [logSlice],h⟩⟩

theorem guardedLogSlices_inBounds (uuid : Relay.UUID) : ∀ x∈guardedLogSlices uuid, x.InBounds := by
  intro x hx
  unfold guardedLogSlices at hx
  split at hx
  · rename_i hlen
    rw [mem_singleton.mp hx,logSlice_inBounds]
    omega
  · cases hx

variable (length : ℕ)

theorem firstSlices_inBounds : ∀ x∈firstSlices length, x.InBounds := by
  intro x hx
  unfold firstSlices at hx
  split at hx
  · rename_i hlen
    rw [mem_singleton.mp hx]
    exact Slice.index_inBounds hlen
  · cases hx

theorem onlySlices_inBounds : ∀ x∈onlySlices length, x.InBounds := by
  intro x hx
  unfold onlySlices at hx
  split at hx
  · rename_i hlen
    rw [mem_singleton.mp hx]
    exact Slice.index_inBounds (by omega)
  · cases hx

theorem historySlices_inBounds : ∀ x∈historySlices length, x.InBounds := by
  intro x hx
  unfold historySlices at hx
  split at hx
  · rw [mem_singleton.mp hx]
    exact ⟨Nat.sub_le length 5,Nat.le_refl length⟩
  · cases hx

theorem fixedSlices_inBounds : ∀ x∈fixedSlices,x.InBounds := by decide

/-- `InBounds` of a whole list. -/
def AllInBounds (l : List Slice) : Prop := ∀ x∈l,x.InBounds

@[simp] theorem allInBounds_nil : AllInBounds [] := fun _ hx => nomatch hx

@[simp] theorem allInBounds_append {l l' : List Slice} : AllInBounds (l++l') ↔ AllInBounds l ∧ AllInBounds l' :=
  forall_mem_append

@[simp] theorem allInBounds_singleton {x : Slice} : AllInBounds [x] ↔ x.InBounds := forall_mem_singleton

theorem sharedSlices_inBounds (n : ℕ) : AllInBounds (firstSlices n++encodeSlices++fixedSlices) := by
  rw [allInBounds_append,allInBounds_append]
  exact ⟨⟨firstSlices_inBounds n,encodeSlices_inBounds⟩,fixedSlices_inBounds⟩

namespace Server
variable {s : Server}

theorem requestSlices_inBounds (raddr : Addr) (udpPort : ℤ) : AllInBounds (s.requestSlices raddr udpPort) := by
  unfold requestSlices
  simp only [allInBounds_append]
  exact ⟨⟨⟨⟨onlySlices_inBounds _,onlySlices_inBounds _⟩,firstSlices_inBounds _⟩,encodeSlices_inBounds⟩,
    fixedSlices_inBounds⟩

theorem arrive_fresh (s : Server) (transport : ConnType) (addr : Addr) : (s.arrive transport addr).fresh=s.fresh := by
  cases transport with
  | udp => rfl
  | ws => rfl
  | tcp =>
    simp only [arrive,openTCP]
    split <;> rfl

theorem requestedSession_uuid {transport : ConnType} {m : RequestRelay} {raddr : Addr} {x : PendingUUID}
    (h : s.requestedSession transport m raddr=some x) : x.uuid=((s.arrive transport raddr).relayUUID m.uuid).1 := by
  unfold requestedSession at h
  generalize (s.arrive transport raddr).relayUUID m.uuid=u at h ⊢
  obtain ⟨uuid,s₁⟩:=u
  dsimp only at h ⊢
  split at h
  · cases h
  · split at h
    · cases h
    · split at h
      · cases h
      · cases h
        rfl

theorem newUUID_inBounds (hfresh : ∀ n, (s.fresh n).utf8ByteSize=36) (transport : ConnType) (addr : Addr) :
    (logSlice (s.arrive transport addr).newUUID.1).InBounds := by
  rw [logSlice_inBounds,newUUID,arrive_fresh,hfresh]
  omega

theorem requestRelaySlices_inBounds (hfresh : ∀ n, (s.fresh n).utf8ByteSize=36) (transport : ConnType)
    (m : RequestRelay) (raddr : Addr) : AllInBounds (s.requestRelaySlices transport m raddr) ↔
      ¬ (ShortUUID m.uuid ∧ (s.requestedSession transport m raddr).isSome) := by
  have hnew:=newUUID_inBounds hfresh transport raddr
  unfold requestRelaySlices
  simp only [allInBounds_append,requestSlices_inBounds,true_and]
  cases hx : s.requestedSession transport m raddr with
  | none =>
    simp only [toList_none,map_nil,allInBounds_nil,and_true,isSome_none,Bool.false_eq_true,
      and_false,not_false_eq_true,iff_true]
    split
    · rwa [allInBounds_singleton]
    · exact allInBounds_nil
  | some x =>
    have huuid:=requestedSession_uuid hx
    simp only [toList_some,map_cons,map_nil,allInBounds_singleton,isSome_some,and_true]
    rw [huuid,relayUUID]
    by_cases hm : m.uuid=""
    · simp only [hm,if_true,ShortUUID,ne_eq,not_true_eq_false,false_and,not_false_eq_true,iff_true]
      exact ⟨allInBounds_singleton.mpr hnew,hnew⟩
    · simp [hm,allInBounds_nil,logSlice_inBounds,ShortUUID]

theorem recoverSlices_inBounds (hfresh : ∀ n, (s.fresh n).utf8ByteSize=36) (rr : RelayResponseIn)
    (pending : Option PendingUUID) (t : PeerID) (a : Addr) : AllInBounds (s.recoverSlices rr pending t a) ↔
      ¬ (rr.uuid="" ∧ (pending.map PendingUUID.uuid).getD "" = "" ∧
        ShortUUID (((s.pendingRelayUUIDs.load (t,a)).map PendingUUID.uuid).getD "")) := by
  unfold recoverSlices
  dsimp only
  by_cases hu : rr.uuid=""
  · by_cases hp : (pending.map PendingUUID.uuid).getD "" = ""
    · simp only [hu,hp,ne_eq,not_true_eq_false,if_false,true_and]
      split
      · rename_i hs
        rw [allInBounds_singleton,logSlice_inBounds,ShortUUID,← not_lt]
        simp [hs]
      · rename_i hs
        rw [allInBounds_singleton,logSlice_inBounds,ShortUUID,newUUID,hfresh]
        simp only [not_not] at hs
        simp [hs]
    · simp only [hu,hp,ne_eq,not_true_eq_false,if_false,not_false_eq_true,if_true,false_and,and_false,iff_true]
      exact guardedLogSlices_inBounds _
  · simp [hu]

theorem relayResponseSlices_inBounds (hfresh : ∀ n, (s.fresh n).utf8ByteSize=36) (rr : RelayResponseIn) (sender : Addr) :
    AllInBounds (s.relayResponseSlices rr sender) ↔ ¬ s.RecoversShortUUID rr sender := by
  unfold relayResponseSlices RecoversShortUUID
  cases ha : rr.socketAddr with
  | none => simp
  | some a =>
    simp only [mem_some_iff,exists_eq_left']
    cases href : s.refusesSource rr sender with
    | true => simp
    | false =>
      have hshared:=sharedSlices_inBounds s.cfg.relayServers.length
      rw [append_assoc,append_assoc,← append_assoc (firstSlices _)]
      simp only [Bool.false_eq_true,if_false,true_and,allInBounds_append,hshared,and_true]
      exact recoverSlices_inBounds hfresh ..

theorem slices_inBounds (hfresh : ∀ n, (s.fresh n).utf8ByteSize=36) (history : PeerID → ℕ) (transport : ConnType)
    (m : ClientMessage) (addr : Addr) : AllInBounds (s.slices history transport m addr) ↔
      ¬ s.CutsShortUUID transport m addr := by
  cases m with
  | requestRelay m => exact requestRelaySlices_inBounds hfresh transport m addr
  | relayResponse socketAddr id uuid =>
    by_cases ht : transport=.udp
    · simp [slices,CutsShortUUID,ht]
    · simp only [slices,CutsShortUUID,ne_eq,ht,if_false,not_false_eq_true,true_and,allInBounds_append]
      rw [relayResponseSlices_inBounds fun n => by rw [arrive_fresh,hfresh]]
      exact and_iff_right (decodeSlices_inBounds socketAddr)
  | punchHoleRequest m =>
    simp only [slices,CutsShortUUID,allInBounds_append,allInBounds_singleton,not_false_eq_true,iff_true]
    exact ⟨requestSlices_inBounds addr m.udpPort,newUUID_inBounds hfresh transport addr⟩
  | punchHoleSent socketAddr id relayServer natType =>
    have hshared:=sharedSlices_inBounds s.cfg.relayServers.length
    simp only [allInBounds_append] at hshared
    simp only [slices,CutsShortUUID,allInBounds_append,not_false_eq_true,iff_true]
    exact ⟨⟨⟨decodeSlices_inBounds socketAddr,hshared.1.1⟩,hshared.1.2⟩,hshared.2⟩
  | registerPeer id =>
    simp only [slices,CutsShortUUID,not_false_eq_true,iff_true]
    exact historySlices_inBounds (history id)
  | registerPk m => simp [slices,CutsShortUUID]
  | localAddr socketAddr localAddr id =>
    simp only [slices,CutsShortUUID,allInBounds_append,not_false_eq_true,iff_true]
    exact ⟨⟨⟨decodeSlices_inBounds socketAddr,decodeSlices_inBounds localAddr⟩,encodeSlices_inBounds⟩,
      fixedSlices_inBounds⟩

theorem lanExchange_panic (t : PeerID) (target : Entry) (i : PeerID) (raddr : Addr) (transport : ConnType) (relay : Bytes)
    (dest : Dest) : .panic∉(s.lanExchange t target i raddr transport relay dest).sent := by
  unfold lanExchange
  dsimp only
  split <;> simp

variable (m : PunchHoleRequest)

theorem sendRelayResponse_panic (target : Entry) (raddr : Addr) (relay : Bytes) (i : PeerID) :
    .panic∉(s.sendRelayResponse m target raddr relay i).sent := by
  unfold sendRelayResponse
  dsimp only
  split
  · simp
  · split
    · simp
    · simp

theorem answerPunch_panic (target : Entry) (route : Route) (raddr : Addr) (overUDP : Bool) :
    .panic∉(s.answerPunch m target route raddr overUDP).1 := by
  unfold answerPunch
  dsimp only
  split <;> simp

theorem handlePunchHoleRequest_panic (raddr : Addr) : .panic∉(s.handlePunchHoleRequest m raddr).sent := by
  unfold handlePunchHoleRequest
  split
  · simp
  · split
    · simp
    · split
      · simp
      · dsimp only
        split
        · exact sendRelayResponse_panic _ _ _ _ _
        · split
          · exact lanExchange_panic _ _ _ _ _ _ _
          · simp [answerPunch_panic]

theorem handlePunchHoleRequestTCP_panic (raddr : Addr) (hint : ConnType) :
    .panic∉(s.handlePunchHoleRequestTCP m raddr hint).sent := by
  unfold handlePunchHoleRequestTCP
  split
  · simp
  · split
    · simp
    · dsimp only
      split
      · simp
      · split
        · exact lanExchange_panic _ _ _ _ _ _ _
        · simp [answerPunch_panic]

theorem handlePunchHoleSent_panic (phs : PunchHoleSent) (sender : Addr) (viaUDP : Bool) :
    .panic∉(s.handlePunchHoleSent phs sender viaUDP).sent := by
  unfold handlePunchHoleSent
  split
  · simp
  · simp

theorem completeLANAddr_panic (m : LocalAddr) (sender : Addr) : .panic∉(s.completeLANAddr m sender).sent := by
  unfold completeLANAddr
  split
  · dsimp only
    split
    · simp
    · split
      · simp
      · split
        · simp
        · split
          · simp
          · split
            · simp
            · split
              · simp
              · simp [deliverLANResponse]
  · simp

theorem answerRelay_panic (target : Entry) (uuid : Relay.UUID) (relay : Bytes) (dest : Dest) :
    .panic∈(s.answerRelay target uuid relay dest).1 ↔ uuid.utf8ByteSize<8 := by
  unfold answerRelay
  dsimp only
  split <;> simp_all

theorem handleRequestRelay_panic (m : RequestRelay) (raddr : Addr) : .panic∈(s.handleRequestRelay m raddr).sent ↔
    ∃ x, s.requestedSession .udp m raddr=some x ∧ x.uuid.utf8ByteSize<8 := by
  unfold handleRequestRelay requestedSession
  simp only [arrive,if_true]
  generalize s.relayUUID m.uuid=u
  obtain ⟨uuid,s₁⟩:=u
  dsimp only
  cases s₁.admitRequest raddr m.token 0 m.id with
  | mk r s₂ =>
    cases r with
    | error e => simp
    | ok p =>
      dsimp only
      cases s₂.prepareBilling uuid m.id (s₂.initiatorID p.1) with
      | mk billed s₃ =>
        cases billed with
        | error e => simp
        | ok _ =>
          dsimp only
          cases s₃.authorizeRelayTicket uuid (s₂.initiatorID p.1) m.id with
          | mk granted s₄ =>
            cases granted with
            | false => simp
            | true => simp [answerRelay_panic]

theorem handleRequestRelayTCP_panic (m : RequestRelay) (raddr : Addr) (hint : ConnType) (hh : hint ≠ .udp) :
    .panic∈((s.arrive hint raddr).handleRequestRelayTCP m raddr hint).sent ↔
      ∃ x, s.requestedSession hint m raddr=some x ∧ x.uuid.utf8ByteSize<8 := by
  unfold handleRequestRelayTCP requestedSession
  simp only [if_neg hh]
  generalize (s.arrive hint raddr).relayUUID m.uuid=u
  obtain ⟨uuid,s₁⟩:=u
  dsimp only
  cases s₁.admitRequest raddr m.token 0 m.id with
  | mk r s₂ =>
    cases r with
    | error e => simp
    | ok p =>
      dsimp only
      cases s₂.authorizeRelayTicket uuid (s₂.initiatorID p.1) m.id with
      | mk granted s₃ =>
        cases granted with
        | false => simp
        | true => simp [answerRelay_panic]

theorem requestRelay_panic (hfresh : ∀ n, (s.fresh n).utf8ByteSize=36) (transport : ConnType) (m : RequestRelay)
    (raddr : Addr) : .panic∈(s.handle (.requestRelay transport m raddr)).sent ↔
      ShortUUID m.uuid ∧ (s.requestedSession transport m raddr).isSome := by
  have hsession : .panic∈(s.handle (.requestRelay transport m raddr)).sent ↔
      ∃ x, s.requestedSession transport m raddr=some x ∧ x.uuid.utf8ByteSize<8 := by
    cases transport with
    | udp => exact handleRequestRelay_panic m raddr
    | tcp => exact handleRequestRelayTCP_panic m raddr .tcp (by decide)
    | ws => exact handleRequestRelayTCP_panic m raddr .ws (by decide)
  rw [hsession]
  constructor
  · rintro ⟨x,hx,hlen⟩
    rw [requestedSession_uuid hx,relayUUID] at hlen
    refine ⟨?_,by rw [hx]; rfl⟩
    split at hlen
    · rw [newUUID,arrive_fresh,hfresh] at hlen
      omega
    · exact ⟨‹_›,hlen⟩
  · rintro ⟨⟨hne,hlen⟩,hsome⟩
    obtain ⟨x,hx⟩:=isSome_iff_exists.mp hsome
    refine ⟨x,hx,?_⟩
    rw [requestedSession_uuid hx,relayUUID,if_neg hne]
    exact hlen

theorem recoverUUID_panic (rr : RelayResponseIn) (pending : Option PendingUUID) (t : PeerID) (a : Addr) :
    (s.recoverUUID rr pending t a).1=.panic ↔ rr.uuid="" ∧ (pending.map PendingUUID.uuid).getD "" = "" ∧
      ShortUUID (((s.pendingRelayUUIDs.load (t,a)).map PendingUUID.uuid).getD "") := by
  unfold recoverUUID
  dsimp only
  by_cases hu : rr.uuid=""
  · by_cases hp : (pending.map PendingUUID.uuid).getD "" = ""
    · rw [if_neg (by simpa using hu),if_neg (by simpa using hp)]
      simp only [hu,hp,true_and,ShortUUID]
      split
      · rename_i hs
        simp [hs]
      · rename_i hs
        split
        · rename_i hlen
          simp [hs,hlen]
        · rename_i hlen
          simp [hlen]
    · rw [if_neg (by simpa using hu),if_pos hp]
      simp [hp]
  · rw [if_pos hu]
    simp [hu]

theorem handleRelayResponseForward_panic (rr : RelayResponseIn) (sender : Addr) :
    .panic∈(s.handleRelayResponseForward rr sender).sent ↔ s.RecoversShortUUID rr sender := by
  unfold handleRelayResponseForward RecoversShortUUID
  cases ha : rr.socketAddr with
  | none => simp
  | some a =>
    simp only [mem_some_iff,exists_eq_left']
    cases href : s.refusesSource rr sender with
    | true => simp
    | false =>
      have hrecover:=recoverUUID_panic (s := s) rr (s.pendingOf rr a) (s.resolveTarget rr (s.pendingOf rr a) sender) a
      simp only [Bool.false_eq_true,if_false,true_and]
      rw [← hrecover]
      generalize s.recoverUUID rr (s.pendingOf rr a) (s.resolveTarget rr (s.pendingOf rr a) sender) a=u
      obtain ⟨recovered,s₁⟩:=u
      cases recovered with
      | panic => simp
      | uuid uuid =>
        dsimp only
        split
        · simp
        · split
          · simp
          · simp

theorem panics_iff (hfresh : ∀ n, (s.fresh n).utf8ByteSize=36) (env : Environment) (transport : ConnType)
    (m : ClientMessage) (addr : Addr) : s.Panics env transport m addr ↔ s.CutsShortUUID transport m addr := by
  unfold Panics
  cases m with
  | requestRelay m => exact requestRelay_panic hfresh transport m addr
  | relayResponse socketAddr id uuid =>
    obtain ⟨a,ha⟩:=decodeAddr_total socketAddr
    simp only [receive,CutsShortUUID,ha,map_some,join_some]
    cases transport with
    | udp => simp [handle]
    | tcp => simpa [handle] using handleRelayResponseForward_panic (s := s.arrive .tcp addr) ⟨a,id,uuid⟩ addr
    | ws => simpa [handle] using handleRelayResponseForward_panic (s := s.arrive .ws addr) ⟨a,id,uuid⟩ addr
  | punchHoleRequest m =>
    simp only [receive,CutsShortUUID,iff_false]
    cases transport with
    | udp => exact handlePunchHoleRequest_panic m addr
    | tcp => exact handlePunchHoleRequestTCP_panic m addr .tcp
    | ws => exact handlePunchHoleRequestTCP_panic m addr .ws
  | punchHoleSent socketAddr id relayServer natType =>
    obtain ⟨a,ha⟩:=decodeAddr_total socketAddr
    simp only [receive,CutsShortUUID,ha,map_some,iff_false]
    exact handlePunchHoleSent_panic _ addr _
  | registerPeer id => cases transport <;> simp [receive,CutsShortUUID]
  | registerPk m => simp [receive,CutsShortUUID,handle]
  | localAddr socketAddr localAddr id =>
    obtain ⟨a,ha⟩:=decodeAddr_total socketAddr
    obtain ⟨l,hl⟩:=decodeAddr_total localAddr
    simp only [receive,CutsShortUUID,ha,hl,bind_some,map_some,iff_false]
    exact completeLANAddr_panic _ addr

end Server

/-- The slices of a message are in bounds, and its handler does not panic, just when no
UUID of 1 to 7 bytes is cut for a log line. -/
theorem slices_in_bounds_iff (s : Server) (hfresh : ∀ n, (s.fresh n).utf8ByteSize=36) (history : PeerID → ℕ)
    (env : Environment) (transport : ConnType) (m : ClientMessage) (addr : Addr) :
    (AllInBounds (s.slices history transport m addr) ↔ ¬ s.CutsShortUUID transport m addr) ∧
      (s.Panics env transport m addr ↔ s.CutsShortUUID transport m addr) :=
  ⟨Server.slices_inBounds hfresh history transport m addr,Server.panics_iff hfresh env transport m addr⟩

def devicesServer : Server :=
  {twoDevices.server with fresh := fun _ => "6ba7b810-9dad-41d1-80b4-00c04fd430c8"}

theorem devicesServer_fresh (n : ℕ) : (devicesServer.fresh n).utf8ByteSize=36 := by
  show String.utf8ByteSize "6ba7b810-9dad-41d1-80b4-00c04fd430c8" = 36
  decide

def quietEnvironment : Environment := ⟨fun _ => false,true,true⟩

def relayRequest (uuid : Relay.UUID) : ClientMessage := .requestRelay ⟨"device-8",uuid,[],[]⟩

instance (s : Server) (transport : ConnType) (m : RequestRelay) (addr : Addr) :
    Decidable (s.CutsShortUUID transport (.requestRelay m) addr) :=
  inferInstanceAs (Decidable (_ ∧ _))

theorem slices_in_bounds_devices :
    AllInBounds (devicesServer.slices (fun _ => 0) .udp (relayRequest "a0f8f3c1") homeAddr) ∧
      ¬ devicesServer.Panics quietEnvironment .udp (relayRequest "a0f8f3c1") homeAddr := by
  have hboth:=slices_in_bounds_iff devicesServer devicesServer_fresh (fun _ => 0) quietEnvironment .udp
    (relayRequest "a0f8f3c1") homeAddr
  have hlong : ¬ devicesServer.CutsShortUUID .udp (relayRequest "a0f8f3c1") homeAddr := by
    unfold relayRequest
    decide
  exact ⟨hboth.1.mpr hlong,fun h => hlong (hboth.2.mp h)⟩

/-- A UUID of four bytes in a request that is granted is cut to 8. -/
theorem short_uuid_panics :
    ¬ ∀ (s : Server) (history : PeerID → ℕ) (transport : ConnType) (m : ClientMessage) (addr : Addr),
      (∀ n, (s.fresh n).utf8ByteSize=36) → AllInBounds (s.slices history transport m addr) := by
  intro h
  have hall:=h devicesServer (fun _ => 0) .udp (relayRequest "a0f8") homeAddr devicesServer_fresh
  have hcut : ⟨4,0,8⟩∈devicesServer.slices (fun _ => 0) .udp (relayRequest "a0f8") homeAddr := by decide +kernel
  exact absurd (hall _ hcut) (by decide)

end BetterDesk.Signal
