import BetterDesk.Signal.AddrRoundTrip
import BetterDesk.Signal.RelayAddr

/-! # Networks of two peers by the bytes of their addresses (signal/handler.go) -/

namespace BetterDesk.Signal.AddressForms
open Text AddrMangle List Bool

def equal (ip x : Bytes) : Bool :=
  if ip.length=x.length then ip=x
  else if ip.length=4 ∧ x.length=16 then x.take 12=v4InV6Prefix ∧ ip=x.drop 12
  else if ip.length=16 ∧ x.length=4 then ip.take 12=v4InV6Prefix ∧ ip.drop 12=x
  else false

def ipv6Loopback : Bytes := [0,0,0,0,0,0,0,0,0,0,0,0,0,0,0,1]

def isLoopback (ip : Bytes) : Bool := match to4 ip with
  | some ip4 => ip4.head?=some 127
  | none => equal ip ipv6Loopback

def isUnspecified (ip : Bytes) : Bool :=
  equal ip (v4InV6Prefix++[0,0,0,0])||equal ip (List.replicate 16 0)

def isLinkLocalUnicast (ip : Bytes) : Bool := match to4 ip with
  | some ip4 => ip4.take 2=[169,254]
  | none => ip.length=16&&ip.head?=some 0xfe&&ip[1]?.any fun b => b &&& 0xc0=0x80

structure IPNet where
  ip : Bytes
  mask : Bytes

def networkNumberAndMask (n : IPNet) : Bytes × Bytes := match to4 n.ip with
  | some ip =>
    if n.mask.length=4 then (ip,n.mask)
    else if n.mask.length=16 then (ip,n.mask.drop 12)
    else ([],[])
  | none => if n.ip.length=16 ∧ n.mask.length=16 then (n.ip,n.mask) else ([],[])

def normal (ip : Bytes) : Bytes := (to4 ip).getD ip

def contains (n : IPNet) (ip : Bytes) : Bool :=
  let (nn,m):=networkNumberAndMask n
  let ip:=normal ip
  ip.length=nn.length&&List.zipWith (· &&& ·) nn m=List.zipWith (· &&& ·) ip m

def privateRanges : List IPNet :=
  [⟨[10,0,0,0],[0xff,0,0,0]⟩,⟨[172,16,0,0],[0xff,0xf0,0,0]⟩,
    ⟨[192,168,0,0],[0xff,0xff,0,0]⟩,⟨0xfc::List.replicate 15 0,0xfe::List.replicate 15 0⟩]

def isPrivateIP (ip : Bytes) : Bool :=
  if ip=[] then false
  else
    let ip:=normal ip
    privateRanges.any (fun n => contains n ip)||isLoopback ip||isLinkLocalUnicast ip

def sameLANSubnet (a b : Bytes) (lanNet : Option IPNet) : Bool := match lanNet with
  | some n => contains n a&&contains n b
  | none => match to4 a, to4 b with
    | some a4, some b4 => a4.take 3=b4.take 3
    | _, _ => false

def isSameNetwork (a b : Option UDPAddr) (lanNet : Option IPNet) : Bool := match a, b with
  | some a, some b =>
    let aIP:=normal a.ip
    let bIP:=normal b.ip
    if equal aIP bIP then true
    else if isLoopback aIP&&isPrivateIP bIP then true
    else if isLoopback bIP&&isPrivateIP aIP then true
    else match to4 aIP, to4 bIP with
      | some a4, some b4 => isPrivateIP a4&&isPrivateIP b4&&sameLANSubnet a4 b4 lanNet
      | _, _ => false
  | _, _ => false

def isSamePublicIP (a b : Option UDPAddr) : Bool := match a, b with
  | some a, some b =>
    let aIP:=normal a.ip
    let bIP:=normal b.ip
    if !equal aIP bIP then false
    else !isPrivateIP aIP&&!isLoopback aIP&&!isUnspecified aIP
  | _, _ => false

def isLANRelayReachableFromPeers (lanIP : Bytes) (lanNet : Option IPNet) (peers : List (Option UDPAddr)) : Bool :=
  match to4 lanIP with
  | none => false
  | some lan4 => isPrivateIP lan4&&peers.any fun peerAddr => match peerAddr.bind fun p => to4 p.ip with
    | none => false
    | some peer4 => !isLoopback peer4&&isPrivateIP peer4&&(equal lan4 peer4||sameLANSubnet lan4 peer4 lanNet)

/-- The LAN of the server: its address there as a text and as `ParseIP` reads it, and the network
of the configured mask. -/
structure Lan where
  text : Option Bytes
  ip : Bytes
  net : Option IPNet

variable (s : Server) (lan : Lan)

def getLANRelayServer (defaultRelay : Bytes) (peers : List (Option UDPAddr)) : Bytes :=
  let defaultRelay := if defaultRelay=[] then s.getRelayServer else defaultRelay
  match lan.text with
  | none => defaultRelay
  | some ip =>
    if isLANRelayReachableFromPeers lan.ip lan.net peers then
      joinPort ip ((s.cfg.relayServers.head?.bind portOf).getD s.cfg.relayPort)
    else defaultRelay

def selectPeerRelayServer (defaultRelay : Bytes) (a b : Option UDPAddr) : Server.Selected :=
  let defaultRelay := if defaultRelay=[] then s.getRelayServer else defaultRelay
  if a=none ∨ b=none then ⟨defaultRelay,false,false⟩
  else if s.cfg.connection.sameNATRelay&&isSamePublicIP a b then ⟨s.getRelayServer,false,true⟩
  else if isSameNetwork a b lan.net then ⟨getLANRelayServer s lan defaultRelay [a,b],true,false⟩
  else ⟨defaultRelay,false,false⟩

/-- What `handlePunchHoleRequest` chooses for an initiator and a target. -/
def punchHoleRelay (raddr target : Option UDPAddr) : Bytes :=
  (selectPeerRelayServer s lan s.getRelayServer raddr target).relay

/-- What `handlePunchHoleSent` chooses when the target answers; it may name a relay. -/
def punchHoleSentRelay (named : Bytes) (sender initiator : Option UDPAddr) : Bytes :=
  let relayServer := if named=[] then s.getRelayServer else named
  (selectPeerRelayServer s lan relayServer sender initiator).relay

theorem to4_four {ip : Bytes} (h : ip.length=4) : to4 ip=some ip := if_pos h

theorem to4_prefixed {ip : Bytes} (h : ip.length=4) : to4 (v4InV6Prefix++ip)=some ip := by
  have hlen : (v4InV6Prefix++ip).length=16 := by
    rw [length_append,h]
    rfl
  have htake : (v4InV6Prefix++ip).take 12=v4InV6Prefix := take_left' rfl
  rw [to4,if_neg (by omega),if_pos ⟨hlen,htake⟩]
  exact congrArg some (drop_left' rfl)

def mapped (a : UDPAddr) : UDPAddr := {a with ip := v4InV6Prefix++a.ip}

def Alike (a a' : Option UDPAddr) : Prop := a.map (fun x => normal x.ip)=a'.map fun x => normal x.ip

theorem mapped_alike {a : UDPAddr} (h : a.ip.length=4) : Alike (some (mapped a)) (some a) := by
  simp [Alike,mapped,normal,to4_prefixed h,to4_four h]

theorem to4_normal (ip : Bytes) : to4 (normal ip)=to4 ip := by
  unfold normal
  cases h : to4 ip with
  | none => exact h
  | some ip4 => exact to4_four (to4_length h)

theorem normal_normal (ip : Bytes) : normal (normal ip)=normal ip := by
  unfold normal
  rw [show to4 ((to4 ip).getD ip)=to4 ip from to4_normal ip]
  cases to4 ip <;> rfl

theorem normal_no_prefix (ip : Bytes) : ¬ ((normal ip).length=16 ∧ (normal ip).take 12=v4InV6Prefix) := by
  intro h
  have hsome : to4 (normal ip)=some ((normal ip).drop 12) := by
    rw [to4,if_neg (by omega),if_pos h]
  have hsame : (normal ip).drop 12=normal ip := by
    have hn:=normal_normal ip
    rw [normal,hsome] at hn
    exact hn
  have hlen:=congrArg List.length hsame
  rw [length_drop] at hlen
  omega

theorem equal_normal (a b : Bytes) : equal (normal a) (normal b)=decide (normal a=normal b) := by
  unfold equal
  split
  · rfl
  · next hlen =>
    have hne : normal a≠normal b := fun h => hlen (congrArg List.length h)
    rw [decide_eq_false hne]
    split
    · next h => exact decide_eq_false fun hb => normal_no_prefix b ⟨h.2,hb.1⟩
    · split
      · next h => exact decide_eq_false fun ha => normal_no_prefix a ⟨h.1,ha.1⟩
      · rfl

theorem sameLANSubnet_comm (a b : Bytes) (lanNet : Option IPNet) : sameLANSubnet a b lanNet=sameLANSubnet b a lanNet := by
  unfold sameLANSubnet
  cases lanNet with
  | some n => exact and_comm _ _
  | none =>
    cases to4 a <;> cases to4 b
    · rfl
    · rfl
    · rfl
    · exact decide_eq_decide.mpr eq_comm

/-- The last branch of `isSameNetwork`. -/
def bothPrivate (aIP bIP : Bytes) (lanNet : Option IPNet) : Bool := match to4 aIP, to4 bIP with
  | some a4, some b4 => isPrivateIP a4&&isPrivateIP b4&&sameLANSubnet a4 b4 lanNet
  | _, _ => false

theorem bothPrivate_comm (aIP bIP : Bytes) (lanNet : Option IPNet) :
    bothPrivate aIP bIP lanNet=bothPrivate bIP aIP lanNet := by
  unfold bothPrivate
  cases to4 aIP <;> cases to4 bIP
  · rfl
  · rfl
  · rfl
  · dsimp only
    rw [sameLANSubnet_comm,and_comm (isPrivateIP _)]

theorem isSameNetwork_some (a b : UDPAddr) (lanNet : Option IPNet) : isSameNetwork (some a) (some b) lanNet =
    (decide (normal a.ip=normal b.ip)||(isLoopback (normal a.ip)&&isPrivateIP (normal b.ip)) ||
      (isLoopback (normal b.ip)&&isPrivateIP (normal a.ip))||bothPrivate (normal a.ip) (normal b.ip) lanNet) := by
  unfold isSameNetwork
  dsimp only
  rw [equal_normal]
  split
  · next h => simp [h]
  · next h =>
    split
    · next hl => simp [hl]
    · next hl =>
      split
      · next hr => simp [hr]
      · next hr =>
        rw [not_eq_true] at h hl hr
        rw [h,hl,hr,Bool.false_or,Bool.false_or,Bool.false_or]
        rfl

theorem isSameNetwork_comm (a b : Option UDPAddr) (lanNet : Option IPNet) :
    isSameNetwork a b lanNet=isSameNetwork b a lanNet := by
  cases a with
  | none => cases b <;> rfl
  | some a =>
    cases b with
    | none => rfl
    | some b =>
      have hsame : decide (normal a.ip=normal b.ip)=decide (normal b.ip=normal a.ip) :=
        decide_eq_decide.mpr eq_comm
      rw [isSameNetwork_some,isSameNetwork_some,bothPrivate_comm,hsame]
      congr 1
      rw [Bool.or_assoc,Bool.or_assoc,Bool.or_comm (isLoopback (normal a.ip)&&_)]

theorem isSamePublicIP_some (a b : UDPAddr) : isSamePublicIP (some a) (some b) =
    (decide (normal a.ip=normal b.ip) &&
      (!isPrivateIP (normal a.ip)&&!isLoopback (normal a.ip)&&!isUnspecified (normal a.ip))) := by
  unfold isSamePublicIP
  dsimp only
  rw [equal_normal]
  cases decide (normal a.ip=normal b.ip) <;> rfl

theorem isSamePublicIP_comm (a b : Option UDPAddr) : isSamePublicIP a b=isSamePublicIP b a := by
  cases a with
  | none => cases b <;> rfl
  | some a =>
    cases b with
    | none => rfl
    | some b =>
      rw [isSamePublicIP_some,isSamePublicIP_some]
      by_cases h : normal a.ip=normal b.ip
      · rw [h]
      · rw [decide_eq_false h,decide_eq_false (Ne.symm h),Bool.false_and,Bool.false_and]

theorem reachable_comm (lanIP : Bytes) (lanNet : Option IPNet) (a b : Option UDPAddr) :
    isLANRelayReachableFromPeers lanIP lanNet [a,b]=isLANRelayReachableFromPeers lanIP lanNet [b,a] := by
  unfold isLANRelayReachableFromPeers
  cases to4 lanIP with
  | none => rfl
  | some lan4 =>
    simp only [any_cons,any_nil,Bool.or_false]
    rw [Bool.or_comm]

variable {s lan}

theorem select_comm (defaultRelay : Bytes) (a b : Option UDPAddr) :
    selectPeerRelayServer s lan defaultRelay a b=selectPeerRelayServer s lan defaultRelay b a := by
  unfold selectPeerRelayServer getLANRelayServer
  have hnone : (a=none ∨ b=none)=(b=none ∨ a=none) := propext or_comm
  simp only [hnone,isSameNetwork_comm a b,isSamePublicIP_comm a b,reachable_comm _ _ a b]

theorem alike_cases {a a' : Option UDPAddr} (h : Alike a a') :
    (a=none ∧ a'=none) ∨ ∃ x x', a=some x ∧ a'=some x' ∧ normal x.ip=normal x'.ip := by
  cases a with
  | none =>
    cases a' with
    | none => exact Or.inl ⟨rfl,rfl⟩
    | some x' => cases h
  | some x =>
    cases a' with
    | none => cases h
    | some x' => exact Or.inr ⟨x,x',rfl,rfl,Option.some.inj h⟩

section Forms
variable {a a' b b' : Option UDPAddr} (ha : Alike a a') (hb : Alike b b')
include ha hb

theorem isSameNetwork_alike (lanNet : Option IPNet) : isSameNetwork a b lanNet=isSameNetwork a' b' lanNet := by
  obtain ⟨rfl,rfl⟩ | ⟨x,x',rfl,rfl,hx⟩:=alike_cases ha
  · rfl
  · obtain ⟨rfl,rfl⟩ | ⟨y,y',rfl,rfl,hy⟩:=alike_cases hb
    · rfl
    · rw [isSameNetwork_some,isSameNetwork_some,hx,hy]

theorem isSamePublicIP_alike : isSamePublicIP a b=isSamePublicIP a' b' := by
  obtain ⟨rfl,rfl⟩ | ⟨x,x',rfl,rfl,hx⟩:=alike_cases ha
  · rfl
  · obtain ⟨rfl,rfl⟩ | ⟨y,y',rfl,rfl,hy⟩:=alike_cases hb
    · rfl
    · rw [isSamePublicIP_some,isSamePublicIP_some,hx,hy]

theorem reachable_alike (lanIP : Bytes) (lanNet : Option IPNet) :
    isLANRelayReachableFromPeers lanIP lanNet [a,b]=isLANRelayReachableFromPeers lanIP lanNet [a',b'] := by
  have hfour {c c' : Option UDPAddr} (hc : Alike c c') : (c.bind fun p => to4 p.ip)=c'.bind fun p => to4 p.ip := by
    obtain ⟨rfl,rfl⟩ | ⟨x,x',rfl,rfl,hx⟩:=alike_cases hc
    · rfl
    · show to4 x.ip=to4 x'.ip
      rw [← to4_normal x.ip,hx,to4_normal]
  unfold isLANRelayReachableFromPeers
  simp [hfour ha,hfour hb]

theorem select_alike (defaultRelay : Bytes) :
    selectPeerRelayServer s lan defaultRelay a b=selectPeerRelayServer s lan defaultRelay a' b' := by
  have hnone {c c' : Option UDPAddr} (hc : Alike c c') : (c=none)=(c'=none) := by
    obtain ⟨rfl,rfl⟩ | ⟨x,x',rfl,rfl,-⟩:=alike_cases hc
    · rfl
    · simp
  unfold selectPeerRelayServer getLANRelayServer
  simp only [hnone ha,hnone hb,isSameNetwork_alike ha hb,isSamePublicIP_alike ha hb,reachable_alike ha hb]

end Forms

def hairpin (s : Server) (a b : Option UDPAddr) : Bool := s.cfg.connection.sameNATRelay&&isSamePublicIP a b

/-- The two are in one network, and the server has an address there that they can reach. -/
def lanRelayed (lan : Lan) (a b : Option UDPAddr) : Bool :=
  isSameNetwork a b lan.net&&lan.text.isSome&&isLANRelayReachableFromPeers lan.ip lan.net [a,b]

theorem not_hairpin_none {a b : Option UDPAddr} (h : a=none ∨ b=none) :
    isSamePublicIP a b=false ∧ isSameNetwork a b lan.net=false := by
  obtain rfl | rfl:=h
  · exact ⟨rfl,rfl⟩
  · cases a <;> exact ⟨rfl,rfl⟩

theorem select_relay (defaultRelay : Bytes) (a b : Option UDPAddr) :
    (selectPeerRelayServer s lan defaultRelay a b).relay =
      if hairpin s a b then s.getRelayServer
      else if lanRelayed lan a b then
        joinPort (lan.text.getD []) ((s.cfg.relayServers.head?.bind portOf).getD s.cfg.relayPort)
      else if defaultRelay=[] then s.getRelayServer else defaultRelay := by
  have hdefault : (if (if defaultRelay=[] then s.getRelayServer else defaultRelay)=[] then s.getRelayServer
      else if defaultRelay=[] then s.getRelayServer else defaultRelay) =
      if defaultRelay=[] then s.getRelayServer else defaultRelay := by
    by_cases h : defaultRelay=[]
    · simp [h]
    · simp [h]
  unfold selectPeerRelayServer hairpin lanRelayed
  by_cases hnone : a=none ∨ b=none
  · obtain ⟨hpublic,hnetwork⟩:=@not_hairpin_none lan _ _ hnone
    simp [hnone,hpublic,hnetwork]
  · dsimp only
    rw [if_neg hnone]
    split
    · rfl
    · split
      · next hsame =>
        unfold getLANRelayServer
        rw [hsame]
        cases lan.text with
        | none => simpa using hdefault
        | some ip =>
          dsimp only
          by_cases hr : isLANRelayReachableFromPeers lan.ip lan.net [a,b]=true
          · simp [hr]
          · simpa [hr] using hdefault
      · next hsame => simp [hsame]

theorem relays_agree_iff {raddr raddr' target target' : Option UDPAddr} (hr : Alike raddr raddr')
    (ht : Alike target target') (named : Bytes) :
    punchHoleRelay s lan raddr target=punchHoleSentRelay s lan named target' raddr' ↔
      named=[] ∨ named=s.getRelayServer ∨ hairpin s raddr target=true ∨ lanRelayed lan raddr target=true := by
  unfold punchHoleRelay punchHoleSentRelay
  dsimp only
  rw [select_comm _ target' raddr',← select_alike hr ht,select_relay,select_relay]
  by_cases hh : hairpin s raddr target=true
  · simp [hh]
  by_cases hl : lanRelayed lan raddr target=true
  · simp [hl]
  have hdefault : (if s.getRelayServer=[] then s.getRelayServer else s.getRelayServer)=s.getRelayServer := by
    split <;> rfl
  rw [if_neg hh,if_neg hh,if_neg hl,if_neg hl,hdefault]
  by_cases hn : named=[]
  · simp [hn]
  · simp [hn,hh,hl,eq_comm]

/-- Both ends of a session are judged alike, in either order and in either form of their addresses. -/
theorem both_ends_agree (s : Server) (lan : Lan) :
    (∀ a b, isSameNetwork a b lan.net=isSameNetwork b a lan.net) ∧
    (∀ a b, a.ip.length=4 → isSameNetwork (some (mapped a)) b lan.net=isSameNetwork (some a) b lan.net) ∧
    (∀ a : UDPAddr, a.ip.length=4 → Alike (some (mapped a)) (some a)) ∧
    ∀ raddr raddr' target target' named, Alike raddr raddr' → Alike target target' →
      (punchHoleRelay s lan raddr target=punchHoleSentRelay s lan named target' raddr' ↔
        named=[] ∨ named=s.getRelayServer ∨ hairpin s raddr target=true ∨ lanRelayed lan raddr target=true) := by
  refine ⟨fun a b => isSameNetwork_comm a b lan.net,fun a b h => ?_,fun a h => mapped_alike h,?_⟩
  · exact isSameNetwork_alike (mapped_alike h) rfl lan.net
  · intro raddr raddr' target target' named hr ht
    exact relays_agree_iff hr ht named

def viewer : UDPAddr := ⟨[203,0,113,9],21116⟩

def host : UDPAddr := ⟨[198,51,100,20],21116⟩

theorem both_ends_agree_mapped :
    isSameNetwork (some (mapped viewer)) (some host) none=isSameNetwork (some viewer) (some host) none ∧
    Alike (some (mapped viewer)) (some viewer) ∧
    (punchHoleRelay Server.empty ⟨none,[],none⟩ (some viewer) (some host) =
        punchHoleSentRelay Server.empty ⟨none,[],none⟩ [] (some (mapped host)) (some viewer) ↔
      ([] : Bytes)=[] ∨ []=Server.empty.getRelayServer ∨ hairpin Server.empty (some viewer) (some host)=true ∨
        lanRelayed ⟨none,[],none⟩ (some viewer) (some host)=true) := by
  obtain ⟨-,hform,halike,hrelay⟩:=both_ends_agree Server.empty ⟨none,[],none⟩
  exact ⟨hform viewer (some host) rfl,halike viewer rfl,hrelay _ _ _ _ [] rfl (halike host rfl).symm⟩

/-- A target that names a relay of its own sends the initiator there. -/
theorem named_relay_differs : ¬ ∀ (s : Server) (lan : Lan) (named : Bytes) (raddr target : Option UDPAddr),
    punchHoleRelay s lan raddr target=punchHoleSentRelay s lan named target raddr := by
  intro h
  have hsame:=h Server.empty ⟨none,[],none⟩ (lit "relay.example:21117") (some viewer) (some host)
  exact absurd hsame (by decide)

end BetterDesk.Signal.AddressForms
