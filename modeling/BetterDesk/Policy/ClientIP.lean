import BetterDesk.Lib.Lines
import BetterDesk.Policy.AddressText

/-! # Where a request comes from -/

namespace BetterDesk.Policy
open Text Signal List

def plainByte (b : UInt8) : Bool := 33≤b ∧ b≤126 ∧ b≠44 ∧ b≠91 ∧ b≠93

/-- The other end of a TCP connection. An IPv6 address has two colons at least. -/
structure TcpPeer where
  host : Bytes
  port : Bytes
  host_ne : host≠[]
  host_plain : ∀ b∈host,plainByte b
  host_colons : host.count 58≠1
  port_digits : ∀ b∈port,isDigit b

/-- `r.RemoteAddr`. -/
def TcpPeer.remoteAddr (p : TcpPeer) : Bytes := joinHostPort p.host p.port

structure ForwardHeaders where
  xForwardedFor : List Bytes
  xRealIP : List Bytes

def ForwardHeaders.none : ForwardHeaders := ⟨[],[]⟩

structure Request where
  peer : TcpPeer
  headers : ForwardHeaders

/-- `Header.Get`: the first line. -/
def get (lines : List Bytes) : Bytes := lines.headD []

/-- The switches `TRUST_PROXY` and `TRUSTED_PROXIES`. -/
structure ProxyTrust where
  trustProxy : Bool
  trustedProxies : List IPNet

namespace ProxyTrust
variable (cfg : ProxyTrust)

def remoteAddrIsTrustedProxy (remoteAddr : Bytes) : Bool :=
  let host:=((splitHostPort remoteAddr).map Prod.fst).getD remoteAddr
  match parseIP host with
  | some ip => cfg.trustedProxies.any ip.within
  | none => false

def shouldHonorForwardedHeaders (remoteAddr : Bytes) : Bool :=
  cfg.trustProxy&&cfg.remoteAddrIsTrustedProxy remoteAddr

end ProxyTrust

def headerIP (client : Bytes) : Option Bytes := match splitHostPort client with
  | some (host,port) => if port≠lit "0" then (parseIP host).map ipText else none
  | none => (parseIP client).map ipText

/-- The leftmost entry, as `remoteIP` cuts it out. -/
def leftmost (xff : Bytes) : Bytes :=
  let client:=trimSpace xff
  match cut 44 client with
  | some (first,_) => trimSpace first
  | none => client

def peerHost (remoteAddr : Bytes) : Bytes :=
  ((splitHostPort remoteAddr).map Prod.fst).getD remoteAddr

def remoteIP (cfg : ProxyTrust) (r : Request) : Bytes :=
  let xff:=get r.headers.xForwardedFor
  let xri:=get r.headers.xRealIP
  let forwarded :=
    if cfg.shouldHonorForwardedHeaders r.peer.remoteAddr then
      (if xff≠[] then headerIP (leftmost xff) else none).or
        (if xri≠[] then headerIP (trimSpace xri) else none)
    else none
  forwarded.getD (peerHost r.peer.remoteAddr)

def extractIP (r : Request) : Bytes :=
  let xri:=get r.headers.xRealIP
  let xff:=get r.headers.xForwardedFor
  if xri≠[] then xri
  else if xff≠[] then trimSpace (xff.takeWhile (·≠44))
  else peerHost r.peer.remoteAddr

def isBlank (b : UInt8) : Bool := b=32 ∨ b=9

/-- `trimSpace` of meshcentral/gateway.go. -/
def meshTrimSpace (t : Bytes) : Bytes := (t.dropWhile isBlank).rdropWhile isBlank

def beforeLastColon (t : Bytes) : Bytes :=
  let before:=((t.reverse.dropWhile (·≠58)).drop 1).reverse
  if before≠[] then before else t

def clientIP (cfg : ProxyTrust) (r : Request) : Bytes :=
  let xff:=get r.headers.xForwardedFor
  if cfg.shouldHonorForwardedHeaders r.peer.remoteAddr ∧ xff≠[] then
    match cut 44 xff with
    | some (first,_) => if first≠[] then meshTrimSpace first else meshTrimSpace xff
    | none => meshTrimSpace xff
  else beforeLastColon r.peer.remoteAddr

structure Proxy where
  peer : TcpPeer
  setsRealIP : Bool

def Proxy.forward (r : Request) (p : Proxy) : Request where
  peer := p.peer
  headers := {
    xForwardedFor := [[44,32].intercalate (r.headers.xForwardedFor++[r.peer.host])]
    xRealIP := if p.setsRealIP then [r.peer.host] else r.headers.xRealIP}

def deliver (client : TcpPeer) (chain : List Proxy) (headers : ForwardHeaders) : Request :=
  chain.foldl Proxy.forward ⟨client,headers⟩

def lastPeer (client : TcpPeer) (chain : List Proxy) : TcpPeer :=
  (chain.getLast?.map Proxy.peer).getD client

def Independent (ip : Request → Bytes) (client : TcpPeer) (chain : List Proxy) : Prop :=
  ∀ headers headers', ip (deliver client chain headers)=ip (deliver client chain headers')

variable {chain : List Proxy} {a t : Bytes}

theorem takeWhile_stop {p : UInt8 → Bool} {b : UInt8} (h : ∀ x∈a,p x) (hb : p b=false) :
    (a++b::t).takeWhile p=a := by
  rw [takeWhile_append_of_pos h,takeWhile_cons_of_neg (by simp [hb]),append_nil]

theorem dropWhile_stop {p : UInt8 → Bool} {b : UInt8} (h : ∀ x∈a,p x) (hb : p b=false) :
    (a++b::t).dropWhile p=b::t := by
  rw [dropWhile_append_of_pos h,dropWhile_cons_of_neg (by simp [hb])]

namespace TcpPeer
variable (p : TcpPeer)

theorem not_mem_host {b : UInt8} (h : plainByte b=false) : b∉p.host := fun hb => by
  simp [p.host_plain b hb] at h

theorem not_mem_port {b : UInt8} (h : isDigit b=false) : b∉p.port := fun hb => by
  simp [p.port_digits b hb] at h

theorem before_remoteAddr : ((p.remoteAddr.reverse.dropWhile (·≠58)).drop 1).reverse =
    if 58∈p.host then 91::p.host++[93] else p.host := by
  have hport : ∀ x∈p.port.reverse,decide (x≠58)=true := by
    intro x hx
    simp only [decide_eq_true_eq]
    rintro rfl
    exact p.not_mem_port (by decide) (mem_reverse.mp hx)
  unfold remoteAddr joinHostPort
  by_cases h : 58∈p.host
  · simp only [if_pos h]
    have hrev : (91::p.host++93::58::p.port).reverse =
        p.port.reverse++58::(93::(p.host.reverse++[91])) := by simp
    rw [hrev,dropWhile_stop hport (by decide)]
    simp
  · simp only [if_neg h]
    have hrev : (p.host++58::p.port).reverse=p.port.reverse++58::p.host.reverse := by simp
    rw [hrev,dropWhile_stop hport (by decide)]
    simp

theorem splitHost_remoteAddr : Relay.splitHost p.remoteAddr=some p.host := by
  have hbefore:=p.before_remoteAddr
  have h58 : 58∈p.remoteAddr := by
    unfold remoteAddr joinHostPort
    split <;> simp
  have hopen : 91∉p.host := p.not_mem_host (by decide)
  have hclose : 93∉p.host := p.not_mem_host (by decide)
  have hport : 91∉p.port ∧ 93∉p.port := ⟨p.not_mem_port (by decide),p.not_mem_port (by decide)⟩
  unfold Relay.splitHost
  simp only [not_not.mpr h58,if_false,hbefore]
  by_cases h : 58∈p.host
  · have hform : p.remoteAddr=91::(p.host++93::58::p.port) := by
      simp [remoteAddr,joinHostPort,h]
    have hhost : (p.host++93::58::p.port).takeWhile (·≠93)=p.host := by
      apply takeWhile_stop _ (by decide)
      intro x hx
      simp only [decide_eq_true_eq]
      rintro rfl
      exact hclose hx
    have hrest : p.host.drop (p.host.length+1)=[] := drop_eq_nil_of_le (by omega)
    simp only [hform,hhost,if_pos h]
    simp [hopen,hport.1,hport.2,drop_append,hrest]
  · have hform : p.remoteAddr=p.host++58::p.port := by simp [remoteAddr,joinHostPort,h]
    obtain ⟨b,rest,hcons⟩ : ∃ b rest, p.host=b::rest := exists_cons_of_ne_nil p.host_ne
    have hb : b≠91 := by
      rintro rfl
      exact hopen (by simp [hcons])
    rw [if_neg h]
    split
    · rename_i inner heq
      rw [hform,hcons] at heq
      simp only [cons_append,cons.injEq] at heq
      exact absurd heq.1 hb
    · rw [if_neg]
      simp [hform,h,hopen,hclose,hport.1,hport.2]

theorem peerHost_remoteAddr : peerHost p.remoteAddr=p.host := by
  simp [peerHost,splitHostPort,p.splitHost_remoteAddr]

theorem beforeLastColon_remoteAddr :
    beforeLastColon p.remoteAddr = if 58∈p.host then 91::p.host++[93] else p.host := by
  unfold beforeLastColon
  simp only [p.before_remoteAddr]
  rw [if_pos]
  split
  · simp
  · exact p.host_ne

theorem splitHostPort_host : splitHostPort p.host=none := by
  have hopen : 91∉p.host := p.not_mem_host (by decide)
  have hclose : 93∉p.host := p.not_mem_host (by decide)
  have hsplit : Relay.splitHost p.host=none := by
    unfold Relay.splitHost
    by_cases h : 58∈p.host
    · simp only [not_not.mpr h,if_false]
      split
      · rename_i inner heq
        exact absurd (heq ▸ mem_cons_self) hopen
      · rw [if_pos]
        left
        -- there is a second colon before the last one
        obtain ⟨after,before,hsplit,hno⟩:=eq_append_cons_of_mem (mem_reverse.mpr h)
        have hdrop : p.host.reverse.dropWhile (·≠58)=58::before := by
          rw [hsplit]
          apply dropWhile_stop _ (by decide)
          intro x hx
          simp only [decide_eq_true_eq]
          rintro rfl
          exact hno hx
        have hcount : p.host.count 58=before.count 58+1 := by
          rw [← count_reverse,hsplit,count_append,count_cons_self,count_eq_zero_of_not_mem hno]
          omega
        have hmore : before.count 58≠0 := fun h0 => p.host_colons (by omega)
        rw [hdrop,drop_one,tail_cons,mem_reverse]
        exact count_pos_iff.mp (Nat.pos_of_ne_zero hmore)
    · simp [h]
  simp [splitHostPort,hsplit]

end TcpPeer

theorem space_not_plain : ∀ r∈spaceRunes, ∀ b∈r,plainByte b=false := by decide +kernel

theorem no_space_in_front (hne : a≠[]) (h : ∀ b∈a,plainByte b) : ∀ r∈spaceRunes,¬ r <+: a++t := by
  intro r hr hp
  obtain ⟨x,xs,rfl⟩:=exists_cons_of_ne_nil hne
  obtain ⟨b,bs,rfl⟩:=exists_cons_of_ne_nil (spaceRunes_ne r hr)
  obtain ⟨rest,hrest⟩:=hp
  simp only [cons_append,cons.injEq] at hrest
  have hplain:=h x mem_cons_self
  rw [← hrest.1,space_not_plain _ hr b mem_cons_self] at hplain
  cases hplain

theorem trimSpace_entry (hne : a≠[]) (h : ∀ b∈a,plainByte b) : ∃ t', trimSpace (a++44::t)=a++44::t' := by
  have hcomma : ∀ r∈spaceRunes,44∉r := by decide
  have hfront : trimLeft a=a := by
    apply dropWords_eq_self
    have hclean:=no_space_in_front (t := []) hne h
    rwa [append_nil] at hclean
  obtain ⟨t',ht'⟩:=trimSpace_at (a := a) (c := t) hcomma
  exact ⟨t',by rw [ht',hfront]⟩

theorem trimSpace_plain (h : ∀ b∈a,plainByte b) : trimSpace a=a := by
  by_contra hne
  obtain ⟨r,hr,hb⟩ : ∃ r∈spaceRunes, ∀ b∈r,b∈a := by
    rcases trimSpace_ne hne with ⟨r,hr,hp⟩ | ⟨r,hr,hp⟩
    · exact ⟨r,hr,fun b hb => hp.subset hb⟩
    · exact ⟨r,hr,fun b hb => hp.subset hb⟩
  obtain ⟨b,hbr⟩:=exists_mem_of_ne_nil r (spaceRunes_ne r hr)
  have hplain:=h b (hb b hbr)
  rw [space_not_plain r hr b hbr] at hplain
  cases hplain

theorem no_comma (h : ∀ b∈a,plainByte b) : 44∉a := fun hb => by
  have hplain:=h 44 hb
  revert hplain
  decide

theorem meshTrimSpace_plain (h : ∀ b∈a,plainByte b) : meshTrimSpace a=a := by
  have hblank : ∀ b∈a,isBlank b=false := by
    intro b hb
    have hplain:=h b hb
    by_contra hbl
    simp only [Bool.not_eq_false,isBlank,decide_eq_true_eq] at hbl
    rcases hbl with rfl | rfl
    · revert hplain
      decide
    · revert hplain
      decide
  have hkeep : a.dropWhile isBlank=a := by
    cases a with
    | nil => rfl
    | cons b t => rw [dropWhile_cons_of_neg (by simp [hblank b mem_cons_self])]
  rw [meshTrimSpace,hkeep,rdropWhile_eq_self_iff]
  intro hne
  simp [hblank _ (getLast_mem hne)]

/-- A header line of which the leftmost entry is `a`. -/
def StartsWith (a line : Bytes) : Prop := line=a ∨ ∃ t, line=a++44::t

section Entry
variable {a line : Bytes} (hne : a≠[]) (h : ∀ b∈a,plainByte b) (hline : StartsWith a line)
include hne h hline

theorem leftmost_entry : leftmost line=a := by
  have hcomma:=no_comma h
  unfold leftmost
  rcases hline with rfl | ⟨t,rfl⟩
  · simp only [trimSpace_plain h,cut_none hcomma]
  · obtain ⟨t',ht⟩:=trimSpace_entry (t := t) hne h
    simp only [ht,cut_first hcomma,trimSpace_plain h]

theorem line_ne : line≠[] := by
  rcases hline with rfl | ⟨t,rfl⟩
  · exact hne
  · simp

theorem meshEntry : (match cut 44 line with
    | some (first,_) => if first≠[] then meshTrimSpace first else meshTrimSpace line
    | none => meshTrimSpace line)=a := by
  have hcomma:=no_comma h
  rcases hline with rfl | ⟨t,rfl⟩
  · simp only [cut_none hcomma,meshTrimSpace_plain h]
  · simp only [cut_first hcomma,if_pos hne,meshTrimSpace_plain h]

end Entry

theorem deliver_cons (client : TcpPeer) (p : Proxy) (chain : List Proxy) (headers : ForwardHeaders) :
    deliver client (p::chain) headers = chain.foldl Proxy.forward (Proxy.forward ⟨client,headers⟩ p) := rfl

theorem lastPeer_cons (client : TcpPeer) (p : Proxy) (chain : List Proxy) :
    lastPeer client (p::chain)=lastPeer p.peer chain := by
  cases chain with
  | nil => rfl
  | cons q chain =>
    have hlast:=List.getLast?_eq_some_getLast (cons_ne_nil q chain)
    simp [lastPeer,List.getLast?_cons_cons,hlast]

theorem foldl_peer (chain : List Proxy) (r : Request) : (chain.foldl Proxy.forward r).peer=lastPeer r.peer chain := by
  induction chain generalizing r with
  | nil => rfl
  | cons p chain ih =>
    rw [foldl_cons,ih,lastPeer_cons]
    rfl

theorem deliver_peer (client : TcpPeer) (chain : List Proxy) (headers : ForwardHeaders) :
    (deliver client chain headers).peer=lastPeer client chain := foldl_peer ..

theorem foldl_startsWith (line : Bytes) (chain : List Proxy) (r : Request)
    (hr : r.headers.xForwardedFor=[line]) (hline : StartsWith a line) :
    ∃ line', (chain.foldl Proxy.forward r).headers.xForwardedFor=[line'] ∧ StartsWith a line' := by
  induction chain generalizing r line with
  | nil => exact ⟨line,hr,hline⟩
  | cons p chain ih =>
    rw [foldl_cons]
    refine ih (line++44::32::r.peer.host) _ ?_ ?_
    · simp [Proxy.forward,hr,List.intercalate]
    · rcases hline with rfl | ⟨t,rfl⟩
      · exact .inr ⟨_,rfl⟩
      · exact .inr ⟨t++44::32::r.peer.host,by simp⟩

theorem deliver_sent (hc : chain≠[]) (client : TcpPeer) (xri : List Bytes) :
    ∃ line, get (deliver client chain ⟨[a],xri⟩).headers.xForwardedFor=line ∧ StartsWith a line := by
  obtain ⟨p,chain,rfl⟩:=exists_cons_of_ne_nil hc
  rw [deliver_cons]
  obtain ⟨line,hl,hline⟩:=foldl_startsWith (a := a) (a++44::32::client.host) chain
    (Proxy.forward ⟨client,⟨[a],xri⟩⟩ p) (by simp [Proxy.forward,List.intercalate]) (.inr ⟨_,rfl⟩)
  exact ⟨line,by simp [hl,get],hline⟩

theorem deliver_unsent (hc : chain≠[]) (client : TcpPeer) (xri : List Bytes) :
    ∃ line, get (deliver client chain ⟨[],xri⟩).headers.xForwardedFor=line ∧ StartsWith client.host line := by
  obtain ⟨p,chain,rfl⟩:=exists_cons_of_ne_nil hc
  rw [deliver_cons]
  obtain ⟨line,hl,hline⟩:=foldl_startsWith (a := client.host) client.host chain
    (Proxy.forward ⟨client,⟨[],xri⟩⟩ p) (by simp [Proxy.forward,List.intercalate]) (.inl rfl)
  exact ⟨line,by simp [hl,get],hline⟩

theorem foldl_realIP_kept (h : ∀ p∈chain,p.setsRealIP=false) (r : Request) :
    (chain.foldl Proxy.forward r).headers.xRealIP=r.headers.xRealIP := by
  induction chain generalizing r with
  | nil => rfl
  | cons p chain ih =>
    rw [foldl_cons,ih fun q hq => h q (mem_cons_of_mem _ hq)]
    simp [Proxy.forward,h p mem_cons_self]

theorem foldl_realIP_set (h : ∃ p∈chain,p.setsRealIP) (client : TcpPeer) : ∃ seen : TcpPeer, ∀ headers,
      (chain.foldl Proxy.forward ⟨client,headers⟩).headers.xRealIP=[seen.host] := by
  induction chain generalizing client with
  | nil => simp at h
  | cons p chain ih =>
    by_cases hrest : ∃ q∈chain,q.setsRealIP
    · obtain ⟨seen,hseen⟩:=ih hrest p.peer
      exact ⟨seen,fun headers => hseen _⟩
    · simp only [not_exists,not_and,Bool.not_eq_true] at hrest
      have hp : p.setsRealIP=true := by
        obtain ⟨q,hq,hs⟩:=h
        rcases mem_cons.mp hq with rfl | hq
        · exact hs
        · rw [hrest q hq] at hs
          cases hs
      refine ⟨client,fun headers => ?_⟩
      rw [foldl_cons,foldl_realIP_kept hrest]
      simp [Proxy.forward,hp]

section Untrusted
variable (cfg : ProxyTrust) (r : Request)

theorem remoteIP_unhonored (h : cfg.shouldHonorForwardedHeaders r.peer.remoteAddr=false) :
    remoteIP cfg r=r.peer.host := by
  simp [remoteIP,h,r.peer.peerHost_remoteAddr]

theorem clientIP_unhonored (h : cfg.shouldHonorForwardedHeaders r.peer.remoteAddr=false) :
    clientIP cfg r = if 58∈r.peer.host then 91::r.peer.host++[93] else r.peer.host := by
  simp [clientIP,h,r.peer.beforeLastColon_remoteAddr]

end Untrusted

section Trusted
variable {cfg : ProxyTrust} {r : Request} {a : Bytes}
  (h : cfg.shouldHonorForwardedHeaders r.peer.remoteAddr)
  (hne : a≠[]) (ha : ∀ b∈a,plainByte b)
  (hline : StartsWith a (get r.headers.xForwardedFor))
include h hne ha hline

theorem remoteIP_honored {shown : Bytes} (hshown : headerIP a=some shown) : remoteIP cfg r=shown := by
  simp [remoteIP,h,line_ne hne ha hline,leftmost_entry hne ha hline,hshown]

theorem clientIP_honored : clientIP cfg r=a := by
  have hentry:=meshEntry hne ha hline
  unfold clientIP
  simp only [h,line_ne hne ha hline,ne_eq,not_false_eq_true,and_self,if_true]
  exact hentry

end Trusted

def forged : Bytes := lit "198.51.100.20"

def forged' : Bytes := lit "203.0.113.9"

theorem forged_plain : (∀ b∈forged,plainByte b) ∧ ∀ b∈forged',plainByte b := by decide +kernel

theorem remoteIP_independent_iff (cfg : ProxyTrust) (client : TcpPeer) (hc : chain≠[]) :
    Independent (remoteIP cfg) client chain ↔
      cfg.shouldHonorForwardedHeaders (lastPeer client chain).remoteAddr=false := by
  constructor
  · intro hind
    by_contra htrust
    rw [Bool.not_eq_false] at htrust
    have hread : ∀ a shown, a≠[] → (∀ b∈a,plainByte b) → headerIP a=some shown →
        remoteIP cfg (deliver client chain ⟨[a],[]⟩)=shown := by
      intro a shown hne ha hshown
      obtain ⟨line,hline,hstart⟩:=deliver_sent (a := a) hc client []
      exact remoteIP_honored (by rw [deliver_peer]; exact htrust) hne ha (hline ▸ hstart) hshown
    have h1:=hread forged forged (by decide) forged_plain.1 (by decide)
    have h2:=hread forged' forged' (by decide) forged_plain.2 (by decide)
    have heq:=hind ⟨[forged],[]⟩ ⟨[forged'],[]⟩
    rw [h1,h2] at heq
    exact absurd heq (by decide)
  · intro htrust headers headers'
    rw [remoteIP_unhonored _ _ (by rw [deliver_peer]; exact htrust),
      remoteIP_unhonored _ _ (by rw [deliver_peer]; exact htrust),deliver_peer,deliver_peer]

theorem clientIP_independent_iff (cfg : ProxyTrust) (client : TcpPeer) (hc : chain≠[]) :
    Independent (clientIP cfg) client chain ↔
      cfg.shouldHonorForwardedHeaders (lastPeer client chain).remoteAddr=false := by
  constructor
  · intro hind
    by_contra htrust
    rw [Bool.not_eq_false] at htrust
    have hread : ∀ a, a≠[] → (∀ b∈a,plainByte b) →
        clientIP cfg (deliver client chain ⟨[a],[]⟩)=a := by
      intro a hne ha
      obtain ⟨line,hline,hstart⟩:=deliver_sent (a := a) hc client []
      exact clientIP_honored (by rw [deliver_peer]; exact htrust) hne ha (hline ▸ hstart)
    have heq:=hind ⟨[forged],[]⟩ ⟨[forged'],[]⟩
    rw [hread forged (by decide) forged_plain.1,hread forged' (by decide) forged_plain.2] at heq
    exact absurd heq (by decide)
  · intro htrust headers headers'
    rw [clientIP_unhonored _ _ (by rw [deliver_peer]; exact htrust),
      clientIP_unhonored _ _ (by rw [deliver_peer]; exact htrust),deliver_peer,deliver_peer]

theorem extractIP_of_realIP {r : Request} (hne : a≠[]) (h : r.headers.xRealIP=[a]) : extractIP r=a := by
  simp [extractIP,h,get,hne]

theorem extractIP_independent_iff (client : TcpPeer) (chain : List Proxy) :
    Independent extractIP client chain ↔ ∃ p∈chain,p.setsRealIP := by
  constructor
  · intro hind
    by_contra hno
    simp only [not_exists,not_and,Bool.not_eq_true] at hno
    have hread : ∀ a, a≠[] → extractIP (deliver client chain ⟨[],[a]⟩)=a := by
      intro a hne
      apply extractIP_of_realIP hne
      exact foldl_realIP_kept hno _
    have heq:=hind ⟨[],[forged]⟩ ⟨[],[forged']⟩
    rw [hread forged (by decide),hread forged' (by decide)] at heq
    exact absurd heq (by decide)
  · intro h headers headers'
    obtain ⟨seen,hseen⟩:=foldl_realIP_set h client
    have hsame : ∀ h, extractIP (deliver client chain h)=seen.host := fun h =>
      extractIP_of_realIP seen.host_ne (hseen h)
    rw [hsame,hsame]

theorem headerIP_host (p : TcpPeer) : headerIP p.host=(parseIP p.host).map ipText := by
  simp [headerIP,p.splitHostPort_host]

/-- Without trust in the TCP peer the headers count for nothing. -/
theorem attribution (cfg : ProxyTrust) :
    (∀ r : Request, cfg.remoteAddrIsTrustedProxy r.peer.remoteAddr=false →
      remoteIP cfg r=r.peer.host ∧ clientIP cfg r=clientIP cfg ⟨r.peer,.none⟩ ∧
      (58∉r.peer.host → clientIP cfg r=r.peer.host)) ∧
    (∀ client chain, chain≠[] →
      let trusted:=cfg.shouldHonorForwardedHeaders (lastPeer client chain).remoteAddr
      (Independent (remoteIP cfg) client chain ↔ trusted=false) ∧
      (Independent (clientIP cfg) client chain ↔ trusted=false) ∧
      (Independent extractIP client chain ↔ ∃ p∈chain,p.setsRealIP) ∧
      (trusted=true → ∀ xri, clientIP cfg (deliver client chain ⟨[],xri⟩)=client.host ∧
        ∀ ip, parseIP client.host=some ip →
          remoteIP cfg (deliver client chain ⟨[],xri⟩)=ipText ip)) := by
  refine ⟨fun r h => ?_,fun client chain hc => ⟨remoteIP_independent_iff cfg client hc,
    clientIP_independent_iff cfg client hc,extractIP_independent_iff client chain,fun htrust xri => ?_⟩⟩
  · have hoff : cfg.shouldHonorForwardedHeaders r.peer.remoteAddr=false := by
      simp [ProxyTrust.shouldHonorForwardedHeaders,h]
    refine ⟨remoteIP_unhonored cfg r hoff,?_,fun h58 => ?_⟩
    · rw [clientIP_unhonored cfg r hoff,clientIP_unhonored cfg ⟨r.peer,.none⟩ hoff]
    · rw [clientIP_unhonored cfg r hoff,if_neg h58]
  · obtain ⟨line,hline,hstart⟩:=deliver_unsent hc client xri
    have hon : cfg.shouldHonorForwardedHeaders (deliver client chain ⟨[],xri⟩).peer.remoteAddr := by
      rw [deliver_peer]
      exact htrust
    refine ⟨clientIP_honored hon client.host_ne client.host_plain (hline ▸ hstart),fun ip hip => ?_⟩
    exact remoteIP_honored hon client.host_ne client.host_plain (hline ▸ hstart)
      (by rw [headerIP_host,hip]; rfl)

def nginxTrust : ProxyTrust := ⟨true,[⟨.v4 0x7F000000,24⟩]⟩

def nginx : Proxy where
  peer := ⟨lit "127.0.0.1",lit "50222",by decide,by decide +kernel,by decide,by decide +kernel⟩
  setsRealIP := true

def visitor : TcpPeer := ⟨lit "192.0.2.9",lit "4711",by decide,by decide +kernel,by decide,by decide +kernel⟩

theorem attribution_nginx : remoteIP nginxTrust ⟨visitor,⟨[forged],[forged]⟩⟩=lit "192.0.2.9" ∧
    remoteIP nginxTrust (deliver visitor [nginx] ⟨[],[forged]⟩)=ipText (.v4 0xC0000209) ∧
    Independent extractIP visitor [nginx] :=
  ⟨((attribution nginxTrust).1 ⟨visitor,⟨[forged],[forged]⟩⟩ (by decide)).1,
    (((attribution nginxTrust).2 visitor [nginx] (by decide)).2.2.2 (by decide) [forged]).2
      (.v4 0xC0000209) (by decide),
    ((attribution nginxTrust).2 visitor [nginx] (by decide)).2.2.1.mpr ⟨nginx,by simp,rfl⟩⟩

theorem leftmost_entry_forged : nginxTrust.shouldHonorForwardedHeaders nginx.peer.remoteAddr=true ∧
    remoteIP nginxTrust (deliver visitor [nginx] ⟨[forged],[]⟩)=forged ∧
    clientIP nginxTrust (deliver visitor [nginx] ⟨[forged],[]⟩)=forged ∧
    remoteIP nginxTrust (deliver visitor [nginx] .none)=lit "192.0.2.9" ∧
    clientIP nginxTrust (deliver visitor [nginx] .none)=lit "192.0.2.9" ∧
    ¬ Independent (remoteIP nginxTrust) visitor [nginx] ∧ ¬ Independent (clientIP nginxTrust) visitor [nginx] := by
  refine ⟨by decide,by decide,by decide,by decide,by decide,
    fun h => ?_,fun h => ?_⟩
  · exact absurd (h ⟨[forged],[]⟩ .none) (by decide)
  · exact absurd (h ⟨[forged],[]⟩ .none) (by decide)

end BetterDesk.Policy
