import BetterDesk.Lib.Exec
import BetterDesk.RdClient.Crypto

/-! # What a browser session sends through the bridge -/

namespace BetterDesk.RdClient
open Text (Bytes)
open List Option

variable {Key Msg : Type} (b : Secretbox Key) (p : Proto Msg)

structure Session (Key : Type) where
  loaded : Bool
  ready : Bool
  relayOpen : Bool
  crypto : Crypto Key
  deriving DecidableEq

def Session.sendRelay (s : Session Key) (data : Bytes) : Option Bytes := if s.relayOpen then some data else none

/-- `RDClient._sendPeerMessage` -/
def Session.sendPeerMessage (s : Session Key) (msg : Msg) : Session Key × Option Bytes :=
  if s.loaded=false then (s,none)
  else match s.crypto.processOutgoing b (p.encode msg) with
    | none => (s,none)
    | some (data,crypto) => ({s with crypto := crypto},s.sendRelay data)

/-- `RDFileConnection._sendPeerMessageRaw` -/
def Session.sendPeerMessageRaw (s : Session Key) (msg : Msg) : Session Key × Option Bytes :=
  match s.crypto.processOutgoing b (p.encode msg) with
  | none => (s,none)
  | some (data,crypto) => ({s with crypto := crypto},s.sendRelay data)

/-- `RDFileConnection._sendPeerMessage` -/
def Session.sendFileMessage (s : Session Key) (msg : Msg) : Session Key × Option Bytes :=
  if s.loaded=false ∨ s.ready=false then (s,none)
  else match s.crypto.processOutgoing b (p.encode msg) with
    | none => (s,none)
    | some (data,crypto) => ({s with crypto := crypto},(Codec.encodeFrame data).bind s.sendRelay)

inductive Path
  | client
  | fileRaw
  | file
  deriving DecidableEq

def Session.send (s : Session Key) (path : Path) (msg : Msg) : Session Key × Option Bytes :=
  match path with
  | .client => s.sendPeerMessage b p msg
  | .fileRaw => s.sendPeerMessageRaw b p msg
  | .file => s.sendFileMessage b p msg

/-- One relay connection of the bridge. A guest's first message must ask for the
device of the grant. -/
structure Bridge where
  messageTransport : Bool
  guestPeerId : Option String
  guestRelayBuffer : Bytes
  guestRelayValidated : Bool
  guestSessionConsumed : Bool
  cleaned : Bool
  deriving DecidableEq

/-- `tcp.write(...)`; a frame that cannot be encoded closes the connection. -/
def Bridge.write (br : Bridge) (buf : Bytes) : Bridge × Bytes :=
  if br.messageTransport then match Codec.encodeRelayFrame buf with
    | none => ({br with cleaned := true},[])
    | some bytes => (br,bytes)
  else (br,buf)

/-- A message from the WebSocket and the bytes it puts on TCP. -/
def Bridge.onMessage (br : Bridge) (consumed : Bool) (buf : Bytes) : Bridge × Bytes :=
  if br.cleaned then (br,[])
  else match br.guestPeerId with
    | none => br.write buf
    | some peerId =>
      if br.guestRelayValidated then br.write buf
      else if 1024*1024<br.guestRelayBuffer.length+buf.length then ({br with cleaned := true},[])
      else
        let br:={br with guestRelayBuffer := br.guestRelayBuffer++buf}
        match p.decodeRequest br.guestRelayBuffer with
        | none => (br,[])
        | some request =>
          if request≠some peerId then ({br with cleaned := true},[])
          else
            let br:={br with guestRelayValidated := true}
            if br.guestSessionConsumed then br.write buf
            else if consumed then ({br with guestSessionConsumed := true} : Bridge).write buf
            else ({br with cleaned := true},[])

def Bridge.opened (messageTransport : Bool) (guestPeerId : Option String) : Bridge :=
  { messageTransport := messageTransport,guestPeerId := guestPeerId,guestRelayBuffer := [],
    guestRelayValidated := false,guestSessionConsumed := false,cleaned := false}

/-- A message as it should arrive: in the clear, or sealed with a key and a
number. -/
structure Sent (Key : Type) where
  message : Bytes
  under : Option (Key × ℕ)
  deriving DecidableEq

def Sent.Carries (x : Sent Key) (payload : Bytes) : Prop :=
  match x.under with
  | none => payload=x.message
  | some (k,n) => b.unbox payload (Crypto.counterNonce n) k=some x.message

/-- `wire` is what the peer has received, `sent` what has been sent to it. -/
structure World (Key : Type) where
  desktop : Bool
  session : Session Key
  bridge : Option Bridge
  wire : Bytes
  sent : List (Sent Key)
  deriving DecidableEq

inductive Act (Key Msg : Type)
  | load
  | newCrypto
  | setReady (ready : Bool)
  | connectRelay (deviceId : String) (guestPeerId : Option String) (consumed : Bool)
  | send (path : Path) (msg : Msg)
  | generateSymmetricKey (key : Key)
  | completeKeyExchange (path : Path) (publicKey : Msg)
  | closeRelay
  | closeBridge

def Path.ofClass (desktop : Bool) : Path → Bool
  | .client => desktop
  | _ => !desktop

def Crypto.protection (c : Crypto Key) : Option (Key × ℕ) :=
  if c.enabled then c.secretKey.map fun k => (k,c.sendSeq+1) else none

def Bridge.passes (br : Bridge) : Bool := !br.cleaned&&(br.guestPeerId.isNone||br.guestRelayValidated)

def World.deliver (w : World Key) (msg : Msg) (out : Session Key × Option Bytes) : World Key :=
  match out.2, w.bridge with
  | some data, some br =>
    { w with
      session := out.1
      bridge := some (br.onMessage p true data).1
      wire := w.wire++(br.onMessage p true data).2
      sent := if br.passes then w.sent++[{message := p.encode msg,under := w.session.crypto.protection}] else w.sent}
  | _, _ => {w with session := out.1}

def World.send (w : World Key) (path : Path) (msg : Msg) : World Key := w.deliver p msg (w.session.send b p path msg)

def World.connect (w : World Key) (deviceId : String) (guestPeerId : Option String) (consumed : Bool) : World Key :=
  { w with
    session := {w.session with relayOpen := true}
    bridge := some ((Bridge.opened true guestPeerId).onMessage p consumed (p.encodeRequest deviceId)).1
    wire := []
    sent := []}

def World.exchange (w : World Key) (path : Path) (publicKey : Msg) : World Key :=
  if w.session.crypto.secretKey.isNone then w
  else
    let w:=w.send b p path publicKey
    { w with session := {w.session with
        crypto := {w.session.crypto with enabled := true,sendSeq := 0,recvSeq := 0}}}

def step (w : World Key) : Act Key Msg → Option (World Key)
  | .load => some {w with session := {w.session with loaded := true}}
  | .newCrypto => some {w with session := {w.session with crypto := Crypto.initial}}
  | .setReady ready => some {w with session := {w.session with ready := ready}}
  | .connectRelay deviceId guestPeerId consumed => some (w.connect p deviceId guestPeerId consumed)
  | .send path msg => if path.ofClass w.desktop then some (w.send b p path msg) else none
  | .generateSymmetricKey key =>
    some {w with session := {w.session with crypto := {w.session.crypto with secretKey := some key}}}
  | .completeKeyExchange path publicKey =>
    if path.ofClass w.desktop then some (w.exchange b p path publicKey) else none
  | .closeRelay =>
    some { w with session := { w.session with relayOpen := false }
                  bridge := w.bridge.map fun br => {br with cleaned := true}}
  | .closeBridge => some {w with bridge := w.bridge.map fun br => {br with cleaned := true}}

def World.start (desktop : Bool) : World Key :=
  { desktop := desktop
    session := {loaded := false,ready := false,relayOpen := false,crypto := Crypto.initial}
    bridge := none
    wire := []
    sent := []}

def World.Received (w : World Key) : Prop :=
  ∃ payloads, Streams.drain (Codec.frames none) w.wire=some (payloads,[]) ∧
    List.Forall₂ (Sent.Carries b) w.sent payloads

def Session.size (s : Session Key) (msg : Msg) : ℕ := (p.encode msg).length+s.crypto.overhead

/-- The sender gets as far as the WebSocket, which is open, and so does the
bridge. -/
structure World.Leaves (w : World Key) (path : Path) (msg : Msg) : Prop where
  relayOpen : w.session.relayOpen=true
  bridge : ∃ br∈w.bridge,br.passes=true
  loaded : path ≠ .fileRaw → w.session.loaded=true
  ready : path=.file → w.session.ready=true ∧ w.session.size p msg<2^30
  keyed : w.session.crypto.enabled=true → w.session.crypto.secretKey.isSome=true

variable {b p}

def Bridge.Sound (br : Bridge) : Prop := br.messageTransport=true ∧ (br.cleaned=false → br.passes=true)

def World.Sound (w : World Key) : Prop := ∀ br∈w.bridge,br.Sound

variable {br : Bridge} {q : Bytes} {path : Path}

theorem write_small (h : br.messageTransport=true) {buf : Bytes}
    (hle : buf.length≤Codec.MAX_RELAY_FRAME_SIZE) : br.write buf=(br,Codec.frame buf) := by
  rw [Bridge.write,if_pos h,Codec.encodeRelayFrame_eq hle]

theorem write_large (h : br.messageTransport=true) {buf : Bytes}
    (hlt : Codec.MAX_RELAY_FRAME_SIZE<buf.length) : br.write buf=({br with cleaned := true},[]) := by
  have hnone : Codec.encodeRelayFrame buf=none := by rw [Codec.encodeRelayFrame,if_pos hlt]
  rw [Bridge.write,if_pos h,hnone]

theorem write_sound (h : br.messageTransport=true) (hp : br.passes=true) (buf : Bytes) : (br.write buf).1.Sound := by
  by_cases hle : buf.length≤Codec.MAX_RELAY_FRAME_SIZE
  · rw [write_small h hle]
    exact ⟨h,fun _ => hp⟩
  · rw [write_large h (by omega)]
    exact ⟨h,nofun⟩

theorem onMessage_cleaned (h : br.cleaned=true) (consumed : Bool) (buf : Bytes) :
    br.onMessage p consumed buf=(br,[]) := by
  rw [Bridge.onMessage,if_pos h]

theorem onMessage_passes (h : br.passes=true) (consumed : Bool) (buf : Bytes) :
    br.onMessage p consumed buf=br.write buf := by
  simp only [Bridge.passes,Bool.and_eq_true,Bool.not_eq_true',Bool.or_eq_true] at h
  rw [Bridge.onMessage,if_neg (by simp [h.1])]
  cases hg : br.guestPeerId with
  | none => rfl
  | some peerId =>
    have hv : br.guestRelayValidated=true := by simpa [hg] using h.2
    dsimp only
    rw [if_pos hv]

theorem onMessage_sound (h : br.Sound) (consumed : Bool) (buf : Bytes) : (br.onMessage p consumed buf).1.Sound := by
  cases hc : br.cleaned with
  | true =>
    rw [onMessage_cleaned hc]
    exact h
  | false =>
    rw [onMessage_passes (h.2 hc)]
    exact write_sound h.1 (h.2 hc) buf

theorem opened_sound (guestPeerId : Option String) (consumed : Bool) (deviceId : String) :
    ((Bridge.opened true guestPeerId).onMessage p consumed (p.encodeRequest deviceId)).1.Sound := by
  cases guestPeerId with
  | none =>
    have hpass : (Bridge.opened true none).passes=true := rfl
    rw [onMessage_passes hpass]
    exact write_sound rfl rfl (p.encodeRequest deviceId)
  | some peerId =>
    unfold Bridge.onMessage
    simp only [Bridge.opened,Bool.false_eq_true,if_false,nil_append,p.decode_request]
    split
    · exact ⟨rfl,nofun⟩
    · split
      · exact ⟨rfl,nofun⟩
      · split
        · exact write_sound rfl rfl _
        · exact ⟨rfl,nofun⟩

theorem deliver_sound {w : World Key} (h : w.Sound) (msg : Msg) (out : Session Key × Option Bytes) :
    (w.deliver p msg out).Sound := by
  unfold World.deliver
  split
  · rename_i data br _ hbr
    intro br' hbr'
    cases hbr'
    exact onMessage_sound (h br hbr) true data
  · exact h

theorem map_cleaned_sound {br : Option Bridge} (h : ∀ x∈br,x.Sound) :
    ∀ x∈br.map fun y => {y with cleaned := true}, x.Sound := by
  intro x hx
  obtain ⟨y,hy,rfl⟩:=map_eq_some_iff.mp hx
  exact ⟨(h y hy).1,nofun⟩

theorem step_sound {w t : World Key} {a : Act Key Msg} (h : w.Sound) (ht : step b p w a=some t) : t.Sound := by
  cases a with
  | load | newCrypto | setReady | generateSymmetricKey => cases ht; exact h
  | connectRelay deviceId guestPeerId consumed =>
    cases ht
    intro br hbr
    cases hbr
    exact opened_sound guestPeerId consumed deviceId
  | send path msg =>
    simp only [step] at ht
    split at ht
    · cases ht
      exact deliver_sound h msg _
    · cases ht
  | completeKeyExchange path pk =>
    simp only [step] at ht
    split at ht
    · cases ht
      unfold World.exchange
      split
      · exact h
      · exact deliver_sound h pk _
    · cases ht
  | closeRelay | closeBridge => cases ht; exact map_cleaned_sound h

theorem carries_length {x : Sent Key} (h : x.Carries b q) :
    q.length=x.message.length+(if x.under.isSome then 16 else 0) := by
  unfold Sent.Carries at h
  cases hu : x.under with
  | none =>
    rw [hu] at h
    rw [h]
    rfl
  | some u =>
    rw [hu] at h
    exact b.unbox_length h

theorem processOutgoing_carries (b : Secretbox Key) (p : Proto Msg) {c : Crypto Key} (msg : Msg) (hkey : c.enabled=true → c.secretKey.isSome=true) :
    ∃ data c', c.processOutgoing b (p.encode msg)=some (data,c') ∧
      ({message := p.encode msg,under := c.protection} : Sent Key).Carries b data ∧
      data.length=(p.encode msg).length+c.overhead := by
  unfold Crypto.processOutgoing Crypto.protection Crypto.overhead
  cases hen : c.enabled with
  | false => exact ⟨p.encode msg,c,rfl,rfl,rfl⟩
  | true =>
    obtain ⟨k,hk⟩:=isSome_iff_exists.mp (hkey hen)
    refine ⟨b.box (p.encode msg) (Crypto.counterNonce (c.sendSeq+1)) k,{c with sendSeq := c.sendSeq+1},?_,?_,?_⟩
    · simp [Crypto.encrypt,hk]
    · rw [if_pos rfl,hk]
      exact b.unbox_box _ _ k
    · rw [if_pos rfl]
      exact b.box_length _ _ k

theorem send_leaves {w : World Key} {msg : Msg} (h : w.Leaves p path msg) :
    ∃ data, ({message := p.encode msg,under := w.session.crypto.protection} : Sent Key).Carries b data ∧
      data.length=w.session.size p msg ∧
      (w.session.send b p path msg).2=some (if path=.file then Codec.frame data else data) := by
  obtain ⟨data,c',hout,hcarries,hlen⟩:=processOutgoing_carries b p msg h.keyed
  refine ⟨data,hcarries,hlen,?_⟩
  cases path with
  | client =>
    have hl:=h.loaded nofun
    simp only [Session.send,Session.sendPeerMessage,hl,hout,Session.sendRelay,h.relayOpen]
    rfl
  | fileRaw =>
    simp only [Session.send,Session.sendPeerMessageRaw,hout,Session.sendRelay,h.relayOpen]
    rfl
  | file =>
    have hl:=h.loaded nofun
    obtain ⟨hr,hsize⟩:=h.ready rfl
    have hframe : Codec.encodeFrame data=some (Codec.frame data) := Codec.encodeFrame_eq (by rw [hlen]; exact hsize)
    simp only [Session.send,Session.sendFileMessage,hl,hr,hout,hframe,bind_some,Session.sendRelay,
      h.relayOpen]
    rfl

theorem sendRelay_some {s : Session Key} {data : Bytes} (h : s.sendRelay data=some q) : s.relayOpen=true := by
  unfold Session.sendRelay at h
  split at h
  · assumption
  · cases h

theorem processOutgoing_keyed {c c' : Crypto Key} {data : Bytes} (h : c.processOutgoing b data=some (q,c'))
    (hen : c.enabled=true) : c.secretKey.isSome=true := by
  rw [Crypto.processOutgoing,if_pos hen] at h
  obtain ⟨k,hk,-⟩:=map_eq_some_iff.mp h
  rw [hk]
  rfl

theorem leaves_of_send {w : World Key} {msg : Msg}
    (h : (w.session.send b p path msg).2=some q) (hbr : br∈w.bridge) (hpass : br.passes=true) :
    w.Leaves p path msg := by
  cases path with
  | client =>
    simp only [Session.send,Session.sendPeerMessage] at h
    split at h
    · cases h
    · rename_i hl
      split at h
      · cases h
      · rename_i data c' hout
        exact ⟨sendRelay_some h,⟨br,hbr,hpass⟩,fun _ => by simpa using hl,nofun,processOutgoing_keyed hout⟩
  | fileRaw =>
    simp only [Session.send,Session.sendPeerMessageRaw] at h
    split at h
    · cases h
    · rename_i data c' hout
      exact ⟨sendRelay_some h,⟨br,hbr,hpass⟩,fun hne => absurd rfl hne,nofun,processOutgoing_keyed hout⟩
  | file =>
    simp only [Session.send,Session.sendFileMessage] at h
    split at h
    · cases h
    · rename_i hl
      simp only [not_or,Bool.not_eq_false] at hl
      split at h
      · cases h
      · rename_i data c' hout
        obtain ⟨f,hf,hsend⟩:=bind_eq_some_iff.mp h
        have hsize : data.length<2^30 := by
          by_contra hge
          rw [Codec.encodeFrame_large (by omega)] at hf
          cases hf
        rw [Crypto.processOutgoing_length b hout] at hsize
        exact ⟨sendRelay_some hsend,⟨br,hbr,hpass⟩,fun _ => hl.1,fun _ => ⟨hl.2,hsize⟩,processOutgoing_keyed hout⟩

theorem send_stays {w : World Key} (hs : w.Sound) {msg : Msg} (h : ¬w.Leaves p path msg) :
    (w.send b p path msg).wire=w.wire ∧ (w.send b p path msg).sent=w.sent := by
  unfold World.send World.deliver
  cases hout : (w.session.send b p path msg).2 with
  | none => exact ⟨rfl,rfl⟩
  | some data =>
    cases hbr : w.bridge with
    | none => exact ⟨rfl,rfl⟩
    | some br =>
      dsimp only
      have hsound:=hs br hbr
      cases hpass : br.passes with
      | false =>
        have hc : br.cleaned=true := by
          cases hc : br.cleaned with
          | true => rfl
          | false => rw [hsound.2 hc] at hpass; cases hpass
        rw [onMessage_cleaned hc]
        exact ⟨append_nil _,rfl⟩
      | true =>
        -- the sender got through, so the message would have left
        exact absurd (leaves_of_send hout hbr hpass) h

theorem send_wire {w : World Key} (hs : w.Sound) {msg : Msg} (h : w.Leaves p path msg) :
    ∃ data x, x.Carries b data ∧ data.length=w.session.size p msg ∧
      (w.send b p path msg).sent=w.sent++[x] ∧
      ∃ q, q=(if path=.file then Codec.frame data else data) ∧
        (w.send b p path msg).wire =
          w.wire ++ if q.length≤Codec.MAX_RELAY_FRAME_SIZE then Codec.frame q else [] := by
  obtain ⟨data,hcarries,hlen,hout⟩:=send_leaves (b := b) h
  obtain ⟨br,hbr,hpass⟩:=h.bridge
  have htransport:=(hs br hbr).1
  rw [mem_def] at hbr
  obtain ⟨q,hq⟩ : ∃ q, q = if path=.file then Codec.frame data else data := ⟨_,rfl⟩
  rw [← hq] at hout
  refine ⟨data,_,hcarries,hlen,?_,q,hq,?_⟩
  · unfold World.send World.deliver
    rw [hout,hbr]
    dsimp only
    rw [if_pos hpass]
  · unfold World.send World.deliver
    rw [hout,hbr]
    dsimp only
    rw [onMessage_passes hpass]
    split
    · rename_i hle
      rw [write_small htransport hle]
    · rename_i hgt
      rw [write_large htransport (by omega)]

theorem payload_relay (h : q.length≤Codec.MAX_RELAY_FRAME_SIZE) : Codec.Payload none q := by
  have hmax : Codec.MAX_RELAY_FRAME_SIZE=67108864 := rfl
  exact ⟨by omega,nofun⟩

theorem drain_frame (h : q.length≤Codec.MAX_RELAY_FRAME_SIZE) :
    Streams.drain (Codec.frames none) (Codec.frame q)=some ([q],[]) := by
  have hwritten:=Streams.drain_written (Codec.frames_written none) [q] fun x hx => by
    rw [mem_singleton.mp hx]
    exact payload_relay h
  rwa [flatMap_cons,flatMap_nil,append_nil] at hwritten

theorem forall₂_concat {R : Sent Key → Bytes → Prop} {xs : List (Sent Key)} {qs : List Bytes} {x : Sent Key}
    (h : List.Forall₂ R xs qs) : List.Forall₂ R (xs++[x]) (qs++[q]) ↔ R x q := by
  induction h with
  | nil => simp
  | cons hr _ ih => simp [hr,ih]

theorem received_send {w : World Key} (hs : w.Sound) (hr : w.Received b) {msg : Msg} (h : w.Leaves p path msg) :
    (w.send b p path msg).Received b ↔ path ≠ .file ∧ w.session.size p msg≤Codec.MAX_RELAY_FRAME_SIZE := by
  obtain ⟨payloads,hdrain,hall⟩:=hr
  obtain ⟨data,x,hcarries,hlen,hsent,q,hq,hwire⟩:=send_wire hs h
  by_cases hle : q.length≤Codec.MAX_RELAY_FRAME_SIZE
  · rw [if_pos hle] at hwire
    have hnow : Streams.drain (Codec.frames none) (w.send b p path msg).wire=some (payloads++[q],[]) := by
      rw [hwire,Streams.drain_append (Codec.frames_written none) hdrain,nil_append,drain_frame hle]
      rfl
    have hone : (w.send b p path msg).Received b ↔ x.Carries b q := by
      unfold World.Received
      rw [hnow,hsent]
      constructor
      · rintro ⟨ps,hps,hf⟩
        cases hps
        exact (forall₂_concat hall).mp hf
      · intro hx
        exact ⟨_,rfl,(forall₂_concat hall).mpr hx⟩
    rw [hone]
    by_cases hfile : path=.file
    · rw [if_pos hfile] at hq
      refine iff_of_false (fun hx => ?_) fun hn => hn.1 hfile
      have hqlen:=carries_length hx
      rw [← carries_length hcarries,hq,Codec.length_frame] at hqlen
      have hpos:=Codec.headerLength_pos data.length
      omega
    · rw [if_neg hfile] at hq
      subst hq
      exact iff_of_true hcarries ⟨hfile,by omega⟩
  · rw [if_neg hle,append_nil] at hwire
    refine iff_of_false ?_ fun hn => ?_
    · rintro ⟨ps,hps,hf⟩
      rw [hwire,hdrain] at hps
      cases hps
      have hcount:=hf.length_eq
      rw [hsent,length_append,hall.length_eq,length_singleton] at hcount
      omega
    · rw [if_neg hn.1] at hq
      rw [hq] at hle
      omega

def Ok (p : Proto Msg) (w : World Key) (path : Path) (msg : Msg) : Prop :=
  w.Leaves p path msg → path ≠ .file ∧ w.session.size p msg≤Codec.MAX_RELAY_FRAME_SIZE

def StepOk (p : Proto Msg) (w : World Key) : Act Key Msg → Prop
  | .send path msg => path.ofClass w.desktop=true → Ok p w path msg
  | .completeKeyExchange path publicKey =>
    path.ofClass w.desktop=true → w.session.crypto.secretKey.isSome=true → Ok p w path publicKey
  | _ => True

theorem received_of_same {w t : World Key} (hwire : t.wire=w.wire) (hsent : t.sent=w.sent) (h : w.Received b) :
    t.Received b := by
  unfold World.Received at h ⊢
  rwa [hwire,hsent]

theorem received_send_iff {w : World Key} (hs : w.Sound) (hr : w.Received b) (path : Path) (msg : Msg) :
    (w.send b p path msg).Received b ↔ Ok p w path msg := by
  by_cases h : w.Leaves p path msg
  · rw [received_send hs hr h]
    exact ⟨fun hok _ => hok,fun hok => hok h⟩
  · obtain ⟨hwire,hsent⟩:=send_stays (b := b) hs h
    exact iff_of_true (received_of_same hwire hsent hr) fun hl => absurd hl h

theorem step_received {w : World Key} {a : Act Key Msg} (hs : w.Sound) (hr : w.Received b) :
    (∀ t, step b p w a=some t → t.Received b) ↔ StepOk p w a := by
  have hone {t : World Key} {q : Prop} (ht : step b p w a=some t) (h : t.Received b ↔ q) :
      (∀ u, step b p w a=some u → u.Received b) ↔ q := by
    rw [ht]
    exact ⟨fun hall => h.mp (hall t rfl),fun hq u hu => by cases hu; exact h.mpr hq⟩
  cases a with
  | load | newCrypto | setReady | generateSymmetricKey | closeRelay | closeBridge =>
      exact hone rfl (iff_of_true (received_of_same rfl rfl hr) trivial)
  | connectRelay deviceId guestPeerId consumed => exact hone rfl (iff_of_true ⟨[],rfl,.nil⟩ trivial)
  | send path msg =>
    by_cases hclass : path.ofClass w.desktop=true
    · refine hone (if_pos hclass) ((received_send_iff hs hr path msg).trans ?_)
      exact ⟨fun hok _ => hok,fun hok => hok hclass⟩
    · have hnone : step b p w (.send path msg)=none := if_neg hclass
      rw [hnone]
      exact iff_of_true (fun t ht => by cases ht) fun hc => absurd hc hclass
  | completeKeyExchange path pk =>
    by_cases hclass : path.ofClass w.desktop=true
    · refine hone (if_pos hclass) ?_
      unfold World.exchange
      cases hk : w.session.crypto.secretKey with
      | none => exact iff_of_true hr fun _ hsome => by rw [hk] at hsome; cases hsome
      | some k =>
        refine (received_send_iff hs hr path pk).trans ⟨fun hok _ _ => hok,fun hok => hok hclass ?_⟩
        rw [hk]
        rfl
    · have hnone : step b p w (.completeKeyExchange path pk)=none := if_neg hclass
      rw [hnone]
      exact iff_of_true (fun t ht => by cases ht) fun hc => absurd hc hclass

open Exec in
/-- In every state of a run the peer has received what was sent to it, a frame a
message, exactly when no message that leaves goes by the file connection's
second sender or is too large for the bridge. -/
theorem bridge_payloads (b : Secretbox Key) (p : Proto Msg) (desktop : Bool) (as : List (Act Key Msg)) :
    (∀ pre, pre <+: as → ∀ w, exec (step b p) (World.start desktop) pre=some w → w.Received b) ↔
      Along (step b p) (StepOk p) (World.start desktop) as := by
  have hstart : (World.start desktop : World Key).Received b := ⟨[],rfl,.nil⟩
  rw [along_reached_iff hstart]
  refine along_iff_of_keep (fun w => w.Sound ∧ w.Received b) ?_ (fun w a hw => step_received hw.1 hw.2) ⟨nofun,hstart⟩
  intro w a t hw hok ht
  exact ⟨step_sound hw.1 ht,hok t ht⟩

/-- A file connection that has sent one message before it was ready and one
after. -/
def twiceFramed : World UInt8 where
  desktop := false
  session := {loaded := true,ready := true,relayOpen := true,crypto := Crypto.initial}
  bridge := some (Bridge.opened true none)
  wire := [8,1,7,12,8,1,2]
  sent := [{message := [1,7],under := none},{message := [1,2],under := none}]

theorem twiceFramed_reached : Exec.exec (step sampleBox sampleProto) (World.start false)
      [.load,.connectRelay "d" none true,.send .fileRaw [7],.setReady true,.send .file [2]]=some twiceFramed := by
  decide

/-- A message of the file connection arrives with a header of its own inside the
frame. -/
theorem file_message_framed_twice : ¬∀ (as : List (Act UInt8 Bytes)) (w : World UInt8),
      Exec.exec (step sampleBox sampleProto) (World.start false) as=some w → w.Received sampleBox := by
  intro h
  obtain ⟨payloads,hdrain,hall⟩:=h _ twiceFramed twiceFramed_reached
  have hread : Streams.drain (Codec.frames none) twiceFramed.wire=some ([[1,7],[8,1,2]],[]) := by decide
  rw [hread] at hdrain
  cases hdrain
  cases hall with
  | cons _ hrest => cases hrest with
    | cons hx _ =>
      have hsame : ([8,1,2] : Bytes)=[1,2] := hx
      exact absurd hsame (by decide)

end BetterDesk.RdClient
