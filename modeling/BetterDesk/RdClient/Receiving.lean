import BetterDesk.RdClient.Transport

/-! # What the browser client accepts from its peer -/

namespace BetterDesk.RdClient
open Text (Bytes)
open Option

/-- What the client reads off frames and messages besides their encoding:
`rekeys` holds of a SignedId that parses. -/
structure Reading (Key Msg : Type) where
  relayResponse : Bytes → Bool
  rekeys : Msg → Bool
  publicKey : Key → Msg

structure Dispatch (Key Msg : Type) where
  msg : Msg
  under : Option (Key × ℕ)
  deriving DecidableEq

/-- `received` are the messages dispatched once the peer's encryption was
confirmed, `boxed` what the client itself has sealed. -/
structure Receiver (Key Msg : Type) where
  session : Session Key
  relayConfirmReceived : Bool
  keyExchangePending : Bool
  keyExchangeDone : Bool
  peerEncryptionConfirmed : Bool
  received : List (Dispatch Key Msg)
  boxed : List (Key × ℕ × Bytes)

variable {Key Msg : Type} (b : Secretbox Key) (p : Proto Msg) (rd : Reading Key Msg)

namespace Receiver

def initial : Receiver Key Msg :=
  { session := { loaded := true,ready := false,relayOpen := true,crypto := Crypto.initial }
    relayConfirmReceived := false
    keyExchangePending := false
    keyExchangeDone := false
    peerEncryptionConfirmed := false
    received := []
    boxed := []}

/-- `_sendPeerMessage`, with what it seals on record. -/
def send (r : Receiver Key Msg) (msg : Msg) : Receiver Key Msg :=
  { r with
    session := (r.session.sendPeerMessage b p msg).1
    boxed := r.boxed++(r.session.crypto.protection.toList.map fun u => (u.1,u.2,p.encode msg))}

def completeKeyExchange (r : Receiver Key Msg) : Receiver Key Msg :=
  if r.keyExchangeDone then r
  else match r.session.crypto.secretKey with
    | none => r
    | some key =>
      let r:=r.send b p (rd.publicKey key)
      { r with
        session := {r.session with crypto := {r.session.crypto with enabled := true,sendSeq := 0,recvSeq := 0}}
        keyExchangePending := false
        keyExchangeDone := true}

def plaintext (frame : Bytes) : Bool := (p.decode frame).any p.fields

def decideExchange (r : Receiver Key Msg) (frame : Bytes) : Receiver Key Msg :=
  if r.keyExchangePending&&!r.keyExchangeDone then
    if plaintext p frame then {r with keyExchangePending := false,keyExchangeDone := false}
    else r.completeKeyExchange b p rd
  else r

def handleSignedId (r : Receiver Key Msg) (key : Key) : Receiver Key Msg :=
  { r with
    session := {r.session with crypto := {r.session.crypto with secretKey := some key}}
    keyExchangePending := true
    keyExchangeDone := false}

def dispatchMessage (r : Receiver Key Msg) (fresh : Key) (msg : Msg) (under : Option (Key × ℕ)) : Receiver Key Msg :=
  let r := if r.peerEncryptionConfirmed then {r with received := r.received++[{msg := msg,under := under}]} else r
  if rd.rekeys msg then r.handleSignedId fresh else r

def decodeAndDispatch (r : Receiver Key Msg) (fresh : Key) (data : Bytes) (under : Option (Key × ℕ)) :
    Receiver Key Msg := match p.decode data with
  | none => r
  | some msg => r.dispatchMessage rd fresh msg under

def opens (r : Receiver Key Msg) (frame : Bytes) : Option (Bytes × ℕ) :=
  if r.keyExchangeDone then r.session.crypto.tryDecrypt b frame else none

def openFrame (r : Receiver Key Msg) (fresh : Key) (frame : Bytes) : Receiver Key Msg :=
  match r.opens b frame with
  | some (data,seq) =>
    let under:=r.session.crypto.secretKey.map fun k => (k,seq)
    let r:={r with
      session := {r.session with crypto := r.session.crypto.commitDecrypt seq}
      peerEncryptionConfirmed := true}
    r.decodeAndDispatch p rd fresh data under
  | none =>
    if r.keyExchangeDone&&r.session.crypto.secretKey.isSome&&r.peerEncryptionConfirmed then r
    else r.decodeAndDispatch p rd fresh frame none

/-- A WebSocket message; `fresh` is the key that is drawn if one is. -/
def handleRelayData (r : Receiver Key Msg) (fresh : Key) (frame : Bytes) : Receiver Key Msg :=
  if frame=[] then r
  else if r.relayConfirmReceived=false ∧ rd.relayResponse frame=true then {r with relayConfirmReceived := true}
  else (({r with relayConfirmReceived := true} : Receiver Key Msg).decideExchange b p rd frame).openFrame b p rd fresh frame

end Receiver

inductive Event (Key Msg : Type)
  | send (msg : Msg)
  | frame (fresh : Key) (frame : Bytes)

def Receiver.step (r : Receiver Key Msg) : Event Key Msg → Option (Receiver Key Msg)
  | .send msg => some (r.send b p msg)
  | .frame fresh frame => some (r.handleRelayData b p rd fresh frame)

def Receiver.decided (r : Receiver Key Msg) (frame : Bytes) : Receiver Key Msg :=
  ({r with relayConfirmReceived := true} : Receiver Key Msg).decideExchange b p rd frame

/-- The box is unforgeable: a frame that opens under the session key and the next number was sealed
with them by one of the two ends. -/
def Unforged (peer : Key → List Msg) (r : Receiver Key Msg) : Event Key Msg → Prop
  | .send _ => True
  | .frame _ frame =>
    ∀ k∈(r.decided b p rd frame).session.crypto.secretKey, ∀ x∈(r.decided b p rd frame).opens b frame,
      (∃ msg∈(peer k)[x.2-1]?, x.1=p.encode msg) ∨ (k,x.2,x.1)∈(r.decided b p rd frame).boxed

/-- The frame is not one of the client's own, and what it opens to is no SignedId
that parses. -/
def Orderly (r : Receiver Key Msg) : Event Key Msg → Prop
  | .send _ => True
  | .frame _ frame =>
    ∀ k∈(r.decided b p rd frame).session.crypto.secretKey, ∀ x∈(r.decided b p rd frame).opens b frame,
      (k,x.2,x.1)∉(r.decided b p rd frame).boxed ∧ ∀ msg∈p.decode x.1, rd.rekeys msg=false

section
variable [DecidableEq Key]

instance decidableUnforged (peer : Key → List Msg) (r : Receiver Key Msg) :
    (e : Event Key Msg) → Decidable (Unforged b p rd peer r e)
  | .send _ => isTrue trivial
  | .frame _ _ => inferInstanceAs (Decidable (∀ k∈_, ∀ x∈_,(∃ msg∈_,_) ∨ _))

instance decidableOrderly (r : Receiver Key Msg) : (e : Event Key Msg) → Decidable (Orderly b p rd r e)
  | .send _ => isTrue trivial
  | .frame _ _ => inferInstanceAs (Decidable (∀ k∈_, ∀ x∈_,_ ∧ ∀ msg∈_,_))

end

/-- The first `n` messages of the peer, opened one by one. -/
def opened (k : Key) (msgs : List Msg) (n : ℕ) : List (Dispatch Key Msg) :=
  (msgs.take n).mapIdx fun i msg => {msg := msg,under := some (k,i+1)}

/-- What was dispatched since the confirmation are the first messages that the
peer sealed with the session key, each opened under its number. -/
def Receiver.InOrder (peer : Key → List Msg) (r : Receiver Key Msg) : Prop :=
  r.peerEncryptionConfirmed=true →
    ∃ k∈r.session.crypto.secretKey,r.received=opened k (peer k) r.session.crypto.recvSeq

instance decidableInOrder [DecidableEq Key] [DecidableEq Msg] (peer : Key → List Msg) (r : Receiver Key Msg) :
    Decidable (r.InOrder peer) := inferInstanceAs (Decidable (_ → ∃ k∈_,_))

theorem opened_succ {k : Key} {msgs : List Msg} {n : ℕ} {msg : Msg} (h : msgs[n]?=some msg) :
    opened k msgs (n+1)=opened k msgs n++[{msg := msg,under := some (k,n+1)}] := by
  obtain ⟨hn,hget⟩:=List.getElem?_eq_some_iff.mp h
  have hlen : (msgs.take n).length=n := by
    rw [List.length_take]
    omega
  rw [opened,List.take_succ_eq_append_getElem hn,List.mapIdx_append,hlen,hget]
  simp [opened]

structure Receiver.Inv (peer : Key → List Msg) (r : Receiver Key Msg) : Prop where
  confirmed : r.peerEncryptionConfirmed=true → r.keyExchangeDone=true
  before : r.peerEncryptionConfirmed=false → r.received=[] ∧ (r.keyExchangeDone=true → r.session.crypto.recvSeq=0)
  inOrder : r.InOrder peer

variable {b p rd} {peer : Key → List Msg}

theorem send_recv (r : Receiver Key Msg) (msg : Msg) :
    (r.send b p msg).session.crypto.recvSeq=r.session.crypto.recvSeq ∧
      (r.send b p msg).session.crypto.secretKey=r.session.crypto.secretKey := by
  unfold Receiver.send Session.sendPeerMessage
  dsimp only
  split
  · exact ⟨rfl,rfl⟩
  · split
    · exact ⟨rfl,rfl⟩
    · rename_i data c hout
      unfold Crypto.processOutgoing at hout
      split at hout
      · obtain ⟨k,hk,heq⟩:=map_eq_some_iff.mp hout
        cases heq
        exact ⟨rfl,rfl⟩
      · cases hout
        exact ⟨rfl,rfl⟩

theorem send_inv {r : Receiver Key Msg} (h : r.Inv peer) (msg : Msg) : (r.send b p msg).Inv peer := by
  obtain ⟨hseq,hkey⟩:=send_recv (b := b) (p := p) r msg
  refine ⟨h.confirmed,fun hc => ⟨(h.before hc).1,fun hd => ?_⟩,fun hc => ?_⟩
  · rw [hseq]
    exact (h.before hc).2 hd
  · rw [hseq,hkey]
    exact h.inOrder hc

theorem decided_confirmed {r : Receiver Key Msg} (hd : r.keyExchangeDone=true) (frame : Bytes) :
    r.decided b p rd frame={r with relayConfirmReceived := true} := by
  unfold Receiver.decided Receiver.decideExchange
  rw [if_neg (by simp [hd])]

theorem decided_inv {r : Receiver Key Msg} (h : r.Inv peer) (frame : Bytes) : (r.decided b p rd frame).Inv peer := by
  cases hc : r.peerEncryptionConfirmed with
  | true =>
    rw [decided_confirmed (h.confirmed hc)]
    exact ⟨h.confirmed,h.before,h.inOrder⟩
  | false =>
    unfold Receiver.decided Receiver.decideExchange
    split
    · split
      · exact ⟨fun hn => absurd hn (by simp [hc]),fun _ => ⟨(h.before hc).1,nofun⟩,fun hn => absurd hn (by simp [hc])⟩
      · unfold Receiver.completeKeyExchange
        split
        · exact ⟨h.confirmed,h.before,h.inOrder⟩
        · split
          · exact ⟨h.confirmed,h.before,h.inOrder⟩
          · exact ⟨fun _ => rfl,fun _ => ⟨(h.before hc).1,fun _ => rfl⟩,fun hn => absurd hn (by simp [Receiver.send,hc])⟩
    · exact ⟨h.confirmed,h.before,h.inOrder⟩

theorem opens_some {r : Receiver Key Msg} {frame : Bytes} {x : Bytes × ℕ} (h : r.opens b frame=some x) :
    r.keyExchangeDone=true ∧ (∃ k, r.session.crypto.secretKey=some k) ∧ x.2=r.session.crypto.recvSeq+1 := by
  unfold Receiver.opens at h
  split at h
  · rename_i hd
    obtain ⟨k,hk,hopen⟩:=bind_eq_some_iff.mp h
    obtain ⟨m,-,heq⟩:=map_eq_some_iff.mp hopen
    cases heq
    exact ⟨hd,⟨k,hk⟩,rfl⟩
  · cases h

theorem openFrame_opened {r : Receiver Key Msg} (h : r.Inv peer) {fresh k : Key} {frame data : Bytes} {seq : ℕ}
    (hopen : r.opens b frame=some (data,seq)) (hk : r.session.crypto.secretKey=some k) {msg : Msg}
    (hmsg : (peer k)[seq-1]?=some msg) (hdata : data=p.encode msg) (hplain : rd.rekeys msg=false) :
    (r.openFrame b p rd fresh frame).Inv peer := by
  obtain ⟨hd,-,hseq⟩:=opens_some hopen
  dsimp only at hseq
  subst hseq hdata
  rw [Nat.add_sub_cancel] at hmsg
  have hprev : r.received=opened k (peer k) r.session.crypto.recvSeq := by
    cases hc : r.peerEncryptionConfirmed with
    | true =>
      obtain ⟨k',hk',hrec⟩:=h.inOrder hc
      rw [mem_def,hk,some.injEq] at hk'
      rw [hrec,hk']
    | false =>
      rw [(h.before hc).1,(h.before hc).2 hd]
      rfl
  have hafter : r.openFrame b p rd fresh frame =
      { r with
        session := {r.session with crypto := r.session.crypto.commitDecrypt (r.session.crypto.recvSeq+1)}
        peerEncryptionConfirmed := true
        received := r.received++[{msg := msg,under := some (k,r.session.crypto.recvSeq+1)}]} := by
    unfold Receiver.openFrame
    rw [hopen]
    simp [Receiver.decodeAndDispatch,p.decode_encode,Receiver.dispatchMessage,hplain,hk]
  rw [hafter]
  refine ⟨fun _ => hd,nofun,fun _ => ⟨k,hk,?_⟩⟩
  dsimp only [Crypto.commitDecrypt]
  rw [opened_succ hmsg,hprev]

theorem openFrame_closed {r : Receiver Key Msg} (h : r.Inv peer) {fresh : Key} {frame : Bytes}
    (hopen : r.opens b frame=none) : (r.openFrame b p rd fresh frame).Inv peer := by
  unfold Receiver.openFrame
  rw [hopen]
  dsimp only
  split
  · exact h
  · rename_i hopenly
    have hc : r.peerEncryptionConfirmed=false := by
      cases hc : r.peerEncryptionConfirmed with
      | false => rfl
      | true =>
        obtain ⟨k,hk,-⟩:=h.inOrder hc
        rw [mem_def] at hk
        simp [hc,h.confirmed hc,hk] at hopenly
    unfold Receiver.decodeAndDispatch
    split
    · exact h
    · unfold Receiver.dispatchMessage
      simp only [hc,Bool.false_eq_true,if_false]
      split
      · refine ⟨fun hn => ?_,fun _ => ⟨(h.before hc).1,nofun⟩,fun hn => ?_⟩
        · exact absurd (show r.peerEncryptionConfirmed=true from hn) (by simp [hc])
        · exact absurd (show r.peerEncryptionConfirmed=true from hn) (by simp [hc])
      · exact h

theorem step_inv {r t : Receiver Key Msg} {e : Event Key Msg} (h : r.Inv peer)
    (hok : Unforged b p rd peer r e ∧ Orderly b p rd r e) (ht : r.step b p rd e=some t) : t.Inv peer := by
  cases e with
  | send msg =>
    cases ht
    exact send_inv h msg
  | frame fresh frame =>
    cases ht
    unfold Receiver.handleRelayData
    split
    · exact h
    · split
      · exact ⟨h.confirmed,h.before,h.inOrder⟩
      · have hdec : (r.decided b p rd frame).Inv peer := decided_inv h frame
        cases hopen : (r.decided b p rd frame).opens b frame with
        | none => exact openFrame_closed hdec hopen
        | some x =>
          obtain ⟨-,⟨k,hk⟩,-⟩:=opens_some hopen
          obtain ⟨hown,hplain⟩:=hok.2 k hk x hopen
          obtain ⟨msg,hmsg,hdata⟩ | hbox:=hok.1 k hk x hopen
          · have hnot : rd.rekeys msg=false := hplain msg (by rw [hdata]; exact p.decode_encode msg)
            exact openFrame_opened hdec hopen hk hmsg hdata hnot
          · exact absurd hbox hown

open Exec in
/-- With an unforgeable box, and as long as no SignedId comes through the
encrypted channel and none of the client's own frames comes back to it, the
messages dispatched after the confirmation are the peer's, in order, each once
and none of them in plaintext. -/
theorem encrypted_in_order (b : Secretbox Key) (p : Proto Msg) (rd : Reading Key Msg) (peer : Key → List Msg)
    (es : List (Event Key Msg)) (hunforged : Along (Receiver.step b p rd) (Unforged b p rd peer) Receiver.initial es)
    (horderly : Along (Receiver.step b p rd) (Orderly b p rd) Receiver.initial es) (r : Receiver Key Msg)
    (h : exec (Receiver.step b p rd) Receiver.initial es=some r) : r.InOrder peer := by
  have hstart : (Receiver.initial : Receiver Key Msg).Inv peer := ⟨nofun,fun _ => ⟨rfl,nofun⟩,nofun⟩
  exact (exec_invariant (Receiver.Inv peer) (fun r e t hr hok ht => step_inv hr hok ht) hstart
    (hunforged.and horderly) h).inOrder

def sampleReading : Reading UInt8 Bytes where
  relayResponse frame := frame.head?=some 200
  rekeys msg := msg.head?=some 99
  publicKey key := [98,key]

def samplePeer (second : Bytes) (key : UInt8) : List Bytes := if key=5 then [[8],second] else []

def sampleFrame (n : ℕ) (msg : Bytes) : Event UInt8 Bytes :=
  .frame 7 (sampleBox.box (sampleProto.encode msg) (Crypto.counterNonce n) 5)

/-- A SignedId, a frame that is no message and completes the exchange, the peer's
first message, its replay, a plaintext message, and then the second one. -/
def sampleSession (second : Bytes) : List (Event UInt8 Bytes) :=
  [.frame 5 [1,99],.frame 7 [0],sampleFrame 1 [8],sampleFrame 1 [8],.frame 7 [1,66],sampleFrame 2 second]

theorem replay_and_plaintext_dropped :
    ∃ r, Exec.exec (Receiver.step sampleBox sampleProto sampleReading) Receiver.initial (sampleSession [9])=some r ∧
      r.received=[{msg := [8],under := some (5,1)},{msg := [9],under := some (5,2)}] ∧
      r.InOrder (samplePeer [9]) := by
  refine ⟨_,rfl,by decide,?_⟩
  exact encrypted_in_order sampleBox sampleProto sampleReading (samplePeer [9]) (sampleSession [9]) (by decide)
    (by decide) _ rfl

/-- A SignedId through the encrypted channel reopens the key exchange, and the
next plaintext message is dispatched. -/
theorem plaintext_after_signed_id : ¬∀ (es : List (Event UInt8 Bytes)) (r : Receiver UInt8 Bytes),
      Exec.Along (Receiver.step sampleBox sampleProto sampleReading)
        (Unforged sampleBox sampleProto sampleReading (samplePeer [99])) Receiver.initial es →
      Exec.exec (Receiver.step sampleBox sampleProto sampleReading) Receiver.initial es=some r →
      r.InOrder (samplePeer [99]) := by
  intro h
  have hrun:=h (sampleSession [99]++[.frame 7 [1,66]]) _ (by decide) rfl
  revert hrun
  decide

variable {r t : Receiver Key Msg} {frame : Bytes}

/-- No SignedId that parses is dispatched once frames are sealed. -/
def Receiver.KeepsKey (b : Secretbox Key) (p : Proto Msg) (rd : Reading Key Msg) (r : Receiver Key Msg) (frame : Bytes) :
    Prop := r.session.crypto.enabled=true → match r.opens b frame with
  | some x => ∀ msg∈p.decode x.1, rd.rekeys msg=false
  | none => r.peerEncryptionConfirmed=false → ∀ msg∈p.decode frame, rd.rekeys msg=false

def KeepsKey (b : Secretbox Key) (p : Proto Msg) (rd : Reading Key Msg) (r : Receiver Key Msg) : Event Key Msg → Prop
  | .send _ => True
  | .frame _ frame => (r.decided b p rd frame).KeepsKey b p rd frame

instance [DecidableEq Key] (e : Event Key Msg) : Decidable (KeepsKey b p rd r e) := by
  unfold KeepsKey Receiver.KeepsKey
  cases e with
  | send => infer_instance
  | frame => dsimp only; split <;> infer_instance

/-- The session key with the numbers from 1 on. -/
def Crypto.spent (c : Crypto Key) : List (Key × ℕ) :=
  if c.enabled then c.secretKey.toList.flatMap fun k => (List.range c.sendSeq).map fun i => (k,i+1) else []

structure Receiver.Counted (r : Receiver Key Msg) : Prop where
  loaded : r.session.loaded=true
  keyed : r.session.crypto.enabled=true → r.keyExchangeDone=true ∧ r.session.crypto.secretKey.isSome=true
  numbered : r.boxed.map (fun x => (x.1,x.2.1))=r.session.crypto.spent

theorem send_counted (h : r.Counted) (msg : Msg) : (r.send b p msg).Counted := by
  obtain ⟨hloaded,hkeyed,hnumbered⟩:=h
  cases hen : r.session.crypto.enabled with
  | false =>
    refine ⟨?_,?_,?_⟩ <;>
      simp [Receiver.send,Session.sendPeerMessage,Crypto.processOutgoing,Crypto.protection,Crypto.spent,hloaded,hen,hnumbered]
  | true =>
    obtain ⟨hdone,hkey⟩:=hkeyed hen
    obtain ⟨k,hk⟩:=isSome_iff_exists.mp hkey
    refine ⟨?_,?_,?_⟩ <;>
      simp [Receiver.send,Session.sendPeerMessage,Crypto.processOutgoing,Crypto.encrypt,Crypto.protection,Crypto.spent,
        hloaded,hen,hdone,hk,hnumbered,List.range_succ]

theorem decided_counted (h : r.Counted) (frame : Bytes) : (r.decided b p rd frame).Counted := by
  obtain ⟨hloaded,hkeyed,hnumbered⟩:=h
  unfold Receiver.decided Receiver.decideExchange Receiver.completeKeyExchange
  split
  · rename_i hpending
    have hen : r.session.crypto.enabled=false := by
      by_contra hen
      simp [(hkeyed (by simpa using hen)).1] at hpending
    split
    · exact ⟨hloaded,fun he => absurd he (by simp [hen]),hnumbered⟩
    · split
      · exact ⟨hloaded,hkeyed,hnumbered⟩
      · split
        · exact ⟨hloaded,hkeyed,hnumbered⟩
        · rename_i hkey
          refine ⟨?_,fun _ => ⟨rfl,?_⟩,?_⟩ <;>
            simp_all [Receiver.send,Session.sendPeerMessage,Crypto.processOutgoing,Crypto.protection,Crypto.spent]
  · exact ⟨hloaded,hkeyed,hnumbered⟩

theorem dispatched_counted (h : r.Counted) (fresh : Key) {data : Bytes} (under : Option (Key × ℕ))
    (hkept : r.session.crypto.enabled=true → ∀ msg∈p.decode data, rd.rekeys msg=false) :
    (r.decodeAndDispatch p rd fresh data under).Counted := by
  obtain ⟨hloaded,hkeyed,hnumbered⟩:=h
  unfold Receiver.decodeAndDispatch
  split
  · exact ⟨hloaded,hkeyed,hnumbered⟩
  · rename_i msg hmsg
    have hlogged (t : Receiver Key Msg) (ht : t={r with received := t.received}) :
        (if rd.rekeys msg then t.handleSignedId fresh else t).Counted := by
      rw [ht]
      split
      · rename_i hrekeys
        have hen : r.session.crypto.enabled=false := by
          by_contra hen
          simp [hkept (by simpa using hen) msg hmsg] at hrekeys
        refine ⟨hloaded,fun he => absurd he (by simp [Receiver.handleSignedId,hen]),hnumbered.trans ?_⟩
        simp [Receiver.handleSignedId,Crypto.spent,hen]
      · exact ⟨hloaded,hkeyed,hnumbered⟩
    apply hlogged
    split <;> rfl

theorem openFrame_counted (h : r.Counted) (fresh : Key) (hkept : r.KeepsKey b p rd frame) :
    (r.openFrame b p rd fresh frame).Counted := by
  unfold Receiver.KeepsKey at hkept
  unfold Receiver.openFrame
  split
  · rename_i data seq hopen
    rw [hopen] at hkept
    apply dispatched_counted
    · exact ⟨h.loaded,h.keyed,h.numbered⟩
    · exact hkept
  · rename_i hopen
    rw [hopen] at hkept
    split
    · exact h
    · rename_i hdrop
      apply dispatched_counted h
      intro hen
      apply hkept hen
      simpa [h.keyed hen] using hdrop

theorem step_counted {e : Event Key Msg} (h : r.Counted) (hkept : KeepsKey b p rd r e) (ht : r.step b p rd e=some t) :
    t.Counted := by
  cases e with
  | send msg =>
    cases ht
    exact send_counted h msg
  | frame fresh frame =>
    cases ht
    unfold Receiver.handleRelayData
    split
    · exact h
    · split
      · exact ⟨h.loaded,h.keyed,h.numbered⟩
      · exact openFrame_counted (decided_counted h frame) fresh hkept

theorem counterNonce_inj {m n : ℕ} (hm : m<2^64) (hn : n<2^64) (h : Crypto.counterNonce m=Crypto.counterNonce n) : m=n := by
  have hhead:=(List.append_inj h (by simp)).1
  rw [← Codec.ofLittleEndian_littleEndian (k := 8) (by omega : m<256^8),hhead]
  exact Codec.ofLittleEndian_littleEndian (by omega)

theorem spent_nodup {c : Crypto Key} (h : c.spent.length<2^64) :
    (c.spent.map fun y => (y.1,Crypto.counterNonce y.2)).Nodup := by
  unfold Crypto.spent at h ⊢
  split
  · rename_i hen
    rw [if_pos hen] at h
    cases hk : c.secretKey with
    | none => exact List.nodup_nil
    | some k =>
      simp only [hk,toList_some,List.flatMap_singleton,List.map_map,List.length_map,List.length_range] at h ⊢
      refine List.nodup_range.map_on fun i hi j hj hij => ?_
      rw [List.mem_range] at hi hj
      have heq : i+1=j+1 := counterNonce_inj (by omega) (by omega) (Prod.mk.inj hij).2
      omega
  · exact List.nodup_nil

open Exec in
/-- The client seals no two frames with the same key and nonce, as long as no SignedId comes once it seals
(completing the exchange again starts the count anew) and the count is a safe integer. -/
theorem nonces_differ {es : List (Event Key Msg)} (hkept : Along (Receiver.step b p rd) (KeepsKey b p rd) Receiver.initial es)
    (h : exec (Receiver.step b p rd) Receiver.initial es=some r) (hfew : r.boxed.length<2^53) :
    (r.boxed.map fun x => (x.1,Crypto.counterNonce x.2.1)).Nodup := by
  have hcounted : r.Counted :=
    exec_invariant _ (fun _ _ _ hr hok ht => step_counted hr hok ht) ⟨rfl,fun he => (by cases he),rfl⟩ hkept h
  have hspent:=spent_nodup (by rw [← hcounted.numbered,List.length_map]; omega)
  rwa [← hcounted.numbered,List.map_map] at hspent

def sealing : List (Event UInt8 Bytes) := sampleSession [9]++[.send [1],.send [2]]

theorem sealed_twice : ∃ r, Exec.exec (Receiver.step sampleBox sampleProto sampleReading) Receiver.initial sealing=some r ∧
    r.boxed.length=2 ∧ (r.boxed.map fun x => (x.1,Crypto.counterNonce x.2.1)).Nodup :=
  ⟨_,rfl,by decide,@nonces_differ _ _ sampleBox sampleProto sampleReading _ sealing (by decide) rfl
    (by decide)⟩

end BetterDesk.RdClient
