import BetterDesk.Codec.ChunkReaders
import BetterDesk.Lib.Exec
import BetterDesk.Lib.SyncMap
import BetterDesk.Panel.UserSync

/-! # Guests on the relay proxy (services/wsRelay.js) -/

namespace BetterDesk.GuestAccess.RelayBridge
open Exec List Option Function
open Text (Bytes)

def maxConnectionsPerIp : ℕ := 5

/-- What a rendezvous message decodes to: `String(request.id || '')` of the two requests. -/
structure Message where
  punchHoleRequest : Option String
  requestRelay : Option String

inductive Label where
  | rendezvous | relay
deriving DecidableEq

inductive Cause where
  | wsClose | wsError | tcpClose | tcpError | idleTimeout | invalidTcpFrame
  | guestGrantRevoked | guestGrantInvalid | guestGrantExpired
  | guestTargetMismatch | guestInvalidRelayFrame | guestUseRejected | invalidWsFrame
deriving DecidableEq

/-- The causes that are no message's: the other side, a timer, the check of the grant. -/
def Cause.outside : Cause → Bool
  | .guestTargetMismatch | .guestInvalidRelayFrame | .guestUseRejected | .invalidWsFrame => false
  | _ => true

structure Guest where
  grantId : String
  token : String
  peerId : String
  sessionId : String
deriving DecidableEq

/-- The key of `guestSessionStates`. -/
def Guest.key (guest : Guest) : String :=
  Panel.UserSync.orElse (some guest.grantId) "unknown" ++ "\x00" ++ guest.sessionId

def Guest.admissible (guest : Guest) : Bool :=
  guest.token≠""&&3≤guest.peerId.length&&guest.peerId.length≤64 &&
    (guest.peerId.toList.all fun c => c.isAlphanum||c = '_'||c = '-') &&
    guest.sessionId≠""&&guest.sessionId.length≤128

/-- A handler that awaits `consumeGuestSession`: the number of its message, the message, and the
promise. -/
structure Waiting where
  number : ℕ
  buf : Bytes
  promise : ℕ

structure Bridge where
  label : Label
  clientIp : String
  messageTransport : Bool
  guest : Option Guest
  guestRendezvousDecoder : Codec.StreamBuffer
  guestRelayBuffer : Bytes
  guestRelayValidated : Bool
  guestSessionConsumed : Bool
  waiting : List Waiting
  cleanupCause : Option Cause
  connected : Bool
  queue : List (ℕ × Bytes)
  wire : List (ℕ × Bytes)
  received : List Bytes

def Bridge.opened (label : Label) (clientIp : String) (messageTransport : Bool) (guest : Option Guest) : Bridge :=
  { label,clientIp,messageTransport,guest
    guestRendezvousDecoder := ⟨[],0⟩
    guestRelayBuffer := []
    guestRelayValidated := false
    guestSessionConsumed := false
    waiting := []
    cleanupCause := none
    connected := false
    queue := []
    wire := []
    received := []}

def Bridge.cleaned (b : Bridge) : Bool := b.cleanupCause.isSome

def Bridge.sent (b : Bridge) : List (ℕ × Bytes) := b.wire++b.queue

def Bridge.bytes (b : Bridge) : Bytes := b.wire.flatMap Prod.snd

def Bridge.encode (b : Bridge) (buf : Bytes) : Option Bytes :=
  if b.messageTransport then Codec.encodeRelayFrame buf else some buf

/-- `tcp.write`. -/
def Bridge.push (b : Bridge) (number : ℕ) (bytes : Bytes) : Bridge :=
  if b.connected then {b with wire := b.wire++[(number,bytes)]}
  else {b with queue := b.queue++[(number,bytes)]}

def Bridge.destroy (b : Bridge) (cause : Cause) : Bridge :=
  if b.cleaned then b else {b with cleanupCause := some cause,queue := []}

def Bridge.receive (b : Bridge) (buf : Bytes) : Bridge := {b with received := b.received++[buf]}

def Bridge.await (b : Bridge) (w : Waiting) : Bridge := {b with waiting := b.waiting++[w]}

/-- The `i`-th waiting handler goes on. -/
def Bridge.settle (b : Bridge) (i : ℕ) : Bridge := {b with waiting := b.waiting.eraseIdx i}

def Bridge.entered (b : Bridge) : Bridge := {b with guestSessionConsumed := true}

/-- A promise of `consumeGuestSession` and how it was settled. -/
structure Promise where
  key : String
  outcome : Option Bool

/-- `consumed` are the sessions that the server has answered to have consumed. -/
structure State where
  bridges : ℕ → Option Bridge
  connectionsPerIp : String → ℕ
  activeGuestBridges : SyncMap String (List ℕ)
  guestSessionStates : SyncMap String ℕ
  promises : List Promise
  consumed : List String

def start : State := ⟨fun _ => none,fun _ => 0,[],[],[],[]⟩

def State.set (s : State) (ws : ℕ) (b : Bridge) : State :=
  {s with bridges := update s.bridges ws (some b)}

def State.registerGuestBridge (s : State) (ws : ℕ) (grantId : String) : State :=
  if grantId="" then s
  else
    let bridges:=(s.activeGuestBridges.load grantId).getD []
    {s with activeGuestBridges := s.activeGuestBridges.store grantId (bridges++[ws])}

def State.unregisterGuestBridge (s : State) (ws : ℕ) (grantId : String) : State :=
  match s.activeGuestBridges.load grantId with
  | none => s
  | some bridges =>
    let rest:=bridges.filter (·≠ws)
    {s with activeGuestBridges :=
        if rest=[] then s.activeGuestBridges.delete grantId else s.activeGuestBridges.store grantId rest}

/-- `b` is the connection as its handler has left it. -/
def State.cleanup (s : State) (ws : ℕ) (b : Bridge) (cause : Cause) : State :=
  if b.cleaned then s.set ws b
  else
    let s := match b.guest with
      | none => s
      | some guest => s.unregisterGuestBridge ws guest.grantId
    let count:=s.connectionsPerIp b.clientIp
    let s:={s with connectionsPerIp := update s.connectionsPerIp b.clientIp (count-1)}
    s.set ws (b.destroy cause)

def State.write (s : State) (ws : ℕ) (b : Bridge) (number : ℕ) (buf : Bytes) : State :=
  match b.encode buf with
  | none => s.cleanup ws b .invalidWsFrame
  | some bytes => s.set ws (b.push number bytes)

/-- `consumeGuestSession` up to its `await`. -/
def State.consumeGuestSession (s : State) (ws : ℕ) (b : Bridge) (guest : Guest) (number : ℕ) (buf : Bytes) : State :=
  match s.guestSessionStates.load guest.key with
  | some existing => s.set ws (b.await ⟨number,buf,existing⟩)
  | none =>
    let pending:=s.promises.length
    let s : State := {s with
      promises := s.promises++[⟨guest.key,none⟩]
      guestSessionStates := s.guestSessionStates.store guest.key pending}
    s.set ws (b.await ⟨number,buf,pending⟩)

variable (decode : Bytes → Option Message)

def guestTargetMatches (message : Message) (peerId : String) : Bool :=
  if peerId="" then false
  else match message.punchHoleRequest.orElse fun _ => message.requestRelay with
    | none => true
    | some id => id=peerId

/-- The loop over the payloads of a chunk: whether one of them opens the session, `none` when one
is for another device. -/
def opensSession (peerId : String) : List Bytes → Option Bool
  | [] => some false
  | payload::rest => match decode payload with
    | none => none
    | some message =>
      if guestTargetMatches message peerId then
        (opensSession peerId rest).map fun opening =>
          message.punchHoleRequest.isSome||message.requestRelay.isSome||opening
      else none

inductive Verdict where
  | cleanup (cause : Cause)
  | wait
  | pass (opening : Bool)

def guestCheck (b : Bridge) (guest : Guest) (buf : Bytes) : Bridge × Verdict :=
  match b.label with
  | .rendezvous => match Codec.relayFeed b.guestRendezvousDecoder buf with
    | none => (b,.cleanup .invalidWsFrame)
    | some (payloads,decoder) =>
      let b:={b with guestRendezvousDecoder := decoder}
      match opensSession decode guest.peerId payloads with
      | none => (b,.cleanup .guestTargetMismatch)
      | some opening => (b,.pass opening)
  | .relay =>
    if b.guestRelayValidated then (b,.pass false)
    else if 1024*1024<b.guestRelayBuffer.length+buf.length then (b,.cleanup .guestInvalidRelayFrame)
    else
      let b:={b with guestRelayBuffer := b.guestRelayBuffer++buf}
      match decode b.guestRelayBuffer with
      | none => (b,.wait)
      | some message =>
        if message.requestRelay=some guest.peerId then ({b with guestRelayValidated := true},.pass true)
        else (b,.cleanup .guestTargetMismatch)

def onVerdict (s : State) (ws : ℕ) (guest : Guest) (number : ℕ) (buf : Bytes) : Bridge × Verdict → State
  | (b,.cleanup cause) => s.cleanup ws b cause
  | (b,.wait) => s.set ws b
  | (b,.pass opening) =>
    if opening&&!b.guestSessionConsumed then s.consumeGuestSession ws b guest number buf
    else s.write ws b number buf

def onMessage (s : State) (ws : ℕ) (b : Bridge) (buf : Bytes) : State :=
  if b.cleaned then s
  else
    let number:=b.received.length
    match b.guest with
    | none => s.write ws (b.receive buf) number buf
    | some guest => onVerdict s ws guest number buf (guestCheck decode (b.receive buf) guest buf)

/-- What follows the `await` of a handler. -/
def resume (s : State) (ws : ℕ) (b : Bridge) (w : Waiting) (consumed : Bool) : State :=
  if consumed then
    if b.cleaned then s.set ws b else s.write ws b.entered w.number w.buf
  else s.cleanup ws b .guestUseRejected

inductive Event where
  | connect (ws : ℕ) (label : Label) (messageTransport : Bool) (clientIp : String) (guest : Option Guest)
  | connected (ws : ℕ)
  | message (ws : ℕ) (buf : Bytes)
  | answer (promise : ℕ) (ok : Bool)
  | resume (ws : ℕ) (i : ℕ)
  | cleanup (ws : ℕ) (cause : Cause)
  | invalidateGuestGrant (grantId : String)
  | expire (key : String)

def handleProxyConnection (s : State) (ws : ℕ) (label : Label) (messageTransport : Bool) (clientIp : String)
    (guest : Option Guest) : State := if maxConnectionsPerIp ≤ s.connectionsPerIp clientIp then s
  else
    let count:=s.connectionsPerIp clientIp
    let s:={s with connectionsPerIp := update s.connectionsPerIp clientIp (count+1)}
    let s:=s.set ws (.opened label clientIp (messageTransport&&label=Label.relay) guest)
    match guest with
    | none => s
    | some guest => s.registerGuestBridge ws guest.grantId

def onConnected (s : State) (ws : ℕ) (b : Bridge) : State :=
  s.set ws {b with connected := true,wire := b.wire++b.queue,queue := []}

/-- The answer of `/guest/access-links/consume`. -/
def onAnswer (s : State) (promise : ℕ) (p : Promise) (ok : Bool) : State :=
  let promises:=s.promises.set promise {p with outcome := some ok}
  if ok then {s with promises,consumed := s.consumed++[p.key]}
  else {s with promises,guestSessionStates := s.guestSessionStates.delete p.key}

def cleanupOf (cause : Cause) (s : State) (ws : ℕ) : State := match s.bridges ws with
  | none => s
  | some b => s.cleanup ws b cause

def invalidateGuestGrant (s : State) (grantId : String) : State :=
  let s:={s with guestSessionStates := s.guestSessionStates.filter fun e =>
    !((grantId++"\x00").toList.isPrefixOf e.1.toList)}
  ((s.activeGuestBridges.load grantId).getD []).foldl (cleanupOf .guestGrantRevoked) s

def step (s : State) : Event → Option State
  | .connect ws label messageTransport clientIp guest =>
    if (s.bridges ws).isNone ∧ guest.all Guest.admissible then
      some (handleProxyConnection s ws label messageTransport clientIp guest)
    else none
  | .connected ws => (s.bridges ws).bind fun b =>
    if b.cleaned||b.connected then none else some (onConnected s ws b)
  | .message ws buf => (s.bridges ws).map fun b => onMessage decode s ws b buf
  | .answer promise ok => s.promises[promise]?.bind fun p =>
    if p.outcome.isSome then none else some (onAnswer s promise p ok)
  | .resume ws i => (s.bridges ws).bind fun b => b.waiting[i]?.bind fun w =>
    (s.promises[w.promise]?.bind Promise.outcome).map fun consumed =>
      resume s ws (b.settle i) w consumed
  | .cleanup ws cause => if cause.outside then some (cleanupOf cause s ws) else none
  | .invalidateGuestGrant grantId => some (invalidateGuestGrant s grantId)
  | .expire key => some {s with guestSessionStates := s.guestSessionStates.delete key}

def Bridge.admitted (b : Bridge) : Bool := b.guest.isNone||b.guestSessionConsumed

structure Forwards (consumed : List String) (b : Bridge) : Prop where
  gate : ∀ guest, b.guest=some guest → b.bytes≠[] → guest.key∈consumed
  refused : b.cleanupCause=some .guestUseRejected → b.bytes=[]
  authentic : ∀ e∈b.sent,(b.received[e.1]?).bind b.encode=some e.2
  ordered : b.sent.map Prod.fst=List.range b.sent.length
  delivered : b.connected=true → b.queue=[]

/-- Of an admitted browser every message is sent, or at a handler that has just been admitted. -/
structure BridgeOk (consumed : List String) (b : Bridge) : Prop extends Forwards consumed b where
  lossless : b.cleaned=false → b.admitted=true →
    b.sent.map Prod.fst++b.waiting.map Waiting.number=List.range b.received.length

def Holds (s : State) : Prop := ∀ ws b, s.bridges ws=some b → BridgeOk s.consumed b

/-- The handler of the message gives `bytes` to the socket without an `await`. -/
def Bridge.PassesAtOnce (b : Bridge) (guest : Guest) (buf bytes : Bytes) : Prop :=
  ∃ opening, (guestCheck decode (b.receive buf) guest buf).2=.pass opening ∧
    (opening=true → b.guestSessionConsumed=true) ∧ b.encode buf=some bytes

/-- A guest's message that passes at once finds no handler waiting, and its session consumed. -/
def StepOk (s : State) : Event → Prop
  | .message ws buf => ∀ b guest bytes, s.bridges ws=some b → b.cleaned=false → b.guest=some guest →
    b.PassesAtOnce decode guest buf bytes → b.waiting=[] ∧ (b.connected=true → bytes≠[] → guest.key∈s.consumed)
  | .connected ws => ∀ b guest, s.bridges ws=some b → b.cleaned=false → b.guest=some guest →
    b.queue.flatMap Prod.snd≠[] → guest.key∈s.consumed
  | .resume ws i => ∀ b w p, s.bridges ws=some b → b.cleaned=false → b.waiting[i]?=some w →
    s.promises[w.promise]?=some p →
    (p.outcome=some true → b.encode w.buf≠none → w.number=b.sent.length) ∧
    (p.outcome=some false → b.bytes=[])
  | _ => True

variable {decode} {c c' : List String} {b b' : Bridge}

@[simp] theorem set_bridges (s : State) (ws : ℕ) (b : Bridge) :
    (s.set ws b).bridges=update s.bridges ws (some b) := rfl

@[simp] theorem destroy_cleaned (cause : Cause) : (b.destroy cause).cleaned=true := by
  unfold Bridge.destroy
  split
  · assumption
  · rfl

theorem Forwards.wire_ordered (h : Forwards c b) : b.wire.map Prod.fst=List.range b.wire.length := by
  have hall:=congrArg (List.take b.wire.length) h.ordered
  rw [Bridge.sent,map_append,take_left' (by simp),take_range,length_append] at hall
  rw [hall,Nat.min_eq_left (Nat.le_add_right _ _)]

theorem Forwards.congr (h : Forwards c b) (hg : b'.guest=b.guest) (hcause : b'.cleanupCause=b.cleanupCause)
    (hwire : b'.wire=b.wire) (hqueue : b'.queue=b.queue) (hconn : b'.connected=b.connected)
    (htransport : b'.messageTransport=b.messageTransport) (hrec : b.received <+: b'.received) : Forwards c b' := by
  have hbytes : b'.bytes=b.bytes := by simp only [Bridge.bytes,hwire]
  have hsent : b'.sent=b.sent := by simp only [Bridge.sent,hwire,hqueue]
  constructor
  · intro guest hguest hne
    exact h.gate guest (hg ▸ hguest) (hbytes ▸ hne)
  · intro hc
    rw [hbytes]
    exact h.refused (hcause ▸ hc)
  · intro e he
    obtain ⟨buf,hbuf,henc⟩:=bind_eq_some_iff.mp (h.authentic e (hsent ▸ he))
    have hbuf' : b'.received[e.1]?=some buf := by
      obtain ⟨rest,hrest⟩:=hrec
      rw [← hrest,List.getElem?_append_left (List.getElem?_eq_some_iff.mp hbuf).1]
      exact hbuf
    simp only [hbuf',bind_some,Bridge.encode,htransport]
    exact henc
  · rw [hsent]
    exact h.ordered
  · intro hc
    rw [hqueue]
    exact h.delivered (hconn ▸ hc)

theorem Forwards.mono (h : Forwards c b) (hsub : c ⊆ c') : Forwards c' b :=
  {h with gate := fun guest hguest hne => hsub (h.gate guest hguest hne)}

theorem destroy_of_live (hlive : b.cleaned=false) (cause : Cause) :
    b.destroy cause={b with cleanupCause := some cause,queue := []} := by
  unfold Bridge.destroy
  rw [hlive]
  rfl

theorem forwards_destroy_iff (h : Forwards c b) (hlive : b.cleaned=false) (cause : Cause) :
    Forwards c (b.destroy cause) ↔ (cause=.guestUseRejected → b.bytes=[]) := by
  rw [destroy_of_live hlive]
  constructor
  · intro h' hc
    exact h'.refused (congrArg some hc)
  · intro hrefused
    constructor
    · exact h.gate
    · intro hc
      exact hrefused (Option.some.inj hc)
    · intro e he
      have hmem : e∈b.wire := by simpa [Bridge.sent] using he
      exact h.authentic e (mem_append_left _ hmem)
    · simpa [Bridge.sent] using h.wire_ordered
    · intro _
      rfl

variable {promises : List Promise} {buf : Bytes} {w : Waiting} {cause : Cause} {i : ℕ}

theorem BridgeOk.destroy (h : Forwards c b) (hc : cause ≠ .guestUseRejected) : BridgeOk c (b.destroy cause) := by
  constructor
  · cases hlive : b.cleaned with
    | true =>
      have hsame : b.destroy cause=b := by
        unfold Bridge.destroy
        rw [if_pos hlive]
      rw [hsame]
      exact h
    | false => exact (forwards_destroy_iff h hlive cause).mpr fun heq => absurd heq hc
  · intro hlive
    rw [destroy_cleaned] at hlive
    cases hlive

theorem sent_push (hq : b.connected=true → b.queue=[]) (number : ℕ) (bytes : Bytes) :
    (b.push number bytes).sent=b.sent++[(number,bytes)] := by
  unfold Bridge.push
  split
  · rename_i hconn
    simp [Bridge.sent,hq hconn]
  · simp [Bridge.sent]

theorem bytes_push (number : ℕ) (bytes : Bytes) :
    (b.push number bytes).bytes=b.bytes ++ if b.connected then bytes else [] := by
  unfold Bridge.push
  split <;> simp [Bridge.bytes]

theorem push_fields (number : ℕ) (bytes : Bytes) :
    (b.push number bytes).guest=b.guest ∧ (b.push number bytes).received=b.received ∧
      (b.push number bytes).cleanupCause=b.cleanupCause ∧ (b.push number bytes).connected=b.connected ∧
      (b.push number bytes).messageTransport=b.messageTransport ∧ (b.push number bytes).label=b.label ∧
      (b.push number bytes).guestRelayValidated=b.guestRelayValidated ∧
      (b.push number bytes).guestSessionConsumed=b.guestSessionConsumed ∧ (b.push number bytes).waiting=b.waiting := by
  unfold Bridge.push
  split <;> exact ⟨rfl,rfl,rfl,rfl,rfl,rfl,rfl,rfl,rfl⟩

theorem range_snoc_iff {l : List ℕ} {k n : ℕ} (h : l=List.range k) : l++[n]=List.range (k+1) ↔ n=k := by
  rw [range_succ,h]
  simp

theorem forwards_push_iff (h : Forwards c b) (hlive : b.cleaned=false) {number : ℕ} {bytes : Bytes}
    (hbuf : b.received[number]?=some buf) (henc : b.encode buf=some bytes) :
    Forwards c (b.push number bytes) ↔ number=b.sent.length ∧
      ∀ guest, b.guest=some guest → b.connected=true → bytes≠[] → guest.key∈c := by
  obtain ⟨hguest,hreceived,hcause,hconn,htransport,-⟩:=push_fields (b := b) number bytes
  have hsent:=sent_push h.delivered number bytes
  have hbytes:=bytes_push (b := b) number bytes
  constructor
  · intro h'
    constructor
    · have hordered:=h'.ordered
      rw [hsent,map_append,length_append] at hordered
      exact (range_snoc_iff h.ordered).mp hordered
    · intro guest hg hc hne
      refine h'.gate guest (hguest.trans hg) ?_
      rw [hbytes,if_pos hc]
      simp [hne]
  · rintro ⟨hnumber,hgate⟩
    constructor
    · intro guest hg hne
      rw [hguest] at hg
      rw [hbytes] at hne
      by_cases hold : b.bytes=[]
      · by_cases hc : b.connected=true
        · rw [if_pos hc,hold,nil_append] at hne
          exact hgate guest hg hc hne
        · simp [hold,hc] at hne
      · exact h.gate guest hg hold
    · intro hc
      rw [hcause] at hc
      rw [Bridge.cleaned,hc] at hlive
      cases hlive
    · intro e he
      have henc' (x : Bytes) : (b.push number bytes).encode x=b.encode x := by
        simp only [Bridge.encode,htransport]
      rw [hsent] at he
      rw [hreceived,funext henc']
      cases mem_append.mp he with
      | inl hold => exact h.authentic e hold
      | inr hnew =>
        rw [mem_singleton.mp hnew,hbuf]
        exact henc
    · rw [hsent,map_append,length_append]
      exact (range_snoc_iff h.ordered).mpr hnumber
    · intro hc
      rw [hconn] at hc
      unfold Bridge.push
      rw [if_pos hc]
      exact h.delivered hc

def Bridge.Tracked (b : Bridge) : Prop :=
  b.sent.map Prod.fst++b.waiting.map Waiting.number=List.range b.received.length

inductive Shape (b : Bridge) : Prop where
  | console (guest : b.guest=none) (waiting : b.waiting=[]) (tracked : b.Tracked)
  | rendezvous (guest : b.guest≠none) (label : b.label=.rendezvous) (tracked : b.Tracked)
  | unopened (guest : b.guest≠none) (label : b.label=.relay) (validated : b.guestRelayValidated=false)
      (consumed : b.guestSessionConsumed=false) (sent : b.sent=[]) (waiting : b.waiting=[])
  | opening (guest : b.guest≠none) (label : b.label=.relay) (validated : b.guestRelayValidated=true)
      (consumed : b.guestSessionConsumed=false) (sent : b.sent=[])
      (waiting : ∃ w, b.waiting=[w] ∧ w.number+1=b.received.length)
  | opened (guest : b.guest≠none) (label : b.label=.relay) (validated : b.guestRelayValidated=true)
      (consumed : b.guestSessionConsumed=true) (waiting : b.waiting=[]) (tracked : b.Tracked)

structure Backed (promises : List Promise) (c : List String) (b : Bridge) : Prop where
  waits : ∀ w∈b.waiting,b.received[w.number]?=some w.buf ∧
    ∃ guest p, b.guest=some guest ∧ promises[w.promise]?=some p ∧ p.key=guest.key
  consumed : b.guestSessionConsumed=true → ∀ guest, b.guest=some guest → guest.key∈c

structure BridgeInv (promises : List Promise) (c : List String) (b : Bridge) : Prop extends Backed promises c b where
  shape : b.cleaned=false → Shape b

structure Sound (s : State) : Prop where
  states : ∀ e∈s.guestSessionStates, ∃ q : Promise, s.promises[e.2]?=some q ∧ q.key=e.1
  answered : ∀ p∈s.promises,p.outcome=some true → p.key∈s.consumed

structure Inv (s : State) : Prop extends Sound s where
  bridge : ∀ ws b, s.bridges ws=some b → BridgeInv s.promises s.consumed b

theorem length_tracked (h : b.Tracked) : b.sent.length+b.waiting.length=b.received.length := by
  have hlen:=congrArg List.length h
  simpa using hlen

theorem Backed.mono {promises' : List Promise} (h : Backed promises c b) (hsub : c ⊆ c')
    (hkeys : ∀ (i : ℕ) (p : Promise), promises[i]?=some p → ∃ q : Promise, promises'[i]?=some q ∧ q.key=p.key) :
    Backed promises' c' b := by
  refine ⟨fun w hw => ?_,fun hc guest hg => hsub (h.consumed hc guest hg)⟩
  obtain ⟨hbuf,guest,p,hg,hp,hkey⟩:=h.waits w hw
  obtain ⟨q,hq,hsame⟩:=hkeys w.promise p hp
  exact ⟨hbuf,guest,q,hg,hq,hsame.trans hkey⟩

theorem Backed.push (h : Backed promises c b) (number : ℕ) (bytes : Bytes) :
    Backed promises c (b.push number bytes) := by
  obtain ⟨hguest,hreceived,-,-,-,-,-,hconsumed,hwaiting⟩:=push_fields (b := b) number bytes
  constructor
  · rw [hwaiting,hreceived,hguest]
    exact h.waits
  · rw [hconsumed,hguest]
    exact h.consumed

theorem Backed.destroy (h : Backed promises c b) (cause : Cause) : BridgeInv promises c (b.destroy cause) := by
  constructor
  · unfold Bridge.destroy
    split
    · exact h
    · exact ⟨h.waits,h.consumed⟩
  · intro hlive
    rw [destroy_cleaned] at hlive
    cases hlive

/-- `t` is `s` with the connection `b` in the place of `ws`. -/
structure Leaves (s t : State) (ws : ℕ) (b : Bridge) : Prop where
  bridges : t.bridges=update s.bridges ws (some b)
  consumed : t.consumed=s.consumed
  promises : ∀ (i : ℕ) (p : Promise), s.promises[i]?=some p → t.promises[i]?=some p
  sound : Sound s → Sound t

variable {s t : State} {ws : ℕ}

theorem Leaves.holds_iff (h : Leaves s t ws b) (hs : Holds s) : Holds t ↔ BridgeOk s.consumed b := by
  constructor
  · intro ht
    rw [← h.consumed]
    refine ht ws b ?_
    rw [h.bridges,update_self]
  · intro hb ws' b' hb'
    rw [h.consumed]
    rw [h.bridges] at hb'
    by_cases hw : ws'=ws
    · rw [hw,update_self] at hb'
      cases hb'
      exact hb
    · rw [update_of_ne hw] at hb'
      exact hs ws' b' hb'

theorem Leaves.inv (h : Leaves s t ws b) (hs : Inv s) (hb : BridgeInv t.promises s.consumed b) : Inv t := by
  refine {h.sound hs.toSound with bridge := fun ws' b' hb' => ?_}
  rw [h.consumed]
  rw [h.bridges] at hb'
  by_cases hw : ws'=ws
  · rw [hw,update_self] at hb'
    cases hb'
    exact hb
  · rw [update_of_ne hw] at hb'
    have hold:=hs.bridge ws' b' hb'
    exact ⟨hold.toBacked.mono (fun _ hc => hc) fun i p hp => ⟨p,h.promises i p hp,rfl⟩,hold.shape⟩

theorem leaves_set (s : State) (ws : ℕ) (b : Bridge) : Leaves s (s.set ws b) ws b :=
  ⟨rfl,rfl,fun _ _ hp => hp,fun hs => ⟨hs.states,hs.answered⟩⟩

theorem unregister_fields (s : State) (ws : ℕ) (grantId : String) :
    (s.unregisterGuestBridge ws grantId).bridges=s.bridges ∧
      (s.unregisterGuestBridge ws grantId).consumed=s.consumed ∧
      (s.unregisterGuestBridge ws grantId).promises=s.promises ∧
      (s.unregisterGuestBridge ws grantId).guestSessionStates=s.guestSessionStates := by
  unfold State.unregisterGuestBridge
  cases s.activeGuestBridges.load grantId <;> exact ⟨rfl,rfl,rfl,rfl⟩

theorem leaves_cleanup (s : State) (ws : ℕ) (b : Bridge) (cause : Cause) :
    Leaves s (s.cleanup ws b cause) ws (b.destroy cause) := by
  unfold State.cleanup
  split
  · rename_i hc
    have hsame : b.destroy cause=b := by
      unfold Bridge.destroy
      rw [if_pos hc]
    rw [hsame]
    exact leaves_set s ws b
  · cases b.guest with
    | none => exact ⟨rfl,rfl,fun _ _ hp => hp,fun hs => ⟨hs.states,hs.answered⟩⟩
    | some guest =>
      obtain ⟨hbridges,hconsumed,hpromises,hstates⟩:=unregister_fields s ws guest.grantId
      constructor
      · simp only [set_bridges,hbridges]
      · exact hconsumed
      · intro i p hp
        show (s.unregisterGuestBridge ws guest.grantId).promises[i]?=some p
        rw [hpromises]
        exact hp
      · intro hs
        constructor
        · show ∀ e∈(s.unregisterGuestBridge ws guest.grantId).guestSessionStates,
            ∃ q : Promise, (s.unregisterGuestBridge ws guest.grantId).promises[e.2]?=some q ∧ q.key=e.1
          rw [hstates,hpromises]
          exact hs.states
        · show ∀ p∈(s.unregisterGuestBridge ws guest.grantId).promises, p.outcome=some true →
            p.key∈(s.unregisterGuestBridge ws guest.grantId).consumed
          rw [hconsumed,hpromises]
          exact hs.answered

theorem leaves_write {bytes : Bytes} (s : State) (ws number : ℕ) (henc : b.encode buf=some bytes) :
    Leaves s (s.write ws b number buf) ws (b.push number bytes) := by
  rw [State.write,henc]
  exact leaves_set s ws _

theorem leaves_write_none (s : State) (ws number : ℕ) (henc : b.encode buf=none) :
    Leaves s (s.write ws b number buf) ws (b.destroy .invalidWsFrame) := by
  rw [State.write,henc]
  exact leaves_cleanup s ws b .invalidWsFrame

theorem leaves_consume (hs : Sound s) (ws : ℕ) (b : Bridge) (guest : Guest) (number : ℕ) (buf : Bytes) :
    ∃ promise p, Leaves s (s.consumeGuestSession ws b guest number buf) ws (b.await ⟨number,buf,promise⟩) ∧
      (s.consumeGuestSession ws b guest number buf).promises[promise]?=some p ∧ p.key=guest.key := by
  unfold State.consumeGuestSession
  cases hload : s.guestSessionStates.load guest.key with
  | some existing =>
    obtain ⟨p,hp,hkey⟩:=hs.states _ (SyncMap.mem_of_load hload)
    exact ⟨existing,p,leaves_set s ws _,hp,hkey⟩
  | none =>
    have hnew : (s.promises++[(⟨guest.key,none⟩ : Promise)])[s.promises.length]?=some ⟨guest.key,none⟩ := by simp
    have hold (i : ℕ) (p : Promise) (hp : s.promises[i]?=some p) :
        (s.promises++[(⟨guest.key,none⟩ : Promise)])[i]?=some p := by
      rw [List.getElem?_append_left (List.getElem?_eq_some_iff.mp hp).1]
      exact hp
    refine ⟨s.promises.length,⟨guest.key,none⟩,⟨rfl,rfl,hold,fun hs => ⟨?_,?_⟩⟩,hnew,rfl⟩
    · intro e he
      cases SyncMap.mem_store he with
      | inl heq =>
        rw [heq]
        exact ⟨_,hnew,rfl⟩
      | inr hmem =>
        obtain ⟨q,hq,hsame⟩:=hs.states e hmem
        exact ⟨q,hold e.2 q hq,hsame⟩
    · intro p hp hout
      cases mem_append.mp hp with
      | inl hmem => exact hs.answered p hmem hout
      | inr hmem =>
        rw [mem_singleton.mp hmem] at hout
        cases hout

theorem guestCheck_cases (decode : Bytes → Option Message) (b : Bridge) (guest : Guest) (buf : Bytes) :
    ∃ decoder buffer validated verdict, guestCheck decode b guest buf =
      ({b with guestRendezvousDecoder := decoder,guestRelayBuffer := buffer,guestRelayValidated := validated},verdict) ∧
      ((∃ cause, verdict=.cleanup cause ∧ cause ≠ .guestUseRejected) ∨
        (verdict=.wait ∧ b.label=.relay ∧ b.guestRelayValidated=false ∧ validated=false) ∨
        (∃ opening, verdict=.pass opening ∧
          (b.label=.rendezvous ∨ b.label=.relay ∧ validated=true ∧ opening = !b.guestRelayValidated))) := by
  obtain ⟨label,_,_,_,decoder,buffer,validated,_,_,_,_,_,_,_⟩:=b
  cases label with
  | rendezvous =>
    simp only [guestCheck]
    cases Codec.relayFeed decoder buf with
    | none => exact ⟨decoder,buffer,validated,.cleanup .invalidWsFrame,rfl,.inl ⟨_,rfl,by decide⟩⟩
    | some fed =>
      simp only
      cases opensSession decode guest.peerId fed.1 with
      | none => exact ⟨fed.2,buffer,validated,.cleanup .guestTargetMismatch,rfl,.inl ⟨_,rfl,by decide⟩⟩
      | some opening => exact ⟨fed.2,buffer,validated,.pass opening,rfl,.inr (.inr ⟨opening,rfl,.inl trivial⟩)⟩
  | relay =>
    simp only [guestCheck]
    cases validated with
    | true => exact ⟨decoder,buffer,true,.pass false,rfl,.inr (.inr ⟨false,rfl,.inr ⟨trivial,rfl,rfl⟩⟩)⟩
    | false =>
      rw [if_neg Bool.false_ne_true]
      split
      · exact ⟨decoder,buffer,false,.cleanup .guestInvalidRelayFrame,rfl,.inl ⟨_,rfl,by decide⟩⟩
      · cases decode (buffer++buf) with
        | none => exact ⟨decoder,buffer++buf,false,.wait,rfl,.inr (.inl ⟨rfl,trivial,rfl,rfl⟩)⟩
        | some message =>
          simp only
          split
          · exact ⟨decoder,buffer++buf,true,.pass true,rfl,.inr (.inr ⟨true,rfl,.inr ⟨trivial,rfl,rfl⟩⟩)⟩
          · exact ⟨decoder,buffer++buf,false,.cleanup .guestTargetMismatch,rfl,.inl ⟨_,rfl,by decide⟩⟩

theorem Leaves.backed {b' : Bridge} (h : Leaves s t ws b) (hb : Backed s.promises s.consumed b') :
    Backed t.promises s.consumed b' :=
  hb.mono (fun _ hc => hc) fun i p hp => ⟨p,h.promises i p hp,rfl⟩

theorem write_spec (hs : Inv s) (hh : Holds s) (ws number : ℕ) (hfwd : Forwards s.consumed b)
    (hback : Backed s.promises s.consumed b) (hlive : b.cleaned=false) (hbuf : b.received[number]?=some buf)
    (htracked : number=b.sent.length →
      b.sent.map Prod.fst++number::b.waiting.map Waiting.number=List.range b.received.length)
    (hshape : ∀ bytes, (b.push number bytes).Tracked → Shape (b.push number bytes)) :
    (Holds (s.write ws b number buf) ↔ ∀ bytes, b.encode buf=some bytes → number=b.sent.length ∧
      ∀ guest, b.guest=some guest → b.connected=true → bytes≠[] → guest.key∈s.consumed) ∧
    (Holds (s.write ws b number buf) → Inv (s.write ws b number buf)) := by
  cases henc : b.encode buf with
  | none =>
    have hleaves:=leaves_write_none s ws number henc
    constructor
    · rw [hleaves.holds_iff hh]
      refine iff_of_true (BridgeOk.destroy hfwd (by decide)) fun bytes hbytes => ?_
      cases hbytes
    · intro _
      exact hleaves.inv hs ((hleaves.backed hback).destroy _)
  | some bytes =>
    have hleaves:=leaves_write s ws number henc
    have hiff:=forwards_push_iff hfwd hlive hbuf henc
    obtain ⟨-,hreceived,hcause,-,-,-,-,-,hwaiting⟩:=push_fields (b := b) number bytes
    have htrack (hnumber : number=b.sent.length) : (b.push number bytes).Tracked := by
      rw [Bridge.Tracked,sent_push hfwd.delivered,hwaiting,hreceived,map_append,append_assoc]
      exact htracked hnumber
    constructor
    · rw [hleaves.holds_iff hh]
      constructor
      · intro hok bytes' hbytes'
        cases hbytes'
        exact hiff.mp hok.toForwards
      · intro hall
        have hpush:=hall bytes rfl
        exact ⟨hiff.mpr hpush,fun _ _ => htrack hpush.1⟩
    · intro ht
      have hok:=(hleaves.holds_iff hh).mp ht
      have hnumber:=(hiff.mp hok.toForwards).1
      exact hleaves.inv hs ⟨(hleaves.backed hback).push number bytes,fun _ => hshape bytes (htrack hnumber)⟩

theorem unvalidated_unconsumed (hshape : Shape b) (hg : b.guest≠none) (hl : b.label=.relay)
    (hv : b.guestRelayValidated=false) : b.guestSessionConsumed=false := by
  cases hshape with
  | console hguest => exact absurd hguest hg
  | rendezvous _ hl' =>
    rw [hl] at hl'
    cases hl'
  | unopened _ _ _ hconsumed | opening _ _ _ hconsumed => exact hconsumed
  | opened _ _ hv' =>
    rw [hv] at hv'
    cases hv'

theorem passes_turn (hshape : Shape b) (hpass : b.label=.relay → b.guest≠none → b.guestRelayValidated=true) :
    b.received.length=b.sent.length ↔ b.waiting=[] := by
  cases hshape with
  | console _ hwaiting htracked | opened _ _ _ _ hwaiting htracked =>
    have hlen:=length_tracked htracked
    rw [hwaiting,length_nil] at hlen
    exact iff_of_true (by omega) hwaiting
  | rendezvous _ _ htracked =>
    have hlen:=length_tracked htracked
    rw [← length_eq_zero_iff]
    omega
  | unopened hguest hlabel hvalidated =>
    rw [hpass hlabel hguest] at hvalidated
    cases hvalidated
  | opening _ _ _ _ hsent hwaiting =>
    obtain ⟨w,hw,hnumber⟩:=hwaiting
    rw [hw,hsent,← hnumber]
    simp

theorem stepOk_message_iff (hb : s.bridges ws=some b) (buf : Bytes) :
    StepOk decode s (.message ws buf) ↔ (b.cleaned=false → ∀ guest bytes, b.guest=some guest →
      b.PassesAtOnce decode guest buf bytes →
      b.waiting=[] ∧ (b.connected=true → bytes≠[] → guest.key∈s.consumed)) := by
  constructor
  · intro h hlive guest bytes hg hpass
    exact h b guest bytes hb hlive hg hpass
  · intro h b' guest bytes hb' hlive hg hpass
    rw [hb] at hb'
    cases hb'
    exact h hlive guest bytes hg hpass

theorem getElem?_received (l : List Bytes) (buf : Bytes) : (l++[buf])[l.length]?=some buf := by simp

theorem Backed.receive (h : Backed promises c b) (buf : Bytes) : Backed promises c (b.receive buf) := by
  refine ⟨fun w hw => ?_,h.consumed⟩
  obtain ⟨hbuf,hpromise⟩:=h.waits w hw
  refine ⟨?_,hpromise⟩
  show (b.received++[buf])[w.number]?=some w.buf
  rw [List.getElem?_append_left (List.getElem?_eq_some_iff.mp hbuf).1]
  exact hbuf

theorem message_console_spec (hs : Inv s) (hh : Holds s) (hb : s.bridges ws=some b) (hlive : b.cleaned=false)
    (hg : b.guest=none) (buf : Bytes) : Holds (onMessage decode s ws b buf) ∧ Inv (onMessage decode s ws b buf) := by
  have hinv:=hs.bridge ws b hb
  have hwaiting : b.waiting=[] := by
    cases hinv.shape hlive with
    | console _ hwaiting => exact hwaiting
    | rendezvous hguest | unopened hguest | opening hguest | opened hguest => exact absurd hg hguest
  have hlen:=(passes_turn (hinv.shape hlive) fun _ hguest => absurd hg hguest).mpr hwaiting
  have hfwd : Forwards s.consumed (b.receive buf) :=
    (hh ws b hb).toForwards.congr rfl rfl rfl rfl rfl rfl (prefix_append _ _)
  have hwrite:=write_spec hs hh ws b.received.length hfwd (hinv.toBacked.receive buf) hlive
    (getElem?_received b.received buf)
    (by
      intro hnumber
      show b.sent.map Prod.fst++b.received.length::b.waiting.map Waiting.number =
        List.range (b.received++[buf]).length
      rw [hwaiting,length_append]
      exact (range_snoc_iff (by rw [hlen]; exact (hh ws b hb).ordered)).mpr rfl)
    (by
      intro bytes htracked
      obtain ⟨hguest,-,-,-,-,-,-,-,hwait⟩ :=
        push_fields (b := b.receive buf) b.received.length bytes
      exact .console (hguest.trans hg) (hwait.trans hwaiting) htracked)
  have hmsg : onMessage decode s ws b buf =
      s.write ws (b.receive buf) b.received.length buf := by
    simp only [onMessage,hlive,hg]
    rfl
  rw [hmsg]
  have hall : Holds (s.write ws (b.receive buf) b.received.length buf) := by
    refine hwrite.1.mpr fun bytes _ => ⟨hlen,fun guest hguest => ?_⟩
    rw [show (b.receive buf).guest=none from hg] at hguest
    cases hguest
  exact ⟨hall,hwrite.2 hall⟩

/-- The connection with one more message, and what the guest's checks have made of it. -/
def Bridge.checked (b : Bridge) (buf : Bytes) (decoder : Codec.StreamBuffer) (buffer : Bytes) (validated : Bool) :
    Bridge := {b with
    received := b.received++[buf]
    guestRendezvousDecoder := decoder
    guestRelayBuffer := buffer
    guestRelayValidated := validated}

theorem holds_later {b' : Bridge} (hleaves : Leaves s t ws b') (hs : Inv s) (hh : Holds s)
    (hback : Backed t.promises s.consumed b') (hfwd : Forwards s.consumed b') (hadmitted : b'.admitted=false)
    (hshape : Shape b') : Holds t ∧ Inv t := by
  refine ⟨(hleaves.holds_iff hh).mpr ⟨hfwd,fun _ hadm => ?_⟩,hleaves.inv hs ⟨hback,fun _ => hshape⟩⟩
  rw [hadmitted] at hadm
  cases hadm

theorem message_wait_spec (hs : Inv s) (hh : Holds s) (hb : s.bridges ws=some b) (hlive : b.cleaned=false)
    (hg : b.guest≠none) (hlabel : b.label=.relay) (hvalidated : b.guestRelayValidated=false) (buf : Bytes)
    (decoder : Codec.StreamBuffer) (buffer : Bytes) :
    Holds (s.set ws (b.checked buf decoder buffer false)) ∧ Inv (s.set ws (b.checked buf decoder buffer false)) := by
  have hinv:=hs.bridge ws b hb
  have hback : Backed s.promises s.consumed (b.checked buf decoder buffer false) := by
    have hrec:=hinv.toBacked.receive buf
    exact ⟨hrec.waits,hrec.consumed⟩
  have hfwd : Forwards s.consumed (b.checked buf decoder buffer false) :=
    (hh ws b hb).toForwards.congr rfl rfl rfl rfl rfl rfl (prefix_append _ _)
  obtain ⟨hconsumed,hsent,hwaiting⟩ : b.guestSessionConsumed=false ∧ b.sent=[] ∧ b.waiting=[] := by
    cases hinv.shape hlive with
    | console hguest => exact absurd hguest hg
    | rendezvous _ hl =>
      rw [hlabel] at hl
      cases hl
    | unopened _ _ _ hconsumed hsent hwaiting => exact ⟨hconsumed,hsent,hwaiting⟩
    | opening _ _ hv | opened _ _ hv =>
      rw [hvalidated] at hv
      cases hv
  have hadmitted : (b.checked buf decoder buffer false).admitted=false := by
    simp [Bridge.admitted,Bridge.checked,hconsumed,isSome_iff_ne_none,hg]
  exact holds_later (leaves_set s ws _) hs hh hback hfwd hadmitted (.unopened hg hlabel rfl hconsumed hsent hwaiting)

theorem message_opening_spec {guest : Guest} (hs : Inv s) (hh : Holds s) (hb : s.bridges ws=some b)
    (hlive : b.cleaned=false) (hg : b.guest=some guest) (hconsumed : b.guestSessionConsumed=false) (buf : Bytes)
    (decoder : Codec.StreamBuffer) (buffer : Bytes) {validated : Bool}
    (hlabel : b.label=.rendezvous ∨ b.label=.relay ∧ validated=true ∧ b.guestRelayValidated=false) :
    Holds (s.consumeGuestSession ws (b.checked buf decoder buffer validated) guest b.received.length buf) ∧
      Inv (s.consumeGuestSession ws (b.checked buf decoder buffer validated) guest b.received.length buf) := by
  have hinv:=hs.bridge ws b hb
  have hsome : b.guest≠none := by
    rw [hg]
    simp
  obtain ⟨promise,p,hleaves,hp,hkey⟩ :=
    leaves_consume hs.toSound ws (b.checked buf decoder buffer validated) guest b.received.length buf
  have hback:=hleaves.backed (hinv.toBacked.receive buf)
  refine holds_later hleaves hs hh ⟨fun w hw => ?_,hback.consumed⟩
    ((hh ws b hb).toForwards.congr rfl rfl rfl rfl rfl rfl (prefix_append _ _))
    (by simp [Bridge.admitted,Bridge.checked,Bridge.await,hconsumed,hg]) ?_
  · cases mem_append.mp hw with
    | inl hold => exact hback.waits w hold
    | inr hnew =>
      rw [mem_singleton.mp hnew]
      exact ⟨getElem?_received b.received buf,guest,p,hg,hp,hkey⟩
  · cases hlabel with
    | inl hl =>
      refine .rendezvous hsome hl ?_
      have htracked : b.Tracked := by
        cases hinv.shape hlive with
        | console hguest => exact absurd hguest hsome
        | rendezvous _ _ htracked | opened _ _ _ _ _ htracked => exact htracked
        | unopened _ hl' | opening _ hl' =>
          rw [hl] at hl'
          cases hl'
      show b.sent.map Prod.fst++(b.waiting++[(⟨b.received.length,buf,promise⟩ : Waiting)]).map Waiting.number =
        List.range (b.received++[buf]).length
      rw [map_append,← append_assoc,length_append]
      exact (range_snoc_iff htracked).mpr rfl
    | inr hrelay =>
      obtain ⟨hl,hv,hv'⟩:=hrelay
      cases hinv.shape hlive with
      | console hguest => exact absurd hguest hsome
      | rendezvous _ hl' =>
        rw [hl] at hl'
        cases hl'
      | unopened _ _ _ _ hsent hwaiting =>
        refine .opening hsome hl hv hconsumed hsent ⟨⟨b.received.length,buf,promise⟩,?_,?_⟩
        · show b.waiting++[_]=[_]
          rw [hwaiting]
          rfl
        · show b.received.length+1=(b.received++[buf]).length
          simp
      | opening _ _ hv'' | opened _ _ hv'' =>
        rw [hv'] at hv''
        cases hv''

theorem message_pass_spec (hs : Inv s) (hh : Holds s) (hb : s.bridges ws=some b) (hlive : b.cleaned=false)
    {guest : Guest} (hg : b.guest=some guest) (buf : Bytes) (decoder : Codec.StreamBuffer) (buffer : Bytes)
    {validated : Bool} (hlabel : b.label=.relay → validated=true ∧ b.guestRelayValidated=true) :
    (Holds (s.write ws (b.checked buf decoder buffer validated) b.received.length buf) ↔
      ∀ bytes, b.encode buf=some bytes → b.waiting=[] ∧ (b.connected=true → bytes≠[] → guest.key∈s.consumed)) ∧
    (Holds (s.write ws (b.checked buf decoder buffer validated) b.received.length buf) →
      Inv (s.write ws (b.checked buf decoder buffer validated) b.received.length buf)) := by
  have hinv:=hs.bridge ws b hb
  have hshape:=hinv.shape hlive
  have hsome : b.guest≠none := by
    rw [hg]
    simp
  have hturn:=passes_turn hshape fun hl _ => (hlabel hl).2
  have hback : Backed s.promises s.consumed (b.checked buf decoder buffer validated) := by
    have hrec:=hinv.toBacked.receive buf
    exact ⟨hrec.waits,hrec.consumed⟩
  have hfwd : Forwards s.consumed (b.checked buf decoder buffer validated) :=
    (hh ws b hb).toForwards.congr rfl rfl rfl rfl rfl rfl (prefix_append _ _)
  have hwrite:=write_spec hs hh ws b.received.length hfwd hback hlive (getElem?_received b.received buf)
    (by
      intro hnumber
      have hsent : b.received.length=b.sent.length := hnumber
      show b.sent.map Prod.fst++b.received.length::b.waiting.map Waiting.number =
        List.range (b.received++[buf]).length
      rw [hturn.mp hsent,length_append]
      exact (range_snoc_iff (by rw [hsent]; exact (hh ws b hb).ordered)).mpr rfl)
    (by
      intro bytes htracked
      obtain ⟨hguest,-,-,-,-,hl,hv,hconsumed,hwait⟩ :=
        push_fields (b := b.checked buf decoder buffer validated) b.received.length bytes
      have hguest' : ((b.checked buf decoder buffer validated).push b.received.length bytes).guest≠none := by
        rw [hguest]
        exact hsome
      cases hlab : b.label with
      | rendezvous => exact .rendezvous hguest' (hl.trans hlab) htracked
      | relay =>
        cases hshape with
        | console hguest => exact absurd hguest hsome
        | rendezvous _ hl' =>
          rw [hlab] at hl'
          cases hl'
        | unopened _ _ hv' =>
          rw [(hlabel hlab).2] at hv'
          cases hv'
        | opening _ _ _ _ hsent hwaiting =>
          -- the number of the message is not zero, so it cannot be the first that is sent
          obtain ⟨w,hw,hnumber⟩:=hwaiting
          have hlen:=length_tracked htracked
          rw [sent_push hfwd.delivered,hwait] at hlen
          have hempty : (b.checked buf decoder buffer validated).sent=[] := hsent
          rw [Bridge.Tracked,sent_push hfwd.delivered,hempty,hwait] at htracked
          have hhead:=congrArg List.head? htracked
          rw [(push_fields b.received.length bytes).2.1] at hhead
          have hzero : some b.received.length=(List.range (b.received++[buf]).length).head? := hhead
          rw [length_append,length_singleton,range_succ_eq_map] at hzero
          have := Option.some.inj hzero
          omega
        | opened _ _ _ hconsumed' hwaiting =>
          exact .opened hguest' (hl.trans hlab) (hv.trans (hlabel hlab).1) (hconsumed.trans hconsumed')
            (hwait.trans hwaiting) htracked)
  refine ⟨hwrite.1.trans (forall_congr' fun bytes => imp_congr_right fun henc => ?_),hwrite.2⟩
  refine and_congr hturn ⟨fun h => h guest hg,fun h guest' hguest' => ?_⟩
  have heq : some guest=some guest' := hg.symm.trans hguest'
  cases heq
  exact h

theorem message_spec (hs : Inv s) (hh : Holds s) (hb : s.bridges ws=some b) (buf : Bytes) :
    (Holds (onMessage decode s ws b buf) ↔ StepOk decode s (.message ws buf)) ∧
      (Holds (onMessage decode s ws b buf) → Inv (onMessage decode s ws b buf)) := by
  rw [stepOk_message_iff hb]
  cases hlive : b.cleaned with
  | true =>
    have hsame : onMessage decode s ws b buf=s := by simp only [onMessage,hlive,if_true]
    rw [hsame]
    exact ⟨iff_of_true hh (fun h => by cases h),fun _ => hs⟩
  | false =>
    cases hg : b.guest with
    | none =>
      obtain ⟨hholds,hinv⟩ := @message_console_spec decode b s ws hs hh hb hlive hg buf
      refine ⟨iff_of_true hholds fun _ guest _ hguest => ?_,fun _ => hinv⟩
      cases hguest
    | some guest =>
      have hsome : b.guest≠none := by
        rw [hg]
        simp
      have hinv:=hs.bridge ws b hb
      obtain ⟨decoder,buffer,validated,verdict,hcheck,hcases⟩ :=
        guestCheck_cases decode (b.receive buf) guest buf
      have hverdict : (guestCheck decode (b.receive buf) guest buf).2=verdict := congrArg Prod.snd hcheck
      have hmsg : onMessage decode s ws b buf =
          onVerdict s ws guest b.received.length buf (b.checked buf decoder buffer validated,verdict) := by
        simp only [onMessage,hlive,Bool.false_eq_true,if_false,hg]
        rw [hcheck]
        rfl
      rw [hmsg]
      obtain ⟨cause,rfl,hcause⟩ | ⟨rfl,hl,hv,rfl⟩ | ⟨opening,rfl,hlabel⟩:=hcases
      · have hleaves:=leaves_cleanup s ws (b.checked buf decoder buffer validated) cause
        have hfwd : Forwards s.consumed (b.checked buf decoder buffer validated) :=
          (hh ws b hb).toForwards.congr rfl rfl rfl rfl rfl rfl (prefix_append _ _)
        have hback : Backed s.promises s.consumed (b.checked buf decoder buffer validated) := by
          have hrec:=hinv.toBacked.receive buf
          exact ⟨hrec.waits,hrec.consumed⟩
        refine ⟨iff_of_true ((hleaves.holds_iff hh).mpr (BridgeOk.destroy hfwd hcause)) ?_,
          fun _ => hleaves.inv hs ((hleaves.backed hback).destroy cause)⟩
        intro _ guest' bytes hguest' hpass
        cases hguest'
        obtain ⟨opening,hpass,-⟩:=hpass
        rw [hverdict] at hpass
        cases hpass
      · obtain ⟨hholds,hinv'⟩:=message_wait_spec hs hh hb hlive hsome hl hv buf decoder buffer
        refine ⟨iff_of_true hholds ?_,fun _ => hinv'⟩
        intro _ guest' bytes hguest' hpass
        cases hguest'
        obtain ⟨opening,hpass,-⟩:=hpass
        rw [hverdict] at hpass
        cases hpass
      · by_cases hopens : opening=true ∧ b.guestSessionConsumed=false
        · have hdo : onVerdict s ws guest b.received.length buf (b.checked buf decoder buffer validated,.pass opening) =
              s.consumeGuestSession ws (b.checked buf decoder buffer validated) guest b.received.length buf := by
            rw [onVerdict,hopens.1,show (b.checked buf decoder buffer validated).guestSessionConsumed=false from hopens.2]
            rfl
          rw [hdo]
          have hlabel' : b.label=.rendezvous ∨ b.label=.relay ∧ validated=true ∧ b.guestRelayValidated=false :=
            hlabel.imp id fun ⟨hl,hv,ho⟩ => ⟨hl,hv,by simpa [hopens.1,Bridge.receive] using ho⟩
          obtain ⟨hholds,hinv'⟩:=message_opening_spec hs hh hb hlive hg hopens.2 buf decoder buffer hlabel'
          refine ⟨iff_of_true hholds ?_,fun _ => hinv'⟩
          intro _ guest' bytes hguest' hpass
          cases hguest'
          obtain ⟨opening',hpass,himp,-⟩:=hpass
          rw [hverdict] at hpass
          cases hpass
          rw [himp hopens.1] at hopens
          cases hopens.2
        · have hdo : onVerdict s ws guest b.received.length buf (b.checked buf decoder buffer validated,.pass opening) =
              s.write ws (b.checked buf decoder buffer validated) b.received.length buf := by
            rw [onVerdict,if_neg]
            simpa [Bridge.checked] using hopens
          rw [hdo]
          have hlabel' (hl : b.label=.relay) : validated=true ∧ b.guestRelayValidated=true := by
            cases hlabel with
            | inl hl' =>
              rw [show (b.receive buf).label=b.label from rfl,hl] at hl'
              cases hl'
            | inr hrelay =>
              obtain ⟨-,hv,ho⟩:=hrelay
              refine ⟨hv,?_⟩
              cases hnot : b.guestRelayValidated with
              | true => rfl
              | false =>
                have hopening : opening=true := by rw [ho,show (b.receive buf).guestRelayValidated=false from hnot]; rfl
                have hclosed:=unvalidated_unconsumed (hinv.shape hlive) hsome hl hnot
                exact absurd ⟨hopening,hclosed⟩ hopens
          have hspec:=message_pass_spec hs hh hb hlive hg buf decoder buffer hlabel'
          refine ⟨hspec.1.trans ⟨?_,?_⟩,hspec.2⟩
          · intro h _ guest' bytes hguest' hpass
            cases hguest'
            obtain ⟨-,-,-,henc⟩:=hpass
            exact h bytes henc
          · intro h bytes henc
            exact h rfl guest bytes rfl ⟨opening,hverdict,by simpa using hopens,henc⟩

theorem tracked_number (h : b.Tracked) (hw : b.waiting[i]?=some w) : w.number=b.sent.length+i := by
  have hall:=congrArg (fun l => l[b.sent.length+i]?) h
  have hbound:=length_tracked h
  have hi:=(List.getElem?_eq_some_iff.mp hw).1
  rw [List.getElem?_append_right (by simp),length_map,Nat.add_sub_cancel_left,List.getElem?_map,hw,
    List.getElem?_range (by omega)] at hall
  exact Option.some.inj hall

theorem settle_tracked (hshape : Shape b) (hw : b.waiting[i]?=some w) (hnumber : w.number=b.sent.length) :
    b.sent.map Prod.fst++w.number::(b.settle i).waiting.map Waiting.number=List.range b.received.length := by
  have hall (htracked : b.Tracked) : b.sent.map Prod.fst++w.number::(b.settle i).waiting.map Waiting.number =
      List.range b.received.length := by
    have hzero:=tracked_number htracked hw
    have hi : i=0 := by omega
    subst hi
    cases hl : b.waiting with
    | nil =>
      rw [hl] at hw
      cases hw
    | cons w' rest =>
      rw [hl] at hw
      cases hw
      have hrest : (b.settle 0).waiting=rest := by simp [Bridge.settle,hl]
      rw [Bridge.Tracked,hl] at htracked
      rw [hrest]
      exact htracked
  cases hshape with
  | console _ _ htracked | rendezvous _ _ htracked | opened _ _ _ _ _ htracked => exact hall htracked
  | unopened _ _ _ _ _ hwaiting =>
    rw [hwaiting] at hw
    cases hw
  | opening _ _ _ _ hsent hwaiting =>
    obtain ⟨w',hw',hlast⟩:=hwaiting
    rw [hw'] at hw
    obtain ⟨rfl,rfl⟩ : i=0 ∧ w'=w := by
      cases i with
      | zero =>
        cases hw
        exact ⟨rfl,rfl⟩
      | succ i => cases hw
    have hrest : (b.settle 0).waiting=[] := by simp [Bridge.settle,hw']
    rw [hsent,length_nil] at hnumber
    rw [hrest,hsent,← hlast,hnumber]
    rfl

theorem settle_shape (hshape : Shape b) (hw : b.waiting[i]?=some w) (bytes : Bytes)
    (htracked : ((b.settle i).entered.push w.number bytes).Tracked) : Shape ((b.settle i).entered.push w.number bytes) := by
  obtain ⟨hguest,-,-,-,-,hl,hv,hconsumed,hwait⟩:=push_fields (b := (b.settle i).entered) w.number bytes
  have hnil (hempty : b.waiting=[]) : False := by
    rw [hempty] at hw
    cases hw
  cases hshape with
  | console _ hwaiting | unopened _ _ _ _ _ hwaiting | opened _ _ _ _ hwaiting => exact absurd hwaiting hnil
  | rendezvous hg hlabel =>
    refine .rendezvous ?_ (hl.trans hlabel) htracked
    rw [hguest]
    exact hg
  | opening hg hlabel hvalidated _ _ hwaiting =>
    obtain ⟨w',hw',-⟩:=hwaiting
    have hrest : (b.settle i).waiting=[] := by
      rw [hw'] at hw
      cases i with
      | zero => simp [Bridge.settle,hw']
      | succ i => cases hw
    refine .opened ?_ (hl.trans hlabel) (hv.trans hvalidated) hconsumed (hwait.trans hrest) htracked
    rw [hguest]
    exact hg

theorem resume_spec (hs : Inv s) (hh : Holds s) (hb : s.bridges ws=some b)
    (hw : b.waiting[i]?=some w) {p : Promise} (hp : s.promises[w.promise]?=some p) {consumed : Bool}
    (hout : p.outcome=some consumed) :
    (Holds (resume s ws (b.settle i) w consumed) ↔ StepOk decode s (.resume ws i)) ∧
      (Holds (resume s ws (b.settle i) w consumed) → Inv (resume s ws (b.settle i) w consumed)) := by
  have hinv:=hs.bridge ws b hb
  have hok:=hh ws b hb
  have hstep : StepOk decode s (.resume ws i) ↔ (b.cleaned=false →
      (consumed=true → b.encode w.buf≠none → w.number=b.sent.length) ∧ (consumed=false → b.bytes=[])) := by
    constructor
    · intro h hlive
      obtain ⟨hsend,hrefuse⟩:=h b w p hb hlive hw hp
      rw [hout] at hsend hrefuse
      exact ⟨fun hc => hsend (congrArg some hc),fun hc => hrefuse (congrArg some hc)⟩
    · intro h b' w' p' hb' hlive hw' hp'
      rw [hb] at hb'
      cases hb'
      rw [hw] at hw'
      cases hw'
      rw [hp] at hp'
      cases hp'
      rw [hout]
      exact ⟨fun hc => (h hlive).1 (Option.some.inj hc),fun hc => (h hlive).2 (Option.some.inj hc)⟩
  rw [hstep]
  have hrest : Backed s.promises s.consumed (b.settle i) :=
    ⟨fun x hx => hinv.waits x (mem_of_mem_eraseIdx hx),hinv.consumed⟩
  have hfwd : Forwards s.consumed (b.settle i) :=
    hok.toForwards.congr rfl rfl rfl rfl rfl rfl prefix_rfl
  cases hlive : b.cleaned with
  | true =>
    have hsame : resume s ws (b.settle i) w consumed =
        s.set ws (b.settle i) := by
      have hc : (b.settle i).cleaned=true := hlive
      cases consumed with
      | true => rw [resume,if_pos rfl,if_pos hc]
      | false => rw [resume,if_neg Bool.false_ne_true,State.cleanup,if_pos hc]
    rw [hsame]
    have hleaves:=leaves_set s ws (b.settle i)
    have hnot (hl : (b.settle i).cleaned=false) : False := by
      rw [show (b.settle i).cleaned=true from hlive] at hl
      cases hl
    refine ⟨iff_of_true ((hleaves.holds_iff hh).mpr ⟨hfwd,fun hl => absurd hl hnot⟩) (fun hl => by cases hl),fun _ => ?_⟩
    exact hleaves.inv hs ⟨hrest,fun hl => absurd hl hnot⟩
  | false =>
    obtain ⟨hbuf,guest,q,hg,hq,hkey⟩:=hinv.waits w (mem_of_getElem? hw)
    cases consumed with
    | false =>
      rw [resume,if_neg Bool.false_ne_true]
      have hleaves:=leaves_cleanup s ws (b.settle i) .guestUseRejected
      have hiff:=forwards_destroy_iff hfwd hlive .guestUseRejected
      refine ⟨(hleaves.holds_iff hh).trans ⟨?_,?_⟩,fun _ => hleaves.inv hs ((hleaves.backed hrest).destroy _)⟩
      · intro h _
        exact ⟨fun hc => (by cases hc),fun _ => hiff.mp h.toForwards rfl⟩
      · intro h
        refine ⟨hiff.mpr fun _ => (h rfl).2 rfl,fun hl => ?_⟩
        rw [destroy_cleaned] at hl
        cases hl
    | true =>
      have hlive' : (b.settle i).cleaned=false := hlive
      have hdo : resume s ws (b.settle i) w true=s.write ws (b.settle i).entered w.number w.buf := by
        rw [resume,if_pos rfl,hlive']
        rfl
      rw [hdo]
      have hsame : q=p := Option.some.inj (hq.symm.trans hp)
      have hkey' : guest.key∈s.consumed := by
        rw [← hkey,hsame]
        exact hs.answered p (mem_of_getElem? hp) hout
      have hshape:=hinv.shape hlive
      have hwrite:=write_spec hs hh ws w.number (b := (b.settle i).entered)
        (hok.toForwards.congr rfl rfl rfl rfl rfl rfl prefix_rfl)
        ⟨hrest.waits,fun _ guest' hguest' => by
          have heq : some guest=some guest' := hg.symm.trans hguest'
          cases heq
          exact hkey'⟩ hlive' hbuf (settle_tracked hshape hw) (settle_shape hshape hw)
      refine ⟨hwrite.1.trans ⟨?_,?_⟩,hwrite.2⟩
      · intro h _
        refine ⟨fun _ henc => ?_,fun hc => by cases hc⟩
        obtain ⟨bytes,hbytes⟩:=ne_none_iff_exists'.mp henc
        exact (h bytes hbytes).1
      · intro h bytes henc
        refine ⟨(h rfl).1 rfl fun hnone => ?_,fun guest' hguest' _ _ => ?_⟩
        · have henc' : b.encode w.buf=some bytes := henc
          rw [hnone] at henc'
          cases henc'
        · have heq : some guest=some guest' := hg.symm.trans hguest'
          cases heq
          exact hkey'

theorem opened_ok (label : Label) (clientIp : String) (messageTransport : Bool) (guest : Option Guest)
    (promises : List Promise) (c : List String) : BridgeOk c (.opened label clientIp messageTransport guest) ∧
      BridgeInv promises c (.opened label clientIp messageTransport guest) := by
  refine ⟨⟨⟨fun _ _ h => absurd rfl h,?_,fun e he => ?_,rfl,fun _ => rfl⟩,fun _ _ => rfl⟩,
    ⟨fun w hw => ?_,fun h => ?_⟩,fun _ => ?_⟩
  · intro h
    cases h
  · cases he
  · cases hw
  · cases h
  · cases guest with
    | none => exact .console rfl rfl rfl
    | some guest => cases label with
      | rendezvous => exact .rendezvous (by simp [Bridge.opened]) rfl rfl
      | relay => exact .unopened (by simp [Bridge.opened]) rfl rfl rfl rfl rfl

theorem leaves_connect (s : State) (ws : ℕ) (label : Label) (messageTransport : Bool) {clientIp : String}
    (guest : Option Guest) (hfree : ¬maxConnectionsPerIp ≤ s.connectionsPerIp clientIp) :
    Leaves s (handleProxyConnection s ws label messageTransport clientIp guest) ws
      (.opened label clientIp (messageTransport&&label=Label.relay) guest) := by
  rw [handleProxyConnection,if_neg hfree]
  cases guest with
  | none => exact ⟨rfl,rfl,fun _ _ hp => hp,fun hs => ⟨hs.states,hs.answered⟩⟩
  | some guest =>
    simp only [State.registerGuestBridge]
    split <;> exact ⟨rfl,rfl,fun _ _ hp => hp,fun hs => ⟨hs.states,hs.answered⟩⟩

theorem connect_spec (hs : Inv s) (hh : Holds s) (ws : ℕ) (label : Label) (messageTransport : Bool)
    (clientIp : String) (guest : Option Guest) :
    Holds (handleProxyConnection s ws label messageTransport clientIp guest) ∧
      Inv (handleProxyConnection s ws label messageTransport clientIp guest) := by
  by_cases hfree : maxConnectionsPerIp ≤ s.connectionsPerIp clientIp
  · rw [handleProxyConnection,if_pos hfree]
    exact ⟨hh,hs⟩
  · have hleaves:=leaves_connect s ws label messageTransport guest hfree
    obtain ⟨hok,hinv⟩:=opened_ok label clientIp (messageTransport&&label=Label.relay) guest
      (handleProxyConnection s ws label messageTransport clientIp guest).promises s.consumed
    exact ⟨(hleaves.holds_iff hh).mpr hok,hleaves.inv hs hinv⟩

theorem connected_spec (hs : Inv s) (hh : Holds s) (hb : s.bridges ws=some b) (hlive : b.cleaned=false) :
    (Holds (onConnected s ws b) ↔ StepOk decode s (.connected ws)) ∧
      (Holds (onConnected s ws b) → Inv (onConnected s ws b)) := by
  have hinv:=hs.bridge ws b hb
  have hok:=hh ws b hb
  have hleaves:=leaves_set s ws {b with connected := true,wire := b.wire++b.queue,queue := []}
  have hsent : Bridge.sent {b with connected := true,wire := b.wire++b.queue,queue := []}=b.sent := by
    simp [Bridge.sent]
  have hbytes : Bridge.bytes {b with connected := true,wire := b.wire++b.queue,queue := []} =
      b.bytes++b.queue.flatMap Prod.snd := by
    simp [Bridge.bytes]
  constructor
  · refine (hleaves.holds_iff hh).trans ⟨?_,?_⟩
    · intro h b' guest hb' _ hg hne
      rw [hb] at hb'
      cases hb'
      refine h.gate guest hg ?_
      rw [hbytes]
      simp only [ne_eq,append_eq_nil_iff,not_and]
      exact fun _ => hne
    · intro h
      constructor
      · constructor
        · intro guest hg hne
          rw [hbytes] at hne
          by_cases hold : b.bytes=[]
          · rw [hold,nil_append] at hne
            exact h b guest hb hlive hg hne
          · exact hok.gate guest hg hold
        · intro hc
          have hc' : b.cleanupCause=some .guestUseRejected := hc
          rw [Bridge.cleaned,hc'] at hlive
          cases hlive
        · rw [hsent]
          exact hok.authentic
        · rw [hsent]
          exact hok.ordered
        · intro _
          rfl
      · rw [hsent]
        exact hok.lossless
  · intro _
    refine hleaves.inv hs ⟨⟨hinv.waits,hinv.consumed⟩,fun _ => ?_⟩
    have htracked (h : b.Tracked) :
        Bridge.Tracked {b with connected := true,wire := b.wire++b.queue,queue := []} := by
      rw [Bridge.Tracked,hsent]
      exact h
    cases hinv.shape hlive with
    | console hg hwaiting h => exact .console hg hwaiting (htracked h)
    | rendezvous hg hl h => exact .rendezvous hg hl (htracked h)
    | unopened hg hl hv hc hnone hwaiting => exact .unopened hg hl hv hc (hsent.trans hnone) hwaiting
    | opening hg hl hv hc hnone hwaiting => exact .opening hg hl hv hc (hsent.trans hnone) hwaiting
    | opened hg hl hv hc hwaiting h => exact .opened hg hl hv hc hwaiting (htracked h)

theorem answer_spec (hs : Inv s) (hh : Holds s) {promise : ℕ} {p : Promise} (hp : s.promises[promise]?=some p)
    (ok : Bool) : Holds (onAnswer s promise p ok) ∧ Inv (onAnswer s promise p ok) := by
  have hkeys (i : ℕ) (q : Promise) (hq : s.promises[i]?=some q) :
      ∃ q' : Promise, (s.promises.set promise {p with outcome := some ok})[i]?=some q' ∧ q'.key=q.key := by
    by_cases hi : promise=i
    · subst hi
      rw [hp] at hq
      cases hq
      refine ⟨{p with outcome := some ok},?_,rfl⟩
      rw [List.getElem?_set_self (List.getElem?_eq_some_iff.mp hp).1]
    · refine ⟨q,?_,rfl⟩
      rw [List.getElem?_set_ne hi]
      exact hq
  have hstates : ∀ e∈s.guestSessionStates, ∃ q : Promise,
      (s.promises.set promise {p with outcome := some ok})[e.2]?=some q ∧ q.key=e.1 := by
    intro e he
    obtain ⟨q,hq,hkey⟩:=hs.states e he
    obtain ⟨q',hq',hsame⟩:=hkeys e.2 q hq
    exact ⟨q',hq',hsame.trans hkey⟩
  cases ok with
  | true =>
    have hsub : s.consumed ⊆ s.consumed++[p.key] := subset_append_left _ _
    refine ⟨fun ws b hb => ⟨(hh ws b hb).toForwards.mono hsub,(hh ws b hb).lossless⟩,⟨hstates,?_⟩,fun ws b hb => ?_⟩
    · intro q hq hout
      cases mem_or_eq_of_mem_set hq with
      | inl hmem => exact hsub (hs.answered q hmem hout)
      | inr heq =>
        rw [heq]
        exact mem_append_right _ mem_cons_self
    · exact ⟨(hs.bridge ws b hb).toBacked.mono hsub hkeys,(hs.bridge ws b hb).shape⟩
  | false =>
    refine ⟨hh,⟨fun e he => hstates e (SyncMap.mem_delete he),?_⟩,fun ws b hb => ?_⟩
    · intro q hq hout
      cases mem_or_eq_of_mem_set hq with
      | inl hmem => exact hs.answered q hmem hout
      | inr heq =>
        rw [heq] at hout
        cases hout
    · exact ⟨(hs.bridge ws b hb).toBacked.mono (fun _ hc => hc) hkeys,(hs.bridge ws b hb).shape⟩

theorem cleanup_spec (hs : Inv s) (hh : Holds s) (ws : ℕ) (hc : cause ≠ .guestUseRejected) :
    Holds (cleanupOf cause s ws) ∧ Inv (cleanupOf cause s ws) := by
  unfold cleanupOf
  cases hb : s.bridges ws with
  | none => exact ⟨hh,hs⟩
  | some b =>
    have hleaves:=leaves_cleanup s ws b cause
    exact ⟨(hleaves.holds_iff hh).mpr (BridgeOk.destroy (hh ws b hb).toForwards hc),
      hleaves.inv hs ((hleaves.backed (hs.bridge ws b hb).toBacked).destroy cause)⟩

theorem cleanups_spec (hs : Inv s) (hh : Holds s) (wss : List ℕ) (hc : cause ≠ .guestUseRejected) :
    Holds (wss.foldl (cleanupOf cause) s) ∧ Inv (wss.foldl (cleanupOf cause) s) := by
  induction wss generalizing s with
  | nil => exact ⟨hh,hs⟩
  | cons ws wss ih =>
    obtain ⟨hholds,hinv⟩:=cleanup_spec hs hh ws hc
    exact ih hinv hholds

theorem forget_spec (hs : Inv s) (hh : Holds s) {states : SyncMap String ℕ} (hsub : states ⊆ s.guestSessionStates) :
    Holds {s with guestSessionStates := states} ∧ Inv {s with guestSessionStates := states} :=
  ⟨hh,⟨fun e he => hs.states e (hsub he),hs.answered⟩,hs.bridge⟩

theorem step_spec (hs : Inv s) (hh : Holds s) {e : Event} (he : step decode s e=some t) :
    (Holds t ↔ StepOk decode s e) ∧ (Holds t → Inv t) := by
  have always {t : State} (h : Holds t ∧ Inv t) {e : Event} (hok : StepOk decode s e) :
      (Holds t ↔ StepOk decode s e) ∧ (Holds t → Inv t) := ⟨iff_of_true h.1 hok,fun _ => h.2⟩
  cases e with
  | connect ws label messageTransport clientIp guest =>
    simp only [step] at he
    split at he
    · cases he
      exact always (connect_spec hs hh ws label messageTransport clientIp guest) trivial
    · cases he
  | connected ws =>
    obtain ⟨b,hb,he⟩:=bind_eq_some_iff.mp he
    split at he
    · cases he
    · rename_i hlive
      rw [Bool.or_eq_true,not_or,Bool.not_eq_true] at hlive
      cases he
      exact connected_spec hs hh hb hlive.1
  | message ws buf =>
    obtain ⟨b,hb,rfl⟩:=map_eq_some_iff.mp he
    exact message_spec hs hh hb buf
  | answer promise ok =>
    obtain ⟨p,hp,he⟩:=bind_eq_some_iff.mp he
    split at he
    · cases he
    · cases he
      exact always (answer_spec hs hh hp ok) trivial
  | resume ws i =>
    obtain ⟨b,hb,he⟩:=bind_eq_some_iff.mp he
    obtain ⟨w,hw,he⟩:=bind_eq_some_iff.mp he
    obtain ⟨consumed,hout,rfl⟩:=map_eq_some_iff.mp he
    obtain ⟨p,hp,hout⟩:=bind_eq_some_iff.mp hout
    exact resume_spec hs hh hb hw hp hout
  | cleanup ws cause =>
    simp only [step] at he
    split at he
    · rename_i hout
      cases he
      refine always (cleanup_spec hs hh ws ?_) trivial
      intro hcause
      rw [hcause] at hout
      cases hout
    · cases he
  | invalidateGuestGrant grantId =>
    cases he
    obtain ⟨hholds,hinv⟩:=forget_spec hs hh (filter_sublist (l := s.guestSessionStates)
      (p := fun e => !((grantId++"\x00").toList.isPrefixOf e.1.toList))).subset
    exact always (cleanups_spec hinv hholds _ (by decide)) trivial
  | expire key =>
    cases he
    exact always (forget_spec hs hh fun _ => SyncMap.mem_delete) trivial

theorem start_ok : Inv start ∧ Holds start := by
  refine ⟨⟨⟨fun e he => ?_,fun p hp => ?_⟩,fun ws b hb => ?_⟩,fun ws b hb => ?_⟩
  · cases he
  · cases hp
  · cases hb
  · cases hb

variable (decode) in
/-- The bridge keeps what is promised of it in the runs of which every step meets the condition,
and in no other. -/
theorem bridge_gated_and_lossless_iff (es : List Event) :
    (∀ pre, pre <+: es → ∀ s, exec (step decode) start pre=some s → Holds s) ↔
      Along (step decode) (fun s e => (step decode s e).isSome=true → StepOk decode s e) start es := by
  rw [along_reached_iff start_ok.2]
  apply along_iff_of_keep (fun s => Inv s ∧ Holds s) _ _ start_ok
  · intro s e t hs hok ht
    have hspec:=step_spec hs.1 hs.2 ht
    exact ⟨hspec.2 (hok t ht),hok t ht⟩
  · intro s e hs
    constructor
    · intro h hsome
      obtain ⟨t,ht⟩:=isSome_iff_exists.mp hsome
      exact (step_spec hs.1 hs.2 ht).1.mp (h t ht)
    · intro h t ht
      refine (step_spec hs.1 hs.2 ht).1.mpr (h ?_)
      rw [ht]
      rfl

/-- A `RendezvousMessage` with a `request_relay` whose `id` is `abc`, and a decoder that knows it. -/
def requestRelayAbc : Bytes := [0x92,0x01,0x05,0x0a,0x03,0x61,0x62,0x63]

def decodeAbc (payload : Bytes) : Option Message := if payload=requestRelayAbc then some ⟨none,some "abc"⟩ else none

def guestAbc : Guest := ⟨"g1","token","abc","s1"⟩

def opens (label : Label) : List Event := [.connect 0 label true "10.0.0.9" (some guestAbc),.connected 0]

/-- The second message reaches the relay while the session of the first is still being consumed:
before it, and also when the consumption is refused; when it succeeds, the first follows the second. -/
theorem guests_pass_the_gate :
    ¬(∀ (decode : Bytes → Option Message) (es : List Event) (s : State), exec (step decode) start es=some s → Holds s) ∧
      ((exec (step decodeAbc) start (opens .relay++[.message 0 requestRelayAbc,.message 0 [1]])).any fun s =>
        s.consumed=[]&&(s.bridges 0).any fun b => b.guest=some guestAbc&&b.bytes=[4,1])=true ∧
      ((exec (step decodeAbc) start (opens .relay++[.message 0 requestRelayAbc,.message 0 [1],.answer 0 false,
        .resume 0 0])).any fun s => s.consumed=[]&&(s.bridges 0).any fun b =>
          b.cleanupCause=some .guestUseRejected&&b.bytes=[4,1])=true ∧
      ((exec (step decodeAbc) start (opens .relay++[.message 0 requestRelayAbc,.message 0 [1],.answer 0 true,
        .resume 0 0])).any fun s => (s.bridges 0).any fun b => b.admitted&&b.wire.map Prod.fst=[1,0])=true ∧
      ((exec (step decodeAbc) start (opens .relay++[.message 0 (requestRelayAbc.take 4),
        .message 0 (requestRelayAbc.drop 4),.answer 0 true,.resume 0 0])).any fun s =>
          (s.bridges 0).any fun b => b.admitted&&b.wire.map Prod.fst=[1]&&b.received.length=2)=true ∧
      ((exec (step decodeAbc) start (opens .rendezvous++[.message 0 [0x20]])).any fun s =>
        s.promises.isEmpty&&(s.bridges 0).any fun b => b.bytes=[0x20])=true := by
  have hearly : ((exec (step decodeAbc) start (opens .relay++[.message 0 requestRelayAbc,.message 0 [1]])).any fun s =>
      s.consumed=[]&&(s.bridges 0).any fun b => b.guest=some guestAbc&&b.bytes=[4,1])=true := by decide
  refine ⟨fun hall => ?_,hearly,by decide +kernel,by decide +kernel,by decide +kernel,by decide +kernel⟩
  obtain ⟨s,hs,hwrong⟩:=(any_eq_true _ _).mp hearly
  rw [Bool.and_eq_true,decide_eq_true_eq] at hwrong
  obtain ⟨b,hb,hwire⟩:=(any_eq_true _ _).mp hwrong.2
  rw [Bool.and_eq_true,decide_eq_true_eq,decide_eq_true_eq] at hwire
  have hgate:=(hall decodeAbc _ s hs 0 b hb).gate guestAbc hwire.1
  rw [hwrong.1,hwire.2] at hgate
  cases hgate (cons_ne_nil _ _)

end BetterDesk.GuestAccess.RelayBridge
