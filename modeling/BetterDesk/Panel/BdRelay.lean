import BetterDesk.Lib.Exec
import BetterDesk.Lib.Json
import BetterDesk.Lib.SyncMap
import BetterDesk.Panel.UserSync
import Mathlib.Data.Vector.Defs

/-! # The desktop clients' relay (services/bdRelay.js, services/wsUpgradeRouter.js) -/

namespace BetterDesk.Panel.BdRelay
open Exec Text Option Function
open List hiding Vector

def maxRelayPerIp : ℕ := 10

def sessionTtlMs : ℤ := 60*1000

inductive Thrown where
  | invalidUrl
  | timingSafeEqualLength
  | unhandledError

structure Url where
  pathname : String
  searchParams : List (String × String)

/-- `searchParams.get`. -/
def Url.param (url : Url) (name : String) : Option String :=
  (url.searchParams.find? fun e => e.1=name).map Prod.snd

/-- Parsers of the platform: `new URL(input, base)`, and `JSON.parse` of the text of some bytes. -/
structure Platform where
  newUrl : String → String → Option Url
  parseJson : Bytes → Option Json

structure Request where
  url : String
  host : Option String
  origin : Option String
  cookie : Option String
  forwardedFor : Option String
  remoteAddress : Option String

def clientIp (req : Request) : String :=
  let forwarded:=req.forwardedFor.map fun h => UserSync.trim (String.ofList (h.toList.takeWhile (· ≠ ',')))
  UserSync.orElse forwarded (UserSync.orElse req.remoteAddress "unknown")

/-- The base of the router, where an empty host is `localhost`. -/
def routerBase (req : Request) : String := "http://" ++ UserSync.orElse req.host "localhost"

/-- The base that the handlers use; a missing host prints as `undefined`. -/
def handlerBase (req : Request) : String := "http://" ++ req.host.getD "undefined"

/-- `WS_ALLOWED_ORIGINS` and `BD_ALLOW_MISSING_ORIGIN`. -/
structure OriginPolicy where
  allowedFromEnv : List String
  allowMissingOrigin : Bool

def validateOrigin (o : OriginPolicy) (req : Request) : Bool :=
  let origin:=req.origin.getD ""
  let cookies:=(req.cookie.getD "").toList
  if origin="" then
    !("bd.sid=".toList <:+: cookies||"betterdesk.sid=".toList <:+: cookies)||o.allowMissingOrigin
  else
    let host:=req.host.getD ""
    (host≠""&&(origin="http://" ++ host||origin="https://" ++ host))||o.allowedFromEnv.contains origin

inductive Role where
  | initiator
  | target
deriving DecidableEq

def Role.ofString (s : String) : Option Role :=
  if s="initiator" then some .initiator else if s="target" then some .target else none

def Role.other : Role → Role
  | .initiator => .target
  | .target => .initiator

inductive Status where
  | pending | active | closed
deriving DecidableEq

structure Session where
  sessionId : String
  initiatorId : String
  targetId : String
  initiatorWs : Option ℕ
  targetWs : Option ℕ
  initiatorToken : String
  targetToken : String
  createdAt : ℤ
  status : Status

def Session.ws (session : Session) : Role → Option ℕ
  | .initiator => session.initiatorWs
  | .target => session.targetWs

def Session.token (session : Session) : Role → String
  | .initiator => session.initiatorToken
  | .target => session.targetToken

def Session.attach (session : Session) (role : Role) (ws : ℕ) : Session := match role with
  | .initiator => {session with initiatorWs := some ws}
  | .target => {session with targetWs := some ws}

inductive ReadyState where
  | opened | closing | closed
deriving DecidableEq

/-- A WebSocket with the listeners that it has: those of a relay connection for a session object,
the data relay to its peer, the wait for `verifyDeviceWsAuth`, those of a device's signal channel. -/
structure Socket where
  url : Url
  ip : String
  ready : ReadyState
  relay : Option ℕ
  peer : Option ℕ
  verifying : Option String
  device : Option String

inductive Frame where
  | paired (sessionId : String)
  | data (source : ℕ) (payload : Bytes) (isBinary : Bool)
  | welcome (deviceId : String)
  | heartbeatAck (ts : ℤ)
  | relayReady (sessionId token : String)
  | request (requestId : String)

/-- `sessions` are the session objects, which listeners keep when the map has lost them. -/
structure State where
  now : ℤ
  sessions : ℕ → Option Session
  activeSessions : SyncMap String ℕ
  sockets : ℕ → Option Socket
  onlineDevices : SyncMap String ℕ
  connectionsPerIp : String → ℕ
  pendingRequests : String → Bool
  sent : List (ℕ × Frame)
  crashed : Bool

def start : State := ⟨0,fun _ => none,[],fun _ => none,[],fun _ => 0,fun _ => false,[],false⟩

def generateToken (random : Vector UInt8 32) : String :=
  String.ofList ((hexEncode random.toList).map fun b => Char.ofNat b.toNat)

def State.incIpCount (s : State) (ip : String) : State :=
  {s with connectionsPerIp := update s.connectionsPerIp ip (s.connectionsPerIp ip+1)}

def State.decIpCount (s : State) (ip : String) : State :=
  {s with connectionsPerIp := update s.connectionsPerIp ip (s.connectionsPerIp ip-1)}

def State.isOpen (s : State) (ws : ℕ) : Bool := (s.sockets ws).any fun socket => socket.ready=.opened

/-- `ws.send`, which drops what a socket that is closing can no longer take. -/
def State.send (s : State) (ws : ℕ) (frame : Frame) : State :=
  if s.isOpen ws then {s with sent := s.sent++[(ws,frame)]} else s

def State.modifySocket (s : State) (ws : ℕ) (f : Socket → Socket) : State :=
  {s with sockets := update s.sockets ws ((s.sockets ws).map f)}

def State.modifySession (s : State) (obj : ℕ) (f : Session → Session) : State :=
  {s with sessions := update s.sessions obj ((s.sessions obj).map f)}

def State.close (s : State) (ws : ℕ) : State :=
  s.modifySocket ws fun socket => if socket.ready=.opened then {socket with ready := .closing} else socket

def State.closeAll (s : State) (wss : List ℕ) : State := wss.foldl State.close s

/-- `crypto.timingSafeEqual`. -/
def timingSafeEqual (a b : Bytes) : Except Thrown Bool :=
  if a.length≠b.length then .error .timingSafeEqualLength else .ok (a=b)

def createRelaySession (s : State) (obj : ℕ) (sessionId initiatorId targetId : String)
    (random random' : Vector UInt8 32) : State := {s with
    sessions := update s.sessions obj (some
      { sessionId,initiatorId,targetId
        initiatorWs := none
        targetWs := none
        initiatorToken := generateToken random
        targetToken := generateToken random'
        createdAt := s.now
        status := .pending})
    activeSessions := s.activeSessions.store sessionId obj}

def teardownSession (s : State) (sessionId : String) : State :=
  match s.activeSessions.load sessionId with
  | none => s
  | some obj =>
    let t:={s.modifySession obj ({ · with status := .closed}) with
      activeSessions := s.activeSessions.delete sessionId}
    match s.sessions obj with
    | none => t
    | some session => t.closeAll (session.initiatorWs.toList++session.targetWs.toList)

def activateRelay (s : State) (obj : ℕ) (sessionId : String) (wsA wsB : ℕ) : State :=
  let s:=s.modifySession obj ({ · with status := .active})
  let s:=(s.send wsA (.paired sessionId)).send wsB (.paired sessionId)
  (s.modifySocket wsA ({ · with peer := some wsB})).modifySocket wsB ({ · with peer := some wsA})

/-- What follows the checks of `handleRelayConnection`. -/
def attach (s : State) (ws obj : ℕ) (session : Session) (sessionId ip : String) (role : Role) : State :=
  let s:=s.incIpCount ip
  if (session.ws role).isSome then (s.close ws).decIpCount ip
  else
    let session:=session.attach role ws
    let s:=s.modifySession obj fun _ => session
    let s := match session.initiatorWs, session.targetWs with
      | some wsA, some wsB => activateRelay s obj sessionId wsA wsB
      | _, _ => s
    s.modifySocket ws ({ · with relay := some obj})

/-- What follows the lookup of the session in `handleRelayConnection`. -/
def checkToken (s : State) (ws obj : ℕ) (session : Session) (sessionId token ip : String) (role : Role) :
    Except Thrown State := match timingSafeEqual (lit token) (lit (session.token role)) with
  | .error e => .error e
  | .ok false => .ok (s.close ws)
  | .ok true =>
    if s.now-session.createdAt>sessionTtlMs ∧ session.status=.pending then
      .ok ({s with activeSessions := s.activeSessions.delete sessionId}.close ws)
    else .ok (attach s ws obj session sessionId ip role)

def handleRelayConnection (s : State) (ws : ℕ) (url : Url) (ip : String) : Except Thrown State :=
  let sessionId:=(url.param "session").getD ""
  let token:=(url.param "token").getD ""
  match Role.ofString ((url.param "role").getD "") with
  | none => .ok (s.close ws)
  | some role =>
    if sessionId="" ∨ token="" then .ok (s.close ws)
    else if maxRelayPerIp ≤ s.connectionsPerIp ip then .ok (s.close ws)
    else match s.activeSessions.load sessionId with
      | none => .ok (s.close ws)
      | some obj => match s.sessions obj with
        | none => .ok (s.close ws)
        | some session => checkToken s ws obj session sessionId token ip role

def validDeviceId (deviceId : String) : Bool :=
  3≤deviceId.length&&deviceId.length≤64 &&
    deviceId.toList.all fun c => c.isAlphanum||c = '_'||c = '-'

/-- `handleSignalConnection` up to its `await`. -/
def handleSignalConnection (s : State) (ws : ℕ) (url : Url) : State :=
  let deviceId:=(url.param "device_id").getD ""
  let token:=(url.param "token").getD ""
  if deviceId="" ∨ token="" then s.close ws
  else if !validDeviceId deviceId then s.close ws
  else s.modifySocket ws ({ · with verifying := some deviceId})

/-- The rest of it; `none` is a rejection of `verifyDeviceWsAuth`, which the caller catches. -/
def signalVerified (s : State) (ws : ℕ) (socket : Socket) (deviceId : String) (authed : Option Bool) : State :=
  let s:=s.modifySocket ws ({ · with verifying := none})
  match authed with
  | none => s.close ws
  | some false => s.close ws
  | some true =>
    if maxRelayPerIp ≤ s.connectionsPerIp socket.ip then s.close ws
    else
      let s:=s.incIpCount socket.ip
      let s := match s.onlineDevices.load deviceId with
        | some existing => s.close existing
        | none => s
      let s:={s with onlineDevices := s.onlineDevices.store deviceId ws}
      let s:=s.modifySocket ws ({ · with device := some deviceId})
      s.send ws (.welcome deviceId)

/-- `handleSignalMessage` inside the `try` of its caller. -/
def handleSignalMessage (s : State) (deviceId : String) (ws : ℕ) (msg : Json) : State :=
  let members:=msg.asObject.getD []
  let field (name : String) := (Json.get members name).bind Json.asString
  -- a key that is no text is in none of the maps
  let session:=(field "session_id").bind fun sessionId =>
    ((s.activeSessions.load sessionId).bind s.sessions).map fun session => (sessionId,session)
  match field "type" with
  | some "heartbeat" => s.send ws (.heartbeatAck s.now)
  | some "relay_accept" => match session with
    | none => s
    | some (sessionId,session) =>
      if session.targetId=deviceId ∧ session.status=.pending then
        s.send ws (.relayReady sessionId session.targetToken)
      else s
  | some "relay_reject" => match session with
    | none => s
    | some (sessionId,session) => if session.targetId=deviceId then teardownSession s sessionId else s
  | some "command_response" => match field "request_id" with
    | none => s
    | some requestId => {s with pendingRequests := update s.pendingRequests requestId false}
  | _ => s

def onMessage (platform : Platform) (s : State) (ws : ℕ) (socket : Socket) (data : Bytes) (isBinary : Bool) : State :=
  let s := match socket.peer with
    | none => s
    | some peer => s.send peer (.data ws data isBinary)
  match socket.device with
  | none => s
  | some deviceId => match platform.parseJson data with
    | none => s
    | some msg => handleSignalMessage s deviceId ws msg

/-- There is an `error` listener: of a relay connection that has its slot, or of a device's channel. -/
def Socket.listens (socket : Socket) : Bool := socket.relay.isSome||socket.device.isSome

/-- What the relay's and the signal channel's `close` and `error` listeners have in common. -/
def onGone (s : State) (ws : ℕ) (socket : Socket) : State :=
  let s := if socket.relay.isSome then
      teardownSession (s.decIpCount socket.ip) ((socket.url.param "session").getD "")
    else s
  match socket.device with
  | none => s
  | some deviceId =>
    let s:=s.decIpCount socket.ip
    if s.onlineDevices.load deviceId=some ws then
      {s with onlineDevices := s.onlineDevices.delete deviceId}
    else s

def cleanupSessions (s : State) : State :=
  let expired:=s.activeSessions.filter fun e => (s.sessions e.2).any fun session =>
    session.status=.pending&&decide (s.now-session.createdAt>sessionTtlMs*2)
  let s:=expired.foldl (fun s e => teardownSession s e.1) s
  {s with onlineDevices := s.onlineDevices.filter fun e => s.isOpen e.2}

def slotTimer (s : State) (obj : ℕ) (sessionId : String) : State :=
  if (s.sessions obj).any fun session => session.status=.pending then teardownSession s sessionId else s

def requestFromDevice (s : State) (deviceId requestId : String) : State :=
  match s.onlineDevices.load deviceId with
  | none => s
  | some ws =>
    if s.isOpen ws then
      {s with pendingRequests := update s.pendingRequests requestId true}.send ws (.request requestId)
    else s

inductive Event where
  | tick (ms : ℕ)
  | create (obj : ℕ) (sessionId initiatorId targetId : String) (random random' : Vector UInt8 32)
  | cancel (sessionId : String)
  | upgrade (ws : ℕ) (req : Request) (handshake : Bool)
  | verified (ws : ℕ) (authed : Option Bool)
  | message (ws : ℕ) (data : Bytes) (isBinary : Bool)
  | close (ws : ℕ)
  | error (ws : ℕ)
  | slotTimer (ws : ℕ)
  | idleTimer (obj : ℕ)
  | cleanup
  | request (deviceId requestId : String)
  | requestTimeout (requestId : String)

variable (platform : Platform) (origins : OriginPolicy)

def handleUpgrade (s : State) (ws : ℕ) (req : Request) (handshake : Bool) : Except Thrown State :=
  match platform.newUrl req.url (routerBase req) with
  | none => .ok s
  | some routed =>
    if routed.pathname≠"/ws/bd-relay" ∧ routed.pathname≠"/ws/bd-signal" then .ok s
    else match platform.newUrl req.url (handlerBase req) with
      | none => .error .invalidUrl
      | some url =>
        if !validateOrigin origins req||!handshake then .ok s
        else
          let ip:=clientIp req
          let t:={s with sockets := update s.sockets ws (some ⟨url,ip,.opened,none,none,none,none⟩)}
          if url.pathname="/ws/bd-relay" then handleRelayConnection t ws url ip
          else if url.pathname="/ws/bd-signal" then .ok (handleSignalConnection t ws url)
          else .ok s

def handle (s : State) : Event → Except Thrown State
  | .tick ms => .ok {s with now := s.now+ms}
  | .create obj sessionId initiatorId targetId random random' =>
    .ok (createRelaySession s obj sessionId initiatorId targetId random random')
  | .cancel sessionId => .ok {s with activeSessions := s.activeSessions.delete sessionId}
  | .upgrade ws req handshake => handleUpgrade platform origins s ws req handshake
  | .verified ws authed => match s.sockets ws with
    | none => .ok s
    | some socket => match socket.verifying with
      | none => .ok s
      | some deviceId => .ok (signalVerified s ws socket deviceId authed)
  | .message ws data isBinary => match s.sockets ws with
    | none => .ok s
    | some socket => if socket.ready=.closed then .ok s else .ok (onMessage platform s ws socket data isBinary)
  | .close ws => match s.sockets ws with
    | none => .ok s
    | some socket =>
      if socket.ready=.closed then .ok s
      else .ok (onGone (s.modifySocket ws ({ · with ready := .closed})) ws socket)
  | .error ws => match s.sockets ws with
    | none => .ok s
    | some socket =>
      if socket.ready=.closed then .ok s
      -- an emitter throws the error that nobody listens to
      else if !socket.listens then .error .unhandledError
      else .ok (onGone (s.close ws) ws socket)
  | .slotTimer ws => match s.sockets ws with
    | none => .ok s
    | some socket => match socket.relay with
      | none => .ok s
      | some obj => .ok (slotTimer s obj ((socket.url.param "session").getD ""))
  | .idleTimer obj => match s.sessions obj with
    | none => .ok s
    | some session => if session.status=.pending then .ok s else .ok (teardownSession s session.sessionId)
  | .cleanup => .ok (cleanupSessions s)
  | .request deviceId requestId => .ok (requestFromDevice s deviceId requestId)
  | .requestTimeout requestId =>
    .ok {s with pendingRequests := update s.pendingRequests requestId false}

def fresh (s : State) : Event → Bool
  | .create obj .. => (s.sessions obj).isNone
  | .upgrade ws .. => (s.sockets ws).isNone
  | _ => true

def step (s : State) (e : Event) : Option State :=
  if s.crashed||!fresh s e then none
  else match handle platform origins s e with
    | .ok t => some t
    | .error _ => some {s with crashed := true}

def Role.text : Role → String
  | .initiator => "initiator"
  | .target => "target"

structure Authenticated (session : Session) (role : Role) (socket : Socket) : Prop where
  ofSession : socket.url.param "session" = some session.sessionId
  ofRole : socket.url.param "role" = some role.text
  ofToken : socket.url.param "token" = some (session.token role)

def Paired (s : State) (a b : ℕ) : Prop :=
  ∃ obj session role socketA socketB, s.sessions obj=some session ∧
    session.ws role=some a ∧ s.sockets a=some socketA ∧ Authenticated session role socketA ∧
    session.ws role.other=some b ∧ s.sockets b=some socketB ∧ Authenticated session role.other socketB

structure Safe (s : State) : Prop where
  alive : s.crashed=false
  isolated : ∀ dest source payload isBinary, (dest,.data source payload isBinary)∈s.sent → Paired s source dest

/-- A connection that comes as far as the token of a session brings one of 64 bytes. -/
def TokenFits (s : State) (url : Url) (ip : String) : Prop :=
  ∀ sessionId token, url.param "session" = some sessionId → sessionId≠"" →
    url.param "token" = some token → token≠"" → Role.ofString ((url.param "role").getD "")≠none →
    s.connectionsPerIp ip < maxRelayPerIp → (s.activeSessions.load sessionId).isSome=true →
    (lit token).length=64

def RequestFits (s : State) (req : Request) (handshake : Bool) : Prop :=
  ∀ routed, platform.newUrl req.url (routerBase req)=some routed →
    routed.pathname="/ws/bd-relay" ∨ routed.pathname="/ws/bd-signal" →
    ∃ url, platform.newUrl req.url (handlerBase req)=some url ∧
      (validateOrigin origins req=true → handshake=true → url.pathname="/ws/bd-relay" →
        TokenFits s url (clientIp req))

def StepOk (s : State) : Event → Prop
  | .upgrade ws req handshake => s.sockets ws=none → RequestFits platform origins s req handshake
  | .error ws => ∀ socket, s.sockets ws=some socket → socket.ready=.closed ∨ socket.listens=true
  | _ => True

theorem length_hexEncode (t : Bytes) : (hexEncode t).length=2*t.length := by
  induction t with
  | nil => rfl
  | cons b t ih =>
    simp only [hexEncode,flatMap_cons,length_append,length_cons,length_nil] at ih ⊢
    omega

theorem length_lit_ofList {l : List Char} (h : ∀ c∈l,c.utf8Size=1) : (lit (String.ofList l)).length=l.length := by
  have hbytes : lit (String.ofList l)=l.flatMap String.utf8EncodeChar := by
    simp [lit,String.toUTF8,List.utf8Encode]
  rw [hbytes]
  clear hbytes
  induction l with
  | nil => rfl
  | cons c l ih =>
    rw [flatMap_cons,length_append,String.length_utf8EncodeChar,h c mem_cons_self,
      ih fun d hd => h d (mem_cons_of_mem c hd),length_cons]
    omega

theorem utf8Size_hexDigit {n : UInt8} (h : n<16) : (Char.ofNat (hexDigit n).toNat).utf8Size=1 := by
  have hall : ∀ k<16, (Char.ofNat (hexDigit k.toUInt8).toNat).utf8Size=1 := by decide
  have hn : n=n.toNat.toUInt8 := by simp
  rw [hn]
  exact hall n.toNat (UInt8.lt_iff_toNat_lt.mp h)

theorem length_generateToken (random : Vector UInt8 32) : (lit (generateToken random)).length=64 := by
  have hchars : ∀ c∈(hexEncode random.toList).map fun b => Char.ofNat b.toNat, c.utf8Size=1 := by
    intro c hc
    obtain ⟨b,hb,rfl⟩:=mem_map.mp hc
    obtain ⟨byte,-,hb⟩:=mem_flatMap.mp hb
    have hhigh : byte/16<16 := by
      rw [UInt8.lt_iff_toNat_lt,UInt8.toNat_div]
      have := byte.toNat_lt
      show byte.toNat/16<16
      omega
    have hlow : byte%16<16 := by
      rw [UInt8.lt_iff_toNat_lt,UInt8.toNat_mod]
      show byte.toNat%16<16
      omega
    simp only [mem_cons,not_mem_nil,or_false] at hb
    cases hb with
    | inl h =>
      rw [h]
      exact utf8Size_hexDigit hhigh
    | inr h =>
      rw [h]
      exact utf8Size_hexDigit hlow
  rw [generateToken,length_lit_ofList hchars,length_map,length_hexEncode,Vector.length_toList]

/-- The part of a session that only its slots change, and of a socket that its listeners change. -/
def Session.fixed (session : Session) : Session := {session with status := .pending}

def Socket.fixed (socket : Socket) : Url × Option ℕ := (socket.url,socket.peer)

structure Kept (s t : State) : Prop where
  sessions : ∀ obj, (t.sessions obj).map Session.fixed=(s.sessions obj).map Session.fixed
  sockets : ∀ ws, (t.sockets ws).map Socket.fixed=(s.sockets ws).map Socket.fixed
  active : ∀ id obj, t.activeSessions.load id=some obj → s.activeSessions.load id=some obj
  sent : ∀ dest source payload isBinary, (dest,.data source payload isBinary)∈t.sent →
    (dest,.data source payload isBinary)∈s.sent
  alive : t.crashed=s.crashed

variable {platform origins} {s t u : State} {ws obj : ℕ}

theorem Kept.refl (s : State) : Kept s s :=
  ⟨fun _ => rfl,fun _ => rfl,fun _ _ h => h,fun _ _ _ _ h => h,rfl⟩

theorem Kept.trans (h : Kept s t) (h' : Kept t u) : Kept s u where
  sessions obj := (h'.sessions obj).trans (h.sessions obj)
  sockets ws := (h'.sockets ws).trans (h.sockets ws)
  active id obj hactive := h.active id obj (h'.active id obj hactive)
  sent _ _ _ _ hsent := h.sent _ _ _ _ (h'.sent _ _ _ _ hsent)
  alive := h'.alive.trans h.alive

theorem kept_modifySocket (s : State) (ws : ℕ) {f : Socket → Socket} (hf : ∀ socket, (f socket).fixed=socket.fixed) :
    Kept s (s.modifySocket ws f) := by
  refine ⟨fun _ => rfl,fun other => ?_,fun _ _ h => h,fun _ _ _ _ h => h,rfl⟩
  unfold State.modifySocket
  by_cases hother : other=ws
  · subst hother
    have hcomp : Socket.fixed ∘ f=Socket.fixed := funext hf
    simp [Option.map_map,hcomp]
  · simp [hother]

theorem kept_modifySession (s : State) (obj : ℕ) {f : Session → Session} (hf : ∀ session, (f session).fixed=session.fixed) :
    Kept s (s.modifySession obj f) := by
  refine ⟨fun other => ?_,fun _ => rfl,fun _ _ h => h,fun _ _ _ _ h => h,rfl⟩
  unfold State.modifySession
  by_cases hother : other=obj
  · subst hother
    have hcomp : Session.fixed ∘ f=Session.fixed := funext hf
    simp [Option.map_map,hcomp]
  · simp [hother]

theorem kept_close (s : State) (ws : ℕ) : Kept s (s.close ws) := by
  apply kept_modifySocket
  intro socket
  split <;> rfl

theorem kept_closeAll (s : State) (wss : List ℕ) : Kept s (s.closeAll wss) := by
  induction wss generalizing s with
  | nil => exact Kept.refl s
  | cons ws wss ih => exact (kept_close s ws).trans (ih (s.close ws))

theorem kept_send (s : State) (ws : ℕ) {frame : Frame} (h : ∀ source payload isBinary, frame ≠ .data source payload isBinary) :
    Kept s (s.send ws frame) := by
  unfold State.send
  split
  · refine ⟨fun _ => rfl,fun _ => rfl,fun _ _ h => h,fun dest source payload isBinary hsent => ?_,rfl⟩
    cases mem_append.mp hsent with
    | inl hold => exact hold
    | inr hnew =>
      simp only [mem_singleton,Prod.mk.injEq] at hnew
      exact absurd hnew.2.symm (h source payload isBinary)
  · exact Kept.refl s

theorem kept_other (s : State) (now : ℤ) (onlineDevices : SyncMap String ℕ) (connectionsPerIp : String → ℕ)
    (pendingRequests : String → Bool) : Kept s {s with now,onlineDevices,connectionsPerIp,pendingRequests} :=
  ⟨fun _ => rfl,fun _ => rfl,fun _ _ h => h,fun _ _ _ _ h => h,rfl⟩

theorem kept_incIpCount (s : State) (ip : String) : Kept s (s.incIpCount ip) := kept_other s _ _ _ _

theorem kept_decIpCount (s : State) (ip : String) : Kept s (s.decIpCount ip) := kept_other s _ _ _ _

theorem kept_forget (s : State) (sessionId : String) :
    Kept s {s with activeSessions := s.activeSessions.delete sessionId} := by
  refine ⟨fun _ => rfl,fun _ => rfl,fun id obj h => ?_,fun _ _ _ _ h => h,rfl⟩
  by_cases hid : id=sessionId
  · subst hid
    simp at h
  · rwa [SyncMap.load_delete_of_ne _ hid] at h

theorem kept_teardownSession (s : State) (sessionId : String) : Kept s (teardownSession s sessionId) := by
  unfold teardownSession
  split
  · exact Kept.refl s
  · rename_i obj hload
    have hclosed : Kept s {s.modifySession obj ({ · with status := .closed}) with
        activeSessions := s.activeSessions.delete sessionId} :=
      (kept_modifySession s obj (f := fun session => {session with status := .closed}) fun _ => rfl).trans
        (kept_forget _ sessionId)
    cases s.sessions obj with
    | none => exact hclosed
    | some session => exact hclosed.trans (kept_closeAll _ _)

theorem kept_signalVerified (s : State) (ws : ℕ) (socket : Socket) (deviceId : String) (authed : Option Bool) :
    Kept s (signalVerified s ws socket deviceId authed) := by
  have hwaited:=kept_modifySocket s ws (f := fun socket => {socket with verifying := none}) fun _ => rfl
  unfold signalVerified
  refine hwaited.trans ?_
  generalize s.modifySocket ws ({ · with verifying := none})=t
  cases authed with
  | none => exact kept_close t ws
  | some authed =>
    cases authed with
    | false => exact kept_close t ws
    | true =>
      dsimp only
      split
      · exact kept_close t ws
      · refine (kept_incIpCount t socket.ip).trans ?_
        generalize t.incIpCount socket.ip=t
        have hreplaced : Kept t (match t.onlineDevices.load deviceId with
            | some existing => t.close existing
            | none => t) := by
          cases t.onlineDevices.load deviceId with
          | none => exact Kept.refl t
          | some existing => exact kept_close t existing
        generalize (match t.onlineDevices.load deviceId with
            | some existing => t.close existing
            | none => t)=t' at hreplaced ⊢
        have honline : Kept t' {t' with onlineDevices := t'.onlineDevices.store deviceId ws} := kept_other t' _ _ _ _
        have hdevice:=kept_modifySocket {t' with onlineDevices := t'.onlineDevices.store deviceId ws} ws
          (f := fun socket => {socket with device := some deviceId}) fun _ => rfl
        exact hreplaced.trans (honline.trans (hdevice.trans (kept_send _ ws fun _ _ _ h => nomatch h)))

theorem kept_handleSignalMessage (s : State) (deviceId : String) (ws : ℕ) (msg : Json) :
    Kept s (handleSignalMessage s deviceId ws msg) := by
  unfold handleSignalMessage
  dsimp only
  split
  · exact kept_send s ws fun _ _ _ h => nomatch h
  · split
    · exact Kept.refl s
    · split
      · exact kept_send s ws fun _ _ _ h => nomatch h
      · exact Kept.refl s
  · split
    · exact Kept.refl s
    · split
      · exact kept_teardownSession s _
      · exact Kept.refl s
  · split
    · exact Kept.refl s
    · exact kept_other s _ _ _ _
  · exact Kept.refl s

theorem kept_onGone (s : State) (ws : ℕ) (socket : Socket) : Kept s (onGone s ws socket) := by
  have hrelay : Kept s (if socket.relay.isSome then
      teardownSession (s.decIpCount socket.ip) ((socket.url.param "session").getD "") else s) := by
    split
    · exact (kept_decIpCount s socket.ip).trans (kept_teardownSession _ _)
    · exact Kept.refl s
  unfold onGone
  dsimp only
  generalize (if socket.relay.isSome then
      teardownSession (s.decIpCount socket.ip) ((socket.url.param "session").getD "") else s)=t at hrelay ⊢
  cases socket.device with
  | none => exact hrelay
  | some deviceId =>
    dsimp only
    refine hrelay.trans ((kept_decIpCount t socket.ip).trans ?_)
    split
    · exact kept_other _ _ _ _ _
    · exact Kept.refl _

theorem kept_cleanupSessions (s : State) : Kept s (cleanupSessions s) := by
  unfold cleanupSessions
  generalize List.filter _ _=expired
  have hexpired (s : State) : Kept s (expired.foldl (fun s e => teardownSession s e.1) s) := by
    induction expired generalizing s with
    | nil => exact Kept.refl s
    | cons e expired ih => exact (kept_teardownSession s e.1).trans (ih _)
  exact (hexpired s).trans (kept_other _ _ _ _ _)

theorem kept_requestFromDevice (s : State) (deviceId requestId : String) :
    Kept s (requestFromDevice s deviceId requestId) := by
  unfold requestFromDevice
  split
  · exact Kept.refl s
  · split
    · exact (kept_other s _ _ _ _).trans (kept_send _ _ fun _ _ _ h => nomatch h)
    · exact Kept.refl s

def Opposite (s : State) (a b : ℕ) : Prop :=
  ∃ obj session role, s.sessions obj=some session ∧ session.ws role=some a ∧ session.ws role.other=some b

structure Inv (s : State) : Prop where
  tokens : ∀ obj session role, s.sessions obj=some session → (lit (session.token role)).length=64
  active : ∀ id obj, s.activeSessions.load id=some obj → ∃ session, s.sessions obj=some session ∧ session.sessionId=id
  slots : ∀ obj session role ws, s.sessions obj=some session → session.ws role=some ws →
    ∃ socket, s.sockets ws=some socket ∧ Authenticated session role socket
  peers : ∀ ws socket peer, s.sockets ws=some socket → socket.peer=some peer → Opposite s ws peer
  sent : ∀ dest source payload isBinary, (dest,.data source payload isBinary)∈s.sent → Opposite s source dest

theorem Inv.paired (h : Inv s) {a b : ℕ} (hab : Opposite s a b) : Paired s a b := by
  obtain ⟨obj,session,role,hsession,ha,hb⟩:=hab
  obtain ⟨socketA,hsocketA,hauthA⟩:=h.slots obj session role a hsession ha
  obtain ⟨socketB,hsocketB,hauthB⟩:=h.slots obj session role.other b hsession hb
  exact ⟨obj,session,role,socketA,socketB,hsession,ha,hsocketA,hauthA,hb,hsocketB,hauthB⟩

theorem Inv.safe (h : Inv s) (halive : s.crashed=false) : Safe s :=
  ⟨halive,fun dest source payload isBinary hsent => h.paired (h.sent dest source payload isBinary hsent)⟩

theorem Opposite.symm {a b : ℕ} (h : Opposite s a b) : Opposite s b a := by
  obtain ⟨obj,session,role,hsession,ha,hb⟩:=h
  refine ⟨obj,session,role.other,hsession,hb,?_⟩
  cases role with
  | initiator => exact ha
  | target => exact ha

theorem fixed_ws {session session' : Session} (h : session'.fixed=session.fixed) (role : Role) :
    session'.ws role=session.ws role := by
  have hws:=congrArg (fun session => Session.ws session role) h
  cases role with
  | initiator => exact hws
  | target => exact hws

theorem fixed_token {session session' : Session} (h : session'.fixed=session.fixed) (role : Role) :
    session'.token role=session.token role := by
  have htoken:=congrArg (fun session => Session.token session role) h
  cases role with
  | initiator => exact htoken
  | target => exact htoken

theorem fixed_sessionId {session session' : Session} (h : session'.fixed=session.fixed) :
    session'.sessionId=session.sessionId := by
  have hid:=congrArg Session.sessionId h
  exact hid

theorem map_eq_some {α β : Type} {f : α → β} {x y : Option α} {a : α} (h : x.map f=y.map f) (hx : x=some a) :
    ∃ b, y=some b ∧ f a=f b := by
  rw [hx,map_some] at h
  obtain ⟨b,hb,hf⟩:=map_eq_some_iff.mp h.symm
  exact ⟨b,hb,hf.symm⟩

theorem Authenticated.of_fixed {session session' : Session} {socket socket' : Socket} {role : Role}
    (h : Authenticated session role socket) (hsession : session'.fixed=session.fixed) (hsocket : socket'.url=socket.url) :
    Authenticated session' role socket' := by
  refine ⟨?_,?_,?_⟩
  · rw [hsocket,fixed_sessionId hsession]
    exact h.ofSession
  · rw [hsocket]
    exact h.ofRole
  · rw [hsocket,fixed_token hsession]
    exact h.ofToken

theorem Kept.opposite (h : Kept s t) {a b : ℕ} (hab : Opposite s a b) : Opposite t a b := by
  obtain ⟨obj,session,role,hsession,ha,hb⟩:=hab
  obtain ⟨session',hsession',hfixed⟩:=map_eq_some (h.sessions obj).symm hsession
  refine ⟨obj,session',role,hsession',?_,?_⟩
  · rw [← fixed_ws hfixed,ha]
  · rw [← fixed_ws hfixed,hb]

theorem Kept.inv (h : Kept s t) (hinv : Inv s) : Inv t where
  tokens obj session' role hsession' := by
    obtain ⟨session,hsession,hfixed⟩:=map_eq_some (h.sessions obj) hsession'
    rw [fixed_token hfixed]
    exact hinv.tokens obj session role hsession
  active id obj hactive := by
    obtain ⟨session,hsession,hid⟩:=hinv.active id obj (h.active id obj hactive)
    obtain ⟨session',hsession',hfixed⟩:=map_eq_some (h.sessions obj).symm hsession
    exact ⟨session',hsession',(fixed_sessionId hfixed).symm.trans hid⟩
  slots obj session' role ws hsession' hws := by
    obtain ⟨session,hsession,hfixed⟩:=map_eq_some (h.sessions obj) hsession'
    rw [fixed_ws hfixed] at hws
    obtain ⟨socket,hsocket,hauth⟩:=hinv.slots obj session role ws hsession hws
    obtain ⟨socket',hsocket',hsame⟩:=map_eq_some (h.sockets ws).symm hsocket
    exact ⟨socket',hsocket',hauth.of_fixed hfixed (congrArg Prod.fst hsame).symm⟩
  peers ws socket' peer hsocket' hpeer := by
    obtain ⟨socket,hsocket,hsame⟩:=map_eq_some (h.sockets ws) hsocket'
    have hsamePeer : socket'.peer=socket.peer := congrArg Prod.snd hsame
    rw [hsamePeer] at hpeer
    exact h.opposite (hinv.peers ws socket peer hsocket hpeer)
  sent dest source payload isBinary hsent :=
    h.opposite (hinv.sent dest source payload isBinary (h.sent dest source payload isBinary hsent))

theorem inv_create (hinv : Inv s) (hnew : s.sessions obj=none) (sessionId initiatorId targetId : String)
    (random random' : Vector UInt8 32) :
    Inv (createRelaySession s obj sessionId initiatorId targetId random random') := by
  have hold {other : ℕ} {session : Session} (h : s.sessions other=some session) : other≠obj := fun heq => by
    rw [heq,hnew] at h
    cases h
  have hopposite {a b : ℕ} (h : Opposite s a b) :
      Opposite (createRelaySession s obj sessionId initiatorId targetId random random') a b := by
    obtain ⟨other,session,role,hsession,hab⟩:=h
    refine ⟨other,session,role,?_,hab⟩
    simp [createRelaySession,hold hsession,hsession]
  refine ⟨fun other session role hsession => ?_,fun id other hactive => ?_,fun other session role ws hsession hws => ?_,
    fun ws socket peer hsocket hpeer => hopposite (hinv.peers ws socket peer hsocket hpeer),
    fun dest source payload isBinary hsent => hopposite (hinv.sent dest source payload isBinary hsent)⟩
  · by_cases hother : other=obj
    · subst hother
      simp only [createRelaySession,update_self,some.injEq] at hsession
      subst hsession
      cases role with
      | initiator => exact length_generateToken random
      | target => exact length_generateToken random'
    · simp only [createRelaySession,update_of_ne hother] at hsession
      exact hinv.tokens other session role hsession
  · by_cases hid : id=sessionId
    · subst hid
      simp only [createRelaySession,SyncMap.load_store_self,some.injEq] at hactive
      subst hactive
      refine ⟨_,update_self _ _ _,rfl⟩
    · simp only [createRelaySession,SyncMap.load_store_of_ne _ _ hid] at hactive
      obtain ⟨session,hsession,hsame⟩:=hinv.active id other hactive
      refine ⟨session,?_,hsame⟩
      simp [createRelaySession,hold hsession,hsession]
  · by_cases hother : other=obj
    · subst hother
      simp only [createRelaySession,update_self,some.injEq] at hsession
      subst hsession
      cases role <;> cases hws
    · simp only [createRelaySession,update_of_ne hother] at hsession
      exact hinv.slots other session role ws hsession hws

theorem inv_opened (hinv : Inv s) (hnew : s.sockets ws=none) {socket : Socket} (hpeer : socket.peer=none) :
    Inv {s with sockets := update s.sockets ws (some socket)} := by
  refine ⟨hinv.tokens,hinv.active,fun obj session role ws' hsession hws' => ?_,fun ws' socket' peer hsocket' hpeer' => ?_,
    hinv.sent⟩
  · obtain ⟨socket',hsocket',hauth⟩:=hinv.slots obj session role ws' hsession hws'
    have hne : ws'≠ws := fun heq => by
      rw [heq,hnew] at hsocket'
      cases hsocket'
    refine ⟨socket',?_,hauth⟩
    simpa [hne] using hsocket'
  · by_cases hws : ws'=ws
    · subst hws
      simp only [update_self,some.injEq] at hsocket'
      subst hsocket'
      rw [hpeer] at hpeer'
      cases hpeer'
    · simp only [update_of_ne hws] at hsocket'
      exact hinv.peers ws' socket' peer hsocket' hpeer'

theorem attach_fields (session : Session) (role : Role) (ws : ℕ) :
    (session.attach role ws).sessionId=session.sessionId ∧ (∀ role', (session.attach role ws).token role'=session.token role') ∧
      (session.attach role ws).ws role=some ws ∧ (session.attach role ws).ws role.other=session.ws role.other := by
  cases role <;> exact ⟨rfl,fun role' => by cases role' <;> rfl,rfl,rfl⟩

theorem role_cases (role role' : Role) : role'=role ∨ role'=role.other := by
  cases role <;> cases role' <;> decide

theorem inv_takeSlot (hinv : Inv s) {session : Session} {role : Role} (hsession : s.sessions obj=some session)
    (hfree : session.ws role=none) {socket : Socket} (hsocket : s.sockets ws=some socket)
    (hauth : Authenticated session role socket) : Inv (s.modifySession obj fun _ => session.attach role ws) := by
  obtain ⟨hid,htoken,hself,hothers⟩:=attach_fields session role ws
  have hnew : (s.modifySession obj fun _ => session.attach role ws).sessions obj=some (session.attach role ws) := by
    simp [State.modifySession,hsession]
  have hold {other : ℕ} (hother : other≠obj) :
      (s.modifySession obj fun _ => session.attach role ws).sessions other=s.sessions other := by
    simp [State.modifySession,hother]
  have hauth' {role' : Role} {socket' : Socket} (h : Authenticated session role' socket') :
      Authenticated (session.attach role ws) role' socket' :=
    ⟨h.ofSession.trans (congrArg some hid.symm),h.ofRole,h.ofToken.trans (congrArg some (htoken role').symm)⟩
  have hkeep {role' : Role} {a : ℕ} (h : session.ws role'=some a) : (session.attach role ws).ws role'=some a := by
    rcases role_cases role role' with rfl | rfl
    · rw [hfree] at h
      cases h
    · rw [hothers,h]
  have hopposite {a b : ℕ} (h : Opposite s a b) : Opposite (s.modifySession obj fun _ => session.attach role ws) a b := by
    obtain ⟨other,session',role',hsession',ha,hb⟩:=h
    by_cases hother : other=obj
    · subst hother
      rw [hsession,some.injEq] at hsession'
      subst hsession'
      exact ⟨other,_,role',hnew,hkeep ha,hkeep hb⟩
    · exact ⟨other,session',role',(hold hother).trans hsession',ha,hb⟩
  refine ⟨fun other session' role' hsession' => ?_,fun id other hactive => ?_,
    fun other session' role' ws' hsession' hws' => ?_,
    fun ws' socket' peer hsocket' hpeer => hopposite (hinv.peers ws' socket' peer hsocket' hpeer),
    fun dest source payload isBinary hsent => hopposite (hinv.sent dest source payload isBinary hsent)⟩
  · by_cases hother : other=obj
    · subst hother
      rw [hnew,some.injEq] at hsession'
      subst hsession'
      rw [htoken]
      exact hinv.tokens other session role' hsession
    · rw [hold hother] at hsession'
      exact hinv.tokens other session' role' hsession'
  · obtain ⟨session',hsession',hsame⟩:=hinv.active id other hactive
    by_cases hother : other=obj
    · subst hother
      rw [hsession,some.injEq] at hsession'
      subst hsession'
      exact ⟨_,hnew,hid.trans hsame⟩
    · exact ⟨session',(hold hother).trans hsession',hsame⟩
  · by_cases hother : other=obj
    · subst hother
      rw [hnew,some.injEq] at hsession'
      subst hsession'
      rcases role_cases role role' with rfl | rfl
      · rw [hself,some.injEq] at hws'
        subst hws'
        exact ⟨socket,hsocket,hauth' hauth⟩
      · rw [hothers] at hws'
        obtain ⟨socket',hsocket',h⟩:=hinv.slots other session role.other ws' hsession hws'
        exact ⟨socket',hsocket',hauth' h⟩
    · rw [hold hother] at hsession'
      exact hinv.slots other session' role' ws' hsession' hws'

theorem inv_listen (hinv : Inv s) {peer : ℕ} (hopposite : Opposite s ws peer) :
    Inv (s.modifySocket ws ({ · with peer := some peer})) := by
  have hsockets {ws' : ℕ} {socket' : Socket}
      (h : (s.modifySocket ws ({ · with peer := some peer})).sockets ws'=some socket') :
      ∃ socket, s.sockets ws'=some socket ∧ socket'.url=socket.url ∧
        (socket'.peer=socket.peer ∨ ws'=ws ∧ socket'.peer=some peer) := by
    by_cases hws : ws'=ws
    · subst hws
      simp only [State.modifySocket,update_self] at h
      obtain ⟨socket,hsocket,rfl⟩:=map_eq_some_iff.mp h
      exact ⟨socket,hsocket,rfl,.inr ⟨rfl,rfl⟩⟩
    · simp only [State.modifySocket,update_of_ne hws] at h
      exact ⟨socket',h,rfl,.inl rfl⟩
  refine ⟨hinv.tokens,hinv.active,fun obj session role ws' hsession hws' => ?_,fun ws' socket' peer' hsocket' hpeer => ?_,
    hinv.sent⟩
  · obtain ⟨socket,hsocket,hauth⟩:=hinv.slots obj session role ws' hsession hws'
    by_cases hws : ws'=ws
    · subst hws
      refine ⟨{socket with peer := some peer},?_,⟨hauth.ofSession,hauth.ofRole,hauth.ofToken⟩⟩
      simp [State.modifySocket,hsocket]
    · refine ⟨socket,?_,hauth⟩
      simpa [State.modifySocket,hws] using hsocket
  · obtain ⟨socket,hsocket,-,hsame⟩:=hsockets hsocket'
    cases hsame with
    | inl hsame =>
      rw [hsame] at hpeer
      exact hinv.peers ws' socket peer' hsocket hpeer
    | inr hsame =>
      obtain ⟨rfl,hsame⟩:=hsame
      rw [hsame,some.injEq] at hpeer
      subst hpeer
      exact hopposite

theorem inv_activateRelay (hinv : Inv s) (sessionId : String) {wsA wsB : ℕ} (hopposite : Opposite s wsA wsB) :
    Inv (activateRelay s obj sessionId wsA wsB) := by
  have hactive:=kept_modifySession s obj (f := fun session => {session with status := .active}) fun _ => rfl
  have hpairedA := @kept_send (s.modifySession obj fun session => {session with status := .active}) wsA
    (.paired sessionId) fun _ _ _ h => nomatch h
  have hpairedB := @kept_send ((s.modifySession obj fun session => {session with status := .active}).send wsA
    (.paired sessionId)) wsB (.paired sessionId) fun _ _ _ h => nomatch h
  have hkept:=hactive.trans (hpairedA.trans hpairedB)
  unfold activateRelay
  exact inv_listen (inv_listen (hkept.inv hinv) (hkept.opposite hopposite)) (hkept.opposite hopposite).symm

theorem inv_attach (hinv : Inv s) {session : Session} {role : Role} (hsession : s.sessions obj=some session)
    {socket : Socket} (hsocket : s.sockets ws=some socket) (hauth : Authenticated session role socket)
    (sessionId ip : String) : Inv (attach s ws obj session sessionId ip role) := by
  have hcounted:=kept_incIpCount s ip
  have hinv':=hcounted.inv hinv
  unfold attach
  dsimp only
  cases hslot : session.ws role with
  | some other => exact ((kept_close _ ws).trans (kept_decIpCount _ ip)).inv hinv'
  | none =>
    have htaken := @inv_takeSlot _ ws obj hinv' _ _ hsession hslot _ hsocket hauth
    have hlistens (t : State) (ht : Inv t) : Inv (t.modifySocket ws fun socket => {socket with relay := some obj}) :=
      (kept_modifySocket t ws (f := fun socket => {socket with relay := some obj}) fun _ => rfl).inv ht
    simp only [isSome_none,Bool.false_eq_true,if_false]
    apply hlistens
    split
    · rename_i wsA wsB hA hB
      apply inv_activateRelay htaken
      refine ⟨obj,session.attach role ws,.initiator,?_,hA,hB⟩
      have hcount : (s.incIpCount ip).sessions obj=some session := hsession
      simp [State.modifySession,hcount]
    · exact htaken

theorem ofString_text {text : String} {role : Role} (h : Role.ofString text=some role) : text=role.text := by
  unfold Role.ofString at h
  split at h
  · rename_i htext
    cases h
    exact htext
  · split at h
    · rename_i htext
      cases h
      exact htext
    · cases h

theorem timingSafeEqual_ok {a b : Bytes} (h : a.length=b.length) : timingSafeEqual a b=.ok (decide (a=b)) := by
  unfold timingSafeEqual
  rw [if_neg (not_not.mpr h)]

theorem lit_inj {a b : String} (h : lit a=lit b) : a=b := by
  apply String.toByteArray_inj.mp
  apply ByteArray.ext
  exact Array.toList_inj.mp h

theorem some_of_getD {x : Option String} (h : x.getD ""≠"") : x=some (x.getD "") := by
  cases x with
  | none => exact absurd rfl h
  | some text => rfl

theorem send_crashed (s : State) (ws : ℕ) (frame : Frame) : (s.send ws frame).crashed=s.crashed := by
  unfold State.send
  split <;> rfl

theorem attach_crashed (session : Session) (sessionId ip : String) (role : Role) :
    (attach s ws obj session sessionId ip role).crashed=s.crashed := by
  unfold attach
  dsimp only
  split
  · rfl
  · split
    · unfold activateRelay State.modifySocket
      dsimp only
      rw [send_crashed,send_crashed]
      rfl
    · rfl

def Returns (s : State) (r : Except Thrown State) : Prop := ∃ t, r=.ok t ∧ Inv t ∧ t.crashed=s.crashed

theorem Kept.returns (h : Kept s t) (hinv : Inv s) : Returns s (.ok t) := ⟨t,rfl,h.inv hinv,h.alive⟩

theorem checkToken_spec (hinv : Inv s) {session : Session} (hsession : s.sessions obj=some session) {socket : Socket}
    (hsocket : s.sockets ws=some socket) {token : String} {role : Role} (ip : String)
    (hid : socket.url.param "session" = some session.sessionId) (hrole : socket.url.param "role" = some role.text)
    (htoken : socket.url.param "token" = some token) :
    if (lit token).length=64 then Returns s (checkToken s ws obj session session.sessionId token ip role)
    else checkToken s ws obj session session.sessionId token ip role=.error .timingSafeEqualLength := by
  have hexpected:=hinv.tokens obj session role hsession
  unfold checkToken
  split
  · rename_i hlength
    rw [timingSafeEqual_ok (hlength.trans hexpected.symm)]
    by_cases hsame : lit token=lit (session.token role)
    · rw [decide_eq_true hsame]
      dsimp only
      split
      · exact ((kept_forget s session.sessionId).trans (kept_close _ ws)).returns hinv
      · have hauth : Authenticated session role socket := by
          refine ⟨hid,hrole,?_⟩
          rw [htoken,lit_inj hsame]
        exact ⟨_,rfl,inv_attach hinv hsession hsocket hauth _ _,attach_crashed _ _ _ _⟩
    · rw [decide_eq_false hsame]
      exact (kept_close s ws).returns hinv
  · rename_i hlength
    unfold timingSafeEqual
    rw [if_pos (by rw [hexpected]; exact hlength)]

theorem handleRelayConnection_spec (hinv : Inv s) {url : Url} {ip : String} {socket : Socket}
    (hsocket : s.sockets ws=some socket) (hurl : socket.url=url) :
    (TokenFits s url ip → Returns s (handleRelayConnection s ws url ip)) ∧
      (¬ TokenFits s url ip → ∃ e, handleRelayConnection s ws url ip=.error e) := by
  have hreturns (hfits : TokenFits s url ip) :
      (TokenFits s url ip → Returns s (.ok (s.close ws))) ∧
        (¬ TokenFits s url ip → ∃ e : Thrown, Except.ok (s.close ws)=.error e) :=
    ⟨fun _ => (kept_close s ws).returns hinv,fun hnot => absurd hfits hnot⟩
  unfold handleRelayConnection
  dsimp only
  cases hrole : Role.ofString ((url.param "role").getD "") with
  | none => exact hreturns fun _ _ _ _ _ _ hvalid => absurd hrole hvalid
  | some role =>
    dsimp only
    split
    · rename_i hparams
      refine hreturns fun sessionId token hsession hne htoken hne' => ?_
      rw [hsession,htoken] at hparams
      cases hparams with
      | inl h => exact absurd h hne
      | inr h => exact absurd h hne'
    · rename_i hparams
      split
      · rename_i hlimit
        exact hreturns fun _ _ _ _ _ _ _ hbelow => absurd hlimit (Nat.not_le.mpr hbelow)
      · rename_i hlimit
        obtain ⟨hsessionNe,htokenNe⟩:=not_or.mp hparams
        have hsessionParam:=some_of_getD hsessionNe
        have htokenParam:=some_of_getD htokenNe
        split
        · rename_i hload
          refine hreturns fun sessionId token hsession _ _ _ _ _ hfound => ?_
          rw [hsession,getD_some] at hload
          rw [hload] at hfound
          cases hfound
        · rename_i obj hload
          obtain ⟨session,hsession,hid⟩:=hinv.active _ obj hload
          rw [hsession]
          dsimp only
          have hroleText:=ofString_text hrole
          have hroleNe : (url.param "role").getD ""≠"" := by
            rw [hroleText]
            cases role <;> decide
          have hspec := @checkToken_spec _ ws _ hinv _ hsession _ hsocket ((url.param "token").getD "") role ip
            (by rw [hurl,hid]; exact hsessionParam) (by rw [hurl,← hroleText]; exact some_of_getD hroleNe)
            (by rw [hurl]; exact htokenParam)
          rw [hid] at hspec
          have hfits : TokenFits s url ip ↔ (lit ((url.param "token").getD "")).length=64 := by
            constructor
            · intro h
              refine h _ _ hsessionParam hsessionNe htokenParam htokenNe ?_ (Nat.not_le.mp hlimit) ?_
              · rw [hrole]
                exact some_ne_none role
              · rw [hload]
                rfl
            · intro h sessionId token _ _ htoken _ _ _ _
              rwa [htoken,getD_some] at h
          rw [hfits]
          split at hspec
          · rename_i hlength
            exact ⟨fun _ => hspec,fun hnot => absurd hlength hnot⟩
          · rename_i hlength
            exact ⟨fun h => absurd h hlength,fun _ => ⟨_,hspec⟩⟩

theorem kept_handleSignalConnection (s : State) (ws : ℕ) (url : Url) : Kept s (handleSignalConnection s ws url) := by
  unfold handleSignalConnection
  dsimp only
  split
  · exact kept_close s ws
  · split
    · exact kept_close s ws
    · exact kept_modifySocket s ws (f := fun socket => {socket with verifying := _}) fun _ => rfl

theorem handleUpgrade_spec (hinv : Inv s) (hnew : s.sockets ws=none) (req : Request) (handshake : Bool) :
    (RequestFits platform origins s req handshake → Returns s (handleUpgrade platform origins s ws req handshake)) ∧
      (¬ RequestFits platform origins s req handshake →
        ∃ e, handleUpgrade platform origins s ws req handshake=.error e) := by
  have hreturns (hfits : RequestFits platform origins s req handshake) :
      (RequestFits platform origins s req handshake → Returns s (.ok s)) ∧
        (¬ RequestFits platform origins s req handshake → ∃ e : Thrown, Except.ok s=.error e) :=
    ⟨fun _ => (Kept.refl s).returns hinv,fun hnot => absurd hfits hnot⟩
  unfold handleUpgrade
  split
  · rename_i hrouter
    refine hreturns fun routed hrouted => ?_
    rw [hrouter] at hrouted
    cases hrouted
  · rename_i routed hrouter
    split
    · rename_i hother
      refine hreturns fun routed' hrouted hpath => ?_
      rw [hrouter] at hrouted
      cases hrouted
      cases hpath with
      | inl h => exact absurd h hother.1
      | inr h => exact absurd h hother.2
    · rename_i hpath
      have hpath' : routed.pathname="/ws/bd-relay" ∨ routed.pathname="/ws/bd-signal" := by
        by_contra h
        exact hpath (not_or.mp h)
      split
      · rename_i hparse
        refine ⟨fun hfits => ?_,fun _ => ⟨_,rfl⟩⟩
        obtain ⟨url,hurl,-⟩:=hfits routed hrouter hpath'
        rw [hparse] at hurl
        cases hurl
      · rename_i url hparse
        have hfits_of (h : validateOrigin origins req=true → handshake=true → url.pathname="/ws/bd-relay" →
            TokenFits s url (clientIp req)) : RequestFits platform origins s req handshake :=
          fun _ _ _ => ⟨url,hparse,h⟩
        split
        · rename_i hrefused
          refine hreturns (hfits_of fun horigin hhandshake => ?_)
          simp [horigin,hhandshake] at hrefused
        · rename_i hadmitted
          have horigin : validateOrigin origins req=true ∧ handshake=true := by
            simpa using hadmitted
          have hopened := @inv_opened _ ws hinv hnew ⟨url,clientIp req,.opened,none,none,none,none⟩ rfl
          dsimp only
          split
          · rename_i hrelay
            have hspec := @handleRelayConnection_spec _ ws hopened _ (clientIp req) _ (update_self ws _ _) rfl
            have hiff : RequestFits platform origins s req handshake ↔ TokenFits s url (clientIp req) := by
              constructor
              · intro hfits
                obtain ⟨url',hurl',hfit⟩:=hfits routed hrouter hpath'
                rw [hparse] at hurl'
                cases hurl'
                exact hfit horigin.1 horigin.2 hrelay
              · intro hfit
                exact hfits_of fun _ _ _ => hfit
            rw [hiff]
            exact hspec
          · rename_i hnotRelay
            have hfits:=hfits_of fun _ _ hrelay => absurd hrelay hnotRelay
            refine ⟨fun _ => ?_,fun hnot => absurd hfits hnot⟩
            split
            · obtain ⟨t,ht,hinvt,halive⟩:=(kept_handleSignalConnection _ ws url).returns hopened
              exact ⟨t,ht,hinvt,halive⟩
            · exact (Kept.refl s).returns hinv

theorem inv_onMessage (hinv : Inv s) {socket : Socket} (hsocket : s.sockets ws=some socket) (data : Bytes)
    (isBinary : Bool) : Returns s (.ok (onMessage platform s ws socket data isBinary)) := by
  have hforward : Returns s (.ok (match socket.peer with
      | none => s
      | some peer => s.send peer (.data ws data isBinary))) := by
    cases hpeer : socket.peer with
    | none => exact (Kept.refl s).returns hinv
    | some peer =>
      have hopposite:=hinv.peers ws socket peer hsocket hpeer
      unfold State.send
      dsimp only
      split
      · refine ⟨_,rfl,⟨hinv.tokens,hinv.active,hinv.slots,hinv.peers,fun dest source payload isBinary' hsent => ?_⟩,rfl⟩
        cases mem_append.mp hsent with
        | inl hold => exact hinv.sent dest source payload isBinary' hold
        | inr hnew =>
          simp only [mem_singleton,Prod.mk.injEq,Frame.data.injEq] at hnew
          rw [hnew.1,hnew.2.1]
          exact hopposite
      · exact (Kept.refl s).returns hinv
  obtain ⟨t,ht,hinvt,halive⟩:=hforward
  unfold onMessage
  simp only [Except.ok.injEq] at ht
  rw [ht]
  have hkept : Kept t (match socket.device with
      | none => t
      | some deviceId => match platform.parseJson data with
        | none => t
        | some msg => handleSignalMessage t deviceId ws msg) := by
    split
    · exact Kept.refl t
    · split
      · exact Kept.refl t
      · exact kept_handleSignalMessage t _ ws _
  exact ⟨_,rfl,hkept.inv hinvt,hkept.alive.trans halive⟩

theorem handle_returns (hinv : Inv s) {e : Event} (hfresh : fresh s e=true) (hok : StepOk platform origins s e) :
    Returns s (handle platform origins s e) := by
  cases e with
  | tick ms => exact (kept_other s (s.now+ms) s.onlineDevices s.connectionsPerIp s.pendingRequests).returns hinv
  | create obj sessionId initiatorId targetId random random' =>
    exact ⟨_,rfl,inv_create hinv (isNone_iff_eq_none.mp hfresh) _ _ _ _ _,rfl⟩
  | cancel sessionId => exact (kept_forget s sessionId).returns hinv
  | upgrade ws req handshake =>
    have hnew:=isNone_iff_eq_none.mp hfresh
    exact (handleUpgrade_spec hinv hnew req handshake).1 (hok hnew)
  | verified ws authed =>
    simp only [handle]
    split
    · exact (Kept.refl s).returns hinv
    · split
      · exact (Kept.refl s).returns hinv
      · exact (kept_signalVerified s ws _ _ authed).returns hinv
  | message ws data isBinary =>
    simp only [handle]
    split
    · exact (Kept.refl s).returns hinv
    · rename_i socket hsocket
      split
      · exact (Kept.refl s).returns hinv
      · exact inv_onMessage hinv hsocket data isBinary
  | close ws =>
    simp only [handle]
    split
    · exact (Kept.refl s).returns hinv
    · split
      · exact (Kept.refl s).returns hinv
      · have hclosed:=kept_modifySocket s ws (f := fun socket => {socket with ready := .closed}) fun _ => rfl
        exact (hclosed.trans (kept_onGone _ ws _)).returns hinv
  | error ws =>
    simp only [handle]
    split
    · exact (Kept.refl s).returns hinv
    · rename_i socket hsocket
      split
      · exact (Kept.refl s).returns hinv
      · rename_i hready
        rw [(hok socket hsocket).resolve_left hready]
        exact ((kept_close s ws).trans (kept_onGone _ ws _)).returns hinv
  | slotTimer ws =>
    simp only [handle]
    split
    · exact (Kept.refl s).returns hinv
    · split
      · exact (Kept.refl s).returns hinv
      · unfold slotTimer
        split
        · exact (kept_teardownSession s _).returns hinv
        · exact (Kept.refl s).returns hinv
  | idleTimer obj =>
    simp only [handle]
    split
    · exact (Kept.refl s).returns hinv
    · split
      · exact (Kept.refl s).returns hinv
      · exact (kept_teardownSession s _).returns hinv
  | cleanup => exact (kept_cleanupSessions s).returns hinv
  | request deviceId requestId => exact (kept_requestFromDevice s deviceId requestId).returns hinv
  | requestTimeout requestId => exact (kept_other s s.now s.onlineDevices s.connectionsPerIp _).returns hinv

theorem inv_start : Inv start := by
  refine ⟨fun _ _ _ h => ?_,fun _ _ h => ?_,fun _ _ _ _ h => ?_,fun _ _ _ h => ?_,fun _ _ _ _ h => ?_⟩ <;> cases h

theorem not_ok_throws (hinv : Inv s) {e : Event} (hnot : ¬ StepOk platform origins s e) :
    fresh s e=true ∧ ∃ thrown, handle platform origins s e=.error thrown := by
  cases e with
  | upgrade ws req handshake =>
    obtain ⟨hnew,hfits⟩:=Classical.not_imp.mp hnot
    exact ⟨isNone_iff_eq_none.mpr hnew,(handleUpgrade_spec hinv hnew req handshake).2 hfits⟩
  | error ws =>
    simp only [StepOk,not_forall,not_or,Bool.not_eq_true] at hnot
    obtain ⟨socket,hsocket,hready,hlistens⟩:=hnot
    exact ⟨rfl,.unhandledError,by simp [handle,hsocket,hready,hlistens]⟩
  | _ => exact absurd trivial hnot

theorem inv_step (hinv : Inv s) (e : Event) (ht : step platform origins s e=some t) : Inv t := by
  unfold step at ht
  split at ht
  · cases ht
  · rename_i hrun
    have hfresh : fresh s e=true := by
      simp only [Bool.or_eq_true,Bool.not_eq_true',not_or,Bool.not_eq_false] at hrun
      exact hrun.2
    by_cases hok : StepOk platform origins s e
    · obtain ⟨u,hu,hinvu,-⟩:=handle_returns hinv hfresh hok
      rw [hu] at ht
      cases ht
      exact hinvu
    · obtain ⟨-,thrown,hthrown⟩:=not_ok_throws hinv hok
      rw [hthrown] at ht
      cases ht
      exact ⟨hinv.tokens,hinv.active,hinv.slots,hinv.peers,hinv.sent⟩

theorem safe_step_iff (hinv : Inv s) (hsafe : Safe s) (e : Event) :
    (∀ t, step platform origins s e=some t → Safe t) ↔ StepOk platform origins s e := by
  constructor
  · intro h
    by_contra hnot
    obtain ⟨hfresh,thrown,hthrown⟩:=not_ok_throws hinv hnot
    have hcrash : step platform origins s e=some {s with crashed := true} := by
      unfold step
      rw [hthrown,hsafe.alive,hfresh]
      rfl
    have halive:=(h _ hcrash).alive
    cases halive
  · intro hok t ht
    have hinvt:=inv_step hinv e ht
    refine hinvt.safe ?_
    unfold step at ht
    split at ht
    · cases ht
    · rename_i hrun
      have hfresh : fresh s e=true := by
        simp only [Bool.or_eq_true,Bool.not_eq_true',not_or,Bool.not_eq_false] at hrun
        exact hrun.2
      obtain ⟨u,hu,-,halive⟩:=handle_returns hinv hfresh hok
      rw [hu] at ht
      cases ht
      exact halive.trans hsafe.alive

/-- No handler throws in a run, and every message stays between the two authenticated sockets of its
session, exactly when no request has a URL that only the router can parse, no connection brings
a token of another length to an existing session, and none fails that has no listener for it. -/
theorem relay_safe_iff (platform : Platform) (origins : OriginPolicy) (es : List Event) :
    (∀ pre, pre <+: es → ∀ s, exec (step platform origins) start pre=some s → Safe s) ↔
      Along (step platform origins) (StepOk platform origins) start es := by
  rw [along_reached_iff (inv_start.safe rfl)]
  apply along_iff_of_keep (fun s => Inv s ∧ Safe s)
  · intro s e t hs hsafe ht
    exact ⟨inv_step hs.1 e ht,hsafe t ht⟩
  · intro s e hs
    exact safe_step_iff hs.1 hs.2 e
  · exact ⟨inv_start,inv_start.safe rfl⟩

/-- The platform's answers for the two requests below: a base without a host is no URL. -/
def answers : Platform where
  newUrl input base :=
    if base="http://" then none
    else if input="/ws/bd-relay?session=s1&token=short&role=initiator" then
      some ⟨"/ws/bd-relay",[("session","s1"),("token","short"),("role","initiator")]⟩
    else if input="/ws/bd-signal" then some ⟨"/ws/bd-signal",[]⟩
    else none
  parseJson _ := none

def noOrigins : OriginPolicy := ⟨[],false⟩

def request (url host : String) : Request := ⟨url,some host,none,none,none,some "192.0.2.1"⟩

def shortToken : List Event :=
  [.create 0 "s1" "alice" "bob" (Vector.replicate 32 0) (Vector.replicate 32 1),
    .upgrade 0 (request "/ws/bd-relay?session=s1&token=short&role=initiator" "console.example") true]

def emptyHost : List Event := [.upgrade 0 (request "/ws/bd-signal" "") true]

/-- A signal connection without parameters is being closed when it sends a broken frame. -/
def brokenFrame : List Event := [.upgrade 0 (request "/ws/bd-signal" "console.example") true,.error 0]

theorem requests_end_the_console :
    ¬ (∀ (platform : Platform) (origins : OriginPolicy) (es : List Event) (s : State),
      exec (step platform origins) start es=some s → Safe s) ∧
    (exec (step answers noOrigins) start shortToken).any (·.crashed)=true ∧
    (exec (step answers noOrigins) start emptyHost).any (·.crashed)=true ∧
    (exec (step answers noOrigins) start brokenFrame).any (·.crashed)=true := by
  have hshort : (exec (step answers noOrigins) start shortToken).any (·.crashed)=true := by decide
  refine ⟨fun h => ?_,hshort,by decide,by decide⟩
  obtain ⟨s,hs,hcrashed⟩:=(any_eq_true _ _).mp hshort
  have halive:=(h answers noOrigins shortToken s hs).alive
  rw [halive] at hcrashed
  cases hcrashed

end BetterDesk.Panel.BdRelay
