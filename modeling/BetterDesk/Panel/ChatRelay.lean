import BetterDesk.Lib.Exec
import BetterDesk.Panel.ChatStore

/-! # The chat relay of the console (services/chatRelay.js) -/

namespace BetterDesk.Panel.Chat

abbrev Ws := ℕ

/-- A field of a frame: what is falsy, a text, or any other value with the text that it prints as. -/
inductive Value where
  | falsy
  | str (s : String)
  | other (shown : String)
deriving DecidableEq

def Value.truthy : Value → Bool
  | .falsy => false
  | .str s => s≠""
  | .other _ => true

/-- `v || s`. -/
def Value.orElse (v : Value) (s : String) : Value := if v.truthy then v else .str s

/-- `String(v)`. -/
def Value.shown : Value → String
  | .falsy => ""
  | .str s => s
  | .other shown => shown

inductive Talk where
  | message | typing | keyExchange | readReceipt | fileShare
deriving DecidableEq

/-- What is passed on; `payload` is the text, the key, the ids of the messages or the file. -/
structure Said where
  type : Talk
  from_ : String
  fromName : Value
  operator : Option String
  conversationId : Value
  toId : String
  payload : String
  timestamp : ℕ
deriving DecidableEq

inductive ClientFrame where
  | hello
  | said (type : Talk) (conversationId fromName : Value) (payload : String)
  | getContacts (deviceId : Value)
  | getGroups (deviceId : Value)
  | getHistory (conversationId : Value)
  | markRead (conversationId : Value)
  | createGroup (name : String) (memberIds : Option (List String))
  | presenceUpdate (online : Bool) (status : String)
  | unknown

/-- A frame of the relay. `of` is whose history or list it is, which its text need not tell. -/
inductive Frame where
  | welcome (deviceId : String) (serverTime : ℕ)
  | status (deviceId : Option String) (agentConnected : Bool)
  | presence (deviceId : String) (online : Bool) (status : String) (timestamp : ℕ)
  | said (m : Said)
  | history (of : String) (conversationId : Value) (messages : List ChatMessage)
  | memory (conversationId : Value) (messages : List Said)
  | contacts (of : String) (contacts : List Contact)
  | groups (groups : List ChatGroup)
  | groupCreated (group : ChatGroup)
deriving DecidableEq

structure Room where
  agentWs : Option Ws
  operatorWss : List Ws
  messages : List Said

def Room.empty : Room := ⟨none,[],[]⟩

def historyLimit : ℕ := 500

def Room.append (room : Room) (m : Said) : Room :=
  {room with messages := (room.messages++[m]).drop ((room.messages++[m]).length-historyLimit)}

inductive Role where
  | agent | operator
deriving DecidableEq

inductive Ready where
  | open | closing | closed
deriving DecidableEq

/-- `device` is that of the path; that of an agent has been checked against its token. -/
structure Socket where
  role : Role
  device : String
  name : String
  ready : Ready

inductive Request where
  | history (conversationId : String)
  | contacts (deviceId : String)
  | groups (memberId : String)
  | save (m : Said)
  | mark (conversationId : Value) (readerId : String)
  | create (name : String) (members : List String) (createdBy : String)

/-- What is sent to the asker when a request fails or gives nothing: the messages of the room,
without or with the id of the conversation, the support contact, or the agents that are known. -/
inductive Fallback where
  | nothing | memory | conversation | support | known
deriving DecidableEq

/-- A request under way for a socket, `shown` being the conversation of its answer. -/
structure Pending where
  ws : Ws
  device : String
  request : Request
  shown : Value
  fallback : Fallback
  author : Option String

inductive Act where
  | sent (ws : Ws) (frame : Frame)
  | saved (conversationId fromId : String)
  | marked (conversationId readerId : String)
  | created (createdBy : String)
deriving DecidableEq

structure Entry where
  groups : List ChatGroup
  receiver : Option String
  author : Option String
  act : Act

structure State where
  rooms : List (String × Room)
  panelOperators : List Ws
  sockets : Ws → Option Socket
  pending : List Pending
  store : Store
  log : List Entry

def State.start (store : Store) : State := ⟨[],[],fun _ => none,[],store,[]⟩

namespace State
variable (s : State)

def room (device : String) : Option Room := (s.rooms.find? fun e => e.1=device).map Prod.snd

def roomOf : Value → Option Room
  | .str device => s.room device
  | _ => none

def getRoom (device : String) : Room := (s.room device).getD .empty

def putRoom : List (String × Room) → String → Room → List (String × Room)
  | [], device, room => [(device,room)]
  | (k,r)::rest, device, room =>
    if k=device then (k,room)::rest else (k,r)::putRoom rest device room

def setRoom (device : String) (room : Room) : State := {s with rooms := putRoom s.rooms device room}

def setSocket (ws : Ws) (socket : Socket) : State :=
  {s with sockets := Function.update s.sockets ws (some socket)}

def setPanel (panelOperators : List Ws) : State := {s with panelOperators}

def setPending (pending : List Pending) : State := {s with pending}

def setStore (store : Store) : State := {s with store}

def isOpen (ws : Ws) : Bool := (s.sockets ws).any fun socket => socket.ready=.open

def agentOf (ws : Ws) : Option String :=
  (s.sockets ws).bind fun socket => if socket.role=.agent then some socket.device else none

def entry (author : Option String) (ws : Ws) (frame : Frame) : Entry :=
  ⟨s.store.groups,s.agentOf ws,author,.sent ws frame⟩

def record (entries : List Entry) : State := {s with log := s.log++entries}

def sendTo (ws : Ws) (frame : Frame) : State :=
  if s.isOpen ws then s.record [s.entry none ws frame] else s

def ask (p : Pending) : State := s.setPending (s.pending++[p])

/-- The sockets of a room that `broadcast` reaches. -/
def inRoom (room : Room) (excludeWs : Option Ws) : List Ws :=
  (room.agentWs.toList++room.operatorWss).filter fun ws => excludeWs≠some ws&&s.isOpen ws

/-- The sockets that `broadcastToPanelOperators` reaches. -/
def inPanel (excludeWs : Option Ws) (room : Option Room) : List Ws :=
  s.panelOperators.filter fun ws =>
    excludeWs≠some ws&&!(room.any fun r => ws∈r.operatorWss)&&s.isOpen ws

def sendAll (author : Option String) (receivers : List Ws) (frame : Frame) : State :=
  s.record (receivers.map fun ws => s.entry author ws frame)

def announce (device : String) (excludeWs : Option Ws) (connected : Bool) : State :=
  let room:=s.getRoom device
  let receivers:=s.inRoom room excludeWs
  let panel:=s.inPanel none (some room)
  (((s.sendAll (some device) receivers (.status none connected)).sendAll (some device) receivers
    (.presence device connected "" 0)).sendAll (some device) panel (.status (some device) connected)).sendAll
    (some device) panel (.presence device connected "" 0)

def closeOld : Option Ws → State
  | some ws =>
    match s.sockets ws with
    | some socket => if socket.ready=.closed then s else s.setSocket ws {socket with ready := .closing}
    | none => s
  | none => s

def handleAgentConnection (ws : Ws) (device : String) : State :=
  let room:=s.getRoom device
  let s:=(s.closeOld room.agentWs).setSocket ws ⟨.agent,device,"",.open⟩
  let s:=(s.setRoom device {room with agentWs := some ws}).announce device (some ws) true
  ((s.ask ⟨ws,device,.history device,.str device,.memory,none⟩).ask
    ⟨ws,device,.contacts device,.falsy,.support,none⟩).ask ⟨ws,device,.groups device,.falsy,.nothing,none⟩

def agentConversation (type : Talk) (device : String) : String :=
  match type with
  | .message | .typing | .fileShare => "operator"
  | .keyExchange | .readReceipt => device

def agentSaid (device : String) (type : Talk) (conversationId fromName : Value) (payload : String) (now : ℕ) : Said :=
  { type
    from_ := device
    fromName := fromName.orElse device
    operator := none
    conversationId := conversationId.orElse (agentConversation type device)
    toId := ""
    payload
    timestamp := now}

def agentReceivers (ws : Ws) (device : String) : List Ws :=
  s.inRoom (s.getRoom device) (some ws)++s.inPanel (some ws) (some (s.getRoom device))

def agentSays (ws : Ws) (m : Said) : State :=
  let device:=m.from_
  let s' := if m.type=.message then s.setRoom device ((s.getRoom device).append m) else s
  let s':=s'.sendAll (some device) (s.agentReceivers ws device) (.said m)
  if m.type=.message then s'.ask ⟨ws,device,.save m,.falsy,.nothing,some device⟩ else s'

def agentFrame (ws : Ws) (device : String) (frame : ClientFrame) (now : ℕ) : State :=
  match frame with
  | .hello => s.sendTo ws (.welcome device now)
  | .said type conversationId fromName payload =>
    let s:=s.agentSays ws (agentSaid device type conversationId fromName payload now)
    if type=.readReceipt ∧ conversationId.truthy then
      s.ask ⟨ws,device,.mark conversationId device,.falsy,.nothing,some device⟩
    else s
  | .getContacts deviceId => s.ask ⟨ws,device,.contacts (deviceId.orElse device).shown,.falsy,.known,none⟩
  | .getHistory conversationId =>
    s.ask ⟨ws,device,.history (conversationId.orElse device).shown,conversationId,.nothing,none⟩
  | .markRead conversationId =>
    if conversationId.truthy then s.ask ⟨ws,device,.mark conversationId device,.falsy,.nothing,some device⟩ else s
  | .createGroup name memberIds =>
    match memberIds with
    | some members =>
      if name≠"" then s.ask ⟨ws,device,.create name members device,.falsy,.nothing,some device⟩ else s
    | none => s
  | .presenceUpdate online status =>
    (s.sendAll (some device) (s.agentReceivers ws device) (.presence device online status now))
  | .getGroups _ | .unknown => s

def panel : String := "panel"

def handleOperatorConnection (ws : Ws) (device name : String) : State :=
  let room:=s.getRoom device
  let s:=(s.setSocket ws ⟨.operator,device,name,.open⟩).setRoom device
    {room with operatorWss := room.operatorWss++[ws]}
  let s := if device=panel then s.setPanel (s.panelOperators++[ws]) else s
  let s:=s.sendTo ws (.status none (room.agentWs.any s.isOpen))
  if device=panel then
    (s.ask ⟨ws,device,.contacts panel,.falsy,.known,none⟩).ask ⟨ws,device,.groups panel,.falsy,.nothing,none⟩
  else s.ask ⟨ws,device,.history device,.str device,.memory,none⟩

def operatorSaid (device name : String) (type : Talk) (conversationId : Value) (payload : String) (now : ℕ) : Said :=
  { type
    from_ := "operator"
    fromName := .str name
    operator := some name
    conversationId := conversationId.orElse device
    toId := (conversationId.orElse device).shown
    payload
    timestamp := now}

def targetRoom (device : String) (conversationId : Value) : Option Room :=
  if conversationId=.str device then none else s.roomOf conversationId

def operatorReceivers (ws : Ws) (device : String) (conversationId : Value) : List Ws :=
  match s.targetRoom device conversationId with
  | some room => s.inRoom room (some ws)
  | none => if device=panel then s.inPanel (some ws) none else s.inRoom (s.getRoom device) (some ws)

def keptIn (device : String) (conversationId : Value) : String :=
  match s.roomOf conversationId, conversationId with
  | some _, .str other => other
  | _, _ => device

def operatorSays (ws : Ws) (device : String) (m : Said) : State :=
  let kept:=s.keptIn device m.conversationId
  let s' := if m.type=.message then s.setRoom kept ((s.getRoom kept).append m) else s
  let s':=s'.sendAll none (s.operatorReceivers ws device m.conversationId) (.said m)
  if m.type=.message then
    (s'.sendTo ws (.said m)).ask ⟨ws,device,.save m,.falsy,.nothing,none⟩
  else s'

def operatorFrame (ws : Ws) (device name : String) (frame : ClientFrame) (now : ℕ) : State :=
  match frame with
  | .hello => s.sendTo ws (.welcome device now)
  | .said type conversationId _ payload =>
    let s:=s.operatorSays ws device (operatorSaid device name type conversationId payload now)
    if type=.readReceipt then
      s.ask ⟨ws,device,.mark (conversationId.orElse device) name,.falsy,.nothing,none⟩
    else s
  | .getContacts deviceId => s.ask ⟨ws,device,.contacts (deviceId.orElse device).shown,.falsy,.known,none⟩
  | .getGroups deviceId => s.ask ⟨ws,device,.groups (deviceId.orElse device).shown,.falsy,.nothing,none⟩
  | .getHistory conversationId =>
    s.ask ⟨ws,device,.history (conversationId.orElse device).shown,conversationId,
      if conversationId=.str device then .conversation else .nothing,none⟩
  | .markRead conversationId =>
    if conversationId.truthy then s.ask ⟨ws,device,.mark conversationId name,.falsy,.nothing,none⟩ else s
  | .createGroup title memberIds =>
    match memberIds with
    | some members =>
      if title≠"" then s.ask ⟨ws,device,.create title members name,.falsy,.nothing,none⟩ else s
    | none => s
  | .presenceUpdate online status =>
    s.sendAll none (if device=panel then s.inPanel (some ws) none else s.inRoom (s.getRoom device) (some ws))
      (.presence ("operator:" ++ name) online status now)
  | .unknown => s

def supportContact (now : ℕ) : Contact := ⟨"operator","Support","",true,now,0,"operator"⟩

def fallbackContacts (device : String) (now : ℕ) : List Contact :=
  supportContact now::(s.rooms.filter fun e => e.1≠device&&e.2.agentWs.any s.isOpen).map fun e =>
    ⟨e.1,e.1,"",true,now,0,""⟩

def done (author : Option String) (act : Act) : State := s.record [⟨s.store.groups,none,author,act⟩]

/-- What the server reads of a message: both names must be texts, and none of the rest empty. -/
def savable (m : Said) : Option (String × String) :=
  match m.conversationId, m.fromName with
  | .str conversationId, .str fromName =>
    if conversationId≠"" ∧ m.from_≠"" ∧ m.payload≠"" then some (conversationId,fromName) else none
  | _, _ => none

def saveMessage (author : Option String) (m : Said) (now : ℕ) : State :=
  match savable m with
  | some (conversationId,fromName) =>
    (s.setStore (s.store.saveChatMessage conversationId m.from_ fromName m.toId m.payload now)).done author
      (.saved conversationId m.from_)
  | none => s

def markRead (author : Option String) (conversationId : Value) (readerId : String) : State :=
  match conversationId with
  | .str c =>
    if c≠"" ∧ readerId≠"" then (s.setStore (s.store.markChatRead c readerId)).done author (.marked c readerId)
    else s
  | _ => s

def newGroup (name : String) (members : List String) (createdBy tag : String) (now : ℕ) : ChatGroup :=
  ⟨tag,name,String.intercalate "," members,createdBy,now⟩

def createGroup (p : Pending) (g : ChatGroup) : State :=
  (((s.setStore (s.store.createChatGroup g)).done p.author (.created g.createdBy)).sendTo p.ws (.groupCreated g)).ask
    ⟨p.ws,p.device,.groups p.device,.falsy,.nothing,none⟩

/-- A request is served, or fails; `tag` is for the id of a new group. -/
def answer (p : Pending) (ok : Bool) (tag : String) (now : ℕ) : State :=
  match p.request with
  | .history conversationId =>
    if ok then s.sendTo p.ws (.history conversationId p.shown (s.store.getChatHistory conversationId))
    else if p.fallback=.memory then s.sendTo p.ws (.memory .falsy (s.getRoom p.device).messages)
    else if p.fallback=.conversation then s.sendTo p.ws (.memory p.shown (s.getRoom p.device).messages)
    else s
  | .contacts deviceId =>
    let found := if ok then s.store.handleChatContacts deviceId else []
    if found≠[] then s.sendTo p.ws (.contacts deviceId found)
    else if p.fallback=.support then s.sendTo p.ws (.contacts p.device [supportContact now])
    else s.sendTo p.ws (.contacts p.device (s.fallbackContacts p.device now))
  | .groups memberId => if ok then s.sendTo p.ws (.groups (s.store.listChatGroups memberId)) else s
  | .save m => if ok then s.saveMessage p.author m now else s
  | .mark conversationId readerId => if ok then s.markRead p.author conversationId readerId else s
  | .create name members createdBy =>
    if ok ∧ members≠[] then s.createGroup p (newGroup name members createdBy tag now) else s

def closes (ws : Ws) (socket : Socket) : State :=
  let s:=s.setSocket ws {socket with ready := .closed}
  match socket.role with
  | .agent =>
    if (s.getRoom socket.device).agentWs=some ws then
      (s.setRoom socket.device {s.getRoom socket.device with agentWs := none}).announce socket.device none false
    else s
  | .operator =>
    let room:=s.getRoom socket.device
    (s.setRoom socket.device {room with operatorWss := room.operatorWss.filter (·≠ws)}).setPanel
      (s.panelOperators.filter (·≠ws))

end State

inductive Event where
  | agentConnects (ws : Ws) (device : String)
  | operatorConnects (ws : Ws) (device name : String)
  | frame (ws : Ws) (frame : ClientFrame) (now : ℕ)
  | answered (i : ℕ) (ok : Bool) (tag : String) (now : ℕ)
  | closes (ws : Ws)
  | groupsChange (groups : List ChatGroup)
  | directoryChanges (peers : List PeerRow) (operators : List String)

def step (s : State) : Event → Option State
  | .agentConnects ws device => if s.sockets ws=none then some (s.handleAgentConnection ws device) else none
  | .operatorConnects ws device name =>
    if s.sockets ws=none then some (s.handleOperatorConnection ws device name) else none
  | .frame ws frame now =>
    match s.sockets ws with
    | some socket =>
      if socket.ready=.closed then none
      else match socket.role with
        | .agent => some (s.agentFrame ws socket.device frame now)
        | .operator => some (s.operatorFrame ws socket.device socket.name frame now)
    | none => none
  | .answered i ok tag now =>
    (s.pending[i]?).map fun p => (s.setPending (s.pending.eraseIdx i)).answer p ok tag now
  | .closes ws =>
    match s.sockets ws with
    | some socket => if socket.ready=.closed then none else some (s.closes ws socket)
    | none => none
  | .groupsChange groups => some (s.setStore (s.store.setGroups groups))
  | .directoryChanges peers operators => some (s.setStore (s.store.setDirectory peers operators))

end BetterDesk.Panel.Chat
