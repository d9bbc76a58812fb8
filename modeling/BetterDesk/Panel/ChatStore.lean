import BetterDesk.Panel.DeviceGroups

/-! # Chat on the Go server (api/chat_handlers.go, db/sqlite.go) -/

namespace BetterDesk.Panel.Chat
open DeviceGroups (splitComma)

/-- A row of `chat_messages`. -/
structure ChatMessage where
  id : ℕ
  conversationId : String
  fromId : String
  fromName : String
  toId : String
  text : String
  read : Bool
  createdAt : ℕ
deriving DecidableEq

/-- A row of `chat_groups`; `tag` is what the server draws for its id. -/
structure ChatGroup where
  tag : String
  name : String
  members : String
  createdBy : String
  createdAt : ℕ
deriving DecidableEq

def ChatGroup.id (g : ChatGroup) : String := "group:" ++ g.tag

def ChatGroup.memberIds (g : ChatGroup) : List String := splitComma g.members

structure PeerRow where
  id : String
  hostname : String
  online : Bool
  lastOnline : ℕ

structure Contact where
  id : String
  name : String
  hostname : String
  online : Bool
  lastSeen : ℕ
  unread : ℕ
  role : String
deriving DecidableEq

/-- `operators` are the accounts that may chat. -/
structure Store where
  messages : List ChatMessage
  lastId : ℕ
  groups : List ChatGroup
  peers : List PeerRow
  operators : List String

namespace Store
variable (store : Store)

def getChatHistory (conversationId : String) : List ChatMessage :=
  ((store.messages.filter fun m => m.conversationId=conversationId).reverse.take 100).reverse

def countsAsUnread (deviceId : String) (m : ChatMessage) : Bool :=
  (m.conversationId=deviceId||m.toId=deviceId)&&m.fromId≠deviceId&&!m.read

def getUnreadCount (deviceId : String) : ℕ := store.messages.countP (countsAsUnread deviceId)

def handleChatContacts (deviceId : String) : List Contact :=
  ((store.peers.filter fun p => p.id≠deviceId).map fun p =>
    { id := p.id
      name := if p.hostname="" then p.id else p.hostname
      hostname := p.hostname
      online := p.online
      lastSeen := p.lastOnline
      unread := store.getUnreadCount deviceId
      role := "device"}) ++
  store.operators.map fun name =>
    { id := "operator:" ++ name
      name := name
      hostname := "Console"
      online := true
      lastSeen := 0
      unread := 0
      role := "operator"}

/-- `LIKE`: `%` stands for any text, `_` for any character, and letters have no case. -/
def like : List Char → List Char → Bool
  | [], t => t=[]
  | p::pattern, t =>
    if p = '%' then t.tails.any (like pattern)
    else match t with
      | [] => false
      | ch::rest => (p = '_'||p.toLower=ch.toLower)&&like pattern rest

def listChatGroups (memberId : String) : List ChatGroup :=
  store.groups.filter fun g => like ('%' :: memberId.toList++['%']) g.members.toList

def saveChatMessage (conversationId fromId fromName toId text : String) (now : ℕ) : Store :=
  { store with
    messages := store.messages ++
      [⟨store.lastId+1,conversationId,fromId,fromName,toId,text,false,now⟩]
    lastId := store.lastId+1}

def markMessage (conversationId readerId : String) (m : ChatMessage) : ChatMessage :=
  if m.conversationId=conversationId ∧ m.fromId≠readerId then {m with read := true} else m

def markChatRead (conversationId readerId : String) : Store :=
  {store with messages := store.messages.map (markMessage conversationId readerId)}

def createChatGroup (g : ChatGroup) : Store := {store with groups := store.groups++[g]}

def setGroups (groups : List ChatGroup) : Store := {store with groups}

def setDirectory (peers : List PeerRow) (operators : List String) : Store := {store with peers,operators}

end Store

end BetterDesk.Panel.Chat
