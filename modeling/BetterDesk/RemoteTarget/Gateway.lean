import BetterDesk.Lib.Framing
import BetterDesk.Lib.Exec

/-! # The remote target gateway (api/remote_target_gateway.go) -/

namespace BetterDesk.RemoteTarget
open Text Framing

def remoteTargetMaxMessage : ℕ := 16777216

structure Target where
  protocol : Bytes
  host : Bytes
  port : ℕ
  username : Bytes
  credentialMode : String
  credentialCiphertext : String
  credentialNonce : String
  credentialKeyID : String

structure Instruction where
  opcode : Bytes
  args : List Bytes
  deriving DecidableEq

def Instruction.fields (i : Instruction) : List Bytes := i.opcode::i.args

/-- `parseGuacInstruction`: lengths count bytes. -/
def parseInstruction (data : Bytes) : Parsed Instruction :=
  match record (byteUnits remoteTargetMaxMessage) data with
  | .more => .more
  | .bad => .bad
  | .done [] _ => .bad
  | .done (opcode::args) rest => if opcode=[] then .bad else .done ⟨opcode,args⟩ rest

/-- The loop of `Feed`: what it returns, and the buffer it leaves. -/
def feedLoop : ℕ → List Instruction → Bytes → Option (List Instruction) × Bytes
  | 0, out, buffer => (some out,buffer)
  | fuel+1, out, buffer =>
    if buffer=[] then (some out,buffer)
    else match parseInstruction buffer with
      | .bad => (none,buffer)
      | .more => (some out,buffer)
      | .done i rest =>
        if remoteTargetMaxMessage<rest.length then (none,rest) else feedLoop fuel (out++[i]) rest

def feed (buffer data : Bytes) : Option (List Instruction) × Bytes :=
  feedLoop ((buffer++data).length+1) [] (buffer++data)

/-- `encodeGuacInstruction`: lengths count bytes. -/
def encodeInstruction (i : Instruction) : Bytes := encode List.length i.fields

def isHostName (name : Bytes) : Bool :=
  [lit "hostname",lit "host",lit "server"].contains (lowerBytes name)

def isPortName (name : Bytes) : Bool := lowerBytes name==lit "port"

/-- The value `connect` gets for the parameter `name`. -/
def rewriteArg (target : Target) (savedPassword name value : Bytes) : Bytes :=
  let lower:=lowerBytes name
  if isHostName name then target.host
  else if isPortName name then decimal target.port
  else if lower=lit "username" ∨ lower=lit "user" then
    if target.username≠[] then target.username else value
  else if lower=lit "password" then if savedPassword≠[] then savedPassword else value
  else if lower=lit "ignore-cert" then lit "false"
  else value

/-- `rewriteRemoteTargetConnect`; missing values are empty. -/
def rewriteRemoteTargetConnect (target : Target) (savedPassword : Bytes) :
    List Bytes → List Bytes → List Bytes
  | values, [] => values
  | [], name::names =>
    rewriteArg target savedPassword name []::rewriteRemoteTargetConnect target savedPassword [] names
  | value::values, name::names =>
    rewriteArg target savedPassword name value ::
      rewriteRemoteTargetConnect target savedPassword values names

abbrev Vault := String → String → String → Option Bytes   -- `Open`, by nonce, ciphertext and key

/-- `none` is an error, which ends the session. -/
def remoteTargetPassword (vault : Option Vault) (target : Target) : Option Bytes :=
  if target.credentialMode≠"saved" then some []
  else if target.credentialCiphertext="" then none
  else vault.bind fun openVault =>
    openVault target.credentialNonce target.credentialCiphertext target.credentialKeyID

def selectOp : Bytes := lit "select"
def connectOp : Bytes := lit "connect"
def argsOp : Bytes := lit "args"

def rewriteInstruction (vault : Option Vault) (target : Target) (argNames : List Bytes) (i : Instruction) :
    Option Instruction := if i.opcode=selectOp then some {i with args := [target.protocol]}
  else if i.opcode=connectOp then
    (remoteTargetPassword vault target).map fun password =>
      {i with args := rewriteRemoteTargetConnect target password i.args argNames}
  else some i

structure Forwarded where
  instruction : Instruction
  announced : Option (List Bytes)
  deriving DecidableEq

/-- `queue` are the parsed instructions of the last message that are still to be sent on. -/
structure Session where
  browserBuffer : Bytes
  queue : List Instruction
  guacdSent : Bytes
  unread : Bytes
  guacdBuffer : Bytes
  argNames : List Bytes
  output : Bytes
  forwarded : List Forwarded
  closed : Bool

def Session.start : Session := ⟨[],[],[],[],[],[],[],[],false⟩

/-- The names of the last `args` instruction in what guacd has sent. -/
def Session.announced (s : Session) : Option (List Bytes) :=
  ((records runeUnits s.guacdSent).filter fun r => r.head?==some argsOp).getLast?.map List.tail

inductive Event
  | browser (text : Bool) (data : Bytes)    -- a WebSocket message
  | forward (written : Option ℕ)            -- all of the next instruction, or this much and an error
  | guacdSends (data : Bytes)
  | guacdReads (n : ℕ)

def recordArgs (argNames : List Bytes) (is : List Instruction) : List Bytes :=
  is.foldl (fun names i => if i.opcode=argsOp then i.args else names) argNames

def step (vault : Option Vault) (target : Target) (s : Session) : Event → Option Session
  | .browser text data =>
    if s.closed ∨ s.queue≠[] then none
    else if text=false ∨ remoteTargetMaxMessage<data.length then some {s with closed := true}
    else match feed s.browserBuffer data with
      | (none,_) => some {s with closed := true}
      | (some is,buffer) => some {s with browserBuffer := buffer,queue := is}
  | .forward written =>
    if s.closed then none
    else match s.queue with
      | [] => none
      | i::queue => match rewriteInstruction vault target s.argNames i with
        | none => some {s with closed := true}
        | some i =>
          some {s with
            queue := queue
            output := s.output++(match written with
              | none => encodeInstruction i
              | some n => (encodeInstruction i).take n)
            forwarded := s.forwarded++[⟨i,s.announced⟩]
            closed := written.isSome}
  | .guacdSends data => some {s with guacdSent := s.guacdSent++data,unread := s.unread++data}
  | .guacdReads n =>
    if n=0 ∨ s.unread.length<n ∨ 65536<n then none
    else
      let (is,buffer):=feed s.guacdBuffer (s.unread.take n)
      some {s with
        unread := s.unread.drop n
        guacdBuffer := buffer
        argNames := recordArgs s.argNames (is.getD [])}

end BetterDesk.RemoteTarget
