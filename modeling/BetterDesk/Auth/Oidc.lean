import BetterDesk.Lib.Exec
import BetterDesk.Lib.OneTime
import Mathlib.Data.Int.Notation

/-! # Pending OIDC logins (auth/oidc.go) -/

namespace BetterDesk.Auth.Oidc
open Exec OneTime Function

def second : ℕ := 1000000000
def minute : ℕ := 60*second

inductive Flow
  | panel
  | client
  deriving DecidableEq

structure OidcState where
  nonce : String
  codeVerifier : Option String
  createdAt : ℕ
  returnURL : String
  flow : Flow
  clientID : String
  clientUUID : String
  deviceName : String
  deviceOS : String
  deviceType : String
  deriving DecidableEq

structure User where
  userID : ℤ
  username : String
  role : String
  deriving DecidableEq

structure ClientPending where
  clientID : String
  clientUUID : String
  deviceName : String
  deviceOS : String
  deviceType : String
  user : User
  authed : Bool
  createdAt : ℕ

structure AuthCode where
  token : String
  username : String
  role : String
  returnURL : String
  createdAt : ℕ

inductive Event
  | started (state : String) (time : ℕ)
  | announced (code : String) (time : ℕ)
  | stored (code : String) (time : ℕ)
  | exchanged (state : String) (entry : OidcState) (time : ℕ)
  | consumedCode (code : String) (entry : AuthCode) (time : ℕ)
  | completed (code : String) (user : User)
  | consumedPending (code : String) (entry : ClientPending) (time : ℕ)

/-- The three maps, the random strings so far, the calls under way, and what has happened,
the latest first. -/
structure Provider where
  now : ℕ
  drawn : List String
  states : String → Option OidcState
  codes : String → Option AuthCode
  clientPending : String → Option ClientPending
  building : List (String × OidcState)
  announcing : List (String × OidcState)
  exchanging : List (String × OidcState)
  log : List Event

inductive Action
  | advance (d : ℕ)
  | build (state nonce : String) (verifier : Option String) (base : OidcState)
  | store (x : String × OidcState)
  | announce (x : String × OidcState)
  | take (state : String)
  | checkAge (x : String × OidcState)
  | storeAuthCode (code token username role returnURL : String)
  | consumeAuthCode (code : String)
  | completeClientPending (code : String) (user : User)
  | peekClientPending (code : String)
  | consumeClientPending (code : String)
  | failClientPending (code : String)
  | cleanupStates

namespace Provider
variable (p : Provider)

def init (now : ℕ) : Provider where
  now := now
  drawn := []
  states := fun _ => none
  codes := fun _ => none
  clientPending := fun _ => none
  building := []
  announcing := []
  exchanging := []
  log := []

/-- `time.Since(createdAt) > limit`. -/
def older (createdAt limit : ℕ) : Bool := limit<p.now-createdAt

def fresh (texts : List String) : Prop := texts.Nodup ∧ ∀ t∈texts,t∉p.drawn

instance (texts : List String) : Decidable (p.fresh texts) := inferInstanceAs (Decidable (_ ∧ _))

def buildAuthURL (state nonce : String) (verifier : Option String) (base : OidcState) : Provider :=
  let entry:={base with
    nonce := nonce
    codeVerifier := verifier
    createdAt := p.now}
  { p with
    drawn := state::nonce::verifier.toList++p.drawn
    building := (state,entry)::p.building
    log := .started state p.now::p.log}

def storeState (x : String × OidcState) : Provider := {p with
  states := update p.states x.1 (some x.2)
  building := p.building.erase x
  announcing := if x.2.flow=.client then x::p.announcing else p.announcing}

def announce (x : String × OidcState) : Provider := {p with
  clientPending := update p.clientPending x.1 <| some
    ⟨x.2.clientID,x.2.clientUUID,x.2.deviceName,x.2.deviceOS,x.2.deviceType,⟨0,"",""⟩,false,p.now⟩
  announcing := p.announcing.erase x
  log := .announced x.1 p.now::p.log}

def takeState (state : String) : Provider := match p.states state with
  | none => p
  | some entry => {p with
    states := update p.states state none
    exchanging := (state,entry)::p.exchanging}

def checkAge (x : String × OidcState) : Provider := {p with
  exchanging := p.exchanging.erase x
  log := if p.older x.2.createdAt (10*minute) then p.log else .exchanged x.1 x.2 p.now::p.log}

def storeAuthCode (code token username role returnURL : String) : Provider := {p with
  drawn := code::p.drawn
  codes := update p.codes code (some ⟨token,username,role,returnURL,p.now⟩)
  log := .stored code p.now::p.log}

def consumeAuthCode (code : String) : Option AuthCode × Provider :=
  if code="" then (none,p)
  else match p.codes code with
    | none => (none,p)
    | some entry => (if p.older entry.createdAt (60*second) then none else some entry,
        {p with codes := update p.codes code none})

def completeClientPending (code : String) (user : User) : Bool × Provider :=
  if code="" ∨ user.username="" then (false,p)
  else match p.clientPending code with
    | none => (false,p)
    | some entry =>
      if p.older entry.createdAt (10*minute) then
        (false,{p with clientPending := update p.clientPending code none})
      else (true,{p with
        clientPending := update p.clientPending code (some {entry with
          user := user
          authed := true})})

def consumeClientPending (code : String) : Option ClientPending × Provider :=
  if code="" then (none,p)
  else match p.clientPending code with
    | none => (none,p)
    | some entry =>
      (if p.older entry.createdAt (10*minute) ∨ entry.authed=false then none else some entry,
        {p with clientPending := update p.clientPending code none})

def failClientPending (code : String) : Provider :=
  if code="" then p else {p with clientPending := update p.clientPending code none}

def cleanupStates : Provider := {p with
  states := fun k => (p.states k).filter fun v => !p.older v.createdAt (15*minute)
  codes := fun k => (p.codes k).filter fun v => !p.older v.createdAt (60*second)
  clientPending := fun k => (p.clientPending k).filter fun v => !p.older v.createdAt (10*minute)}

def record (e : Option Event) : Provider := {p with log := e.toList++p.log}

def step : Action → Option Provider
  | .advance d => some {p with now := p.now+d}
  | .build state nonce verifier base =>
    if p.fresh (state::nonce::verifier.toList) then some (p.buildAuthURL state nonce verifier base) else none
  | .store x => if x∈p.building then some (p.storeState x) else none
  | .announce x => if x∈p.announcing then some (p.announce x) else none
  | .take state => some (p.takeState state)
  | .checkAge x => if x∈p.exchanging then some (p.checkAge x) else none
  | .storeAuthCode code token username role returnURL =>
    if p.fresh [code] then some (p.storeAuthCode code token username role returnURL) else none
  | .consumeAuthCode code =>
    let (entry,q):=p.consumeAuthCode code
    some (q.record (entry.map fun e => .consumedCode code e p.now))
  | .completeClientPending code user =>
    let (done,q):=p.completeClientPending code user
    some (q.record (if done then some (.completed code user) else none))
  | .peekClientPending _ => some p
  | .consumeClientPending code =>
    let (entry,q):=p.consumeClientPending code
    some (q.record (entry.map fun e => .consumedPending code e p.now))
  | .failClientPending code => some (p.failClientPending code)
  | .cleanupStates => some p.cleanupStates

end Provider

inductive Ticket
  | state (text : String)
  | code (text : String)
  | pending (text : String)
  deriving DecidableEq

def Ticket.text : Ticket → String
  | state t | code t | pending t => t

def Event.spends : Event → Option Ticket
  | exchanged s _ _ => some (.state s)
  | consumedCode c _ _ => some (.code c)
  | consumedPending c _ _ => some (.pending c)
  | _ => none

def spent (log : List Event) (t : Ticket) : ℕ := log.countP fun e => e.spends=some t

def completedBy (code : String) : List Event → Option User
  | [] => none
  | .completed c user::log => if c=code then some user else completedBy code log
  | _::log => completedBy code log

structure UsedOnce (log : List Event) : Prop where
  once : ∀ t, spent log t≤1
  exchanged : ∀ s e time, .exchanged s e time∈log → .started s e.createdAt∈log ∧ time≤e.createdAt+10*minute
  code : ∀ c e time, .consumedCode c e time∈log → .stored c e.createdAt∈log ∧ time≤e.createdAt+60*second
  pending : ∀ c e time, .consumedPending c e time∈log →
    .announced c e.createdAt∈log ∧ time≤e.createdAt+10*minute ∧ completedBy c log=some e.user

end BetterDesk.Auth.Oidc
