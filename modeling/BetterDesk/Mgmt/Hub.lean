import BetterDesk.Lib.Exec

/-! # The management hub (api/bd_mgmt_handlers.go) -/

namespace BetterDesk.Mgmt.Hub
open Exec Option

abbrev DeviceID := String

structure BdMgmtMessage where
  type : String
  deviceID : DeviceID
  timestamp : String
  payload : String
  deriving DecidableEq

inductive Stage
  | welcoming       -- `Put` is done
  | reading         -- in the read loop
  | leaving         -- the read loop has returned
  | removed         -- `Remove` is done
  | gone
  deriving DecidableEq

structure BdMgmtSession where
  deviceID : DeviceID
  cancelled : Bool
  closed : Bool
  sendCh : List BdMgmtMessage
  writing : Bool                       -- the write loop runs
  wire : List BdMgmtMessage            -- what the device was sent, the last first
  stage : Stage
  deriving DecidableEq

def sendChSize : ℕ := 16

namespace BdMgmtSession

def opened (id : DeviceID) : BdMgmtSession := ⟨id,false,false,[],false,[],.welcoming⟩

/-- `Cancel` and `Conn.Close`. -/
def shut (s : BdMgmtSession) : BdMgmtSession := {s with
  cancelled := true
  closed := true}

def staying (s : BdMgmtSession) : Bool := s.stage=.welcoming||s.stage=.reading||s.stage=.leaving

/-- The device is served: the handler reads, or is about to, from a connection that stands. -/
def live (s : BdMgmtSession) : Bool :=
  (s.stage=.welcoming||s.stage=.reading)&&!s.cancelled&&!s.closed

def current (s : BdMgmtSession) : Bool := s.staying&&!s.cancelled

/-- `select { case SendCh <- msg: default: }` -/
def offer (s : BdMgmtSession) (msg : BdMgmtMessage) : BdMgmtSession :=
  if s.sendCh.length < sendChSize then {s with sendCh := s.sendCh++[msg]} else s

/-- `wsjson.Write` in the write loop, which ends at an error. -/
def transmit (s : BdMgmtSession) (msg : BdMgmtMessage) (fails : Bool) : BdMgmtSession :=
  if s.cancelled||s.closed||fails then {s with writing := false}
  else {s with wire := msg::s.wire}

def receive (s : BdMgmtSession) (msg : BdMgmtMessage) (now : String) : BdMgmtSession :=
  if msg.type="ping" then s.offer ⟨"pong","",now,""⟩ else s

def stamped (msg : BdMgmtMessage) (now : String) : BdMgmtMessage :=
  if msg.timestamp="" then {msg with timestamp := now} else msg

end BdMgmtSession

structure Server where
  sessions : List BdMgmtSession
  hub : DeviceID → Option ℕ
  pushes : List (ℕ × BdMgmtMessage)    -- looked up and not offered yet

def start : Server := ⟨[],fun _ => none,[]⟩

namespace Server
variable (s : Server)

def update (i : ℕ) (f : BdMgmtSession → BdMgmtSession) : Server :=
  {s with sessions := s.sessions.modify i f}

/-- `bdMgmtHub.Put` of a new session. -/
def put (id : DeviceID) : Server :=
  let replaced := match s.hub id with
    | some old => s.update old BdMgmtSession.shut
    | none => s
  { replaced with
    sessions := replaced.sessions++[BdMgmtSession.opened id]
    hub := Function.update s.hub id (some s.sessions.length)}

/-- `bdMgmtHub.Remove` -/
def remove (id : DeviceID) : Server := {s with hub := Function.update s.hub id none}

end Server

inductive Act
  | connect (id : DeviceID)
  | welcome (i : ℕ) (now : String)
  | receive (i : ℕ) (msg : BdMgmtMessage) (now : String)
  | leave (i : ℕ)                                   -- the read fails
  | remove (i : ℕ)
  | finish (i : ℕ)
  | write (i : ℕ) (fails : Bool) (now : String)
  | keepalive (i : ℕ) (fails : Bool) (now : String)
  | stopWriting (i : ℕ)
  | lookup (id : DeviceID) (msg : BdMgmtMessage)    -- `SendToDevice` under the lock
  | offer (k : ℕ)                                   -- and after it

open BdMgmtSession in
def BdMgmtSession.act (c : BdMgmtSession) : Act → Option BdMgmtSession
  | .welcome _ now =>
    if c.stage=.welcoming then
      let welcome : BdMgmtMessage := ⟨"welcome",c.deviceID,now,""⟩
      some {c with
        wire := if c.cancelled||c.closed then c.wire else welcome::c.wire
        writing := true
        stage := .reading}
    else none
  | .receive _ msg now =>
    if c.stage=.reading ∧ c.cancelled=false ∧ c.closed=false then some (c.receive msg now) else none
  | .leave _ => if c.stage=.reading then some {c with stage := .leaving} else none
  | .finish _ => if c.stage=.removed then some {c.shut with stage := .gone} else none
  | .write _ fails now =>
    match c.sendCh with
    | msg::rest =>
      if c.writing then some (({c with sendCh := rest}).transmit (stamped msg now) fails) else none
    | [] => none
  | .keepalive _ fails now =>
    if c.writing then some (c.transmit ⟨"ping","",now,""⟩ fails) else none
  | .stopWriting _ => if c.writing&&c.cancelled then some {c with writing := false} else none
  | _ => none

def Server.own (s : Server) (a : Act) (i : ℕ) : Option Server :=
  match s.sessions[i]? with
  | none => none
  | some c => (c.act a).map fun c' => {s with sessions := s.sessions.set i c'}

def step (s : Server) (a : Act) : Option Server :=
  match a with
  | .connect id => some (s.put id)
  | .lookup id msg =>
    match s.hub id with
    | some i => some {s with pushes := s.pushes++[(i,{msg with deviceID := id})]}
    | none => some s
  | .offer k =>
    match s.pushes[k]? with
    | some (i,msg) => some {s.update i (BdMgmtSession.offer · msg) with pushes := s.pushes.eraseIdx k}
    | none => none
  | .remove i =>
    match s.sessions[i]? with
    | some c => if c.stage=.leaving then
        some ((s.remove c.deviceID).update i fun c => {c with stage := .removed})
      else none
    | none => none
  | .welcome i _ => s.own a i
  | .receive i _ _ => s.own a i
  | .leave i => s.own a i
  | .finish i => s.own a i
  | .write i _ _ => s.own a i
  | .keepalive i _ _ => s.own a i
  | .stopWriting i => s.own a i

def BdMgmtSession.standing (c : BdMgmtSession) : Option DeviceID :=
  if c.current then some c.deviceID else none

def standingAt (cs : List BdMgmtSession) (i : ℕ) : Option DeviceID := (cs[i]?).bind BdMgmtSession.standing

namespace Server

def standing (s : Server) (i : ℕ) : Option DeviceID := standingAt s.sessions i

def Live (s : Server) (id : DeviceID) (i : ℕ) : Prop :=
  ∃ c, s.sessions[i]?=some c ∧ c.deviceID=id ∧ c.live=true

end Server

variable {c : BdMgmtSession} {s t : Server} {a : Act} {i : ℕ}

theorem BdMgmtSession.current_of_live (h : c.live=true) : c.current=true := by
  simp only [live,Bool.and_eq_true] at h
  simp only [current,staying,Bool.and_eq_true]
  exact ⟨by simp [h.1.1],h.1.2⟩

theorem Server.Live.standing {id : DeviceID} (h : s.Live id i) : s.standing i=some id := by
  obtain ⟨c,hc,hid,hlive⟩:=h
  simp [Server.standing,standingAt,hc,BdMgmtSession.standing,BdMgmtSession.current_of_live hlive,hid]

theorem BdMgmtSession.standing_offer {msg : BdMgmtMessage} : (c.offer msg).standing=c.standing := by
  unfold offer
  split <;> rfl

theorem BdMgmtSession.standing_transmit {msg : BdMgmtMessage} {fails : Bool} :
    (c.transmit msg fails).standing=c.standing := by
  unfold transmit
  split <;> rfl

theorem BdMgmtSession.standing_act {c' : BdMgmtSession} (h : c.act a=some c') : c'.standing=c.standing := by
  cases a with
  | welcome | leave | finish =>
    simp only [act,ite_none_right_eq_some,some.injEq] at h
    obtain ⟨hstage,rfl⟩:=h
    simp [standing,current,staying,hstage]
  | receive i msg now =>
    simp only [act,ite_none_right_eq_some,some.injEq] at h
    obtain ⟨-,rfl⟩:=h
    unfold receive
    split
    · exact standing_offer
    · rfl
  | write i fails now =>
    cases hq : c.sendCh with
    | nil => simp [act,hq] at h
    | cons msg rest =>
      simp only [act,hq,ite_none_right_eq_some,some.injEq] at h
      obtain ⟨-,rfl⟩:=h
      exact standing_transmit
  | keepalive i fails now =>
    simp only [act,ite_none_right_eq_some,some.injEq] at h
    obtain ⟨-,rfl⟩:=h
    exact standing_transmit
  | stopWriting i =>
    simp only [act,ite_none_right_eq_some,some.injEq] at h
    obtain ⟨-,rfl⟩:=h
    rfl
  | connect | remove | lookup | offer => cases h

section StandingAt
variable {cs : List BdMgmtSession} {i j : ℕ} {f : BdMgmtSession → BdMgmtSession}

theorem standingAt_modify : standingAt (cs.modify i f) j =
    if i=j then (cs[j]?).bind fun c => (f c).standing else standingAt cs j := by
  unfold standingAt
  rw [List.getElem?_modify]
  by_cases hij : i=j
  · cases hj : cs[j]? <;> simp [hij]
  · cases hj : cs[j]? <;> simp [hij]

theorem standingAt_modify_of_keep (hf : ∀ c, (f c).standing=c.standing) : standingAt (cs.modify i f)=standingAt cs := by
  funext j
  rw [standingAt_modify]
  simp only [hf]
  exact ite_self _

theorem standingAt_modify_of_end (hf : ∀ c, (f c).standing=none) :
    standingAt (cs.modify i f) j = if i=j then none else standingAt cs j := by
  simp [standingAt_modify,hf]

theorem standingAt_set {c c' : BdMgmtSession} (hi : cs[i]?=some c) (h : c'.standing=c.standing) :
    standingAt (cs.set i c')=standingAt cs := by
  funext j
  unfold standingAt
  by_cases hij : i=j
  · subst hij
    rw [List.getElem?_set_self (List.getElem?_eq_some_iff.mp hi).1,hi]
    exact h
  · rw [List.getElem?_set_ne hij]

theorem standingAt_append {c : BdMgmtSession} : standingAt (cs++[c]) j =
    if j=cs.length then c.standing else standingAt cs j := by
  unfold standingAt
  by_cases hj : j=cs.length
  · simp [hj]
  · rw [if_neg hj]
    rcases Nat.lt_or_gt_of_ne hj with hlt | hgt
    · rw [List.getElem?_append_left hlt]
    · rw [List.getElem?_eq_none (by simp; omega),List.getElem?_eq_none (by omega)]

end StandingAt

theorem BdMgmtSession.standing_shut (c : BdMgmtSession) : c.shut.standing=none := by
  simp [standing,current,shut]

namespace Server
variable {s : Server} {i j : ℕ}

theorem standing_put {id : DeviceID} : (s.put id).standing j =
    if j=s.sessions.length then some id
    else if s.hub id=some j then none else s.standing j := by
  have hopened : (BdMgmtSession.opened id).standing=some id := rfl
  cases hold : s.hub id with
  | none =>
    have hsessions : (s.put id).sessions=s.sessions++[.opened id] := by simp [put,hold]
    unfold standing
    rw [hsessions,standingAt_append,hopened]
    simp
  | some old =>
    have hsessions : (s.put id).sessions=s.sessions.modify old BdMgmtSession.shut++[.opened id] := by
      simp [put,hold,update]
    unfold standing
    rw [hsessions,standingAt_append,hopened,List.length_modify,
      standingAt_modify_of_end BdMgmtSession.standing_shut]
    simp

theorem standing_lt {id : DeviceID} (h : s.standing j=some id) : j < s.sessions.length := by
  obtain ⟨c,hc,-⟩:=bind_eq_some_iff.mp h
  exact (List.getElem?_eq_some_iff.mp hc).1

end Server

structure Quiet (s t : Server) : Prop where
  hub : t.hub=s.hub
  standing : t.standing=s.standing

theorem quiet_own (h : s.own a i=some t) : Quiet s t := by
  unfold Server.own at h
  split at h
  · cases h
  · rename_i c hc
    obtain ⟨c',hact,rfl⟩:=map_eq_some_iff.mp h
    exact ⟨rfl,standingAt_set hc (BdMgmtSession.standing_act hact)⟩

theorem own_other {j : ℕ} (h : s.own a i=some t) (hji : j≠i) : t.sessions[j]?=s.sessions[j]? := by
  unfold Server.own at h
  split at h
  · cases h
  · obtain ⟨c',-,rfl⟩:=map_eq_some_iff.mp h
    exact List.getElem?_set_ne hji.symm

/-- The state after `Remove` in the handler of the connection. -/
def Server.removed (s : Server) (i : ℕ) (c : BdMgmtSession) : Server :=
  (s.remove c.deviceID).update i fun c => {c with stage := .removed}

theorem step_remove (h : step s (.remove i)=some t) :
    ∃ c, s.sessions[i]?=some c ∧ c.stage=.leaving ∧ t=s.removed i c := by
  cases hi : s.sessions[i]? with
  | none => simp [step,hi] at h
  | some c =>
    simp only [step,hi,ite_none_right_eq_some,some.injEq] at h
    exact ⟨c,rfl,h.1,h.2.symm⟩

theorem step_cases (h : step s a=some t) : (∃ id, a=.connect id ∧ t=s.put id) ∨
    (∃ i c, a=.remove i ∧ s.sessions[i]?=some c ∧ c.stage=.leaving ∧ t=s.removed i c) ∨ Quiet s t := by
  cases a with
  | connect id =>
    cases h
    exact .inl ⟨id,rfl,rfl⟩
  | remove i =>
    obtain ⟨c,hremoved⟩:=step_remove h
    exact .inr (.inl ⟨i,c,rfl,hremoved⟩)
  | lookup id msg =>
    refine .inr (.inr ?_)
    cases hid : s.hub id with
    | none | some =>
      simp only [step,hid,some.injEq] at h
      exact h ▸ ⟨rfl,rfl⟩
  | offer k =>
    refine .inr (.inr ?_)
    cases hk : s.pushes[k]? with
    | none => simp [step,hk] at h
    | some push =>
      simp only [step,hk,some.injEq] at h
      exact h ▸ ⟨rfl,standingAt_modify_of_keep fun _ => BdMgmtSession.standing_offer⟩
  | welcome | receive | leave | finish | write | keepalive | stopWriting => exact .inr (.inr (quiet_own h))

end BetterDesk.Mgmt.Hub
