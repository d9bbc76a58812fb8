import BetterDesk.Lib.Exec
import BetterDesk.Relay.Authorization

/-! # Relay pairing (relay/server.go) -/

namespace BetterDesk.Relay
open Exec

abbrev ConnID := ℕ

/-- `relayTransport`. -/
inductive Transport
  | tcp
  | ws
  deriving DecidableEq

inductive RelayKind
  | startRelay
  | startWSRelay
  | startMixedRelay
  deriving DecidableEq

def relayKind (existing pc : Transport) : RelayKind :=
  if existing≠pc then .startMixedRelay
  else if pc=.ws then .startWSRelay
  else .startRelay

inductive Phase
  | claimed                                  -- `claimRelayUUID` returned true
  | arriving                                 -- `pendingConn` built, `LoadOrStore` next
  | waiting                                  -- stored, in the `select`
  | loaded (existing : ConnID)               -- `pending.Delete(uuid)` next
  | deleted (existing : ConnID)              -- `close(existing.done)` next
  | joined (existing : ConnID) (relay : RelayKind)
  | timedOut                                 -- `Load` returned this connection, `Delete` next
  | releasing                                -- `Release(uuid)` next
  | closing                                  -- `pc.close()` next
  | finished
  deriving DecidableEq

/-- A `pendingConn` with its goroutine. -/
structure Conn where
  uuid : UUID
  transport : Transport
  ticket : ℕ
  created : ℕ
  armed : ℕ
  phase : Phase
  done : Bool

/-- Where `cleanupPending` stands in its `Range`. -/
inductive Sweep
  | idle
  | visiting (uuid : UUID) (pc : ConnID)     -- the staleness check next
  | stale (uuid : UUID) (pc : ConnID)        -- `LoadAndDelete(key)` next
  | releasing (uuid : UUID) (pc : ConnID)    -- `Release(key)` next
  | closing (uuid : UUID) (pc : ConnID)      -- `pc.close()`, `close(pc.done)` next

def Sweep.key : Sweep → Option UUID
  | .idle => none
  | .visiting u _ | .stale u _ | .releasing u _ | .closing u _ => some u

structure State where
  now : ℕ
  reg : Registry
  pending : UUID → Option ConnID
  conns : ConnID → Option Conn
  sweep : Sweep
  cancelled : Bool      -- `s.ctx` is done
  panicked : Bool       -- a closed channel was closed again

def init : State := ⟨0,.empty,fun _ => none,fun _ => none,.idle,false,false⟩

inductive Action
  | tick (elapsed : ℕ)
  | cancel
  | authorize (uuid : UUID) (initiatorID targetID : PeerID)
  | waitCheck
  | revokeForPeer (peerID : PeerID)
  | claim (c : ConnID) (uuid : UUID) (transport : Transport)
  | build (c : ConnID)
  | loadOrStore (c : ConnID)
  | pairDelete (c : ConnID)
  | pairClose (c : ConnID)
  | doneSeen (c : ConnID)
  | timeoutLoad (c : ConnID)
  | timeoutDelete (c : ConnID)
  | timeoutRelease (c : ConnID)
  | timeoutClose (c : ConnID)
  | sweepVisit (uuid : UUID)
  | sweepCheck
  | sweepDelete
  | sweepRelease
  | sweepClose

namespace State

def setConn (s : State) (c : ConnID) (cc : Conn) : State :=
  {s with conns := Function.update s.conns c (some cc)}

def setPending (s : State) (u : UUID) (v : Option ConnID) : State :=
  {s with pending := Function.update s.pending u v}

/-- Close the `done` channel of a connection; closing it twice panics. -/
def closeDone (s : State) (c : ConnID) : State :=
  match s.conns c with
  | some cc => if cc.done then {s with panicked := true} else s.setConn c {cc with done := true}
  | none => s

def claim (s : State) (c : ConnID) (uuid : UUID) (transport : Transport) : Option State :=
  match s.conns c with
  | some _ => none
  | none =>
    let r:=s.reg.claim s.now uuid
    match r.1 with
    | none => some {s with reg := r.2}
    | some ticket => some ({s with reg := r.2}.setConn c
        ⟨uuid,transport,ticket,s.now,s.now,.claimed,false⟩)

/-- `created: timeNow()`. -/
def build (s : State) (c : ConnID) (cc : Conn) : Option State :=
  if cc.phase=.claimed then some (s.setConn c {cc with created := s.now,phase := .arriving})
  else none

def loadOrStore (s : State) (c : ConnID) (cc : Conn) : Option State :=
  if cc.phase=.arriving then
    match s.pending cc.uuid with
    | some existing => some (s.setConn c {cc with phase := .loaded existing})
    | none => some ((s.setConn c {cc with armed := s.now,phase := .waiting}).setPending cc.uuid c)
  else none

def pairDelete (s : State) (c : ConnID) (cc : Conn) : Option State :=
  match cc.phase with
  | .loaded existing => some ((s.setConn c {cc with phase := .deleted existing}).setPending cc.uuid none)
  | _ => none

/-- `close(existing.done)`, then one of the three relay loops starts. -/
def pairClose (s : State) (c : ConnID) (cc : Conn) : Option State :=
  match cc.phase with
  | .deleted existing => match s.conns existing with
    | some ex => some ((s.setConn c {cc with
        phase := .joined existing (relayKind ex.transport cc.transport)}).closeDone existing)
    | none => none
  | _ => none

def doneSeen (s : State) (c : ConnID) (cc : Conn) : Option State :=
  if cc.phase=.waiting ∧ cc.done then some (s.setConn c {cc with phase := .finished}) else none

/-- The timer fired, or the context is done: the branch acts only when the map
still holds this connection. -/
def timeoutLoad (s : State) (c : ConnID) (cc : Conn) : Option State :=
  if cc.phase=.waiting ∧ (cc.armed+relayPairTimeout ≤ s.now ∨ s.cancelled) then
    if s.pending cc.uuid=some c then some (s.setConn c {cc with phase := .timedOut})
    else some (s.setConn c {cc with phase := .finished})
  else none

def timeoutDelete (s : State) (c : ConnID) (cc : Conn) : Option State :=
  if cc.phase=.timedOut then
    some ((s.setConn c {cc with phase := .releasing}).setPending cc.uuid none)
  else none

def timeoutRelease (s : State) (c : ConnID) (cc : Conn) : Option State :=
  if cc.phase=.releasing then
    some ({s with reg := s.reg.release s.now cc.uuid}.setConn c {cc with phase := .closing})
  else none

def timeoutClose (s : State) (c : ConnID) (cc : Conn) : Option State :=
  if cc.phase=.closing then some (s.setConn c {cc with phase := .finished}) else none

/-- `Range` calls its function with an entry it found in the map. -/
def sweepVisit (s : State) (uuid : UUID) : Option State :=
  match s.sweep, s.pending uuid with
  | .idle, some pc => some {s with sweep := .visiting uuid pc}
  | _, _ => none

/-- `time.Since(pc.created) > config.RelayPairTimeout`. -/
def sweepCheck (s : State) : Option State :=
  match s.sweep with
  | .visiting uuid pc => match s.conns pc with
    | some cc => some {s with
        sweep := if cc.created+relayPairTimeout < s.now then .stale uuid pc else .idle}
    | none => none
  | _ => none

/-- `LoadAndDelete(key)` takes whatever the map holds by now. -/
def sweepDelete (s : State) : Option State :=
  match s.sweep with
  | .stale uuid pc => match s.pending uuid with
    | some _ => some {s.setPending uuid none with sweep := .releasing uuid pc}
    | none => some {s with sweep := .idle}
  | _ => none

def sweepRelease (s : State) : Option State :=
  match s.sweep with
  | .releasing uuid pc => some {s with
      reg := s.reg.release s.now uuid
      sweep := .closing uuid pc}
  | _ => none

def sweepClose (s : State) : Option State :=
  match s.sweep with
  | .closing _ pc => some {s.closeDone pc with sweep := .idle}
  | _ => none

def onConn (s : State) (c : ConnID) (f : State → ConnID → Conn → Option State) : Option State :=
  (s.conns c).bind fun cc => f s c cc

def step (s : State) (a : Action) : Option State :=
  if s.panicked then none
  else match a with
  | .tick d => some {s with now := s.now+d}
  | .cancel => some {s with cancelled := true}
  | .authorize u i t => some {s with reg := (s.reg.authorize s.now u i t).2}
  | .waitCheck => some {s with reg := s.reg.prune s.now}
  | .revokeForPeer p => some {s with reg := s.reg.revokeForPeer s.now p}
  | .claim c u tr => s.claim c u tr
  | .build c => s.onConn c build
  | .loadOrStore c => s.onConn c loadOrStore
  | .pairDelete c => s.onConn c pairDelete
  | .pairClose c => s.onConn c pairClose
  | .doneSeen c => s.onConn c doneSeen
  | .timeoutLoad c => s.onConn c timeoutLoad
  | .timeoutDelete c => s.onConn c timeoutDelete
  | .timeoutRelease c => s.onConn c timeoutRelease
  | .timeoutClose c => s.onConn c timeoutClose
  | .sweepVisit u => s.sweepVisit u
  | .sweepCheck => s.sweepCheck
  | .sweepDelete => s.sweepDelete
  | .sweepRelease => s.sweepRelease
  | .sweepClose => s.sweepClose

end State

/-- `pairIncomingConn` of connection `incoming` joined it with `existing`. -/
def Paired (s : State) (existing incoming : ConnID) : Prop :=
  ∃ cc k, s.conns incoming=some cc ∧ cc.phase=.joined existing k

def PairsShareTicket (s : State) : Prop :=
  ∀ e p, Paired s e p → e≠p ∧ ∃ ce cp i, s.conns e=some ce ∧ s.conns p=some cp ∧
    ce.ticket=cp.ticket ∧ s.reg.issued[cp.ticket]?=some i ∧ i.uuid=cp.uuid ∧ i.uuid=ce.uuid

def OnePairPerTicket (s : State) : Prop :=
  ∀ e p e' p' cp cp', Paired s e p → Paired s e' p' → s.conns p=some cp →
    s.conns p'=some cp' → cp.ticket=cp'.ticket → e=e' ∧ p=p'

end BetterDesk.Relay
