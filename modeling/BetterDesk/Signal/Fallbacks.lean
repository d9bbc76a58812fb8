import BetterDesk.Lib.Programs
import BetterDesk.Signal.Server

/-! # Answers that are put off (signal/server.go, signal/handler.go, signal/lan_exchange.go) -/

namespace BetterDesk.Signal.Fallbacks
open Db Programs Function

/-- A key of `pendingPunches` or of `pendingLANs`. -/
inductive Slot
  | punch (initiator : Addr)
  | lan (targetID : PeerID) (initiator : Addr)
  deriving DecidableEq

/-- On whose behalf a call acts; sessions and exchanges are known by their numbers. -/
inductive Actor
  | timer (n : ℕ)
  | superseding (n : ℕ)
  | failedSend (n : ℕ)
  | localAddr (n : ℕ)
  | punchHoleSent (targetID : PeerID) (initiator : Addr)
  | sweep
  deriving DecidableEq

/-- `pendingPunch` and `pendingLAN`. -/
structure Pending where
  slot : Slot
  targetID : PeerID
  createdAt : ℕ
  due : ℕ
  armed : Bool
  endedBy : Option Actor
  removedBy : Option Actor
  answers : List Actor

namespace Pending
variable (p : Pending)

def fired : Bool := p.endedBy.isSome

def ended (a : Actor) : Pending := {p with endedBy := p.endedBy <|> some a}

def removed (a : Actor) : Pending := {p with removedBy := some a}

def stopped : Pending := {p with armed := false}

def answered (a : Actor) : Pending := {p with answers := a::p.answers}

end Pending

def Slot.ttl : Slot → ℕ
  | .punch _ => 120000
  | .lan _ _ => 30000

structure Pendings where
  now : ℕ
  p2pFallbackMs : ℤ
  entries : Slot → Option ℕ
  count : ℕ
  cells : ℕ → Option Pending

namespace Pendings
variable (s : Pendings)

def delay : ℕ := if s.p2pFallbackMs≤0 then 2000 else s.p2pFallbackMs.toNat

def create (slot : Slot) (targetID : PeerID) : Pendings :=
  { s with
    count := s.count+1
    cells := update s.cells s.count <|
      some ⟨slot,targetID,s.now,s.now+s.delay,true,none,none,[]⟩}

def modify (n : ℕ) (f : Pending → Pending) : Pendings :=
  {s with cells := update s.cells n ((s.cells n).map f)}

def put (slot : Slot) (n : ℕ) : Pendings := {s with entries := update s.entries slot (some n)}

def clear (slot : Slot) : Pendings := {s with entries := update s.entries slot none}

def take (slot : Slot) (a : Actor) : Pendings := match s.entries slot with
  | none => s
  | some n => (s.clear slot).modify n fun p => p.removed a

/-- The timer of `n` can begin its callback. -/
def timerDue (n : ℕ) : Option Slot :=
  ((s.cells n).filter fun p => p.armed&&p.due ≤ s.now).map Pending.slot

def fired (n : ℕ) : Bool := ((s.cells n).map Pending.fired).getD false

def outdated (slot : Slot) (n : ℕ) : Bool := match s.cells n with
  | none => true
  | some p => p.createdAt+slot.ttl < s.now

end Pendings

/-- `accepts` is what `completeLANAddr` asks about the sender, the two peers and their policies. -/
inductive Op
  | create (slot : Slot) (targetID : PeerID)
  | loadOrStore (slot : Slot) (n : ℕ)
  | swap (slot : Slot) (n : ℕ)
  | store (slot : Slot) (n : ℕ)
  | load (slot : Slot)
  | loadAndDelete (slot : Slot) (a : Actor)
  | delete (slot : Slot) (n : ℕ)
  | swapFired (slot : Slot) (n : ℕ) (a : Actor)
  | storeFired (slot : Slot) (n : ℕ) (a : Actor)
  | stopTimer (slot : Slot) (n : ℕ) (a : Actor)
  | startTimer (n : ℕ)
  | outdated (slot : Slot) (n : ℕ)
  | accepts (slot : Slot) (n : ℕ)
  | sendToPeer (targetID : PeerID)
  | answer (n : ℕ) (a : Actor)

abbrev Res : Op → Type
  | .create _ _ => ℕ
  | .loadOrStore _ _ => Option ℕ
  | .swap _ _ => Option ℕ
  | .load _ => Option ℕ
  | .loadAndDelete _ _ => Option ℕ
  | .swapFired _ _ _ => Bool
  | .startTimer _ => Option Slot
  | .outdated _ _ => Bool
  | .accepts _ _ => Bool
  | .sendToPeer _ => Bool
  | _ => Unit

abbrev Prog := Programs.Prog Op Res

/-- One operation, with its result. The scheduler says what comes of those on the peers. -/
def run (s : Pendings) (op : Op) (fails : Bool) : Res op × Pendings := match op with
  | .create slot targetID => (s.count,s.create slot targetID)
  | .loadOrStore slot n => (s.entries slot,if s.entries slot=none then s.put slot n else s)
  | .swap slot n => (s.entries slot,(s.take slot (.superseding n)).put slot n)
  | .store slot n => ((),s.put slot n)
  | .load slot => (s.entries slot,s)
  | .loadAndDelete slot a => (s.entries slot,s.take slot a)
  | .delete slot n => ((),s.take slot (.timer n))
  | .swapFired _ n a => (s.fired n,s.modify n fun p => p.ended a)
  | .storeFired _ n a => ((),s.modify n fun p => p.ended a)
  | .stopTimer _ n _ => ((),s.modify n Pending.stopped)
  | .startTimer n => (s.timerDue n,s.modify n Pending.stopped)
  | .outdated slot n => (s.outdated slot n,s)
  | .accepts _ _ => (!fails,s)
  | .sendToPeer _ => (!fails,s)
  | .answer n a => ((),s.modify n fun p => p.answered a)

def perform (op : Op) : Prog (Res op) := Programs.Prog.perform op

def cancel (slot : Slot) (a : Actor) : Prog Bool := do
  match ← perform (.loadAndDelete slot a) with
  | none => pure false
  | some n =>
    if ← perform (.swapFired slot n a) then pure false
    else
      perform (.stopTimer slot n a)
      pure true

def cancelPunchFallback (initiator : Addr) (targetID : PeerID) : Prog Bool :=
  cancel (.punch initiator) (.punchHoleSent targetID initiator)

def cancelPendingLAN (targetID : PeerID) (initiator : Addr) (a : Actor) : Prog Bool :=
  cancel (.lan targetID initiator) a

def expire (n : ℕ) : Prog Unit := do
  match ← perform (.startTimer n) with
  | none => pure ()
  | some slot =>
    if ← perform (.swapFired slot n (.timer n)) then pure ()
    else
      perform (.delete slot n)
      perform (.answer n (.timer n))

def schedulePunchFallback (initiator : Addr) (targetID : PeerID) : Prog Unit := do
  let n ← perform (.create (.punch initiator) targetID)
  match ← perform (.swap (.punch initiator) n) with
  | none => pure ()
  | some old =>
    perform (.storeFired (.punch initiator) old (.superseding n))
    perform (.stopTimer (.punch initiator) old (.superseding n))

/-- `handlePunchHoleRequest` with `P2PFirst`, for peers that are not in one LAN. -/
def punchHoleRequest (initiator : Addr) (targetID : PeerID) : Prog Unit := do
  let _ ← perform (.sendToPeer targetID)
  schedulePunchFallback initiator targetID

def beginLANExchange (targetID : PeerID) (initiator : Addr) : Prog (ℕ × Bool) := do
  let n ← perform (.create (.lan targetID initiator) targetID)
  match ← perform (.loadOrStore (.lan targetID initiator) n) with
  | none => pure ()
  | some _ =>
    let _ ← cancelPendingLAN targetID initiator (.superseding n)
    perform (.store (.lan targetID initiator) n)
  if ← perform (.sendToPeer targetID) then pure (n,true)
  else
    let _ ← cancelPendingLAN targetID initiator (.failedSend n)
    pure (n,false)

/-- `handlePunchHoleRequest` for peers in one LAN. -/
def lanPunchHoleRequest (targetID : PeerID) (initiator : Addr) : Prog Unit := do
  let (n,started) ← beginLANExchange targetID initiator
  if started then pure () else perform (.answer n (.failedSend n))

def completeLANAddr (targetID : PeerID) (initiator : Addr) : Prog Unit := do
  match ← perform (.load (.lan targetID initiator)) with
  | none => pure ()
  | some n =>
    if ← perform (.outdated (.lan targetID initiator) n) then
      let _ ← cancelPendingLAN targetID initiator (.localAddr n)
    else if ← perform (.accepts (.lan targetID initiator) n) then
      if ← cancelPendingLAN targetID initiator (.localAddr n) then perform (.answer n (.localAddr n))

/-- `handlePunchHoleSent`; the response goes to the initiator in any case. -/
def punchHoleSent (targetID : PeerID) (initiator : Addr) : Prog Unit := do
  let _ ← cancelPunchFallback initiator targetID

def sweepPunch (initiator : Addr) : Prog Unit := do
  match ← perform (.load (.punch initiator)) with
  | none => pure ()
  | some n =>
    if ← perform (.outdated (.punch initiator) n) then
      match ← perform (.loadAndDelete (.punch initiator) .sweep) with
      | none => pure ()
      | some stale =>
        perform (.storeFired (.punch initiator) stale .sweep)
        perform (.stopTimer (.punch initiator) stale .sweep)

inductive Request
  | punchHole (initiator : Addr) (targetID : PeerID)
  | lanPunchHole (targetID : PeerID) (initiator : Addr)
  | punchHoleSent (targetID : PeerID) (initiator : Addr)
  | localAddr (targetID : PeerID) (initiator : Addr)
  | timer (n : ℕ)
  | sweep (initiator : Addr)

def handle : Request → Prog Unit
  | .punchHole initiator targetID => punchHoleRequest initiator targetID
  | .lanPunchHole targetID initiator => lanPunchHoleRequest targetID initiator
  | .punchHoleSent targetID initiator => punchHoleSent targetID initiator
  | .localAddr targetID initiator => completeLANAddr targetID initiator
  | .timer n => expire n
  | .sweep initiator => sweepPunch initiator

inductive Outside
  | tick (ms : ℕ)
  | configure (p2pFallbackMs : ℤ)

def move (s : Pendings) : Outside → Pendings
  | .tick ms => {s with now := s.now+ms}
  | .configure p2pFallbackMs => {s with p2pFallbackMs := p2pFallbackMs}

abbrev System := Sys Pendings Request Op Res Unit

abbrev Action := Act Request Outside

def step : System → Action → Option System := Programs.step run handle move

def start (now : ℕ) (p2pFallbackMs : ℤ) : Pendings := ⟨now,p2pFallbackMs,fun _ => none,0,fun _ => none⟩

end BetterDesk.Signal.Fallbacks
