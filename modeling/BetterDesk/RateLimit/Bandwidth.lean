import BetterDesk.Lib.Exec
import BetterDesk.Lib.Float64

/-! # Bandwidth of the relay (ratelimit/bandwidth.go, relay/server.go, relay/ws.go, relay/mixed.go) -/

namespace BetterDesk.RateLimit.Bandwidth
open Exec

/-- `Duration.Seconds`. -/
def seconds (d : ℤ) : ℚ :=
  let sec : ℤ := d/10^9
  let nsec : ℤ := d%10^9
  Float64.round (Float64.round sec+Float64.round ((nsec : ℚ)/10^9))

def toInt64 (q : ℚ) : ℤ := if ⌊q⌋ < 2^63 then ⌊q⌋ else -2^63

def refill (limit elapsed : ℤ) : ℤ := toInt64 (Float64.round (seconds elapsed*Float64.round limit))

structure Bucket where
  limit : ℤ
  tokens : ℤ
  lastFill : ℤ

namespace Bucket

def new (limit now : ℤ) : Bucket := ⟨limit,limit,now⟩

variable (b : Bucket)

def fill (now : ℤ) : Bucket :=
  if 0<now-b.lastFill then
    {b with tokens := min b.limit ((b.tokens+refill b.limit (now-b.lastFill)).bmod (2^64)),lastFill := now}
  else b

def take (n : ℤ) : Bucket := {b with tokens := b.tokens-n}

end Bucket

/-- `consumeGlobal`: the bytes allowed. -/
def consumeGlobal (global : Bucket) (now n : ℤ) : ℤ × Bucket :=
  let global:=global.fill now
  if global.tokens<n then
    if global.tokens≤0 then (0,global) else (global.tokens,global.take global.tokens)
  else (n,global.take n)

/-- What a call of `limitedReader.Read`, or a turn of the loop in `limitedWriter.Write`, is allowed
of `n` bytes. -/
def allow (own global : Bucket) (now now' n : ℤ) : ℤ × Bucket × Bucket :=
  let own:=own.fill now
  let allowed:=min n own.tokens
  if allowed≤0 then (0,own,global)
  else
    let (granted,global):=consumeGlobal global now' allowed
    if granted≤0 then (0,own,global) else (granted,own.take granted,global)

inductive Transport
  | tcp
  | ws
  | mixed
  deriving DecidableEq

structure Direction where
  transport : Transport
  reader : Bucket
  writer : Bucket
  waiting : List ℕ
  ready : List ℕ
  relayed : List ℕ
  ended : Bool

/-- `credited` is what the fills of the shared bucket added. -/
structure Relay where
  global : Bucket
  sessionLimit : ℤ
  clock : ℤ
  directions : List Direction
  credited : ℤ

inductive Event
  | openSession (t : Transport)
  | tick (ns : ℕ)                       -- time passes
  | read (d delay delay' n : ℕ)         -- `n` bytes arrive
  | charge (d delay delay' : ℕ)         -- a turn of `limitedWriter.Write`
  | write (d n : ℕ)                     -- `n` bytes of those let through are written

/-- `io.Copy` reads into a buffer of that size. -/
def copyBuffer : ℕ := 32768

namespace Relay

def start (totalLimit sessionLimit : ℤ) : Relay := ⟨Bucket.new totalLimit 0,sessionLimit,0,[],0⟩

variable (s : Relay)

def newDirection (t : Transport) : Direction :=
  ⟨t,Bucket.new s.sessionLimit s.clock,Bucket.new s.sessionLimit s.clock,[],[],[],false⟩

def after (granted : ℤ) (global : Bucket) (now' : ℤ) (d : ℕ) (dir : Direction) : Relay :=
  { s with
    global := global
    clock := now'
    directions := s.directions.set d dir
    credited := s.credited+(global.tokens+granted-s.global.tokens)}

/-- A native relay reads through a `limitedReader`; the others read whole messages. -/
def readStep (d : ℕ) (dir : Direction) (now now' : ℤ) (n : ℕ) : Option Relay :=
  if dir.ended ∨ dir.waiting≠[] ∨ dir.ready≠[] then none
  else match dir.transport with
    | .tcp =>
      let (granted,reader,global):=allow dir.reader s.global now now' copyBuffer
      if n≤granted then
        some (s.after granted global now' d {dir with reader := reader,waiting := List.replicate n 1})
      else none
    | _ => some {s with
        clock := now'
        directions := s.directions.set d {dir with waiting := List.replicate n 0}}

/-- `io.Copy` writes what was let through before the next turn; a message waits until all of it is. -/
def chargeStep (d : ℕ) (dir : Direction) (now now' : ℤ) : Option Relay :=
  if dir.ended ∨ dir.waiting=[] ∨ (dir.transport=.tcp ∧ dir.ready≠[]) then none
  else
    let (granted,writer,global):=allow dir.writer s.global now now' dir.waiting.length
    let passed:=(dir.waiting.take granted.toNat).map (·+1)
    some (s.after granted global now' d {dir with
      writer := writer,waiting := dir.waiting.drop granted.toNat,ready := dir.ready++passed})

def writeStep (d : ℕ) (dir : Direction) (n : ℕ) : Option Relay :=
  if dir.ended ∨ dir.ready=[] ∨ dir.ready.length<n ∨
      (dir.transport ≠ .tcp ∧ (dir.waiting≠[] ∨ (n≠0 ∧ n≠dir.ready.length))) then none
  else some {s with
    directions := s.directions.set d {dir with
      ready := [],relayed := dir.relayed++dir.ready.take n,ended := n<dir.ready.length}}

def step : Event → Option Relay
  | .openSession t => some {s with directions := s.directions++[s.newDirection t,s.newDirection t]}
  | .tick ns => some {s with clock := s.clock+ns}
  | .read d delay delay' n => s.directions[d]?.bind fun dir =>
      s.readStep d dir (s.clock+delay) (s.clock+delay+delay') n
  | .charge d delay delay' => s.directions[d]?.bind fun dir =>
      s.chargeStep d dir (s.clock+delay) (s.clock+delay+delay')
  | .write d n => s.directions[d]?.bind fun dir => s.writeStep d dir n

end Relay

end BetterDesk.RateLimit.Bandwidth
