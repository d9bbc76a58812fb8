import BetterDesk.Lib.Text
import Mathlib.Algebra.Ring.Nat

/-! # SHA-256 (FIPS 180-4) -/

namespace BetterDesk.Fips180
open Text List

abbrev Word := BitVec 32

def ch (x y z : Word) : Word := (x &&& y) ^^^ (~~~x &&& z)
def maj (x y z : Word) : Word := (x &&& y) ^^^ (x &&& z) ^^^ (y &&& z)
def bigSigma0 (x : Word) : Word := x.rotateRight 2 ^^^ x.rotateRight 13 ^^^ x.rotateRight 22
def bigSigma1 (x : Word) : Word := x.rotateRight 6 ^^^ x.rotateRight 11 ^^^ x.rotateRight 25
def smallSigma0 (x : Word) : Word := x.rotateRight 7 ^^^ x.rotateRight 18 ^^^ x>>>3
def smallSigma1 (x : Word) : Word := x.rotateRight 17 ^^^ x.rotateRight 19 ^^^ x>>>10

/-- `r`, with the lower `k` bits that make it the largest whose `n`-th power is at most `x`. -/
def root (n x : ℕ) : ℕ → ℕ → ℕ
  | 0, r => r
  | k+1, r => root n x k (if (r+2^k)^n≤x then r+2^k else r)

/-- The first 32 bits of the fractional part of the `n`-th root of `p`. -/
def fraction (n p : ℕ) : Word := BitVec.ofNat 32 (root n (p*2^(32*n)) 37 0)

def primes : List ℕ := (List.range 312).filter fun p => 2≤p ∧ ∀ d∈List.range p,2≤d → p%d≠0

def K : List Word := primes.map (fraction 3)

structure Vars (α : Type) where
  a : α
  b : α
  c : α
  d : α
  e : α
  f : α
  g : α
  h : α
  deriving DecidableEq

namespace Vars
variable {α β : Type}

def map (f : α → β) (v : Vars α) : Vars β :=
  ⟨f v.a,f v.b,f v.c,f v.d,f v.e,f v.f,f v.g,f v.h⟩

def zip (f : α → α → α) (v w : Vars α) : Vars α :=
  ⟨f v.a w.a,f v.b w.b,f v.c w.c,f v.d w.d,f v.e w.e,f v.f w.f,f v.g w.g,f v.h w.h⟩

def toList (v : Vars α) : List α := [v.a,v.b,v.c,v.d,v.e,v.f,v.g,v.h]

end Vars

def initial : Vars Word := (⟨2,3,5,7,11,13,17,19⟩ : Vars ℕ).map (fraction 2)

def bigEndian (k n : ℕ) : Bytes := (List.range k).map fun i => UInt8.ofNat (n/256^(k-1-i))

def uint32At (t : Bytes) (i : ℕ) : ℕ := (List.range 4).foldl (fun n j => 256*n+(t.getD (i+j) 0).toNat) 0

/-- A one bit, the fewest zeros, and the length of the message in 64 bits. -/
def pad (message : Bytes) : Bytes :=
  message++0x80::replicate ((119-message.length%64)%64) 0++bigEndian 8 (8*message.length)

def scheduled (ws : List Word) : List Word :=
  let w (i : ℕ) := ws.getD (ws.length-i) 0
  ws++[smallSigma1 (w 2)+w 7+smallSigma0 (w 15)+w 16]

def schedule (block : List Word) : List Word := scheduled^[48] block

def round (v : Vars Word) (kw : Word × Word) : Vars Word :=
  let t1:=v.h+bigSigma1 v.e+ch v.e v.f v.g+kw.1+kw.2
  let t2:=bigSigma0 v.a+maj v.a v.b v.c
  ⟨t1+t2,v.a,v.b,v.c,v.d+t1,v.e,v.f,v.g⟩

def compress (h : Vars Word) (block : List Word) : Vars Word :=
  h.zip (·+·) ((K.zip (schedule block)).foldl round h)

def blockAt (t : Bytes) (offset : ℕ) : List Word :=
  (List.range 16).map fun i => BitVec.ofNat 32 (uint32At t (offset+4*i))

def sha256 (message : Bytes) : Bytes :=
  let t:=pad message
  ((List.range (t.length/64)).foldl (fun h i => compress h (blockAt t (64*i))) initial).toList.flatMap
    fun w => bigEndian 4 w.toNat

end BetterDesk.Fips180
