import BetterDesk.Signal.Server

/-! # Addresses in messages (crypto/addr_mangle.go) -/

namespace BetterDesk.Signal
open Db Text

/-- `b[lo:hi]` on something of this length; `b[i]` goes from `i` to `i + 1`. -/
structure Slice where
  length : ℕ
  lo : ℕ
  hi : ℕ
  deriving DecidableEq

namespace Slice

structure InBounds (x : Slice) : Prop where
  ordered : x.lo≤x.hi
  inside : x.hi≤x.length

instance (x : Slice) : Decidable x.InBounds :=
  decidable_of_iff (x.lo≤x.hi ∧ x.hi≤x.length) ⟨fun ⟨a,b⟩ => ⟨a,b⟩,fun ⟨a,b⟩ => ⟨a,b⟩⟩

def index (length i : ℕ) : Slice := ⟨length,i,i+1⟩

theorem index_inBounds {length i : ℕ} (h : i<length) : (index length i).InBounds := ⟨Nat.le_succ i,h⟩

end Slice

def sliceBytes (b : Bytes) (lo hi : ℕ) : Option Bytes :=
  if (⟨b.length,lo,hi⟩ : Slice).InBounds then some ((b.take hi).drop lo) else none

theorem sliceBytes_eq {b : Bytes} {lo hi : ℕ} (hlo : lo≤hi) (hhi : hi≤b.length) :
    sliceBytes b lo hi=some ((b.take hi).drop lo) := if_pos ⟨hlo,hhi⟩

def littleEndian (b : Bytes) : ℕ := b.foldr (fun x n => x.toNat+256*n) 0

def bigEndian (b : Bytes) : ℕ := b.foldl (fun n x => 256*n+x.toNat) 0

/-- The bytes of a 32-bit number in little-endian order, read as those of an address. -/
def ipOfUInt32 (x : UInt32) : IP :=
  .v4 (bigEndian [x.toUInt8,(x >>> 8).toUInt8,(x >>> 16).toUInt8,(x >>> 24).toUInt8])

def ipOf16 (b : Bytes) : IP :=
  let value:=bigEndian b
  if value/2^32=0xFFFF then .v4 (value%2^32) else .v6 value

def paddedTo16 (b : Bytes) : Bytes := b.take 16++List.replicate (16-b.length) 0

/-- An address, an error (`some none`), or a slice out of bounds (`none`). -/
def decodeAddr (b : Bytes) : Option (Option Addr) :=
  if b.length=18 then do
    let ip ← sliceBytes b 0 16
    let port ← sliceBytes b 16 18
    pure (some ⟨ipOf16 ip,littleEndian port⟩)
  else if b.length=0 ∨ 16<b.length then pure none
  else do
    let padded:=paddedTo16 b
    let lowBytes ← sliceBytes padded 0 8
    let highBytes ← sliceBytes padded 8 16
    let low : UInt64 := .ofNat (littleEndian lowBytes)
    let high : UInt64 := .ofNat (littleEndian highBytes)
    let timestamp : UInt32 := (low >>> 17).toUInt32
    let ipValue : UInt32 := (((low >>> 49) ||| (high <<< 15))-timestamp.toUInt64).toUInt32
    let port : UInt16 := ((low &&& 0xffffff).toUInt32-(timestamp &&& 0xffff)).toUInt16
    pure (some ⟨ipOfUInt32 ipValue,port.toNat⟩)

def decodeSlices (b : Bytes) : List Slice :=
  if b.length=18 then [⟨b.length,0,16⟩,⟨b.length,16,18⟩]
  else if b.length=0 ∨ 16<b.length then []
  else [⟨16,0,16⟩,⟨16,0,8⟩,⟨16,8,16⟩]

theorem paddedTo16_length {b : Bytes} (h : b.length≤16) : (paddedTo16 b).length=16 := by
  unfold paddedTo16
  rw [List.length_append,List.length_take,List.length_replicate]
  omega

theorem decodeSlices_inBounds (b : Bytes) : ∀ x∈decodeSlices b, x.InBounds := by
  intro x hx
  unfold decodeSlices at hx
  split at hx
  · rename_i hlen
    rw [hlen] at hx
    revert x
    decide
  · split at hx
    · cases hx
    · revert x
      decide

theorem decodeAddr_total (b : Bytes) : ∃ addr, decodeAddr b=some addr := by
  unfold decodeAddr
  split
  · rename_i hlen
    have hip : sliceBytes b 0 16=some ((b.take 16).drop 0) := sliceBytes_eq (by omega) (by omega)
    have hport : sliceBytes b 16 18=some ((b.take 18).drop 16) := sliceBytes_eq (by omega) (by omega)
    rw [hip,hport]
    exact ⟨_,rfl⟩
  · split
    · exact ⟨_,rfl⟩
    · rename_i hlen
      have hpad : (paddedTo16 b).length=16 := paddedTo16_length (by omega)
      have hlow : sliceBytes (paddedTo16 b) 0 8=some (((paddedTo16 b).take 8).drop 0) :=
        sliceBytes_eq (by omega) (by omega)
      have hhigh : sliceBytes (paddedTo16 b) 8 16=some (((paddedTo16 b).take 16).drop 8) :=
        sliceBytes_eq (by omega) (by omega)
      simp only [hlow,hhigh]
      exact ⟨_,rfl⟩

/-- The slices of `EncodeAddr`: the halves of the buffer of an IPv4 address with the
loop over its trailing zero bytes, and those of an IPv6 address. -/
def encodeSlices : List Slice :=
  [⟨16,0,8⟩,⟨16,8,16⟩,⟨18,0,16⟩,⟨18,16,18⟩] ++
    (List.range 16).map (Slice.index 16)++(List.range 17).map fun stop => ⟨16,0,stop⟩

theorem encodeSlices_inBounds : ∀ x∈encodeSlices,x.InBounds := by decide

-- 192.0.2.1:21116 with the timestamp 65535
example : decodeAddr [0x7b,0x52,0xff,0xff,0x01,0x00,0x7e,0x01,0x06,0x02] =
    some (some ⟨.v4 0xC0000201,21116⟩) := by decide

end BetterDesk.Signal
