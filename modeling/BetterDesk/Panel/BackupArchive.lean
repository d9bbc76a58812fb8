import BetterDesk.Lib.Text

/-! # Reading a backup archive (services/backupArchive.js) -/

namespace BetterDesk.Panel.BackupArchive
open Text List

def BLOCK_SIZE : ℤ := 512

/-- `%` has the sign of the dividend. -/
def padToBlock (size : ℤ) : ℤ :=
  let rem:=size.tmod BLOCK_SIZE
  if rem=0 then 0 else BLOCK_SIZE-rem

/-- `Buffer.slice`: a negative index counts from the end. -/
def slice (buf : Bytes) (start stop : ℤ) : Bytes :=
  let index (i : ℤ) : ℕ := (if i<0 then i+buf.length else i).toNat
  (buf.take (index stop)).drop (index start)

/-- `parseInt(str, 8)`, zero where that is not a number. -/
def parseInt8 (str : Bytes) : ℤ :=
  let str:=str.dropWhile fun b => 9≤b&&b≤13
  let digits (t : Bytes) : ℤ := (t.takeWhile fun b => 48≤b&&b≤55).foldl (fun n b => 8*n+(b.toNat-48)) 0
  match str with
  | 43::t => digits t
  | 45::t => -digits t
  | t => digits t

/-- The bytes are read as ASCII, without their highest bit. -/
def parseOctal (buf : Bytes) (offset length : ℤ) : ℤ :=
  parseInt8 (((slice buf offset (offset+length)).map (· &&& 127)).filter fun b => b≠0&&b≠32)

variable (tar : Bytes)

/-- The size in the header at `offset`; `none` where the loop ends. -/
def sizeAt (offset : ℤ) : Option ℤ :=
  let header:=slice tar offset (offset+BLOCK_SIZE)
  if tar.length<offset+BLOCK_SIZE ∨ header.all (·=0) then none else some (parseOctal header 124 12)

/-- One turn of the loop of `extractTarGz`. -/
def next (offset : ℤ) : Option ℤ :=
  (sizeAt tar offset).map fun size => offset+BLOCK_SIZE+(size+padToBlock size)

/-- The offset after `n` turns. -/
def reached : ℕ → Option ℤ
  | 0 => some 0
  | n+1 => (reached n).bind (next tar)

/-- Every turn goes on, and one of the first turns for the blocks of the archive is the last. -/
structure Ends : Prop where
  advances : ∀ n offset offset', reached tar n=some offset → next tar offset=some offset' → offset<offset'
  ends : ∃ n offset, n≤tar.length/512 ∧ reached tar n=some offset ∧ next tar offset=none

def Forward (size : ℤ) : Prop := -1024 < size ∧ size≠-512

variable {tar} {offset offset' size : ℤ} {n : ℕ}

theorem tmod_eq (size : ℤ) : size.tmod BLOCK_SIZE=if 0 ≤ size then size%512 else -(-size%512) := by
  split
  · exact Int.tmod_eq_emod_of_nonneg (by assumption)
  · rw [← Int.tmod_eq_emod_of_nonneg (by omega),Int.neg_tmod,Int.neg_neg]
    rfl

/-- A turn goes on by whole blocks, but back or nowhere after some sizes below zero. -/
theorem advance (size : ℤ) : (0<BLOCK_SIZE+(size+padToBlock size) ↔ Forward size) ∧
    (Forward size → BLOCK_SIZE≤BLOCK_SIZE+(size+padToBlock size)) := by
  have hblock : BLOCK_SIZE=512 := rfl
  unfold padToBlock Forward
  dsimp only
  rw [tmod_eq,hblock]
  split <;> split <;> omega

theorem next_some : next tar offset=some offset' ↔
    ∃ size, sizeAt tar offset=some size ∧ offset+BLOCK_SIZE+(size+padToBlock size)=offset' := Option.map_eq_some_iff

theorem sizeAt_inside (h : sizeAt tar offset=some size) : offset+BLOCK_SIZE≤tar.length := by
  unfold sizeAt at h
  dsimp only at h
  split at h
  · cases h
  · rename_i hgo
    have hlt:=fun hlt => hgo (.inl hlt)
    omega

theorem reached_far (hok : ∀ n offset size, reached tar n=some offset → sizeAt tar offset=some size → Forward size)
    (h : reached tar n=some offset) : 512*(n : ℤ)≤offset := by
  induction n generalizing offset with
  | zero =>
    cases h
    simp
  | succ n ih =>
    obtain ⟨before,hbefore,hnext⟩:=Option.bind_eq_some_iff.mp h
    obtain ⟨size,hsize,rfl⟩:=next_some.mp hnext
    have hfar:=ih hbefore
    have hturn:=(advance size).2 (hok n before size hbefore hsize)
    have hblock : BLOCK_SIZE=512 := rfl
    push_cast
    omega

theorem stops (hok : ∀ n offset size, reached tar n=some offset → sizeAt tar offset=some size → Forward size) :
    ∃ n offset, n≤tar.length/512 ∧ reached tar n=some offset ∧ next tar offset=none := by
  by_contra hnone
  have hgoes : ∀ n≤tar.length/512+1,∃ offset, reached tar n=some offset := by
    intro n
    induction n with
    | zero => exact fun _ => ⟨0,rfl⟩
    | succ n ih =>
      intro hn
      obtain ⟨offset,h⟩:=ih (by omega)
      cases hnext : next tar offset with
      | none => exact absurd ⟨n,offset,by omega,h,hnext⟩ hnone
      | some offset' => exact ⟨offset',by rw [reached,h]; exact hnext⟩
  obtain ⟨offset',h⟩:=hgoes (tar.length/512+1) (Nat.le_refl _)
  obtain ⟨offset,hlast,hnext⟩:=Option.bind_eq_some_iff.mp h
  obtain ⟨size,hsize,-⟩:=next_some.mp hnext
  have hfar:=reached_far hok hlast
  have hin:=sizeAt_inside hsize
  have hblock : BLOCK_SIZE=512 := rfl
  omega

/-- Exactly a size of -512, or of -1024 and less, in a header that is reached keeps the loop from its end. -/
theorem extraction_ends_iff (tar : Bytes) : Ends tar ↔
    ∀ n offset size, reached tar n=some offset → sizeAt tar offset=some size → Forward size := by
  constructor
  · intro h n offset size hn hsize
    have hlt:=h.advances n offset _ hn (next_some.mpr ⟨size,hsize,rfl⟩)
    exact (advance size).1.mp (by omega)
  · intro hok
    refine ⟨fun n offset offset' hn hnext => ?_,stops hok⟩
    obtain ⟨size,hsize,rfl⟩:=next_some.mp hnext
    have hturn:=(advance size).1.mpr (hok n offset size hn hsize)
    omega

/-- A block with the text `-1000` for its size, which is -512. -/
def stuck : Bytes := replicate 124 1++lit "-1000"++replicate 383 0

theorem extraction_stuck : ¬ ∀ tar, Ends tar := by
  intro h
  have hsize : sizeAt stuck 0=some (-512) := by decide +kernel
  exact ((extraction_ends_iff stuck).mp (h stuck) 0 0 _ rfl hsize).2 rfl

end BetterDesk.Panel.BackupArchive
