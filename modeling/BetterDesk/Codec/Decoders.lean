import BetterDesk.Codec.Encoders

/-! # The decoders -/

namespace BetterDesk.Codec
open Text (Bytes)
open List Option Nat

def byteAt (bytes : Bytes) (i : ℕ) : UInt8 := bytes.getD i 0

/-- `n |= b << k` -/
def orByte (n : BitVec 32) (b : UInt8) (k : ℕ) : BitVec 32 := n ||| BitVec.ofNat 32 b.toNat <<< k

theorem orByte_toNat {n : BitVec 32} {k : ℕ} (hn : n.toNat<2^k) (hk : k≤24) (b : UInt8) :
    (orByte n b k).toNat=n.toNat+b.toNat*2^k := by
  have hb:=b.toNat_lt
  have hpow : 2^k*2^8≤2^32 := by
    rw [← pow_add]
    exact Nat.pow_le_pow_right (by omega) (by omega)
  have hlt : b.toNat*2^k<2^32 := by
    have hmul : b.toNat*2^k<2^8*2^k := Nat.mul_lt_mul_of_pos_right hb (Nat.two_pow_pos k)
    rw [mul_comm (2^8)] at hmul
    omega
  rw [orByte,BitVec.toNat_or,BitVec.toNat_shiftLeft,BitVec.toNat_ofNat,mod_eq_of_lt (by omega : b.toNat<2^32),
    Nat.shiftLeft_eq,Nat.mod_eq_of_lt hlt,Nat.or_comm,Nat.mul_comm,← Nat.two_pow_add_eq_or_of_lt hn]
  omega

def headerBits (k : ℕ) (b₀ b₁ b₂ b₃ : UInt8) : BitVec 32 :=
  let n:=BitVec.ofNat 32 b₀.toNat
  let n := if 1<k then orByte n b₁ 8 else n
  let n := if 2<k then orByte n b₂ 16 else n
  if 3<k then orByte n b₃ 24 else n

theorem headerBits_toNat (b₀ b₁ b₂ b₃ : UInt8) : (headerBits 1 b₀ b₁ b₂ b₃).toNat=ofLittleEndian [b₀] ∧
      (headerBits 2 b₀ b₁ b₂ b₃).toNat=ofLittleEndian [b₀,b₁] ∧
      (headerBits 3 b₀ b₁ b₂ b₃).toNat=ofLittleEndian [b₀,b₁,b₂] ∧
      (headerBits 4 b₀ b₁ b₂ b₃).toNat=ofLittleEndian [b₀,b₁,b₂,b₃] := by
  have h₀:=b₀.toNat_lt
  have h₁:=b₁.toNat_lt
  have h₂:=b₂.toNat_lt
  have e₀ : (BitVec.ofNat 32 b₀.toNat).toNat=b₀.toNat := by
    rw [BitVec.toNat_ofNat]
    omega
  have e₁:=orByte_toNat (k := 8) (n := BitVec.ofNat 32 b₀.toNat) (by omega) (by omega) b₁
  have e₂:=orByte_toNat (k := 16) (n := orByte (BitVec.ofNat 32 b₀.toNat) b₁ 8) (by omega) (by omega) b₂
  have e₃:=orByte_toNat (k := 24) (n := orByte (orByte (BitVec.ofNat 32 b₀.toNat) b₁ 8) b₂ 16) (by omega) (by omega) b₃
  simp only [headerBits,ofLittleEndian,Nat.reduceLT,if_true,if_false]
  refine ⟨?_,?_,?_,?_⟩ <;> omega

theorem headerBits_take {k : ℕ} {t : Bytes} (hk : 1≤k) (hk4 : k≤4) (hlen : k≤t.length) :
    (headerBits k (byteAt t 0) (byteAt t 1) (byteAt t 2) (byteAt t 3)).toNat=ofLittleEndian (t.take k) := by
  obtain ⟨h1,h2,h3,h4⟩:=headerBits_toNat (byteAt t 0) (byteAt t 1) (byteAt t 2) (byteAt t 3)
  have htake : t.take k=(List.range k).map (byteAt t) := by
    apply ext_getElem
    · simp [hlen]
    · intro i hi _
      have hit : i<t.length := by
        simp only [length_take] at hi
        omega
      simp [byteAt,hit]
  rw [htake]
  obtain rfl | rfl | rfl | rfl : k=1 ∨ k=2 ∨ k=3 ∨ k=4 := by omega
  · exact h1
  · exact h2
  · exact h3
  · exact h4

theorem shiftRight_two (v : BitVec 32) : (v >>> 2).toNat=v.toNat/4 := by
  rw [BitVec.toNat_ushiftRight,shiftRight_eq_div_pow]

/-- `(b & 3) + 1` -/
def headLen (b : UInt8) : ℕ := (b &&& 3).toNat+1

theorem headLen_eq (b : UInt8) : headLen b=b.toNat%4+1 := by
  rw [headLen,UInt8.toNat_and]
  exact congrArg (·+1) (and_two_pow_sub_one_eq_mod b.toNat 2)

/-- `io.ReadFull` on a connection whose bytes arrive in these chunks; `none`
when they end first. -/
def readFull : ℕ → List Bytes → Option (Bytes × List Bytes)
  | 0, conn => some ([],conn)
  | _+1, [] => none
  | n+1, c::conn =>
    if n+1<c.length then some (c.take (n+1),c.drop (n+1)::conn)
    else (readFull (n+1-c.length) conn).map fun r => (c++r.1,r.2)

theorem readFull_eq {n : ℕ} (conn : List Bytes) (h : n≤conn.flatten.length) :
    ∃ conn', readFull n conn=some (conn.flatten.take n,conn') ∧ conn'.flatten=conn.flatten.drop n := by
  induction conn generalizing n with
  | nil =>
    simp only [flatten_nil,length_nil,le_zero] at h
    subst h
    exact ⟨[],rfl,rfl⟩
  | cons c conn ih =>
    cases n with
    | zero => exact ⟨c::conn,rfl,rfl⟩
    | succ n =>
      rw [readFull]
      simp only [flatten_cons,length_append] at h ⊢
      split
      · rename_i hlt
        refine ⟨c.drop (n+1)::conn,?_,?_⟩
        · rw [take_append_of_le_length (by omega)]
        · rw [flatten_cons,drop_append_of_le_length (by omega)]
      · rename_i hle
        obtain ⟨conn',hread,hrest⟩:=ih (n := n+1-c.length) (by omega)
        refine ⟨conn',?_,?_⟩
        · rw [hread,map_some,take_append,take_of_length_le (show c.length≤n+1 by omega)]
        · rw [hrest,drop_append,drop_eq_nil_of_le (show c.length≤n+1 by omega),nil_append]

def readHeader (conn : List Bytes) : Option ((ℕ × ℕ) × List Bytes) :=
  (readFull 1 conn).bind fun (first,conn) =>
    (readFull (headLen (byteAt first 0)-1) conn).map fun (rest,conn) =>
      ((headLen (byteAt first 0),(headerBits (headLen (byteAt first 0)) (byteAt first 0) (byteAt rest 0) (byteAt rest 1)
        (byteAt rest 2) >>> 2).toNat),conn)

def readRawBytesMax (conn : List Bytes) (maxLen : ℕ) : Option (Bytes × List Bytes) :=
  (readHeader conn).bind fun ((_,payloadLen),conn) =>
    if maxLen<payloadLen then none else readFull payloadLen conn

def readPayloads (maxLen : ℕ) : ℕ → List Bytes → List Bytes
  | 0, _ => []
  | fuel+1, conn => match readRawBytesMax conn maxLen with
    | none => []
    | some (payload,conn) => payload::readPayloads maxLen fuel conn

variable {conn : List Bytes} {maxLen : ℕ}

theorem readRawBytesMax_eq {p r : Bytes} (h : splitFrame (some maxLen) conn.flatten=.done p r) :
    ∃ conn', readRawBytesMax conn maxLen=some (p,conn') ∧ conn'.flatten=r := by
  obtain ⟨t,ht⟩ : ∃ t, conn.flatten=t := ⟨_,rfl⟩
  rw [ht] at h
  cases t with
  | nil => cases h
  | cons b t =>
    rw [splitFrame] at h
    split at h
    · cases h
    · rename_i hlen
      simp only [length_cons,Nat.not_lt] at hlen
      unfold splitPayload at h
      split at h
      · cases h
      · rename_i hmax
        split at h
        · cases h
        · rename_i hbody
          cases h
          obtain ⟨c₁,hfirst,hc₁⟩:=readFull_eq (n := 1) conn (by rw [ht,length_cons]; omega)
          rw [ht,take_succ_cons,take_zero] at hfirst
          rw [ht,drop_succ_cons,drop_zero] at hc₁
          have hhead : headLen (byteAt [b] 0)=b.toNat%4+1 := headLen_eq b
          obtain ⟨c₂,hrest,hc₂⟩:=readFull_eq (n := b.toNat%4) c₁ (by rw [hc₁]; omega)
          rw [hc₁] at hrest hc₂
          have hval:=headerBits_take (k := b.toNat%4+1) (t := b::t.take (b.toNat%4)) (by omega) (by omega)
            (by rw [length_cons,length_take]; omega)
          have htake : (b::t.take (b.toNat%4)).take (b.toNat%4+1)=(b::t).take (b.toNat%4+1) := by
            simp
          rw [htake] at hval
          have hheader : readHeader conn=some ((b.toNat%4+1,
              ofLittleEndian ((b::t).take (b.toNat%4+1))/4),c₂) := by
            rw [readHeader,hfirst]
            simp only [bind_some,hhead,Nat.add_sub_cancel,hrest,map_some,shiftRight_two]
            rw [← hval]
            rfl
          simp only [any_some,decide_eq_true_eq,Nat.not_lt] at hmax
          obtain ⟨c₃,hpay,hc₃⟩:=readFull_eq (n := ofLittleEndian ((b::t).take (b.toNat%4+1))/4) c₂
            (by rw [hc₂,length_drop]; simp only [length_cons] at hbody; omega)
          refine ⟨c₃,?_,?_⟩
          · rw [readRawBytesMax,hheader]
            simp only [bind_some,Nat.not_lt.mpr hmax,if_false]
            rw [hpay,hc₂]
            rfl
          · rw [hc₃,hc₂,drop_drop,Nat.add_right_comm,drop_succ_cons]

theorem readRawBytesMax_end (h : conn.flatten=[]) : readRawBytesMax conn maxLen=none := by
  have hnone : readFull 1 conn=none := by
    induction conn with
    | nil => rfl
    | cons c conn ih =>
      obtain ⟨rfl,hrest⟩:=append_eq_nil_iff.mp (flatten_cons ▸ h)
      rw [readFull]
      simpa using ih hrest
  rw [readRawBytesMax,readHeader,hnone]
  rfl

theorem readPayloads_eq {ps : List Bytes} (hps : ∀ p∈ps,Payload (some maxLen) p)
    (h : conn.flatten=ps.flatMap frame) {fuel : ℕ} (hf : ps.length<fuel) : readPayloads maxLen fuel conn=ps := by
  induction ps generalizing conn fuel with
  | nil =>
    obtain ⟨n,rfl⟩ : ∃ n, fuel=n+1 := ⟨fuel-1,by omega⟩
    rw [readPayloads,readRawBytesMax_end h]
  | cons p ps ih =>
    obtain ⟨n,rfl⟩ : ∃ n, fuel=n+1 := ⟨fuel-1,by omega⟩
    have hsplit : splitFrame (some maxLen) conn.flatten=.done p (ps.flatMap frame) := by
      rw [h,flatMap_cons]
      exact splitFrame_frame (hps p mem_cons_self) _
    obtain ⟨conn',hread,hrest⟩:=readRawBytesMax_eq hsplit
    rw [readPayloads,hread]
    simp only [length_cons] at hf
    dsimp only
    rw [ih (fun q hq => hps q (mem_cons_of_mem _ hq)) hrest (by omega)]

def readAll (maxLen : ℕ) (conn : List Bytes) : List Bytes := readPayloads maxLen (conn.flatten.length+1) conn

theorem readAll_eq {ps : List Bytes} (hps : ∀ p∈ps,Payload (some maxLen) p)
    (h : conn.flatten=ps.flatMap frame) : readAll maxLen conn=ps := by
  have hcount (qs : List Bytes) : qs.length≤(qs.flatMap frame).length := by
    induction qs with
    | nil => exact le_refl _
    | cons q qs ih =>
      have hpos:=headerLength_pos q.length
      simp only [flatMap_cons,length_append,length_cons,length_frame]
      omega
  refine readPayloads_eq hps h ?_
  rw [h]
  exact lt_succ_of_le (hcount ps)

end BetterDesk.Codec
