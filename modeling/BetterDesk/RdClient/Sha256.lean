import BetterDesk.Lib.Fips180

/-! # The SHA-256 fallback (public/js/rdclient/crypto.js) -/

namespace BetterDesk.RdClient.Sha256
open Text List Fips180

/-- The 32 bits that an operator on integers takes of a number: `ToInt32`, `ToUint32`. -/
def word (x : ℤ) : Word := BitVec.ofInt 32 x

def and (x y : ℤ) : ℤ := (word x &&& word y).toInt
def xor (x y : ℤ) : ℤ := (word x ^^^ word y).toInt
def or (x y : ℤ) : ℤ := (word x ||| word y).toInt
def not (x : ℤ) : ℤ := (~~~word x).toInt
def shiftLeft (x : ℤ) (n : ℕ) : ℤ := (word x<<<n).toInt
def shiftRight (x : ℤ) (n : ℕ) : ℤ := (word x>>>n).toNat

/-- `x | 0` -/
def int32 (x : ℤ) : ℤ := (word x).toInt

/-- What a `Uint32Array` keeps. -/
def uint32 (x : ℤ) : ℤ := (word x).toNat

def K : List ℤ := [
  0x428a2f98,0x71374491,0xb5c0fbcf,0xe9b5dba5,0x3956c25b,0x59f111f1,0x923f82a4,0xab1c5ed5,
  0xd807aa98,0x12835b01,0x243185be,0x550c7dc3,0x72be5d74,0x80deb1fe,0x9bdc06a7,0xc19bf174,
  0xe49b69c1,0xefbe4786,0x0fc19dc6,0x240ca1cc,0x2de92c6f,0x4a7484aa,0x5cb0a9dc,0x76f988da,
  0x983e5152,0xa831c66d,0xb00327c8,0xbf597fc7,0xc6e00bf3,0xd5a79147,0x06ca6351,0x14292967,
  0x27b70a85,0x2e1b2138,0x4d2c6dfc,0x53380d13,0x650a7354,0x766a0abb,0x81c2c92e,0x92722c85,
  0xa2bfe8a1,0xa81a664b,0xc24b8b70,0xc76c51a3,0xd192e819,0xd6990624,0xf40e3585,0x106aa070,
  0x19a4c116,0x1e376c08,0x2748774c,0x34b0bcb5,0x391c0cb3,0x4ed8aa4a,0x5b9cca4f,0x682e6ff3,
  0x748f82ee,0x78a5636f,0x84c87814,0x8cc70208,0x90befffa,0xa4506ceb,0xbef9a3f7,0xc67178f2]

def rotr (x : ℤ) (n : ℕ) : ℤ := or (shiftRight x n) (shiftLeft x (32-n))
def ch (x y z : ℤ) : ℤ := xor (and x y) (and (not x) z)
def maj (x y z : ℤ) : ℤ := xor (xor (and x y) (and x z)) (and y z)
def sigma0 (x : ℤ) : ℤ := xor (xor (rotr x 2) (rotr x 13)) (rotr x 22)
def sigma1 (x : ℤ) : ℤ := xor (xor (rotr x 6) (rotr x 11)) (rotr x 25)
def gamma0 (x : ℤ) : ℤ := xor (xor (rotr x 7) (rotr x 18)) (shiftRight x 3)
def gamma1 (x : ℤ) : ℤ := xor (xor (rotr x 17) (rotr x 19)) (shiftRight x 10)

def padLen (msgLen : ℕ) : ℕ :=
  if (msgLen+8)%64<56 then 56-(msgLen+8)%64+8 else 120-(msgLen+8)%64+8

/-- The array is `padLen + 8` longer than the message; its last word is the length in bits. -/
def padded (message : Bytes) : Bytes :=
  message++0x80::replicate (padLen message.length+8-1-4) 0 ++
    bigEndian 4 (word (message.length*8)).toNat

def initial : Vars ℤ :=
  ⟨0x6a09e667,0xbb67ae85,0x3c6ef372,0xa54ff53a,0x510e527f,0x9b05688c,0x1f83d9ab,0x5be0cd19⟩

/-- `W[i]` for the next `i`. -/
def extend (W : List ℤ) : List ℤ :=
  let w (i : ℕ) := W.getD (W.length-i) 0
  W++[uint32 (int32 (gamma1 (w 2)+w 7+gamma0 (w 15)+w 16))]

def round (v : Vars ℤ) (kw : ℤ × ℤ) : Vars ℤ :=
  let t1:=int32 (v.h+sigma1 v.e+ch v.e v.f v.g+kw.1+kw.2)
  let t2:=int32 (sigma0 v.a+maj v.a v.b v.c)
  ⟨int32 (t1+t2),v.a,v.b,v.c,int32 (v.d+t1),v.e,v.f,v.g⟩

def processBlock (h : Vars ℤ) (block : List ℤ) : Vars ℤ :=
  h.zip (fun x y => int32 (x+y)) ((K.zip (extend^[48] block)).foldl round h)

def blockAt (t : Bytes) (offset : ℕ) : List ℤ :=
  (List.range 16).map fun i => (uint32At t (offset+i*4) : ℤ)

def sha256Fallback (message : Bytes) : Bytes :=
  let t:=padded message
  ((List.range (t.length/64)).foldl (fun h i => processBlock h (blockAt t (64*i))) initial).toList.flatMap
    fun h => bigEndian 4 (word h).toNat

/-- `hashPassword` on the encoded texts, over one of the two digests. -/
def hashPassword (sha256 : Bytes → Bytes) (password salt challenge : Bytes) : Bytes :=
  sha256 (sha256 (password++salt)++challenge)

theorem word_toInt (x : Word) : word x.toInt=x := BitVec.ofInt_toInt

theorem word_toNat (x : Word) : word x.toNat=x := by
  rw [word,BitVec.ofInt_natCast,BitVec.ofNat_toNat,BitVec.setWidth_eq]

theorem word_add (x y : ℤ) : word (x+y)=word x+word y := BitVec.ofInt_add x y

theorem word_int32 (x : ℤ) : word (int32 x)=word x := word_toInt _

theorem word_uint32 (x : ℤ) : word (uint32 x)=word x := word_toNat _

theorem word_rotr (x : ℤ) {n : ℕ} (hn : n<32) : word (rotr x n)=(word x).rotateRight n := by
  rw [rotr,or,word_toInt,shiftRight,word_toNat,shiftLeft,word_toInt,BitVec.rotateRight_def,
    Nat.mod_eq_of_lt hn]

theorem word_ch (x y z : ℤ) : word (ch x y z)=Fips180.ch (word x) (word y) (word z) := by
  simp only [ch,xor,and,not,word_toInt]
  rfl

theorem word_maj (x y z : ℤ) : word (maj x y z)=Fips180.maj (word x) (word y) (word z) := by
  simp only [maj,xor,and,word_toInt]
  rfl

theorem word_sigma0 (x : ℤ) : word (sigma0 x)=bigSigma0 (word x) := by
  simp only [sigma0,xor,word_toInt,word_rotr x (by decide : 2<32),word_rotr x (by decide : 13<32),
    word_rotr x (by decide : 22<32)]
  rfl

theorem word_sigma1 (x : ℤ) : word (sigma1 x)=bigSigma1 (word x) := by
  simp only [sigma1,xor,word_toInt,word_rotr x (by decide : 6<32),word_rotr x (by decide : 11<32),
    word_rotr x (by decide : 25<32)]
  rfl

theorem word_gamma0 (x : ℤ) : word (gamma0 x)=smallSigma0 (word x) := by
  simp only [gamma0,xor,word_toInt,word_rotr x (by decide : 7<32),word_rotr x (by decide : 18<32),
    shiftRight,word_toNat]
  rfl

theorem word_gamma1 (x : ℤ) : word (gamma1 x)=smallSigma1 (word x) := by
  simp only [gamma1,xor,word_toInt,word_rotr x (by decide : 17<32),word_rotr x (by decide : 19<32),
    shiftRight,word_toNat]
  rfl

theorem constants : K.map word=Fips180.K ∧ initial.map word=Fips180.initial := by
  decide +kernel

theorem extend_word (W : List ℤ) : (extend W).map word=scheduled (W.map word) := by
  have hget (i : ℕ) : word (W.getD i 0)=(W.map word).getD i 0 := by
    rw [getD_eq_getElem?_getD,getD_eq_getElem?_getD,getElem?_map]
    cases W[i]? <;> rfl
  simp only [extend,scheduled,map_append,map_cons,map_nil,length_map,word_uint32,word_int32,word_add,
    word_gamma0,word_gamma1,hget]

theorem round_word (v : Vars ℤ) (kw : ℤ × ℤ) :
    (round v kw).map word=Fips180.round (v.map word) (word kw.1,word kw.2) := by
  simp only [round,Fips180.round,Vars.map,word_int32,word_add,word_sigma0,word_sigma1,word_ch,word_maj]

theorem rounds_word (kws : List (ℤ × ℤ)) (v : Vars ℤ) : (kws.foldl round v).map word =
    (kws.map (Prod.map word word)).foldl Fips180.round (v.map word) := by
  induction kws generalizing v with
  | nil => rfl
  | cons kw kws ih =>
    rw [foldl_cons,ih,round_word]
    rfl

theorem processBlock_word (h : Vars ℤ) (block : List ℤ) :
    (processBlock h block).map word=compress (h.map word) (block.map word) := by
  have hW : (extend^[48] block).map word=schedule (block.map word) :=
    Function.Semiconj.iterate_right extend_word 48 block
  have hv:=rounds_word (K.zip (extend^[48] block)) h
  rw [← zip_map,constants.1,hW] at hv
  rw [compress,← hv]
  simp only [processBlock,Vars.map,Vars.zip,word_int32,word_add]

theorem blockAt_word (t : Bytes) (offset : ℕ) : (blockAt t offset).map word=Fips180.blockAt t offset := by
  rw [blockAt,Fips180.blockAt,map_map]
  refine map_congr_left fun i _ => ?_
  rw [Function.comp_apply,word,BitVec.ofInt_natCast,Nat.mul_comm]

theorem blocks_word (t : Bytes) (is : List ℕ) (h : Vars ℤ) :
    (is.foldl (fun h i => processBlock h (blockAt t (64*i))) h).map word =
      is.foldl (fun h i => compress h (Fips180.blockAt t (64*i))) (h.map word) := by
  induction is generalizing h with
  | nil => rfl
  | cons i is ih => rw [foldl_cons,foldl_cons,ih,processBlock_word,blockAt_word]

theorem toList_map {α β : Type} (f : α → β) (v : Vars α) : (v.map f).toList=v.toList.map f := rfl

/-- The fallback puts one block of zeros too many after a message of these lengths. -/
def Overpadded (n : ℕ) : Prop := 48≤n%64 ∧ n%64<56

theorem padded_eq {message : Bytes} (hlen : message.length<2^29) (h : ¬Overpadded message.length) :
    padded message=pad message := by
  have hzeros : padLen message.length+8-1-4=(119-message.length%64)%64+4 := by
    unfold padLen Overpadded at *
    split <;> omega
  have hbits : (word (message.length*8)).toNat=8*message.length := by
    have hcast : (message.length : ℤ)*8=((8*message.length : ℕ) : ℤ) := by
      push_cast
      omega
    rw [hcast,word,BitVec.ofInt_natCast,BitVec.toNat_ofNat,Nat.mod_eq_of_lt (by omega)]
  have hhigh (n : ℕ) (hn : n<2^32) : bigEndian 8 n=replicate 4 0++bigEndian 4 n := by
    simp [bigEndian,range_succ,Nat.div_eq_of_lt,show n<72057594037927936 by omega,
      show n<281474976710656 by omega,show n<1099511627776 by omega,show n<4294967296 by omega]
  rw [padded,pad,hzeros,hbits,hhigh _ (by omega),replicate_add]
  simp only [append_assoc,cons_append]

theorem fallback_eq {message : Bytes} (hlen : message.length<2^29) (h : ¬Overpadded message.length) :
    sha256Fallback message=sha256 message := by
  have hhash:=blocks_word (padded message) (List.range ((padded message).length/64)) initial
  rw [constants.2] at hhash
  rw [sha256Fallback,sha256,← padded_eq hlen h]
  rw [← hhash,toList_map,flatMap_map]

theorem padded_iff {message : Bytes} (hlen : message.length<2^29) :
    padded message=pad message ↔ ¬Overpadded message.length := by
  refine ⟨fun heq h => ?_,padded_eq hlen⟩
  have hsize:=congrArg List.length heq
  simp only [padded,pad,bigEndian,length_append,length_cons,length_replicate,length_map,length_range] at hsize
  unfold padLen at hsize
  unfold Overpadded at h
  split at hsize <;> omega

theorem sha256_length (message : Bytes) : (sha256 message).length=32 := by
  simp [sha256,Vars.toList,bigEndian]

/-- Except after the lengths that are padded with a block too many, the two digests agree, and with
them the two hashes of a password. -/
theorem fallback_agrees (message : Bytes) (hlen : message.length<2^29) :
    (padded message=pad message ↔ ¬Overpadded message.length) ∧
      (¬Overpadded message.length → sha256Fallback message=sha256 message ∧
        ∀ password salt challenge : Bytes, password++salt=message → 32+challenge.length<2^29 →
          ¬Overpadded (32+challenge.length) →
          hashPassword sha256Fallback password salt challenge=hashPassword sha256 password salt challenge) := by
  refine ⟨padded_iff hlen,fun h => ⟨fallback_eq hlen h,fun password salt challenge hm hc hc' => ?_⟩⟩
  have hsize : (sha256 message++challenge).length=32+challenge.length := by
    rw [length_append,sha256_length]
  rw [hashPassword,hashPassword,hm,fallback_eq hlen h,fallback_eq (by rw [hsize]; exact hc) (by rw [hsize]; exact hc')]

instance (n : ℕ) : Decidable (Overpadded n) := inferInstanceAs (Decidable (_ ∧ _))

theorem fallback_agrees_short : hashPassword sha256Fallback (lit "secret") (lit "salt") (lit "challenge") =
    hashPassword sha256 (lit "secret") (lit "salt") (lit "challenge") :=
  ((fallback_agrees _ (by decide)).2 (by decide)).2 _ _ _ rfl (by decide) (by decide)

theorem fallback_differs :
    ¬ ∀ message : Bytes, message.length<2^29 → sha256Fallback message=sha256 message := by
  intro h
  have heq : (sha256Fallback (replicate 48 0)).head?=(sha256 (replicate 48 0)).head? :=
    congrArg head? (h _ (by decide))
  revert heq
  decide +kernel

end BetterDesk.RdClient.Sha256
