import BetterDesk.Codec.Agreement

/-! # Sessions of the browser client: messages and their encryption -/

namespace BetterDesk.RdClient
open Text (Bytes)

/-- `nacl.secretbox` and `nacl.secretbox.open`: message, nonce and key. -/
structure Secretbox (Key : Type) where
  box : Bytes → Bytes → Key → Bytes
  unbox : Bytes → Bytes → Key → Option Bytes
  unbox_box : ∀ m n k, unbox (box m n k) n k=some m
  unbox_length : ∀ {c n k m}, unbox c n k=some m → c.length=m.length+16

theorem Secretbox.box_length {Key : Type} (b : Secretbox Key) (m n : Bytes) (k : Key) :
    (b.box m n k).length=m.length+16 := b.unbox_length (b.unbox_box m n k)

/-- The message types of the peer protocol, and the request that opens a relay connection. -/
structure Proto (Msg : Type) where
  encode : Msg → Bytes
  decode : Bytes → Option Msg
  fields : Msg → Bool
  encodeRequest : String → Bytes
  decodeRequest : Bytes → Option (Option String)
  decode_encode : ∀ m, decode (encode m)=some m
  decode_request : ∀ id, decodeRequest (encodeRequest id)=some (some id)

structure Crypto (Key : Type) where
  enabled : Bool
  secretKey : Option Key
  sendSeq : ℕ
  recvSeq : ℕ
  deriving DecidableEq

namespace Crypto

variable {Key : Type} (b : Secretbox Key)

def counterNonce (counter : ℕ) : Bytes := Codec.littleEndian 8 counter++List.replicate 16 0

/-- `none` is the exception without a key. -/
def encrypt (c : Crypto Key) (plaintext : Bytes) : Option (Bytes × Crypto Key) :=
  c.secretKey.map fun k =>
    (b.box plaintext (counterNonce (c.sendSeq+1)) k,{c with sendSeq := c.sendSeq+1})

def processOutgoing (c : Crypto Key) (data : Bytes) : Option (Bytes × Crypto Key) :=
  if c.enabled then c.encrypt b data else some (data,c)

def tryDecrypt (c : Crypto Key) (data : Bytes) : Option (Bytes × ℕ) :=
  c.secretKey.bind fun k => (b.unbox data (counterNonce (c.recvSeq+1)) k).map fun m => (m,c.recvSeq+1)

def commitDecrypt (c : Crypto Key) (seq : ℕ) : Crypto Key := {c with recvSeq := seq}

def initial : Crypto Key := {enabled := false,secretKey := none,sendSeq := 0,recvSeq := 0}

def overhead (c : Crypto Key) : ℕ := if c.enabled then 16 else 0

theorem processOutgoing_length {c c' : Crypto Key} {data q : Bytes} (h : c.processOutgoing b data=some (q,c')) :
    q.length=data.length+c.overhead := by
  unfold processOutgoing at h
  split at h
  · rename_i hen
    obtain ⟨k,-,heq⟩:=Option.map_eq_some_iff.mp h
    cases heq
    rw [b.box_length,overhead,if_pos hen]
  · rename_i hen
    cases h
    rw [overhead,if_neg hen,Nat.add_zero]

end Crypto

def sampleTag (n : Bytes) (k : UInt8) : Bytes := k::(n++List.replicate 15 0).take 15

theorem length_sampleTag (n : Bytes) (k : UInt8) : (sampleTag n k).length=16 := by
  simp [sampleTag]

def sampleBox : Secretbox UInt8 where
  box m n k := sampleTag n k++m
  unbox c n k := if c.take 16=sampleTag n k then some (c.drop 16) else none
  unbox_box m n k := by
    rw [List.take_left' (length_sampleTag n k),List.drop_left' (length_sampleTag n k),if_pos rfl]
  unbox_length := by
    intro c n k m h
    split at h
    · rename_i htag
      cases h
      have hlen:=congrArg List.length htag
      rw [length_sampleTag,List.length_take] at hlen
      rw [List.length_drop]
      omega
    · cases h

def sampleChars : Bytes → List Char
  | b₀::b₁::b₂::b₃::t => Char.ofNat (Codec.ofLittleEndian [b₀,b₁,b₂,b₃])::sampleChars t
  | _ => []

def sampleRequest (cs : List Char) : Bytes := cs.flatMap fun c => Codec.littleEndian 4 c.toNat

theorem sampleChars_request (cs : List Char) : sampleChars (sampleRequest cs)=cs := by
  induction cs with
  | nil => rfl
  | cons c cs ih =>
    have hc : c.toNat<256^4 := by
      have hlt:=c.val.toNat_lt
      exact hlt
    have hone : sampleRequest (c::cs)=Codec.littleEndian 4 c.toNat++sampleRequest cs := rfl
    have hval:=Codec.ofLittleEndian_littleEndian hc
    rw [hone]
    simp only [Codec.littleEndian] at hval ⊢
    simp [sampleChars,hval,ih]

def sampleDecode : Bytes → Option Bytes
  | 1::m => some m
  | _ => none

def sampleProto : Proto Bytes where
  encode m := 1::m
  decode := sampleDecode
  fields m := !m.isEmpty
  encodeRequest id := sampleRequest id.toList
  decodeRequest t := some (some (String.ofList (sampleChars t)))
  decode_encode _ := rfl
  decode_request id := by rw [sampleChars_request,String.ofList_toList]

end BetterDesk.RdClient
