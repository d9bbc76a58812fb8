import BetterDesk.Codec.Framing

/-! # The three encoders and decoders -/

namespace BetterDesk.Codec
open Nat
open Text (Bytes)

def byte {w : ℕ} (v : BitVec w) : UInt8 := UInt8.ofNat (v.setWidth 8).toNat

theorem byte_eq {w : ℕ} (v : BitVec w) : byte v=UInt8.ofNat v.toNat := by
  rw [← UInt8.toNat_inj,byte,UInt8.toNat_ofNat',UInt8.toNat_ofNat',BitVec.toNat_setWidth]
  omega

def MaxPeerFrameSize : ℕ := 16*1024*1024

def putUint16 (v : BitVec 16) : Bytes := [byte v,byte (v >>> 8)]

def putUint32 (v : BitVec 32) : Bytes := [byte v,byte (v >>> 8),byte (v >>> 16),byte (v >>> 24)]

def encodeHeader (payloadLen : ℕ) : Bytes :=
  if payloadLen≤0x3F then [byte (BitVec.ofNat 64 payloadLen <<< 2)]
  else if payloadLen≤0x3FFF then putUint16 ((BitVec.ofNat 64 payloadLen <<< 2).setWidth 16 ||| 1#16)
  else if payloadLen≤0x3FFFFF then
    let val:=(BitVec.ofNat 64 payloadLen <<< 2).setWidth 32 ||| 2#32
    [byte val,byte (val >>> 8),byte (val >>> 16)]
  else putUint32 ((BitVec.ofNat 64 payloadLen <<< 2).setWidth 32 ||| 3#32)

/-- The bytes written, `none` for data that is too large. -/
def writeRawBytesMax (data : Bytes) (maxLen : ℕ) : Option Bytes :=
  if maxLen<data.length then none else some (encodeHeader data.length++data)

theorem shift_toNat {w n : ℕ} (h : 4*n<2^w) : (BitVec.ofNat w n <<< 2).toNat=4*n := by
  have hn : n<2^w := by omega
  rw [BitVec.toNat_shiftLeft,BitVec.toNat_ofNat,mod_eq_of_lt hn,shiftLeft_eq]
  have hm : n*2^2<2^w := by omega
  rw [mod_eq_of_lt hm]
  omega

theorem tag_toNat {w n t : ℕ} {v : BitVec w} (hv : v.toNat=4*n) (ht : t<4) (h : 4*n+t<2^w) :
    (v ||| BitVec.ofNat w t).toNat=4*n+t := by
  have hor : 2^2*n ||| t=2^2*n+t := (two_pow_add_eq_or_of_lt (by omega) n).symm
  rw [BitVec.toNat_or,hv,BitVec.toNat_ofNat,mod_eq_of_lt (by omega)]
  exact hor

theorem narrow_toNat {w n : ℕ} (h : 4*n<2^w) (hw : w≤64) : ((BitVec.ofNat 64 n <<< 2).setWidth w).toNat=4*n := by
  have hle : 2^w≤2^64 := Nat.pow_le_pow_right (by omega) hw
  rw [BitVec.toNat_setWidth,shift_toNat (by omega),mod_eq_of_lt h]

theorem byte_shift {w m k : ℕ} {v : BitVec w} (hv : v.toNat=m) : byte (v >>> k)=UInt8.ofNat (m/2^k) := by
  rw [byte_eq,BitVec.toNat_ushiftRight,hv,shiftRight_eq_div_pow]

theorem header_eq (n : ℕ) : header n =
    if n≤0x3F then [UInt8.ofNat (4*n)]
    else if n≤0x3FFF then [UInt8.ofNat (4*n+1),UInt8.ofNat ((4*n+1)/2^8)]
    else if n≤0x3FFFFF then
      [UInt8.ofNat (4*n+2),UInt8.ofNat ((4*n+2)/2^8),UInt8.ofNat ((4*n+2)/2^16)]
    else
      [UInt8.ofNat (4*n+3),UInt8.ofNat ((4*n+3)/2^8),UInt8.ofNat ((4*n+3)/2^16),
        UInt8.ofNat ((4*n+3)/2^24)] := by
  rw [header]
  unfold headerLength
  split
  · rfl
  · split
    · rfl
    · split
      · simp only [littleEndian,Nat.div_div_eq_div_mul]
        rfl
      · simp only [littleEndian,Nat.div_div_eq_div_mul]
        rfl

theorem encodeHeader_eq {n : ℕ} (h : n<2^30) : encodeHeader n=header n := by
  rw [header_eq,encodeHeader]
  split
  · rw [byte_eq,shift_toNat (by omega)]
  · split
    · have hv:=tag_toNat (t := 1) (narrow_toNat (w := 16) (n := n) (by omega) (by omega)) (by omega) (by omega)
      rw [putUint16,byte_eq,hv,byte_shift hv]
    · split
      · have hv:=tag_toNat (t := 2) (narrow_toNat (w := 32) (n := n) (by omega) (by omega)) (by omega) (by omega)
        dsimp only
        rw [byte_eq,hv,byte_shift hv,byte_shift hv]
      · have hv:=tag_toNat (t := 3) (narrow_toNat (w := 32) (n := n) (by omega) (by omega)) (by omega) (by omega)
        rw [putUint32,byte_eq,hv,byte_shift hv,byte_shift hv,byte_shift hv]

theorem writeRawBytesMax_eq {data : Bytes} {maxLen : ℕ} (hmax : maxLen<2^30) (h : data.length ≤ maxLen) :
    writeRawBytesMax data maxLen=some (frame data) := by
  rw [writeRawBytesMax,if_neg (by omega),encodeHeader_eq (by omega),frame]

def MAX_RELAY_FRAME_SIZE : ℕ := 64*1024*1024

/-- `buffer.writeUInt16LE(value)` and its like: a value that does not fit throws. -/
def writeUIntLE (width value : ℕ) : Option Bytes :=
  if value<256^width then some (littleEndian width value) else none

/-- `value & 0xFF`, stored as a byte. -/
def low (v : BitVec 32) : UInt8 := UInt8.ofNat (v &&& 0xFF#32).toNat

/-- The bytes of a frame, `none` where the encoder throws. -/
def encodeRelayFrame (data : Bytes) : Option Bytes :=
  let len:=data.length
  if MAX_RELAY_FRAME_SIZE<len then none
  else
    let header :=
      if len≤0x3F then some [byte (BitVec.ofNat 32 len <<< 2)]
      else if len≤0x3FFF then writeUIntLE 2 (BitVec.ofNat 32 len <<< 2 ||| 1#32).toNat
      else if len≤0x3FFFFF then
        let value:=len*4+0x02
        some [low (BitVec.ofNat 32 value),low (BitVec.ofNat 32 value >>> 8),low (BitVec.ofNat 32 value >>> 16)]
      else writeUIntLE 4 (BitVec.ofNat 32 (len*4+0x03)).toNat
    header.map fun header => header++data

theorem low_eq (v : BitVec 32) : low v=UInt8.ofNat v.toNat := by
  rw [← UInt8.toNat_inj,low,UInt8.toNat_ofNat',UInt8.toNat_ofNat',BitVec.toNat_and]
  have hand : v.toNat &&& (0xFF#32).toNat=v.toNat%2^8 := and_two_pow_sub_one_eq_mod v.toNat 8
  rw [hand]
  omega

theorem low_shift {m k : ℕ} {v : BitVec 32} (hv : v.toNat=m) : low (v >>> k)=UInt8.ofNat (m/2^k) := by
  rw [low_eq,BitVec.toNat_ushiftRight,hv,shiftRight_eq_div_pow]

theorem encodeRelayFrame_eq {data : Bytes} (h : data.length≤MAX_RELAY_FRAME_SIZE) :
    encodeRelayFrame data=some (frame data) := by
  have hmax : MAX_RELAY_FRAME_SIZE=67108864 := rfl
  rw [encodeRelayFrame,if_neg (by omega),frame,header_eq]
  split
  · rw [byte_eq,shift_toNat (by omega)]
    rfl
  · split
    · have hv:=tag_toNat (t := 1) (shift_toNat (w := 32) (n := data.length) (by omega)) (by omega) (by omega)
      rw [writeUIntLE,hv,if_pos (by omega)]
      rfl
    · split
      · have hv : (BitVec.ofNat 32 (data.length*4+0x02)).toNat=4*data.length+2 := by
          rw [BitVec.toNat_ofNat]
          omega
        dsimp only
        rw [low_eq,hv,low_shift hv,low_shift hv]
        rfl
      · have hv : (BitVec.ofNat 32 (data.length*4+0x03)).toNat=4*data.length+3 := by
          rw [BitVec.toNat_ofNat]
          omega
        rw [writeUIntLE,hv,if_pos (by omega)]
        simp only [littleEndian,Nat.div_div_eq_div_mul]
        rfl

/-- The bytes of a frame, `none` where the encoder throws. -/
def encodeFrame (buf : Bytes) : Option Bytes :=
  let len:=buf.length
  if len≤0x3F then some (byte (BitVec.ofNat 32 len <<< 2)::buf)
  else if len≤0x3FFF then
    let val:=BitVec.ofNat 32 len <<< 2 ||| 1#32
    some ([low val,low (val.sshiftRight 8)]++buf)
  else if len≤0x3FFFFF then
    let val:=BitVec.ofNat 32 len <<< 2 ||| 2#32
    some ([low val,low (val.sshiftRight 8),low (val.sshiftRight 16)]++buf)
  else if len≤0x3FFFFFFF then
    let val:=BitVec.ofNat 32 len <<< 2 ||| 3#32
    some ([low val,low (val.sshiftRight 8),low (val.sshiftRight 16),low (val >>> 24)]++buf)
  else none

theorem low_sshiftRight {v : BitVec 32} {k : ℕ} (hk : k≤24) : low (v.sshiftRight k)=low (v >>> k) := by
  have hbits : v.sshiftRight k &&& 0xFF#32=v >>> k &&& 0xFF#32 := by
    apply BitVec.eq_of_getLsbD_eq
    intro i hi
    rw [BitVec.getLsbD_and,BitVec.getLsbD_and,BitVec.getLsbD_sshiftRight,BitVec.getLsbD_ushiftRight]
    by_cases hlow : i<8
    · have hin : k+i<32 := by omega
      rw [if_pos hin,decide_eq_false (not_le.mpr hi),Bool.not_false,Bool.true_and]
    · have hmask : (0xFF#32).getLsbD i=false := by
        rw [BitVec.getLsbD_ofNat]
        have hpow : 2^8≤2^i := Nat.pow_le_pow_right (by omega) (by omega)
        have hbit : Nat.testBit 255 i=false := testBit_lt_two_pow (by omega)
        simp [hbit]
      simp [hmask]
  rw [low,low,hbits]

theorem encodeFrame_eq {buf : Bytes} (h : buf.length<2^30) : encodeFrame buf=some (frame buf) := by
  rw [encodeFrame,frame,header_eq]
  split
  · rw [byte_eq,shift_toNat (by omega)]
    rfl
  · split
    · have hv:=tag_toNat (t := 1) (shift_toNat (w := 32) (n := buf.length) (by omega)) (by omega) (by omega)
      dsimp only
      rw [low_eq,hv,low_sshiftRight (by omega),low_shift hv]
    · split
      · have hv:=tag_toNat (t := 2) (shift_toNat (w := 32) (n := buf.length) (by omega)) (by omega) (by omega)
        dsimp only
        rw [low_eq,hv,low_sshiftRight (by omega),low_sshiftRight (by omega),low_shift hv,low_shift hv]
      · have hv:=tag_toNat (t := 3) (shift_toNat (w := 32) (n := buf.length) (by omega)) (by omega) (by omega)
        rw [if_pos (by omega)]
        dsimp only
        rw [low_eq,hv,low_sshiftRight (by omega),low_sshiftRight (by omega),low_shift hv,low_shift hv,
          low_shift hv]

theorem encodeFrame_large {buf : Bytes} (h : 2^30≤buf.length) : encodeFrame buf=none := by
  rw [encodeFrame,if_neg (by omega),if_neg (by omega),if_neg (by omega),if_neg (by omega)]

end BetterDesk.Codec
