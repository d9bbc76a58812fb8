import BetterDesk.Signal.AddrMangle
import Mathlib.Data.Nat.Bitwise
import Mathlib.Tactic.NormNum
import Mathlib.Tactic.Ring

/-! # Addresses come back (crypto/addr_mangle.go) -/

namespace BetterDesk.Signal.AddrMangle
open Text List Option Nat

/-- The low `w` bytes of a number, the least significant first. -/
def putLittleEndian : ℕ → ℕ → Bytes
  | 0, _ => []
  | w+1, n => UInt8.ofNat n::putLittleEndian w (n/256)

@[simp] theorem putLittleEndian_length (w n : ℕ) : (putLittleEndian w n).length=w := by
  induction w generalizing n with
  | zero => rfl
  | succ w ih => rw [putLittleEndian,length_cons,ih]

@[simp] theorem littleEndian_cons (b : UInt8) (t : Bytes) :
    littleEndian (b::t)=b.toNat+256*littleEndian t := rfl

theorem littleEndian_put (w n : ℕ) : littleEndian (putLittleEndian w n)=n%256^w := by
  induction w generalizing n with
  | zero => rw [pow_zero,mod_one]; rfl
  | succ w ih =>
    have hmod : n%256^(w+1)=n%256+256*(n/256%256^w) := by rw [pow_succ',mod_mul]
    rw [putLittleEndian,littleEndian_cons,ih,UInt8.toNat_ofNat',hmod]

theorem littleEndian_lt (t : Bytes) : littleEndian t<256^t.length := by
  induction t with
  | nil => exact one_pos
  | cons b t ih =>
    have hb : b.toNat<256 := b.toNat_lt
    rw [littleEndian_cons,length_cons,pow_succ]
    omega

theorem put_littleEndian (t : Bytes) : putLittleEndian t.length (littleEndian t)=t := by
  induction t with
  | nil => rfl
  | cons b t ih =>
    have hb : b.toNat<256 := b.toNat_lt
    have hdiv : (b.toNat+256*littleEndian t)/256=littleEndian t := by omega
    have hhead : UInt8.ofNat (b.toNat+256*littleEndian t)=b := by
      apply UInt8.toNat_inj.mp
      rw [UInt8.toNat_ofNat']
      omega
    rw [littleEndian_cons,length_cons,putLittleEndian,hdiv,hhead,ih]

/-- `for end > 0 && buf[end-1] == 0 { end-- }`. -/
def trimmedEnd (buf : Bytes) : ℕ → ℕ
  | 0 => 0
  | stop+1 => if buf[stop]?=some 0 then trimmedEnd buf stop else stop+1

theorem trimmedEnd_le (buf : Bytes) (stop : ℕ) : trimmedEnd buf stop ≤ stop := by
  induction stop with
  | zero => exact le_refl 0
  | succ stop ih =>
    unfold trimmedEnd
    split
    · exact ih.trans (le_succ stop)
    · exact le_refl _

theorem take_trimmedEnd (buf : Bytes) (stop : ℕ) :
    buf.take stop=buf.take (trimmedEnd buf stop)++List.replicate ((buf.take stop).length-trimmedEnd buf stop) 0 ∨
      buf.length < stop := by
  induction stop with
  | zero => exact .inl rfl
  | succ stop ih =>
    by_cases hlen : buf.length < stop+1
    · exact .inr hlen
    · left
      have hin : stop<buf.length := by omega
      unfold trimmedEnd
      by_cases hzero : buf[stop]?=some 0
      · have hcut:=ih.resolve_right (by omega)
        have hle:=trimmedEnd_le buf stop
        have hone : stop+1-trimmedEnd buf stop=stop-trimmedEnd buf stop+1 := by omega
        rw [length_take_of_le (by omega)] at hcut ⊢
        rw [if_pos hzero,take_add_one,hzero,hone,replicate_succ',← append_assoc,← hcut]
        rfl
      · rw [if_neg hzero,length_take_of_le (by omega),Nat.sub_self,replicate_zero,append_nil]

def trimZeros (buf : Bytes) : Bytes := buf.take (trimmedEnd buf buf.length)

theorem trimZeros_append (buf : Bytes) : buf=trimZeros buf++List.replicate (buf.length-(trimZeros buf).length) 0 := by
  have hcut:=(take_trimmedEnd buf buf.length).resolve_right (lt_irrefl _)
  have hlen : (trimZeros buf).length=trimmedEnd buf buf.length :=
    length_take_of_le (trimmedEnd_le buf buf.length)
  rw [take_length] at hcut
  rw [hlen]
  exact hcut

theorem trimZeros_length_le (buf : Bytes) : (trimZeros buf).length≤buf.length := length_take_le' ..

theorem paddedTo16_trimZeros {buf : Bytes} (h : buf.length=16) : paddedTo16 (trimZeros buf)=buf := by
  have hle:=trimZeros_length_le buf
  have happend:=trimZeros_append buf
  rw [h] at hle happend
  rw [paddedTo16,take_of_length_le hle]
  exact happend.symm

theorem littleEndian_replicate (n : ℕ) : littleEndian (List.replicate n 0)=0 := by
  induction n with
  | zero => rfl
  | succ n ih => rw [replicate_succ,littleEndian_cons,ih]; rfl

theorem trimZeros_eq_nil_iff (buf : Bytes) : trimZeros buf=[] ↔ littleEndian buf=0 := by
  constructor
  · intro hnil
    have happend:=trimZeros_append buf
    rw [hnil,nil_append] at happend
    rw [happend,littleEndian_replicate]
  · intro hzero
    have hbuf : buf=List.replicate buf.length 0 := by
      rw [← put_littleEndian buf,hzero]
      generalize buf.length=n
      induction n with
      | zero => rfl
      | succ n ih =>
        rw [putLittleEndian_length] at ih ⊢
        rw [putLittleEndian,replicate_succ,Nat.zero_div,ih]
        rfl
    have hend (stop : ℕ) (h : stop≤buf.length) : trimmedEnd buf stop=0 := by
      induction stop with
      | zero => rfl
      | succ stop ih =>
        have hget : buf[stop]?=some 0 := by
          rw [hbuf,List.getElem?_replicate,if_pos (by omega)]
        rw [trimmedEnd,if_pos hget,ih (by omega)]
    rw [trimZeros,hend buf.length (le_refl _),take_zero]

/-- `net.UDPAddr`. An address has 4 or 16 bytes when it is one. -/
structure UDPAddr where
  ip : Bytes
  port : ℤ

def v4InV6Prefix : Bytes := [0,0,0,0,0,0,0,0,0,0,0xff,0xff]

def to4 (ip : Bytes) : Option Bytes :=
  if ip.length=4 then some ip
  else if ip.length=16 ∧ ip.take 12=v4InV6Prefix then some (ip.drop 12)
  else none

def to16 (ip : Bytes) : Option Bytes :=
  if ip.length=4 then some (v4InV6Prefix++ip)
  else if ip.length=16 then some ip
  else none

/-- `encodeIPv4` from the four bytes of the address on. -/
def mangle (ip : Bytes) (port : ℤ) (timestamp : UInt32) : Bytes :=
  let ipValue : UInt64 := .ofNat (littleEndian ip)
  let sum:=ipValue+timestamp.toUInt64
  let low:=(sum <<< 49) ||| (timestamp.toUInt64 <<< 17) ||| (UInt64.ofInt port+(timestamp &&& 0xffff).toUInt64)
  let high:=sum >>> 15
  trimZeros (putLittleEndian 8 low.toNat++putLittleEndian 8 high.toNat)

def encodeIPv4 (addr : UDPAddr) (timestamp : UInt32) : Option Bytes :=
  (to4 addr.ip).map fun ip => mangle ip addr.port timestamp

/-- `EncodeAddr`, with the microseconds it reads off the clock; no bytes for no address. -/
def encodeAddr (addr : Option UDPAddr) (timestamp : UInt32) : Bytes := match addr with
  | none => []
  | some addr =>
    if addr.port<0 ∨ 65535<addr.port then []
    else match encodeIPv4 addr timestamp with
      | some b => b
      | none => match to16 addr.ip with
        | none => []
        | some ip6 => ip6++putLittleEndian 2 addr.port.toNat

theorem or_disjoint {a b c : ℕ} (k m : ℕ) (hc : c<2^k) (hb : b<2^m) : 2^(k+m)*a ||| 2^k*b ||| c=2^(k+m)*a+2^k*b+c := by
  have hmid : 2^k*b<2^(k+m) := by
    rw [pow_add]
    exact Nat.mul_lt_mul_of_pos_left hb (Nat.two_pow_pos k)
  have hsplit : 2^(k+m)*a+2^k*b=2^k*(2^m*a+b) := by ring
  rw [← two_pow_add_eq_or_of_lt hmid,hsplit,← two_pow_add_eq_or_of_lt hc]

section Words
variable {ipValue port : ℕ} {timestamp : UInt32}

theorem sum_toNat (hip : ipValue<2^32) : (UInt64.ofNat ipValue+timestamp.toUInt64).toNat=ipValue+timestamp.toNat := by
  have ht : timestamp.toNat<2^32 := timestamp.toNat_lt
  simp only [UInt64.toNat_add,UInt64.toNat_ofNat',UInt32.toNat_toUInt64]
  omega

theorem and_mask_toNat (timestamp : UInt32) : (timestamp &&& 0xffff).toNat=timestamp.toNat%2^16 := by
  rw [UInt32.toNat_and]
  exact and_two_pow_sub_one_eq_mod timestamp.toNat 16

theorem low_toNat (hip : ipValue<2^32) (hport : port<2^16) :
    ((((UInt64.ofNat ipValue+timestamp.toUInt64) <<< 49) ||| (timestamp.toUInt64 <<< 17)) |||
        (UInt64.ofInt port+(timestamp &&& 0xffff).toUInt64)).toNat =
      2^49*((ipValue+timestamp.toNat)%2^15)+2^17*timestamp.toNat +
        (port+timestamp.toNat%2^16) := by
  have ht : timestamp.toNat<2^32 := timestamp.toNat_lt
  have hlast : (UInt64.ofInt port+(timestamp &&& 0xffff).toUInt64).toNat=port+timestamp.toNat%2^16 := by
    have hint : (UInt64.ofInt (port : ℤ)).toNat=port := by
      rw [UInt64.ofInt,UInt64.toNat_ofNat']
      omega
    rw [UInt64.toNat_add,UInt32.toNat_toUInt64,and_mask_toNat,hint]
    omega
  have htop (n : ℕ) : n*2^49%2^64=2^(17+32)*(n%2^15) := by
    rw [show 2^64=2^15*2^49 by norm_num,mul_mod_mul_right,mul_comm]
  have hmid : timestamp.toNat*2^17%2^64=2^17*timestamp.toNat := by omega
  rw [UInt64.toNat_or,UInt64.toNat_or,UInt64.toNat_shiftLeft,UInt64.toNat_shiftLeft,sum_toNat hip,hlast,
    UInt32.toNat_toUInt64,shiftLeft_eq,shiftLeft_eq]
  show (ipValue+timestamp.toNat)*2^49%2^64 ||| timestamp.toNat*2^17%2^64 ||| _=_
  rw [htop,hmid,or_disjoint 17 32 (by omega) ht]

theorem high_toNat (hip : ipValue<2^32) :
    ((UInt64.ofNat ipValue+timestamp.toUInt64) >>> 15).toNat=(ipValue+timestamp.toNat)/2^15 := by
  rw [UInt64.toNat_shiftRight,sum_toNat hip,shiftRight_eq_div_pow]
  rfl

variable {low high : ℕ} (hlow : low=2^49*((ipValue+timestamp.toNat)%2^15)+2^17*timestamp.toNat +
  (port+timestamp.toNat%2^16))

include hlow in
theorem low_lt (hport : port<2^16) : low<2^64 := by
  have ht : timestamp.toNat<2^32 := timestamp.toNat_lt
  have hrest : (ipValue+timestamp.toNat)%2^15<2^15 := Nat.mod_lt _ (Nat.two_pow_pos 15)
  omega

include hlow in
theorem timestamp_read (hport : port<2^16) : (UInt64.ofNat low >>> 17).toUInt32=timestamp := by
  have ht : timestamp.toNat<2^32 := timestamp.toNat_lt
  have hshift : low/2^17=2^32*((ipValue+timestamp.toNat)%2^15)+timestamp.toNat := by omega
  apply UInt32.toNat_inj.mp
  rw [UInt64.toNat_toUInt32,UInt64.toNat_shiftRight,UInt64.toNat_ofNat',shiftRight_eq_div_pow,
    mod_eq_of_lt (low_lt hlow hport)]
  show low/2^17%2^32=timestamp.toNat
  rw [hshift,mul_add_mod,mod_eq_of_lt ht]

include hlow in
theorem port_read (hport : port<2^16) :
    ((UInt64.ofNat low &&& 0xffffff).toUInt32-(timestamp &&& 0xffff)).toUInt16.toNat=port := by
  have ht : timestamp.toNat<2^32 := timestamp.toNat_lt
  have hlast : (UInt64.ofNat low &&& 0xffffff).toNat=low%2^24 := by
    rw [UInt64.toNat_and,UInt64.toNat_ofNat',mod_eq_of_lt (low_lt hlow hport)]
    exact and_two_pow_sub_one_eq_mod low 24
  rw [UInt32.toNat_toUInt16,UInt32.toNat_sub,UInt64.toNat_toUInt32,and_mask_toNat,hlast]
  omega

include hlow in
theorem ipValue_read (hhigh : high=(ipValue+timestamp.toNat)/2^15) (hip : ipValue<2^32) (hport : port<2^16) :
    (((UInt64.ofNat low >>> 49) ||| (UInt64.ofNat high <<< 15))-timestamp.toUInt64).toUInt32.toNat=ipValue := by
  have ht : timestamp.toNat<2^32 := timestamp.toNat_lt
  have hlt : (ipValue+timestamp.toNat)%2^15<2^15 := Nat.mod_lt _ (Nat.two_pow_pos 15)
  have hleft : (UInt64.ofNat low >>> 49).toNat=(ipValue+timestamp.toNat)%2^15 := by
    rw [UInt64.toNat_shiftRight,UInt64.toNat_ofNat',shiftRight_eq_div_pow,mod_eq_of_lt (low_lt hlow hport)]
    show low/2^49=_
    omega
  have hright : (UInt64.ofNat high <<< 15).toNat=2^15*((ipValue+timestamp.toNat)/2^15) := by
    rw [UInt64.toNat_shiftLeft,UInt64.toNat_ofNat',shiftLeft_eq]
    show high%2^64*2^15%2^64=_
    omega
  have hsum : ((UInt64.ofNat low >>> 49) ||| (UInt64.ofNat high <<< 15)).toNat=ipValue+timestamp.toNat := by
    rw [UInt64.toNat_or,hleft,hright,lor_comm,← two_pow_add_eq_or_of_lt hlt]
    exact div_add_mod _ _
  rw [UInt64.toNat_toUInt32,UInt64.toNat_sub,hsum,UInt32.toNat_toUInt64]
  omega

end Words

theorem ipOfUInt32_littleEndian {ip : Bytes} {x : UInt32} (hlen : ip.length=4) (hx : x.toNat=littleEndian ip) :
    ipOfUInt32 x=.v4 (bigEndian ip) := by
  obtain ⟨a,b,c,d,rfl⟩ : ∃ a b c d, ip=[a,b,c,d] := by
    match ip, hlen with
    | [a,b,c,d], _ => exact ⟨a,b,c,d,rfl⟩
  simp only [littleEndian_cons,show littleEndian []=0 from rfl] at hx
  have ha:=a.toNat_lt
  have hb:=b.toNat_lt
  have hc:=c.toNat_lt
  have hd:=d.toNat_lt
  have hbytes : [x.toUInt8,(x >>> 8).toUInt8,(x >>> 16).toUInt8,(x >>> 24).toUInt8]=[a,b,c,d] := by
    have hshift (k : UInt32) (n : ℕ) (hk : k.toNat%32=n) : (x >>> k).toUInt8.toNat=x.toNat/2^n%2^8 := by
      rw [UInt32.toNat_toUInt8,UInt32.toNat_shiftRight,hk,shiftRight_eq_div_pow]
    congr 1
    · apply UInt8.toNat_inj.mp
      rw [UInt32.toNat_toUInt8]
      omega
    congr 1
    · apply UInt8.toNat_inj.mp
      rw [hshift 8 8 rfl]
      omega
    congr 1
    · apply UInt8.toNat_inj.mp
      rw [hshift 16 16 rfl]
      omega
    congr 1
    apply UInt8.toNat_inj.mp
    rw [hshift 24 24 rfl]
    omega
  rw [ipOfUInt32,hbytes]

theorem littleEndian_append (s t : Bytes) : littleEndian (s++t)=littleEndian s+256^s.length*littleEndian t := by
  induction s with
  | nil => simp only [nil_append,length_nil,pow_zero,one_mul]; exact (zero_add _).symm
  | cons b s ih =>
    rw [cons_append,littleEndian_cons,littleEndian_cons,ih,length_cons,pow_succ]
    ring

theorem decodeAddr_words {b : Bytes} {low high : ℕ} (hne : b≠[]) (hlen : b.length≤16) (hlow : low<2^64)
    (hhigh : high<2^64) (hpad : paddedTo16 b=putLittleEndian 8 low++putLittleEndian 8 high) :
    decodeAddr b =
      let timestamp : UInt32 := (UInt64.ofNat low >>> 17).toUInt32
      some (some ⟨ipOfUInt32 (((UInt64.ofNat low >>> 49) ||| (UInt64.ofNat high <<< 15))-timestamp.toUInt64).toUInt32,
        ((UInt64.ofNat low &&& 0xffffff).toUInt32-(timestamp &&& 0xffff)).toUInt16.toNat⟩) := by
  have hpos : 0<b.length := length_pos_iff.mpr hne
  have h16 : (paddedTo16 b).length=16 := paddedTo16_length hlen
  have hlo : ((paddedTo16 b).take 8).drop 0=putLittleEndian 8 low := by
    rw [hpad,drop_zero,take_left' (putLittleEndian_length 8 low)]
  have hhi : ((paddedTo16 b).take 16).drop 8=putLittleEndian 8 high := by
    rw [take_of_length_le (by omega),hpad,drop_left' (putLittleEndian_length 8 low)]
  have hlow' : littleEndian (putLittleEndian 8 low)=low := by
    rw [littleEndian_put,mod_eq_of_lt (by simpa using hlow)]
  have hhigh' : littleEndian (putLittleEndian 8 high)=high := by
    rw [littleEndian_put,mod_eq_of_lt (by simpa using hhigh)]
  unfold decodeAddr
  rw [if_neg (by omega),if_neg (by omega)]
  simp only [@sliceBytes_eq (paddedTo16 b) 0 8 (by omega) (by omega),
    @sliceBytes_eq (paddedTo16 b) 8 16 (by omega) (by omega),hlo,hhi,bind_eq_bind,
    bind_some,hlow',hhigh',Option.pure_def]

theorem decodeAddr_mangle {ip : Bytes} {port : ℤ} (timestamp : UInt32) (hlen : ip.length=4)
    (hport : 0≤port ∧ port≤65535) :
    (mangle ip port timestamp).length≤16 ∧
      decodeAddr (mangle ip port timestamp) =
        if littleEndian ip=0 ∧ port=0 ∧ timestamp=0 then some none
        else some (some ⟨.v4 (bigEndian ip),port.toNat⟩) := by
  obtain ⟨n,rfl⟩ : ∃ n : ℕ, port=n := ⟨port.toNat,(Int.toNat_of_nonneg hport.1).symm⟩
  have hn : n<2^16 := by omega
  have hip : littleEndian ip<2^32 := by
    have hlt:=littleEndian_lt ip
    rw [hlen] at hlt
    exact hlt
  have ht : timestamp.toNat<2^32 := timestamp.toNat_lt
  obtain ⟨low,hlow⟩ : ∃ low, low=2^49*((littleEndian ip+timestamp.toNat)%2^15) +
    2^17*timestamp.toNat+(n+timestamp.toNat%2^16) := ⟨_,rfl⟩
  obtain ⟨high,hhigh⟩ : ∃ high, high=(littleEndian ip+timestamp.toNat)/2^15 := ⟨_,rfl⟩
  have hmangle : mangle ip n timestamp=trimZeros (putLittleEndian 8 low++putLittleEndian 8 high) := by
    simp only [mangle]
    rw [low_toNat hip hn,high_toNat hip,← hlow,← hhigh]
  have h16 : (putLittleEndian 8 low++putLittleEndian 8 high).length=16 := by simp
  have hlowlt:=low_lt hlow hn
  have hhighlt : high<2^64 := by omega
  have hle : (mangle ip n timestamp).length≤16 := by
    rw [hmangle,← h16]
    exact trimZeros_length_le _
  refine ⟨hle,?_⟩
  have hnil : mangle ip n timestamp=[] ↔ littleEndian ip=0 ∧ (n : ℤ)=0 ∧ timestamp=0 := by
    have hwords : littleEndian (putLittleEndian 8 low++putLittleEndian 8 high)=low+2^64*high := by
      rw [littleEndian_append,littleEndian_put,littleEndian_put,putLittleEndian_length,
        mod_eq_of_lt (by simpa using hlowlt),mod_eq_of_lt (by simpa using hhighlt)]
      norm_num
    rw [hmangle,trimZeros_eq_nil_iff,hwords]
    constructor
    · intro h
      have hlow0 : low=0 := by omega
      have hhigh0 : high=0 := by omega
      have hn0 : n=0 := by omega
      have ht0 : timestamp.toNat=0 := by omega
      have hip0 : littleEndian ip=0 := by omega
      exact ⟨hip0,by rw [hn0]; rfl,UInt32.toNat_inj.mp ht0⟩
    · rintro ⟨hip0,hn0,rfl⟩
      have hn0 : n=0 := by omega
      rw [hlow,hhigh,hip0,hn0]
      rfl
  split
  · rename_i hall
    rw [hnil.mpr hall]
    rfl
  · rename_i hsome
    have hpad : paddedTo16 (mangle ip n timestamp)=putLittleEndian 8 low++putLittleEndian 8 high := by
      rw [hmangle,paddedTo16_trimZeros h16]
    rw [decodeAddr_words (fun h => hsome (hnil.mp h)) hle hlowlt hhighlt hpad]
    dsimp only
    rw [timestamp_read hlow hn,port_read hlow hn,
      ipOfUInt32_littleEndian hlen (ipValue_read hlow hhigh hip hn),Int.toNat_natCast]

theorem to4_length {ip ip4 : Bytes} (h : to4 ip=some ip4) : ip4.length=4 := by
  unfold to4 at h
  split at h
  · cases h
    assumption
  · split at h
    · rename_i hmapped
      cases h
      rw [length_drop]
      omega
    · cases h

theorem bigEndian_eq (t : Bytes) : bigEndian t=littleEndian t.reverse := by
  unfold bigEndian littleEndian
  rw [foldr_reverse]
  congr 1
  funext n x
  omega

theorem bigEndian_append (s t : Bytes) : bigEndian (s++t)=256^t.length*bigEndian s+bigEndian t := by
  rw [bigEndian_eq,bigEndian_eq,bigEndian_eq,reverse_append,littleEndian_append,length_reverse]
  omega

theorem bigEndian_inj {s t : Bytes} (hlen : s.length=t.length) (h : bigEndian s=bigEndian t) : s=t := by
  rw [bigEndian_eq,bigEndian_eq] at h
  apply reverse_injective
  rw [← put_littleEndian s.reverse,← put_littleEndian t.reverse,h,length_reverse,length_reverse,hlen]

theorem ipOf16_of_to4_none {ip : Bytes} (hlen : ip.length=16) (h4 : to4 ip=none) : ipOf16 ip=.v6 (bigEndian ip) := by
  have hmapped : ip.take 12≠v4InV6Prefix := by
    intro hpre
    rw [to4,if_neg (by omega),if_pos ⟨hlen,hpre⟩] at h4
    cases h4
  have hlast : bigEndian (ip.drop 12)<256^4 := by
    have hlt:=littleEndian_lt (ip.drop 12).reverse
    rw [length_reverse,length_drop,hlen] at hlt
    rw [bigEndian_eq]
    exact hlt
  have hsplit : bigEndian ip=256^4*bigEndian (ip.take 12)+bigEndian (ip.drop 12) := by
    have happend:=bigEndian_append (ip.take 12) (ip.drop 12)
    rw [take_append_drop,length_drop,hlen] at happend
    exact happend
  have hfirst : bigEndian ip/2^32=bigEndian (ip.take 12) := by omega
  have hne : bigEndian (ip.take 12)≠0xFFFF := by
    intro heq
    refine hmapped (bigEndian_inj ?_ (heq.trans (by decide)))
    rw [length_take,hlen]
    rfl
  unfold ipOf16
  dsimp only
  rw [hfirst,if_neg hne]

theorem decodeAddr_sixteen {ip : Bytes} {port : ℕ} (hlen : ip.length=16) (hport : port≤65535) :
    decodeAddr (ip++putLittleEndian 2 port)=some (some ⟨ipOf16 ip,port⟩) := by
  have h18 : (ip++putLittleEndian 2 port).length=18 := by
    rw [length_append,putLittleEndian_length,hlen]
  have hip : ((ip++putLittleEndian 2 port).take 16).drop 0=ip := by
    rw [drop_zero,take_left' hlen]
  have htail : ((ip++putLittleEndian 2 port).take 18).drop 16=putLittleEndian 2 port := by
    rw [take_of_length_le (by omega),drop_left' hlen]
  have hread : littleEndian (putLittleEndian 2 port)=port := by
    rw [littleEndian_put,mod_eq_of_lt (by omega)]
  unfold decodeAddr
  rw [if_pos h18]
  simp only [@sliceBytes_eq (ip++putLittleEndian 2 port) 0 16 (by omega) (by omega),
    @sliceBytes_eq (ip++putLittleEndian 2 port) 16 18 (by omega) (by omega),hip,htail,
    bind_eq_bind,bind_some,hread,Option.pure_def]

theorem littleEndian_eq_zero_iff {ip : Bytes} (hlen : ip.length=4) : littleEndian ip=0 ↔ ip=[0,0,0,0] := by
  constructor
  · intro hzero
    rw [← put_littleEndian ip,hzero,hlen]
    rfl
  · rintro rfl
    rfl

/-- Every address comes back from its encoding, whatever the clock shows; only the zero of
everything leaves no bytes to decode. -/
theorem mangled_addresses_return (addr : UDPAddr) (timestamp : UInt32) (hport : 0≤addr.port ∧ addr.port≤65535) :
    (∀ ip, to4 addr.ip=some ip →
      ∃ b, encodeIPv4 addr timestamp=some b ∧ encodeAddr (some addr) timestamp=b ∧ b.length≤16 ∧
        decodeAddr b =
          if ip=[0,0,0,0] ∧ addr.port=0 ∧ timestamp=0 then some none
          else some (some ⟨.v4 (bigEndian ip),addr.port.toNat⟩)) ∧
      (addr.ip.length=16 → to4 addr.ip=none →
        (encodeAddr (some addr) timestamp).length=18 ∧
          decodeAddr (encodeAddr (some addr) timestamp) =
            some (some ⟨.v6 (bigEndian addr.ip),addr.port.toNat⟩)) := by
  have hvalid : ¬ (addr.port<0 ∨ 65535<addr.port) := by omega
  constructor
  · intro ip h4
    have hlen : ip.length=4 := to4_length h4
    have henc : encodeIPv4 addr timestamp=some (mangle ip addr.port timestamp) := by
      rw [encodeIPv4,h4,map_some]
    obtain ⟨hle,hdec⟩:=decodeAddr_mangle timestamp hlen hport
    simp only [littleEndian_eq_zero_iff hlen] at hdec
    refine ⟨_,henc,?_,hle,hdec⟩
    simp only [encodeAddr,if_neg hvalid,henc]
  · intro hlen h4
    have henc : encodeAddr (some addr) timestamp=addr.ip++putLittleEndian 2 addr.port.toNat := by
      have h16 : to16 addr.ip=some addr.ip := by rw [to16,if_neg (by omega),if_pos hlen]
      simp [encodeAddr,if_neg hvalid,encodeIPv4,h4,h16]
    rw [henc,length_append,putLittleEndian_length,hlen]
    refine ⟨rfl,?_⟩
    rw [decodeAddr_sixteen hlen (by omega),ipOf16_of_to4_none hlen h4]

/-- 192.0.2.1:21116, and 2001:db8::1 with the port 443. -/
theorem two_addresses_return :
    (decodeAddr (encodeAddr (some ⟨[192,0,2,1],21116⟩) 65535)=some (some ⟨.v4 0xC0000201,21116⟩)) ∧
      decodeAddr (encodeAddr (some ⟨[0x20,1,0xd,0xb8,0,0,0,0,0,0,0,0,0,0,0,1],443⟩) 65535) =
        some (some ⟨.v6 0x20010db8000000000000000000000001,443⟩) := by
  obtain ⟨b,-,hb,-,hdec⟩ :=
    (mangled_addresses_return ⟨[192,0,2,1],21116⟩ 65535 (by decide)).1 [192,0,2,1] (by decide)
  have h6:=(mangled_addresses_return ⟨[0x20,1,0xd,0xb8,0,0,0,0,0,0,0,0,0,0,0,1],443⟩ 65535
    (by decide)).2 (by decide) (by decide)
  rw [hb,hdec,h6.2]
  exact ⟨by decide,by decide⟩

-- the vector with the largest address, port and timestamp
example : encodeIPv4 ⟨[255,255,255,255],65535⟩ 0xffffffff =
    some [0xfe,0xff,0xff,0xff,0xff,0xff,0xfd,0xff,0xff,0xff,0x03] := by decide

end BetterDesk.Signal.AddrMangle
