import BetterDesk.Lib.Text

/-! # Base64 -/

namespace BetterDesk.Base64
open Text List Option

/-- The letter for six bits: `A`–`Z`, `a`–`z`, `0`–`9`, `-`, `_`. -/
def sextet (n : ℕ) : UInt8 :=
  let k:=n%64
  (if k<26 then 65+k else if k<52 then 71+k else if k<62 then k-4
    else if k=62 then 45 else 95).toUInt8

def value (b : UInt8) : Option ℕ :=
  let n:=b.toNat
  if 65≤n ∧ n≤90 then some (n-65)
  else if 97≤n ∧ n≤122 then some (n-71)
  else if 48≤n ∧ n≤57 then some (n+4)
  else if n=45 then some 62
  else if n=95 then some 63
  else none

theorem value_sextet (n : ℕ) : value (sextet n)=some (n%64) := by
  have h : ∀ k<64, value (sextet k)=some k := by decide
  have hmod : sextet n=sextet (n%64) := by
    unfold sextet
    rw [Nat.mod_mod]
  rw [hmod,h (n%64) (Nat.mod_lt n (by decide))]

def encode : Bytes → Bytes
  | [] => []
  | [a] => [sextet (a.toNat/4),sextet (a.toNat*16)]
  | [a,b] => [sextet (a.toNat/4),sextet (a.toNat*16+b.toNat/16),sextet (b.toNat*4)]
  | a::b::c::rest =>
    sextet (a.toNat/4)::sextet (a.toNat*16+b.toNat/16) ::
      sextet (b.toNat*4+c.toNat/64)::sextet c.toNat::encode rest

def octet (n : ℕ) : UInt8 := (n%256).toUInt8

def decodeGroups : List ℕ → Option Bytes
  | [] => some []
  | [_] => none
  | [w,x] => some [octet (w*4+x/16)]
  | [w,x,y] => some [octet (w*4+x/16),octet (x*16+y/4)]
  | w::x::y::z::rest => (decodeGroups rest).map fun bs =>
      octet (w*4+x/16)::octet (x*16+y/4)::octet (y*64+z)::bs

def values : Bytes → Option (List ℕ)
  | [] => some []
  | b::rest =>
    if b=10 ∨ b=13 then values rest
    else (value b).bind fun v => (values rest).map (v::·)

def decode (t : Bytes) : Option Bytes := (values t).bind decodeGroups

theorem encode_letters (t : Bytes) : ∀ b∈encode t, value b≠none := by
  have hletter : ∀ n, value (sextet n)≠none := by
    intro n
    rw [value_sextet]
    simp
  fun_induction encode t with
  | case1 => simp
  | case2 | case3 => simp [hletter]
  | case4 a b c rest ih =>
    intro x hx
    simp only [mem_cons] at hx
    rcases hx with rfl | rfl | rfl | rfl | hx
    · exact hletter _
    · exact hletter _
    · exact hletter _
    · exact hletter _
    · exact ih x hx

theorem decode_eq_none {t : Bytes} {b : UInt8} (hb : b∈t) (hval : value b=none) (hn : b≠10)
    (hr : b≠13) : decode t=none := by
  have hvals : values t=none := by
    induction t with
    | nil => cases hb
    | cons x rest ih =>
      unfold values
      rcases mem_cons.mp hb with rfl | hb
      · rw [if_neg (by simp [hn,hr]),hval]
        rfl
      · rw [ih hb]
        split
        · rfl
        · cases value x <;> rfl
  rw [decode,hvals]
  rfl

def sextets : Bytes → List ℕ
  | [] => []
  | [a] => [a.toNat/4,a.toNat*16]
  | [a,b] => [a.toNat/4,a.toNat*16+b.toNat/16,b.toNat*4]
  | a::b::c::rest =>
    a.toNat/4::(a.toNat*16+b.toNat/16)::(b.toNat*4+c.toNat/64)::c.toNat::sextets rest

theorem encode_eq (t : Bytes) : encode t=(sextets t).map sextet := by
  fun_induction encode t with
  | case1 | case2 | case3 => rfl
  | case4 a b c rest ih => simp [sextets,ih]

theorem values_sextets (l : List ℕ) : values (l.map sextet)=some (l.map (· % 64)) := by
  have hbreak (n : ℕ) : ¬ (sextet n=10 ∨ sextet n=13) := by
    have hval:=value_sextet n
    rintro (h | h) <;> rw [h] at hval <;> cases hval
  induction l with
  | nil => rfl
  | cons n l ih =>
    rw [map_cons,values,if_neg (hbreak n),value_sextet,ih]
    rfl

theorem octet_eq {n : ℕ} {b : UInt8} (h : n%256=b.toNat) : octet n=b := by
  unfold octet
  rw [h]
  exact UInt8.ofNat_toNat

theorem decodeGroups_sextets (t : Bytes) : decodeGroups ((sextets t).map (· % 64))=some t := by
  fun_induction sextets t with
  | case1 => rfl
  | case2 a =>
    have ha : a.toNat<256 := a.toNat_lt
    simp only [map_cons,map_nil,decodeGroups,some.injEq,cons.injEq,and_true]
    exact octet_eq (by omega)
  | case3 a b =>
    have ha : a.toNat<256 := a.toNat_lt
    have hb : b.toNat<256 := b.toNat_lt
    simp only [map_cons,map_nil,decodeGroups,some.injEq,cons.injEq,and_true]
    exact ⟨octet_eq (by omega),octet_eq (by omega)⟩
  | case4 a b c rest ih =>
    have ha : a.toNat<256 := a.toNat_lt
    have hb : b.toNat<256 := b.toNat_lt
    have hc : c.toNat<256 := c.toNat_lt
    simp only [map_cons,decodeGroups,ih,map_some,some.injEq,cons.injEq,and_true]
    exact ⟨octet_eq (by omega),octet_eq (by omega),octet_eq (by omega)⟩

theorem decode_encode (t : Bytes) : decode (encode t)=some t := by
  rw [decode,encode_eq,values_sextets,bind_some,decodeGroups_sextets]

def toStandard (b : UInt8) : UInt8 := if b=45 then 43 else if b=95 then 47 else b

/-- The URL letter of a standard one; the two letters of the URL alphabet itself
are no letters here. -/
def fromStandard (b : UInt8) : UInt8 :=
  if b=43 then 45 else if b=47 then 95 else if b=45 ∨ b=95 then 0 else b

def encodeStandard (t : Bytes) : Bytes :=
  (encode t).map toStandard++List.replicate ((3-t.length%3)%3) 61

def decodeRawStandard (t : Bytes) : Option Bytes := decode (t.map fromStandard)

def decodeStandard (t : Bytes) : Option Bytes :=
  let t:=t.filter fun b => b≠10 ∧ b≠13
  if t.length%4≠0 then none
  else if t.drop (t.length-2)=[61,61] then decodeRawStandard (t.take (t.length-2))
  else if t.drop (t.length-1)=[61] then decodeRawStandard (t.take (t.length-1))
  else decodeRawStandard t

example : decodeStandard (encodeStandard [0xfb,0xef,0xbe,0xff])=some [0xfb,0xef,0xbe,0xff] := by
  decide

example : decode (lit "eyJhbGciOiJIUzI1NiJ9")=some (lit "\x7b\"alg\":\"HS256\"\x7d") := by decide

end BetterDesk.Base64
