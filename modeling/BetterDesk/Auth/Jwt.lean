import BetterDesk.Auth.Roles
import BetterDesk.Lib.Base64

/-! # Tokens (auth/jwt.go) -/

namespace BetterDesk.Auth
open Text List

def jwtIssuer : String := "betterdesk-server"
def jwtAudience : String := "betterdesk-api"
def jwtNbfSkewSeconds : ℤ := 60

/-- The payload; `iat` and `jti` are never read back. -/
structure Claims where
  sub : String
  role : Role
  orgID : String
  aud : String
  iss : String
  nbf : ℤ
  exp : ℤ
  deriving DecidableEq

structure JWTManager where
  hmac : Bytes → Bytes
  unmarshalHeader : Bytes → Option String    -- the `alg` field
  unmarshalClaims : Bytes → Option Claims

def dot : UInt8 := 46

/-- `strings.SplitN(token, ".", 3)` with three parts. -/
def splitToken (token : Bytes) : Option (Bytes × Bytes × Bytes) :=
  (cut dot token).bind fun p => (cut dot p.2).map fun q => (p.1,q.1,q.2)

namespace JWTManager

def sign (m : JWTManager) (data : Bytes) : Bytes := Base64.encode (m.hmac data)

def current (now : ℤ) (claims : Claims) : Bool :=
  decide (claims.nbf≤now+jwtNbfSkewSeconds ∧ now≤claims.exp)

/-- `Validate` up to the two comparisons with the clock. -/
def verify (m : JWTManager) (token : Bytes) : Option Claims := do
  let (header,payload,signature) ← splitToken token
  let headerJSON ← Base64.decode header
  let alg ← m.unmarshalHeader headerJSON
  guard (alg="HS256")
  guard (signature=m.sign (header++dot::payload))
  let claimsJSON ← Base64.decode payload
  let claims ← m.unmarshalClaims claimsJSON
  guard (claims.iss=jwtIssuer ∧ claims.aud=jwtAudience)
  some claims

def validate (m : JWTManager) (now : ℤ) (token : Bytes) : Option Claims :=
  (m.verify token).filter (current now)

variable {claims : Claims} {m : JWTManager}

theorem validate_eq_some {now : ℤ} {token : Bytes} :
    m.validate now token=some claims ↔ m.verify token=some claims ∧ current now claims=true :=
  Option.filter_eq_some_iff

theorem verify_split {token : Bytes}
    (h : m.verify token=some claims) : ∃ header payload,
      token=header++dot::(payload++dot::m.sign (header++dot::payload)) ∧
      Base64.decode header≠none := by
  unfold verify at h
  obtain ⟨⟨header,payload,signature⟩,hsplit,h⟩:=Option.bind_eq_some_iff.mp h
  obtain ⟨headerJSON,hheader,h⟩:=Option.bind_eq_some_iff.mp h
  obtain ⟨alg,_,h⟩:=Option.bind_eq_some_iff.mp h
  obtain ⟨_,_,h⟩:=Option.bind_eq_some_iff.mp h
  obtain ⟨_,hsig,_⟩:=Option.bind_eq_some_iff.mp h
  obtain ⟨⟨a,rest⟩,hcut,hmap⟩:=Option.bind_eq_some_iff.mp hsplit
  obtain ⟨⟨b,c⟩,hcut',he⟩:=Option.map_eq_some_iff.mp hmap
  simp only [Prod.mk.injEq] at he
  obtain ⟨rfl,rfl,rfl⟩:=he
  have hsig : c=m.sign (a++dot::b) := by
    by_contra hne
    simp [guard,hne] at hsig
  refine ⟨a,b,?_,by rw [hheader]; simp⟩
  have hrest:=(cut_eq hcut').1
  dsimp only at hrest
  rw [(cut_eq hcut).1,hrest,hsig]

theorem verify_head {t : Bytes} {b : UInt8}
    (h : m.verify (b::t)=some claims) : Base64.value b≠none ∨ b=10 ∨ b=13 ∨ b=dot := by
  obtain ⟨header,payload,htok,hdec⟩:=verify_split h
  by_contra hn
  simp only [not_or,not_not] at hn
  obtain ⟨ha,hlf,hcr,hdot⟩:=hn
  cases header with
  | nil =>
    rw [nil_append,cons.injEq] at htok
    exact hdot htok.1
  | cons x rest =>
    rw [cons_append,cons.injEq] at htok
    exact hdec (Base64.decode_eq_none (htok.1 ▸ mem_cons_self) ha hlf hcr)

theorem verify_last {t : Bytes} {b : UInt8} (h : m.verify (t++[b])=some claims) : Base64.value b≠none ∨ b=dot := by
  obtain ⟨header,payload,htok,_⟩:=verify_split h
  have hsig:=Base64.encode_letters (m.hmac (header++dot::payload))
  have hlast : (header++dot::(payload++dot::m.sign (header++dot::payload))).getLast?
      = some b := by
    rw [← htok,List.getLast?_append]
    rfl
  rw [← cons_append,← append_assoc,List.getLast?_append,sign] at hlast
  cases hs : (Base64.encode (m.hmac (header++dot::payload))).getLast? with
  | none =>
    rw [List.getLast?_eq_none_iff] at hs
    rw [hs] at hlast
    simp at hlast
    exact Or.inr hlast.symm
  | some x =>
    have hx:=hsig x (mem_of_getLast? hs)
    rw [List.getLast?_cons,hs] at hlast
    simp at hlast
    exact Or.inl (hlast ▸ hx)

end JWTManager

end BetterDesk.Auth
