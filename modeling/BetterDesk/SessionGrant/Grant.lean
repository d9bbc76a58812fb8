import BetterDesk.Lib.Base64
import BetterDesk.Lib.Time64
import Mathlib.Data.List.Destutter
import Mathlib.Data.String.Basic

/-! # Session grants (sessiongrant/grant.go) -/

namespace BetterDesk.SessionGrant
open Text Time64 List

abbrev Seconds := {n : ℤ // Fits n}

structure Time where
  sec : Seconds
  nsec : ℕ
  nsec_lt : nsec<10^9

def Time.nanos (t : Time) : ℤ := t.sec.1*10^9+t.nsec

structure Claims where
  version : ℤ
  audience : String
  deviceID : String
  operatorID : String
  sessionID : String
  transport : String
  initiator : String
  capabilities : List String
  issuedAt : Seconds
  expiresAt : Seconds
  nonce : String
  deriving DecidableEq

structure Platform where
  toLower : Char → Char
  marshal : Claims → Bytes
  unmarshal : Bytes → Option Claims
  publicKey : Bytes → Bytes
  sign : Bytes → Bytes → Bytes                        -- private key, message
  verifySignature : Bytes → Bytes → Bytes → Bool      -- public key, message, signature

def tokenVersion : Bytes := lit "v1"

def grantAudience : String := "betterdesk-support-agent"

def maxTTL : ℤ := 600

def dot : UInt8 := 46

/-- `sort.Strings`, and equal neighbours kept once. -/
def sortUnique (caps : List String) : List String := (caps.insertionSort (·≤·)).destutter (·≠·)

namespace Platform
variable (p : Platform)

def lowered (s : String) : String := trimString (String.ofList (s.toList.map p.toLower))

def normalize (c : Claims) : Claims :=
  { c with
    audience := trimString c.audience
    deviceID := trimString c.deviceID
    operatorID := trimString c.operatorID
    sessionID := trimString c.sessionID
    transport := p.lowered c.transport
    initiator := p.lowered c.initiator
    nonce := trimString c.nonce
    capabilities := sortUnique ((c.capabilities.map p.lowered).filter (· ≠ ""))}

end Platform

def validate (c : Claims) (now : Time) : Except String Unit :=
  if c.version≠1 then .error "unsupported session-grant version"
  else if c.audience≠grantAudience then .error "invalid session-grant audience"
  else if c.deviceID="" ∨ c.operatorID="" ∨ c.sessionID="" ∨ c.nonce="" then
    .error "session grant is missing a required binding"
  else if c.transport≠"cdap" ∧ c.transport≠"relay" ∧ c.transport≠"interop" then
    .error "unsupported session-grant transport"
  else if c.initiator≠"operator" then .error "session grant must be initiated by an operator"
  else if c.expiresAt.1≤c.issuedAt.1 ∨ c.expiresAt.1≤now.sec.1 then .error "session grant has expired"
  else if maxTTL*10^9 < sub (ofUnix c.expiresAt.1) (ofUnix c.issuedAt.1) then
    .error "session grant exceeds maximum lifetime"
  else if c.capabilities=[] then .error "session grant has no capabilities"
  else .ok ()

namespace Platform
variable (p : Platform)

/-- The claims that `Issue` signs. -/
def prepare (c : Claims) (now : Time) : Claims :=
  let c:=p.normalize c
  { c with
    version := if c.version=0 then 1 else c.version
    audience := if c.audience="" then grantAudience else c.audience
    issuedAt := if c.issuedAt.1=0 then now.sec else c.issuedAt}

def tokenOf (payload signature : Bytes) : Bytes :=
  tokenVersion++dot::(Base64.encode payload++dot::Base64.encode signature)

def issue (privateKey : Bytes) (c : Claims) (now : Time) : Except String Bytes :=
  if privateKey.length≠64 then .error "session grant signer is unavailable"
  else do
    let c:=p.prepare c now
    validate c now
    let payload:=p.marshal c
    pure (tokenOf payload (p.sign privateKey payload))

def verify (token publicKey : Bytes) (expectedDeviceID expectedTransport : String) (now : Time) :
    Except String Claims := if publicKey.length≠32 then .error "invalid session-grant public key"
  else match token.splitOn dot with
    | [version,payload,signature] =>
      if version≠tokenVersion then .error "invalid session-grant format"
      else match Base64.decode payload with
        | none => .error "decode session-grant payload"
        | some payload => match Base64.decode signature with
          | none => .error "invalid session-grant signature"
          | some signature =>
            if signature.length≠64 then .error "invalid session-grant signature"
            else if ¬ p.verifySignature publicKey payload signature then
              .error "session-grant signature verification failed"
            else match p.unmarshal payload with
              | none => .error "decode session grant"
              | some c => do
                let c:=p.normalize c
                validate c now
                if expectedDeviceID≠"" ∧ c.deviceID≠expectedDeviceID then
                  .error "session grant is for another device"
                else if expectedTransport≠"" ∧ c.transport≠expectedTransport then
                  .error "session grant is for another transport"
                else pure c
    | _ => .error "invalid session-grant format"

end Platform

section
variable {p : Platform}

def Platform.Folds (p : Platform) : Prop := ∀ c, p.toLower (p.toLower c)=p.toLower c

theorem trimString_subset (s : String) : ∀ c∈(trimString s).toList, c∈s.toList := by
  intro c hc
  rw [trimString_eq,String.toList_ofList] at hc
  exact (dropWhile_sublist _).subset ( rdropWhile_prefix _ _ |>.subset hc)

theorem lowered_lowered (hp : p.Folds) (s : String) : p.lowered (p.lowered s)=p.lowered s := by
  have hfold : ∀ c∈(p.lowered s).toList, p.toLower c=c := by
    intro c hc
    have hmem:=trimString_subset _ c hc
    rw [String.toList_ofList] at hmem
    obtain ⟨d,-,rfl⟩:=mem_map.mp hmem
    exact hp d
  have hmap : (p.lowered s).toList.map p.toLower=(p.lowered s).toList := by
    rw [map_congr_left hfold,map_id']
  unfold Platform.lowered at hmap ⊢
  rw [hmap,String.ofList_toList,trimString_trimString]

theorem sortUnique_sublist (caps : List String) : (sortUnique caps).Sublist (caps.insertionSort (·≤·)) :=
  destutter_sublist _ _

theorem mem_sortUnique {caps : List String} {cap : String} (h : cap∈sortUnique caps) : cap∈caps :=
  (perm_insertionSort (·≤·) caps).mem_iff.mp ((sortUnique_sublist caps).subset h)

theorem sortUnique_sortUnique (caps : List String) : sortUnique (sortUnique caps)=sortUnique caps := by
  have hsorted : (sortUnique caps).Pairwise (·≤·) :=
    (pairwise_insertionSort (·≤·) caps).sublist (sortUnique_sublist caps)
  have hsort : (sortUnique caps).insertionSort (·≤·)=sortUnique caps := hsorted.insertionSort_eq
  unfold sortUnique at hsort ⊢
  rw [hsort,destutter_idem]

theorem normalize_normalize (hp : p.Folds) (c : Claims) : p.normalize (p.normalize c)=p.normalize c := by
  have hcaps : ((p.normalize c).capabilities.map p.lowered).filter (· ≠ "")=(p.normalize c).capabilities := by
    have heach : ∀ cap∈(p.normalize c).capabilities, p.lowered cap=cap ∧ cap≠"" := by
      intro cap hcap
      obtain ⟨hmem,hne⟩:=mem_filter.mp (mem_sortUnique hcap)
      obtain ⟨raw,-,rfl⟩:=mem_map.mp hmem
      exact ⟨lowered_lowered hp raw,by simpa using hne⟩
    rw [map_congr_left fun cap hcap => (heach cap hcap).1,map_id']
    exact filter_eq_self.mpr fun cap hcap => by simpa using (heach cap hcap).2
  have hunique : sortUnique (p.normalize c).capabilities=(p.normalize c).capabilities := sortUnique_sortUnique _
  unfold Platform.normalize at hcaps hunique ⊢
  simp only [trimString_trimString,lowered_lowered hp,hcaps,hunique]

theorem trim_audience : trimString grantAudience=grantAudience := by decide

theorem normalize_with {n : Claims} (h : p.normalize n=n) {audience : String} (haud : trimString audience=audience)
    (version : ℤ) (issuedAt : Seconds) :
    p.normalize {n with version := version,audience := audience,issuedAt := issuedAt} =
      {n with version := version,audience := audience,issuedAt := issuedAt} := by
  have hfields : p.normalize {n with version := version,audience := audience,issuedAt := issuedAt} =
      {p.normalize n with version := version,audience := trimString audience,issuedAt := issuedAt} := rfl
  rw [hfields,h,haud]

theorem normalize_audience (c : Claims) : (p.normalize c).audience=trimString c.audience := rfl

theorem normalize_prepare (hp : p.Folds) (c : Claims) (now : Time) : p.normalize (p.prepare c now)=p.prepare c now := by
  have haud : trimString (p.normalize c).audience=(p.normalize c).audience := by
    rw [normalize_audience,trimString_trimString]
  refine normalize_with (normalize_normalize hp c) ?_ _ _
  split
  · exact trim_audience
  · exact haud

end

end BetterDesk.SessionGrant
