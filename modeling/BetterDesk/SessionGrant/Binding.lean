import BetterDesk.Lib.Exec
import BetterDesk.SessionGrant.Grant

/-! # What an accepted grant is bound to -/

namespace BetterDesk.SessionGrant
open Text Time64 List

/-- Calls of `Issue` with one key. -/
abbrev Calls := List (Claims × Time)

def Signs (p : Platform) (call : Claims × Time) (message : Bytes) : Prop :=
  validate (p.prepare call.1 call.2) call.2=.ok () ∧ message=p.marshal (p.prepare call.1 call.2)

/-- Ed25519 accepts what was signed with the key and nothing else; claims that were
written are read back. -/
structure Assumed (p : Platform) (privateKey : Bytes) (calls : Calls) : Prop where
  folds : p.Folds
  privateLength : privateKey.length=64
  publicLength : (p.publicKey privateKey).length=32
  signatureLength : ∀ message, (p.sign privateKey message).length=64
  correct : ∀ call∈calls, ∀ message, Signs p call message →
    p.verifySignature (p.publicKey privateKey) message (p.sign privateKey message)=true
  unforgeable : ∀ message signature, p.verifySignature (p.publicKey privateKey) message signature=true →
    signature=p.sign privateKey message ∧ ∃ call∈calls,Signs p call message
  roundTrip : ∀ call∈calls,p.unmarshal (p.marshal (p.prepare call.1 call.2))=some (p.prepare call.1 call.2)

/-- The grant is one that was issued, for this device and transport, not before its time
and for no longer than `maxTTL` from now. -/
structure Bound (p : Platform) (privateKey : Bytes) (calls : Calls) (token : Bytes) (deviceID transport : String)
    (now : Time) (c : Claims) : Prop where
  issued : ∃ call∈calls,p.issue privateKey call.1 call.2=.ok token ∧ c=p.prepare call.1 call.2
  device : c.deviceID=deviceID
  transport : c.transport=transport
  issuedAt : c.issuedAt.1*10^9≤now.nanos
  alive : now.nanos<c.expiresAt.1*10^9
  shortLived : c.expiresAt.1*10^9≤now.nanos+maxTTL*10^9

/-- The target names itself and its transport, the token is written as the encoder writes
it, it was not issued in the future, and its end is within reach of the clock. -/
structure Plain (token : Bytes) (deviceID transport : String) (now : Time) (c : Claims) : Prop where
  device : deviceID≠""
  transport : transport≠""
  canonical : ∃ payload signature, token=Platform.tokenOf payload signature
  issuedAt : c.issuedAt.1≤now.sec.1
  end_ : c.expiresAt.1+unixToInternal<2^63 ∨ c.expiresAt.1≤now.sec.1+maxTTL

theorem dot_not_mem_encode (t : Bytes) : dot∉Base64.encode t := fun h => Base64.encode_letters t dot h (by decide)

theorem splitOn_tokenOf (payload signature : Bytes) :
    (Platform.tokenOf payload signature).splitOn dot=[tokenVersion,Base64.encode payload,Base64.encode signature] := by
  have hjoin : Platform.tokenOf payload signature =
      [dot].intercalate [tokenVersion,Base64.encode payload,Base64.encode signature] := by
    simp [Platform.tokenOf,List.intercalate]
  rw [hjoin]
  refine splitOn_intercalate _ (fun part hpart => ?_) (by simp)
  simp only [mem_cons,not_mem_nil,or_false] at hpart
  rcases hpart with rfl | rfl | rfl
  · decide
  · exact dot_not_mem_encode payload
  · exact dot_not_mem_encode signature

variable {p : Platform} {privateKey token publicKey : Bytes} {calls : Calls} {deviceID transport : String} {now : Time}
  {c : Claims}

theorem issue_eq (hkey : privateKey.length=64) (hvalid : validate (p.prepare c now) now=.ok ()) :
    p.issue privateKey c now=.ok (Platform.tokenOf (p.marshal (p.prepare c now))
      (p.sign privateKey (p.marshal (p.prepare c now)))) := by
  unfold Platform.issue
  rw [if_neg (by simpa using hkey)]
  simp only [hvalid,bind,Except.bind,pure,Except.pure]

theorem issue_ok (h : p.issue privateKey c now=.ok token) : privateKey.length=64 ∧
    validate (p.prepare c now) now=.ok () := by
  unfold Platform.issue at h
  split at h
  · cases h
  · rename_i hkey
    refine ⟨by simpa using hkey,?_⟩
    cases hv : validate (p.prepare c now) now with
    | ok u => rfl
    | error text =>
      simp only [hv,bind,Except.bind] at h
      cases h

structure Passed (p : Platform) (token publicKey : Bytes) (deviceID transport : String) (now : Time) (c : Claims)
    (payload signature : Bytes) : Prop where
  parts : ∃ a b, token.splitOn dot=[tokenVersion,a,b] ∧ Base64.decode a=some payload ∧
    Base64.decode b=some signature
  signature : p.verifySignature publicKey payload signature=true
  claims : ∃ c₀, p.unmarshal payload=some c₀ ∧ c=p.normalize c₀
  valid : validate c now=.ok ()
  device : deviceID≠"" → c.deviceID=deviceID
  transport : transport≠"" → c.transport=transport

theorem verify_ok (h : p.verify token publicKey deviceID transport now=.ok c) :
    ∃ payload signature, Passed p token publicKey deviceID transport now c payload signature := by
  unfold Platform.verify at h
  split at h
  · cases h
  · split at h
    · rename_i version a b hsplit
      split at h
      · cases h
      · rename_i hversion
        split at h
        · cases h
        · rename_i payload hpayload
          split at h
          · cases h
          · rename_i signature hsignature
            split at h
            · cases h
            · split at h
              · cases h
              · rename_i hverified
                split at h
                · cases h
                · rename_i c₀ hc₀
                  obtain ⟨u,hvalid,h⟩:=Exec.bind_ok h
                  split at h
                  · cases h
                  · rename_i hdevice
                    split at h
                    · cases h
                    · rename_i htransport
                      cases h
                      have hv : version=tokenVersion := by simpa using hversion
                      exact ⟨payload,signature,⟨⟨a,b,hv ▸ hsplit,hpayload,hsignature⟩,by simpa using hverified,
                        ⟨c₀,hc₀,rfl⟩,hvalid,fun hne => by simpa [hne] using hdevice,
                        fun hne => by simpa [hne] using htransport⟩⟩
    · cases h

theorem verify_eq {payload signature : Bytes} {c₀ : Claims} (hkey : publicKey.length=32) (hlen : signature.length=64)
    (hsig : p.verifySignature publicKey payload signature=true) (hc₀ : p.unmarshal payload=some c₀)
    (hvalid : validate (p.normalize c₀) now=.ok ()) (hdevice : deviceID="" ∨ (p.normalize c₀).deviceID=deviceID)
    (htransport : transport="" ∨ (p.normalize c₀).transport=transport) :
    p.verify (Platform.tokenOf payload signature) publicKey deviceID transport now=.ok (p.normalize c₀) := by
  unfold Platform.verify
  rw [if_neg (by simpa using hkey),splitOn_tokenOf]
  simp only [Base64.decode_encode,hc₀]
  rw [if_neg (fun h => h rfl),if_neg (by simpa using hlen),if_neg (by simpa using hsig)]
  simp only [hvalid,bind,Except.bind,pure,Except.pure]
  rw [if_neg fun h => hdevice.elim h.1 h.2,if_neg fun h => htransport.elim h.1 h.2]

structure Valid (c : Claims) (now : Time) : Prop where
  deviceID : c.deviceID≠""
  transport : c.transport≠""
  order : c.issuedAt.1<c.expiresAt.1
  alive : now.sec.1<c.expiresAt.1
  lifetime : ofUnix c.expiresAt.1≤ofUnix c.issuedAt.1+maxTTL

theorem valid_of_validate (h : validate c now=.ok ()) : Valid c now := by
  unfold validate at h
  split at h; · cases h
  split at h; · cases h
  split at h; · cases h
  rename_i hbound
  split at h; · cases h
  rename_i htransport
  split at h; · cases h
  split at h; · cases h
  rename_i htimes
  split at h; · cases h
  rename_i hlong
  have hsub : ¬ ofUnix c.issuedAt.1+maxTTL<ofUnix c.expiresAt.1 := fun hlt =>
    hlong ((lt_sub_iff (wrap_fits _) (wrap_fits _) (by decide) (by decide)).mpr hlt)
  refine ⟨fun hd => hbound (.inl hd),?_,by omega,by omega,by omega⟩
  intro hd
  rw [hd] at htransport
  exact htransport ⟨by decide,by decide,by decide⟩

theorem verify_issue (h : Assumed p privateKey calls) {call : Claims × Time} (hcall : call∈calls)
    (hvalid : validate (p.prepare call.1 call.2) call.2=.ok ()) :
    ∃ token, p.issue privateKey call.1 call.2=.ok token ∧ ∀ deviceID transport now,
      (deviceID="" ∨ deviceID=(p.prepare call.1 call.2).deviceID) →
      (transport="" ∨ transport=(p.prepare call.1 call.2).transport) →
      validate (p.prepare call.1 call.2) now=.ok () →
      p.verify token (p.publicKey privateKey) deviceID transport now=.ok (p.prepare call.1 call.2) := by
  refine ⟨_,issue_eq h.privateLength hvalid,fun deviceID transport now hdevice htransport hnow => ?_⟩
  have hnormal:=normalize_prepare h.folds call.1 call.2
  have hverify : p.verify (Platform.tokenOf (p.marshal (p.prepare call.1 call.2))
      (p.sign privateKey (p.marshal (p.prepare call.1 call.2)))) (p.publicKey privateKey) deviceID transport now =
      .ok (p.normalize (p.prepare call.1 call.2)) := by
    refine verify_eq h.publicLength (h.signatureLength _) (h.correct call hcall _ ⟨hvalid,rfl⟩) (h.roundTrip call hcall) ?_ ?_ ?_
    · rw [hnormal]
      exact hnow
    · rw [hnormal]
      exact hdevice.imp_right Eq.symm
    · rw [hnormal]
      exact htransport.imp_right Eq.symm
  rw [hnormal] at hverify
  exact hverify

theorem claims_of_accepted (h : Assumed p privateKey calls) {payload signature : Bytes}
    (hp : Passed p token (p.publicKey privateKey) deviceID transport now c payload signature) :
    signature=p.sign privateKey payload ∧ ∃ call∈calls,Signs p call payload ∧ c=p.prepare call.1 call.2 := by
  obtain ⟨hsig,call,hcall,hsigns⟩:=h.unforgeable payload signature hp.signature
  refine ⟨hsig,call,hcall,hsigns,?_⟩
  obtain ⟨c₀,hc₀,rfl⟩:=hp.claims
  rw [hsigns.2,h.roundTrip call hcall] at hc₀
  cases hc₀
  exact normalize_prepare h.folds call.1 call.2

theorem plain_of_bound (hp : Valid c now) (h : Bound p privateKey calls token deviceID transport now c) :
    Plain token deviceID transport now c := by
  obtain ⟨call,-,hissue,-⟩:=h.issued
  obtain ⟨hkey,hvalid⟩:=issue_ok hissue
  rw [issue_eq hkey hvalid] at hissue
  have hnsec:=now.nsec_lt
  have hiat:=h.issuedAt
  have hexp:=h.shortLived
  unfold Time.nanos at hiat hexp
  unfold maxTTL at hexp
  exact ⟨h.device ▸ hp.deviceID,h.transport ▸ hp.transport,⟨_,_,(Except.ok.inj hissue).symm⟩,by omega,
    .inr (by unfold maxTTL; omega)⟩

theorem bound_of_plain (h : Assumed p privateKey calls) {payload signature : Bytes}
    (hp : Passed p token (p.publicKey privateKey) deviceID transport now c payload signature)
    (hplain : Plain token deviceID transport now c) : Bound p privateKey calls token deviceID transport now c := by
  obtain ⟨hsig,call,hcall,hsigns,hc⟩:=claims_of_accepted h hp
  have hvalid:=valid_of_validate hp.valid
  have hissued : p.issue privateKey call.1 call.2=.ok token := by
    obtain ⟨payload',signature',rfl⟩:=hplain.canonical
    obtain ⟨a,b,hsplit,ha,hb⟩:=hp.parts
    rw [splitOn_tokenOf] at hsplit
    simp only [cons.injEq,true_and,and_true] at hsplit
    rw [← hsplit.1,Base64.decode_encode] at ha
    rw [← hsplit.2,Base64.decode_encode] at hb
    cases ha
    cases hb
    rw [issue_eq h.privateLength hsigns.1,← hsigns.2,← hsig]
  -- a lifetime that does not wrap is the difference of the two times
  have hend : c.expiresAt.1≤now.sec.1+maxTTL := by
    rcases hplain.end_ with hnear | hend
    · have hiat : c.issuedAt.1+unixToInternal<2^63 := by
        have := hvalid.order
        omega
      have hlife:=hvalid.lifetime
      rw [ofUnix_near c.expiresAt.2 hnear,ofUnix_near c.issuedAt.2 hiat] at hlife
      have := hplain.issuedAt
      omega
    · exact hend
  have hiat:=hplain.issuedAt
  have halive:=hvalid.alive
  have hnsec:=now.nsec_lt
  unfold maxTTL at hend
  refine ⟨⟨call,hcall,hissued,hc⟩,hp.device hplain.device,hp.transport hplain.transport,?_,?_,?_⟩
  · unfold Time.nanos
    omega
  · unfold Time.nanos
    omega
  · unfold Time.nanos maxTTL
    omega

/-- What was issued is accepted, and an accepted grant is bound and short-lived exactly
when it is used plainly and the clock has reached the time it was issued at. -/
theorem grants_bound_iff (h : Assumed p privateKey calls) :
    (∀ call∈calls,validate (p.prepare call.1 call.2) call.2=.ok () →
      ∃ token, p.issue privateKey call.1 call.2=.ok token ∧ ∀ deviceID transport now,
        (deviceID="" ∨ deviceID=(p.prepare call.1 call.2).deviceID) →
        (transport="" ∨ transport=(p.prepare call.1 call.2).transport) →
        validate (p.prepare call.1 call.2) now=.ok () →
        p.verify token (p.publicKey privateKey) deviceID transport now=.ok (p.prepare call.1 call.2)) ∧
    ∀ token deviceID transport now c, p.verify token (p.publicKey privateKey) deviceID transport now=.ok c →
      (Bound p privateKey calls token deviceID transport now c ↔ Plain token deviceID transport now c) := by
  refine ⟨fun call hcall hvalid => verify_issue h hcall hvalid,fun token deviceID transport now c haccepted => ?_⟩
  obtain ⟨payload,signature,hp⟩:=verify_ok haccepted
  exact ⟨fun hbound => plain_of_bound (valid_of_validate hp.valid) hbound,fun hplain => bound_of_plain h hp hplain⟩

def second (n : ℤ) (h : Fits n) : Time := ⟨⟨n,h⟩,0,by decide⟩

def serverTime : Time := second 1700003600 ⟨by decide,by decide⟩

def agentTime : Time := second 1700000000 ⟨by decide,by decide⟩

def exampleClaims (expiresAt : Seconds) : Claims :=
  ⟨0,"","BD-12345","operator-1","session-1","relay","operator",["desktop"],⟨0,by decide,by decide⟩,
    expiresAt,"nonce-1"⟩

def fiveMinutes : Claims := exampleClaims ⟨1700003900,by decide,by decide⟩

def forEver : Claims := exampleClaims ⟨2^63-1,by decide,by decide⟩

def message (c : Claims) : Bytes := lit "grant" ++ [if c.expiresAt.1=1700003900 then 0 else 1]

def examplePlatform : Platform where
  toLower := id
  marshal := message
  unmarshal := fun b =>
    if b=lit "grant" ++ [0] then some ⟨1,grantAudience,"BD-12345","operator-1","session-1","relay","operator",
      ["desktop"],⟨1700003600,by decide,by decide⟩,⟨1700003900,by decide,by decide⟩,"nonce-1"⟩
    else if b=lit "grant" ++ [1] then some ⟨1,grantAudience,"BD-12345","operator-1","session-1","relay","operator",
      ["desktop"],⟨1700003600,by decide,by decide⟩,⟨2^63-1,by decide,by decide⟩,"nonce-1"⟩
    else none
  publicKey := fun _ => List.replicate 32 2
  sign := fun _ _ => List.replicate 64 3
  verifySignature := fun _ message signature =>
    (message=lit "grant" ++ [0]||message=lit "grant" ++ [1])&&signature=List.replicate 64 3

def exampleCalls : Calls := [(fiveMinutes,serverTime),(forEver,serverTime)]

theorem example_assumed : Assumed examplePlatform (List.replicate 64 1) exampleCalls := by
  have hfive : Signs examplePlatform (fiveMinutes,serverTime) (lit "grant" ++ [0]) := ⟨by decide,by decide⟩
  have hever : Signs examplePlatform (forEver,serverTime) (lit "grant" ++ [1]) := ⟨by decide,by decide⟩
  refine ⟨fun _ => rfl,by decide,by decide,fun _ => length_replicate,?_,?_,?_⟩
  · intro call hcall m hm
    simp only [exampleCalls,mem_cons,not_mem_nil,or_false] at hcall
    rcases hcall with rfl | rfl
    · rw [hm.2,← hfive.2]
      decide
    · rw [hm.2,← hever.2]
      decide
  · intro m signature hverify
    simp only [examplePlatform,Bool.and_eq_true,Bool.or_eq_true,decide_eq_true_eq] at hverify
    refine ⟨hverify.2,?_⟩
    rcases hverify.1 with rfl | rfl
    · exact ⟨_,mem_cons_self,hfive⟩
    · exact ⟨_,mem_cons_of_mem _ mem_cons_self,hever⟩
  · decide

theorem fiveMinutes_bound : ∃ token c,
    examplePlatform.verify token (List.replicate 32 2) "BD-12345" "relay" serverTime=.ok c ∧
      Bound examplePlatform (List.replicate 64 1) exampleCalls token "BD-12345" "relay" serverTime c := by
  obtain ⟨hissued,hbound⟩:=grants_bound_iff example_assumed
  obtain ⟨token,hissue,hverify⟩:=hissued (fiveMinutes,serverTime) mem_cons_self (by decide)
  have haccepted:=hverify "BD-12345" "relay" serverTime (.inr (by decide)) (.inr (by decide)) (by decide)
  refine ⟨token,_,haccepted,(hbound _ _ _ _ _ haccepted).mpr ⟨by decide,by decide,?_,by decide,.inl (by decide)⟩⟩
  obtain ⟨hkey,hvalid⟩:=issue_ok hissue
  rw [issue_eq hkey hvalid] at hissue
  exact ⟨_,_,(Except.ok.inj hissue).symm⟩

/-- One hour ahead: accepted for more than `maxTTL`, before its time. -/
theorem issued_ahead_accepted :
    (∃ token c, examplePlatform.issue (List.replicate 64 1) fiveMinutes serverTime=.ok token ∧
      examplePlatform.verify token (List.replicate 32 2) "BD-12345" "relay" agentTime=.ok c ∧
      agentTime.nanos<c.issuedAt.1*10^9 ∧ agentTime.nanos+maxTTL*10^9<c.expiresAt.1*10^9) ∧
    ∃ token c, examplePlatform.issue (List.replicate 64 1) forEver serverTime=.ok token ∧
      examplePlatform.verify token (List.replicate 32 2) "BD-12345" "relay" serverTime=.ok c ∧
      c.expiresAt.1=2^63-1 := by
  constructor
  · obtain ⟨token,hissue,hverify⟩ :=
      verify_issue example_assumed (mem_cons_self : (fiveMinutes,serverTime)∈exampleCalls) (by decide)
    exact ⟨token,_,hissue,hverify "BD-12345" "relay" agentTime (.inr (by decide)) (.inr (by decide))
      (by decide),by decide,by decide⟩
  · obtain ⟨token,hissue,hverify⟩:=verify_issue example_assumed
      (mem_cons_of_mem _ mem_cons_self : (forEver,serverTime)∈exampleCalls) (by decide)
    exact ⟨token,_,hissue,hverify "BD-12345" "relay" serverTime (.inr (by decide)) (.inr (by decide))
      (by decide),by decide⟩

end BetterDesk.SessionGrant
