import BetterDesk.Enrollment.Tokens

/-! # Enrollment and management proofs (api/bd_mgmt_handlers.go, api/enrollment_proof.go) -/

namespace BetterDesk.Mgmt
open Text Base64 Programs Enrollment Function
open Db (PeerID Answer)

structure MgmtRequest where
  device : PeerID
  timestamp : String
  nonce : String
  signature : String

inductive MgmtReply
  | refused (code : ℕ) (message : String)
  | upgraded

def bdMgmtClockSkew : ℕ := 300000000000

def bdMgmtSignaturePayload (id : PeerID) (timestamp nonce : String) : Bytes :=
  lit "bd-mgmt-v1\n" ++ lit id++[10]++lit timestamp++[10]++lit nonce

namespace MgmtRequest

def nonceKey (m : MgmtRequest) : String := m.device++":" ++ m.nonce

def payload (m : MgmtRequest) : Bytes := bdMgmtSignaturePayload m.device m.timestamp m.nonce

@[irreducible] def signedAt (env : Env) (m : MgmtRequest) : Option ℤ :=
  if m.timestamp="" ∨ m.nonce="" ∨ m.signature="" then none else env.parseTime m.timestamp

@[irreducible] def signedBy (env : Env) (m : MgmtRequest) (key : Bytes) : Bool :=
  match decodeStandard (lit m.signature) with
  | none => false
  | some signature => signature.length=ed25519SignatureSize&&env.verify key m.payload signature

end MgmtRequest

def verifyBdMgmtRequest (env : Env) (m : MgmtRequest) : Prog Bool :=
  match m.signedAt env with
  | none => pure false
  | some signedAt => do
    let now : ℤ ← ask .clock
    if outsideSkew bdMgmtClockSkew now signedAt then pure false
    else
      match ← loadBdMgmtPublicKey m.device with
      | none => pure false
      | some key =>
        if m.signedBy env key then do
          let replayed : Bool ← ask (.markUsed m.nonceKey now)
          pure (!replayed)
        else pure false

def handleBdMgmt (env : Env) (m : MgmtRequest) : Prog MgmtReply :=
  if (lit m.device).length<3 ∨ 32<(lit m.device).length then pure (.refused 400 "invalid device_id")
  else do
    match (← ask (.getPeer m.device) : Answer (Option Peer)) with
    | .error _ => pure (.refused 500 "device lookup failed")
    | .ok none => pure (.refused 401 "unknown device")
    | .ok (some _) =>
      let banned : Answer Bool ← ask (.isPeerBanned m.device)
      if yes banned then pure (.refused 403 "device banned")
      else
        let deleted : Answer Bool ← ask (.isPeerSoftDeleted m.device)
        if yes deleted then pure (.refused 403 "device deleted")
        else if ← verifyBdMgmtRequest env m then pure .upgraded
        else pure (.refused 401 "device authentication failed")

inductive Channel
  | enrollment
  | management
  deriving DecidableEq

inductive Request
  | enroll (q : Enrollment.Request)
  | manage (m : MgmtRequest)

inductive Outcome
  | enrollment (reply : Reply)
  | management (reply : MgmtReply)

/-- What the device signs of a request, but for its key, with what it is kept under. -/
structure Header where
  channel : Channel
  device : PeerID
  timestamp : String
  nonce : String
  deriving DecidableEq

namespace Request

def channel : Request → Channel
  | enroll _ => .enrollment
  | manage _ => .management

def header : Request → Header
  | enroll q => ⟨.enrollment,q.device,trimString q.incoming.timestamp,trimString q.incoming.nonce⟩
  | manage m => ⟨.management,m.device,m.timestamp,m.nonce⟩

def nonceKey : Request → String
  | enroll q => proofNonceKey q.incoming q.device
  | manage m => m.nonceKey

def payload (key : Bytes) : Request → Bytes
  | enroll q => enrollmentProofPayload q.incoming.method q.incoming.path q.device key
      (trimString q.incoming.timestamp) (trimString q.incoming.nonce)
  | manage m => m.payload

def signature : Request → String
  | enroll q => trimString q.incoming.signature
  | manage m => m.signature

def signedAt (env : Env) : Request → Option ℤ
  | enroll q => proofSignedAt env q.incoming
  | manage m => m.signedAt env

def signedBy (env : Env) (key : Bytes) : Request → Bool
  | enroll q => Enrollment.signedBy env q.incoming q.device key
  | manage m => m.signedBy env key

def attempts : Request → Bool
  | enroll q => enrollmentProofProvided q.incoming
  | manage _ => true

end Request

def program (env : Env) : Request → Prog Outcome
  | .enroll q => do return .enrollment (← Enrollment.handle env q)
  | .manage m => do return .management (← handleBdMgmt env m)

abbrev Call := Channel × Op
abbrev CallRes (c : Call) : Type := Res c.2

/-- The tables, the clock and the enrollment nonces, and the management nonces beside them. -/
structure Node where
  tables : Store
  managed : String → Option ℤ

namespace Node

def cache (s : Node) : Channel → String → Option ℤ
  | .enrollment => s.tables.nonces
  | .management => s.managed

def view (s : Node) (c : Channel) : Store := {s.tables with nonces := s.cache c}

def keep (s : Node) (t : Store) : Channel → Node
  | .enrollment => ⟨t,s.managed⟩
  | .management => ⟨{t with nonces := s.tables.nonces},t.nonces⟩

end Node

def Node.run (s : Node) (c : Call) (fails : Bool) : CallRes c × Node :=
  ((Enrollment.run (s.view c.1) c.2 fails).1,s.keep (Enrollment.run (s.view c.1) c.2 fails).2 c.1)

inductive Outside
  | tick (elapsed : ℕ)
  | write (peers : PeerID → Option Peer) (config : (key : ConfigKey) → Option key.Value)
      (tokens : TokenHash → Option DeviceToken)

def Outside.move (s : Node) : Outside → Node
  | tick elapsed => {s with tables := Enrollment.tick s.tables elapsed}
  | write peers config tokens => { s with tables := {s.tables with
      peers := peers
      config := config
      tokens := tokens}}

abbrev System := Sys Node Request Call CallRes Outcome
abbrev ProofProcess := Process Node Request Call CallRes Outcome

def serve (env : Env) (q : Request) : Programs.Prog Call CallRes Outcome := (program env q).tag q.channel

def step (env : Env) : System → Act Request Outside → Option System :=
  Programs.step Node.run (serve env) Outside.move

def fresh (tables : Store) : Node := ⟨{tables with nonces := fun _ => none},fun _ => none⟩

/-- The entries that a mark at `now` leaves. -/
def purged (nonces : String → Option ℤ) (now : ℤ) (key : String) : Option ℤ :=
  (nonces key).filter fun expiry => expiry≥now

/-- `markUsed` on one cache. -/
def markUsed (nonces : String → Option ℤ) (key : String) (now : ℤ) : Bool × (String → Option ℤ) :=
  if (purged nonces now key).isSome then (true,purged nonces now)
  else (false,update (purged nonces now) key (some (now+bdMgmtNonceTTL)))

theorem perform_nonces {s : Store} {op : Op} (h : ∀ key now, op ≠ .markUsed key now) :
    (perform s op).2.nonces=s.nonces := by
  cases op with
  | markUsed key now => exact absurd rfl (h key now)
  | createDeviceToken hash token =>
    simp only [perform]
    split <;> rfl
  | _ => rfl

theorem run_nonces {s : Store} {op : Op} {fails : Bool} (h : ∀ key now, op ≠ .markUsed key now) :
    (Enrollment.run s op fails).2.nonces=s.nonces := by
  cases fails with
  | false => exact perform_nonces h
  | true =>
    unfold Enrollment.run
    rw [if_pos rfl]
    split
    · rfl
    · exact perform_nonces h

theorem run_markUsed {s : Store} {key : String} {now : ℤ} {fails : Bool} :
    (Enrollment.run s (.markUsed key now) fails).1=(markUsed s.nonces key now).1 ∧
      (Enrollment.run s (.markUsed key now) fails).2.nonces=(markUsed s.nonces key now).2 := by
  have hperform : Enrollment.run s (.markUsed key now) fails=perform s (.markUsed key now) := by
    cases fails <;> rfl
  rw [hperform,markUsed]
  by_cases hlive : (purged s.nonces now key).isSome=true
  · have hreplayed : perform s (.markUsed key now)=(true,{s with nonces := purged s.nonces now}) := if_pos hlive
    rw [hreplayed,if_pos hlive]
    exact ⟨rfl,rfl⟩
  · have hfirst : perform s (.markUsed key now)=(false,{s with
        nonces := update (purged s.nonces now) key (some (now+bdMgmtNonceTTL))}) := if_neg hlive
    rw [hfirst,if_neg hlive]
    exact ⟨rfl,rfl⟩

namespace Node
variable {s : Node} {c c' : Channel} {op : Op} {fails : Bool}

theorem cache_run_other (h : ∀ key now, op ≠ .markUsed key now) : (s.run (c,op) fails).2.cache c'=s.cache c' := by
  have hnonces : (Enrollment.run (s.view c) op fails).2.nonces=s.cache c := run_nonces h
  cases c <;> cases c' <;> first | rfl | exact hnonces

theorem cache_run_aside (h : c'≠c) : (s.run (c,op) fails).2.cache c'=s.cache c' := by
  cases c <;> cases c' <;> first | rfl | exact absurd rfl h

theorem run_mark {key : String} {now : ℤ} : (s.run (c,.markUsed key now) fails).1=(markUsed (s.cache c) key now).1 ∧
    (s.run (c,.markUsed key now) fails).2.cache c=(markUsed (s.cache c) key now).2 := by
  have h := @run_markUsed (s.view c) key now fails
  cases c <;> exact h

theorem cache_move {e : Outside} : (e.move s).cache c=s.cache c := by
  cases e <;> cases c <;> rfl

end Node

section MarkUsed
variable {nonces : String → Option ℤ} {key k : String} {now expiry : ℤ}

theorem purged_eq_some : purged nonces now k=some expiry ↔ nonces k=some expiry ∧ now≤expiry := by
  unfold purged
  rw [Option.filter_eq_some_iff,decide_eq_true_iff,ge_iff_le]

theorem markUsed_keeps (h : nonces k=some expiry) (hlive : now≤expiry) : (markUsed nonces key now).2 k=some expiry := by
  have hkept : purged nonces now k=some expiry := purged_eq_some.mpr ⟨h,hlive⟩
  unfold markUsed
  split
  · exact hkept
  · rename_i hnew
    have hne : k≠key := by
      rintro rfl
      rw [hkept] at hnew
      exact hnew rfl
    simpa [update_of_ne hne] using hkept

theorem markUsed_live (h : nonces key=some expiry) (hlive : now≤expiry) : (markUsed nonces key now).1=true := by
  unfold markUsed
  rw [if_pos (by rw [purged_eq_some.mpr ⟨h,hlive⟩]; rfl)]

theorem markUsed_accepted (h : (markUsed nonces key now).1=false) :
    (markUsed nonces key now).2 key=some (now+bdMgmtNonceTTL) := by
  unfold markUsed at h ⊢
  split at h
  · cases h
  · rename_i hnew
    rw [if_neg hnew]
    exact update_self _ _ _

end MarkUsed

end BetterDesk.Mgmt
