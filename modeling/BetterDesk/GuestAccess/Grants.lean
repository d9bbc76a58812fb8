import BetterDesk.Lib.Programs
import BetterDesk.Lib.SyncMap
import BetterDesk.Lib.Text

/-! # Guest access links (guestaccess/grants.go) -/

namespace BetterDesk.GuestAccess
open Programs Text

structure Grant where
  id : String
  peerIDs : List String
  createdBy : String
  label : String
  viewOnly : Bool
  expiresAt : ℕ
  createdAt : ℕ
  revokedAt : Option ℕ
  maxUses : ℕ                 -- 0: unlimited
  useCount : ℕ
  tokenPrefix : String
  deriving DecidableEq

/-- The entries under `configPrefix`; a value is what its JSON text decodes to. -/
structure Store where
  config : SyncMap String Grant
  clock : ℕ

inductive Op
  | now
  | getConfig (key : String)
  | setConfig (key : String) (value : Grant)
  | deleteConfig (key : String)
  | compareAndSwapConfig (key : String) (expected replacement : Grant)
  | listConfigByPrefix
  deriving DecidableEq

abbrev Res : Op → Type
  | .now => ℕ
  | .getConfig _ => Option Grant
  | .setConfig _ _ => Bool
  | .deleteConfig _ => Unit
  | .compareAndSwapConfig _ _ _ => Option Bool         -- `none`: an error
  | .listConfigByPrefix => Option (List (String × Grant))

def run (s : Store) (op : Op) (fails : Bool) : Res op × Store := match op with
  | .now => (s.clock,s)
  | .getConfig key => (if fails then none else s.config.load key,s)
  | .setConfig key value => if fails then (false,s) else (true,{s with config := s.config.store key value})
  | .deleteConfig key => if fails then ((),s) else ((),{s with config := s.config.delete key})
  | .compareAndSwapConfig key expected replacement =>
    if fails then (none,s)
    else if s.config.load key=some expected then
      (some true,{s with config := s.config.store key replacement})
    else (some false,s)
  | .listConfigByPrefix => (if fails then none else some s.config,s)

def move (s : Store) (elapsed : ℕ) : Store := {s with clock := s.clock+elapsed}

abbrev Prog := Programs.Prog Op Res

def ask (op : Op) : Prog (Res op) := .perform op

def isPeerChar (c : Char) : Bool :=
  (65≤c.toNat&&c.toNat≤90)||(97≤c.toNat&&c.toNat≤122)||(48≤c.toNat&&c.toNat≤57) ||
    c = '_'||c = '-'

def normalizeFrom (out : List String) : List String → Except String (List String)
  | [] => if out=[] then .error "at least one peer_id required" else .ok out
  | raw::rest =>
    let id:=trimString raw
    if id="" then normalizeFrom out rest
    else if id.utf8ByteSize<3 ∨ 64 < id.utf8ByteSize then .error "invalid peer id length"
    else if ¬ id.toList.all isPeerChar then .error "invalid peer id characters"
    else if id∈out then normalizeFrom out rest
    else normalizeFrom (out++[id]) rest

def normalizePeerIDs (ids : List String) : Except String (List String) := normalizeFrom [] ids

def configPrefix : String := "gal_"

def maxTTLMinutes : ℤ := 24*60

def defaultTTLMinutes : ℤ := 60

def minute : ℕ := 60*10^9

def ttl (ttlMinutes : ℤ) : ℕ :=
  let m := if ttlMinutes≤0 then defaultTTLMinutes else ttlMinutes
  (if maxTTLMinutes < m then maxTTLMinutes else m).toNat

inductive Reply
  | created (token : String) (g : Grant)
  | grant (g : Grant)
  | touched
  | revoked (found : Bool)
  | error (text : String)
  deriving DecidableEq

def Grant.allowsPeer (g : Grant) (peerID : String) : Bool := g.peerIDs.contains (trimString peerID)

/-- `none` for an active grant. The clock is not read for a revoked one. -/
def Grant.isActive (g : Grant) : Prog (Option String) :=
  if g.revokedAt.isSome then pure (some "guest link revoked")
  else do
    let now ← ask .now
    if g.expiresAt<now then pure (some "guest link expired")
    else if 0<g.maxUses ∧ g.maxUses≤g.useCount then pure (some "guest link use limit reached")
    else pure none

section
variable (hashToken : String → String)

def configKey (token : String) : String := configPrefix++hashToken token

/-- `token` and `id` are what `newToken` and `newID` return. -/
def create (token id : String) (peerIDs : List String) (createdBy : String) (ttlMinutes : ℤ) (viewOnly : Bool)
    (label : String) (maxUses : ℤ) : Prog Reply := match normalizePeerIDs peerIDs with
  | .error text => pure (.error text)
  | .ok peers => do
    let now ← ask .now
    let g : Grant := ⟨id,peers,createdBy,trimString label,viewOnly,now+ttl ttlMinutes*minute,now,none,
      maxUses.toNat,0,String.ofList (token.toList.take 8)⟩
    if ← ask (.setConfig (configKey hashToken token) g) then pure (.created token g)
    else pure (.error "config update failed")

def validate (token peerID : String) : Prog Reply :=
  let token:=trimString token
  if token="" then pure (.error "missing guest token")
  else do
    match ← ask (.getConfig (configKey hashToken token)) with
    | none => pure (.error "invalid or expired guest link")
    | some g =>
      match ← g.isActive with
      | some text =>
        if text="guest link expired" then
          let _ ← ask (.deleteConfig (configKey hashToken token))
          pure (.error text)
        else pure (.error text)
      | none =>
        if peerID≠"" ∧ ¬ g.allowsPeer peerID then pure (.error "guest link does not allow this device")
        else pure (.grant g)

def Grant.used (g : Grant) : Grant := {g with useCount := g.useCount+1}

/-- The loop of `consume`, with the attempts that are left. -/
def consumeLoop (key peerID : String) (enforcePeer : Bool) : ℕ → Prog Reply
  | 0 => pure (.error "guest link update conflicted")
  | attempts+1 => do
    match ← ask (.getConfig key) with
    | none => pure (.error "invalid or expired guest link")
    | some g =>
      match ← g.isActive with
      | some text => pure (.error text)
      | none =>
        if enforcePeer ∧ ¬ g.allowsPeer peerID then pure (.error "guest link does not allow this device")
        else
          match ← ask (.compareAndSwapConfig key g g.used) with
          | none => pure (.error "config update failed")
          | some true => pure (.grant g.used)
          | some false => consumeLoop key peerID enforcePeer attempts

def consumeWith (token peerID : String) (enforcePeer : Bool) : Prog Reply :=
  let token:=trimString token
  let peerID:=trimString peerID
  if token="" then pure (.error "missing guest token")
  else if enforcePeer ∧ peerID="" then pure (.error "missing guest peer")
  else consumeLoop (configKey hashToken token) peerID enforcePeer 8

def consume (token peerID : String) : Prog Reply := consumeWith hashToken token peerID true

def touch (token : String) : Prog Reply := do
  match ← consumeWith hashToken token "" false with
  | .grant _ => pure .touched
  | r => pure r

def Grant.revoke (g : Grant) (now : ℕ) : Grant := {g with revokedAt := some now}

/-- One pass over the entries; `again` is the next attempt. -/
def revokeEntries (id createdBy : String) (admin : Bool) (again : Prog Reply) : List (String × Grant) → Prog Reply
  | [] => again
  | (key,g)::rest =>
    if g.id≠id then revokeEntries id createdBy admin again rest
    else if ¬ admin ∧ createdBy≠"" ∧ g.createdBy≠createdBy then pure (.error "forbidden")
    else do
      let now ← ask .now
      match ← ask (.compareAndSwapConfig key g (g.revoke now)) with
      | none => pure (.error "config update failed")
      | some true => pure (.revoked true)
      | some false => revokeEntries id createdBy admin again rest

def revokeLoop (id createdBy : String) (admin : Bool) : ℕ → Prog Reply
  | 0 => pure (.revoked false)
  | attempts+1 => do
    match ← ask .listConfigByPrefix with
    | none => pure (.error "config list failed")
    | some entries => revokeEntries id createdBy admin (revokeLoop id createdBy admin attempts) entries

def revokeByID (id createdBy : String) (admin : Bool) : Prog Reply := revokeLoop id createdBy admin 8

inductive Request
  | create (token id : String) (peerIDs : List String) (createdBy : String) (ttlMinutes : ℤ) (viewOnly : Bool)
      (label : String) (maxUses : ℤ)
  | validate (token peerID : String)
  | consume (token peerID : String)
  | touch (token : String)
  | revokeByID (id createdBy : String) (admin : Bool)
  deriving DecidableEq

def handle : Request → Prog Reply
  | .create token id peerIDs createdBy ttlMinutes viewOnly label maxUses =>
    create hashToken token id peerIDs createdBy ttlMinutes viewOnly label maxUses
  | .validate token peerID => validate hashToken token peerID
  | .consume token peerID => consume hashToken token peerID
  | .touch token => touch hashToken token
  | .revokeByID id createdBy admin => revokeByID id createdBy admin

abbrev System := Sys Store Request Op Res Reply

abbrev Client := Process Store Request Op Res Reply

abbrev Event := Act Request ℕ

def next : System → Event → Option System := step run (handle hashToken) move

def Request.issues : Request → Option (String × String)
  | .create token id _ _ _ _ _ _ => some (configKey hashToken token,id)
  | _ => none

/-- `newToken` and `newID` return what they have not returned before. -/
def NewLink (s : System) : Event → Prop
  | .begin r => ∀ new∈r.issues hashToken, ∀ p∈s.procs, ∀ old∈p.request.issues hashToken,
      old.1≠new.1 ∧ old.2≠new.2
  | _ => True

instance (s : System) : (a : Event) → Decidable (NewLink hashToken s a)
  | .begin r => inferInstanceAs (Decidable (∀ new∈r.issues hashToken, ∀ p∈s.procs,
      ∀ old∈p.request.issues hashToken, old.1≠new.1 ∧ old.2≠new.2))
  | .step _ _ => isTrue trivial
  | .env _ => isTrue trivial

end

end BetterDesk.GuestAccess
