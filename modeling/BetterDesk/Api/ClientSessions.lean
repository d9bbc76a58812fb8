import BetterDesk.Api.Credentials
import BetterDesk.Lib.Exec

/-! # Client sessions (api/client_sessions.go, db/client_sessions_sqlite.go) -/

namespace BetterDesk.Api
open Text Exec

def defaultClientSessionExpiryDays : ℤ := 7
def defaultClientSessionMaxDays : ℤ := 30

structure SessionConfig where
  expiryDays : ℤ
  sliding : Bool
  maxDays : ℤ

structure SessionSettings where
  expiryDays : Option ℤ
  sliding : String
  maxDays : Option ℤ
  cfg : Option SessionConfig

def sessionDays (stored cfg : Option ℤ) (default : ℤ) : ℤ :=
  match stored.filter fun n => 0<n&&n≤365 with
  | some n => n
  | none => (cfg.filter fun n => 0<n).getD default

def clientSessionExpiryDays (c : SessionSettings) : ℤ :=
  sessionDays c.expiryDays (c.cfg.map SessionConfig.expiryDays) defaultClientSessionExpiryDays

def clientSessionMaxDays (c : SessionSettings) : ℤ :=
  sessionDays c.maxDays (c.cfg.map SessionConfig.maxDays) defaultClientSessionMaxDays

def clientSessionSliding (c : SessionSettings) : Bool :=
  let v:=lowerString (trimString c.sliding)
  if v="1" ∨ v="true" ∨ v="yes" ∨ v="on" then true
  else if v="0" ∨ v="false" ∨ v="no" ∨ v="off" then false
  else (c.cfg.map SessionConfig.sliding).getD true

/-- `time.Duration(days) * 24 * time.Hour` in whole seconds; it wraps in nanoseconds. -/
def lasting (days : ℤ) : ℤ := Int.bmod (days*24*3600000000000) 18446744073709551616/1000000000

structure ClientSessionRow where
  id : ℕ
  tokenHash : String
  userID : ℤ
  clientID : String
  clientUUID : String
  expiresAt : ℤ
  lastUsed : ℤ
  createdAt : ℤ
  revoked : Bool
  deriving DecidableEq

def ClientSessionRow.device (r : ClientSessionRow) : ℤ × String × String := (r.userID,r.clientID,r.clientUUID)

def ClientSessionRow.active (r : ClientSessionRow) (now : ℤ) : Bool := !r.revoked&&decide (now<r.expiresAt)

def getClientSessionByTokenHash (rows : List ClientSessionRow) (now : ℤ) (tokenHash : String) :
    Option ClientSessionRow := rows.find? fun r => r.tokenHash==tokenHash&&r.active now

def touchClientSession (rows : List ClientSessionRow) (id : ℕ) (expiresAt lastUsed : ℤ) : List ClientSessionRow :=
  rows.map fun r => if r.id=id ∧ r.revoked=false then {r with expiresAt,lastUsed} else r

def revokeClientSessionByTokenHash (rows : List ClientSessionRow) (tokenHash : String) : List ClientSessionRow :=
  rows.map fun r => if r.tokenHash=tokenHash then {r with revoked := true} else r

def revokeClientSessionsForDevice (rows : List ClientSessionRow) (device : ℤ × String × String) :
    List ClientSessionRow :=
  rows.map fun r => if r.device=device ∧ r.revoked=false then {r with revoked := true} else r

def ClientSessionRow.ofClient (r : ClientSessionRow) (clientID clientUUID : String) : Bool :=
  (clientID != ""&&r.clientID==clientID)||(clientUUID != ""&&r.clientUUID==clientUUID)

def ClientSessionRow.newer (a b : ClientSessionRow) : Bool :=
  decide (b.lastUsed<a.lastUsed)||(a.lastUsed==b.lastUsed&&decide (b.id<a.id))

def getActiveClientSessionByClient (rows : List ClientSessionRow) (now : ℤ) (clientID clientUUID : String) :
    Option ClientSessionRow :=
  (rows.filter fun r => r.active now&&r.ofClient (trimString clientID) (trimString clientUUID)).foldl
    (fun best r => match best with
      | none => some r
      | some b => if r.newer b then some r else some b) none

def cleanupExpiredClientSessions (rows : List ClientSessionRow) (now : ℤ) : List ClientSessionRow :=
  rows.filter fun r => !(decide (r.expiresAt<now)||(r.revoked&&decide (r.lastUsed<now-7*24*3600)))

structure PendingLogin where
  device : ℤ × String × String
  since : ℤ

structure PendingTouch where
  row : ClientSessionRow
  readAt : ℤ

/-- `accepted` are the sessions that lookups have found, each with the time of the lookup. -/
structure ClientSessions where
  now : ℤ
  rows : List ClientSessionRow
  nextID : ℕ
  logins : List PendingLogin
  touches : List PendingTouch
  bans : List ClientSessionRow
  accepted : List (ClientSessionRow × ℤ)

def ClientSessions.init (now : ℤ) : ClientSessions := ⟨now,[],1,[],[],[],[]⟩

structure SessionEnv where
  sha256Hex : Bytes → String
  settings : SessionSettings

namespace SessionEnv
variable (E : SessionEnv)

def lifetime : ℤ := lasting (clientSessionExpiryDays E.settings)

def maxLifetime : ℤ := lasting (clientSessionMaxDays E.settings)

def nextExpiry (r : ClientSessionRow) (now : ℤ) : ℤ :=
  if clientSessionSliding E.settings then
    let maxDeadline:=r.createdAt+E.maxLifetime
    let newExpiry:=now+E.lifetime
    if maxDeadline<newExpiry then maxDeadline else newExpiry
  else r.expiresAt

end SessionEnv

inductive SessionAction
  | tick (seconds : ℕ)
  | loginRevokes (userID : ℤ) (clientID clientUUID : String)
  /-- The second half of a login, with the token it draws and the time it reads. -/
  | loginCreates (login : ℕ) (token : Bytes) (now : ℤ)
  | loginFails (login : ℕ)
  /-- `authenticateClientSession` looks a token up; the signal server does so as
  well, and writes nothing back. -/
  | use (token : Bytes) (userExists : Bool)
  | useSignal (token : Bytes)
  | touch (pending : ℕ) (now : ℤ)
  | touchFails (pending : ℕ)
  | logout (token : Bytes)
  | banFinds (clientID clientUUID : String)
  | banRevokes (ban : ℕ)
  | cleanup

namespace ClientSessions
variable (E : SessionEnv) (s : ClientSessions)

/-- The row that the second half of a login inserts: its time lies between the two
statements, and token hashes are unique. -/
def inserted (login : ℕ) (token : Bytes) (now : ℤ) : Option ClientSessionRow := do
  let p ← s.logins[login]?
  if p.since≤now ∧ now ≤ s.now ∧ isOpaqueClientToken token=true ∧
      ∀ r∈s.rows,r.tokenHash≠E.sha256Hex token then
    some {
      id := s.nextID
      tokenHash := E.sha256Hex token
      userID := p.device.1
      clientID := p.device.2.1
      clientUUID := p.device.2.2
      expiresAt := now+E.lifetime
      lastUsed := now
      createdAt := s.now
      revoked := false}
  else none

def found (token : Bytes) : Option ClientSessionRow :=
  if isOpaqueClientToken token then getClientSessionByTokenHash s.rows s.now (E.sha256Hex token) else none

def step (s : ClientSessions) : SessionAction → Option ClientSessions
  | .tick seconds => some {s with now := s.now+seconds}
  | .loginRevokes userID clientID clientUUID =>
    if userID≤0 then none
    else
      let device:=(userID,clientID,clientUUID)
      some {s with
        rows := revokeClientSessionsForDevice s.rows device
        logins := s.logins++[⟨device,s.now⟩]}
  | .loginCreates login token now =>
    (s.inserted E login token now).map fun r => {s with
      rows := s.rows++[r]
      nextID := s.nextID+1
      logins := s.logins.eraseIdx login}
  | .loginFails login => some {s with logins := s.logins.eraseIdx login}
  | .use token userExists =>
    match s.found E token with
    | none => some s
    | some r =>
      if userExists then some {s with
        touches := s.touches++[⟨r,s.now⟩]
        accepted := s.accepted++[(r,s.now)]}
      else some s
  | .useSignal token => some {s with accepted := s.accepted++(s.found E token).toList.map fun r => (r,s.now)}
  | .touch pending now => do
    let p ← s.touches[pending]?
    if p.readAt≤now ∧ now ≤ s.now then
      some {s with
        rows := touchClientSession s.rows p.row.id (E.nextExpiry p.row now) now
        touches := s.touches.eraseIdx pending}
    else none
  | .touchFails pending => some {s with touches := s.touches.eraseIdx pending}
  | .logout token =>
    if isOpaqueClientToken token then
      some {s with rows := revokeClientSessionByTokenHash s.rows (E.sha256Hex token)}
    else some s
  | .banFinds clientID clientUUID =>
    some {s with bans := s.bans++(getActiveClientSessionByClient s.rows s.now clientID clientUUID).toList}
  | .banRevokes ban => do
    let r ← s.bans[ban]?
    some {s with
      rows := revokeClientSessionsForDevice s.rows r.device
      bans := s.bans.eraseIdx ban}
  | .cleanup => some {s with rows := cleanupExpiredClientSessions s.rows s.now}

end ClientSessions

end BetterDesk.Api
