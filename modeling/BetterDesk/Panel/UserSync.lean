import BetterDesk.Lib.Text
import BetterDesk.Lib.Numbered

/-! # The two user tables (web-nodejs/services/userSync.js) -/

namespace BetterDesk.Panel.UserSync
open Numbered

def isWhiteSpace (c : Char) : Bool :=
  c.toNat∈[9,10,11,12,13,32,0xA0,0x1680,0x2028,0x2029,0x202F,0x205F,0x3000,0xFEFF] ||
    (0x2000≤c.toNat&&c.toNat≤0x200A)

def trim (s : String) : String :=
  String.ofList ((s.toList.dropWhile isWhiteSpace).rdropWhile isWhiteSpace)

theorem trim_trim (s : String) : trim (trim s)=trim s := by
  rw [trim,trim,String.toList_ofList,Text.trim_trim]

/-- The built-in functions on texts: white space has no case, and a date may be no date. -/
structure Builtins where
  toLowerCase : String → String
  trim_toLowerCase : ∀ s, trim (toLowerCase s)=toLowerCase (trim s)
  dateParse : String → Option ℤ

/-- `a || b` on texts. -/
def orElse (a : Option String) (b : String) : String := if a.getD "" = "" then b else a.getD ""

/-- `a || null`. -/
def orNull (a : Option String) : Option String := if a.getD "" = "" then none else a

/-- The columns that both tables have; a column may hold `NULL`. -/
structure User where
  username : String
  passwordHash : String
  role : Option String
  authProvider : Option String
  createdAt : Option String
  lastLogin : Option String
  totpSecret : Option String
  totpEnabled : Bool
  totpRecoveryCodes : Option String
  deriving DecidableEq

abbrev Account := Keyed User
abbrev Users := Table User String User.username

def goValidRoles : List String :=
  ["super_admin","admin","server_admin","global_admin","operator","viewer","pro"]

def normalizeRole (role : Option String) : String :=
  if role.getD ""∈goValidRoles then role.getD "" else "viewer"

theorem normalizeRole_normalizeRole (role : Option String) :
    normalizeRole (some (normalizeRole role))=normalizeRole role := by
  by_cases h : role.getD ""∈goValidRoles
  · simp [normalizeRole,h]
  · simp [normalizeRole,h]

variable (js : Builtins)

def normalizeUsername (username : String) : String := js.toLowerCase (trim username)

theorem normalizeUsername_trim (username : String) :
    normalizeUsername js (trim username)=normalizeUsername js username := by
  rw [normalizeUsername,trim_trim,normalizeUsername]

theorem normalizeUsername_of_toLowerCase {a b : String} (h : js.toLowerCase a=js.toLowerCase b) :
    normalizeUsername js a=normalizeUsername js b := by
  rw [normalizeUsername,normalizeUsername,← js.trim_toLowerCase,← js.trim_toLowerCase,h]

def Known (users : Users) (n : String) : Prop := ∃ e∈users.rows,normalizeUsername js e.row.username=n

instance (users : Users) (n : String) : Decidable (Known js users n) :=
  inferInstanceAs (Decidable (∃ e∈users.rows,normalizeUsername js e.row.username=n))

/-- What `GET /users` comes to; a list is the content of the table. -/
inductive UsersAnswer
  | failed
  | notAnArray
  | listed
  deriving DecidableEq

/-- What a writing request comes to: the server may have carried it out although no answer
comes back. -/
inductive Reply
  | done
  | refused (status : ℕ)
  | lost (carriedOut : Bool)
  deriving DecidableEq

def Reply.carriedOut : Reply → Bool
  | done => true
  | refused _ => false
  | lost carriedOut => carriedOut

/-- The server as the panel meets it; `placeholderHash` is its hash of a random password. -/
structure Api where
  getUsers : UsersAnswer
  postUser : String → Reply
  deleteUser : ℤ → Reply
  placeholderHash : String → String
  now : String

variable (api : Api)

/-- `listGoUsers` keeps apart an empty list and a failure. -/
def listGoUsers (go : Users) : List Account × Bool :=
  match api.getUsers with
  | .listed => (go.rows,true)
  | .notAnArray => ([],false)
  | .failed => ([],false)

def readGoUsersFromApi (go : Users) : List Account := (listGoUsers api go).1

def findGoUserByUsername (go : Users) (username : String) : Option Account :=
  if username="" then none
  else (readGoUsersFromApi api go).find? fun e =>
    normalizeUsername js e.row.username=normalizeUsername js username

def safeApiId (id : ℤ) : Bool := id≠0

inductive DeleteResult
  | skipped (reason : Option String)
  | deleted
  | failed (status : ℕ) (conflict : Bool)

def DeleteResult.ok : DeleteResult → Bool
  | skipped _ => true
  | deleted => true
  | failed _ _ => false

def mirrorDelete (go : Users) (username : String) : DeleteResult × Users :=
  if username="" then (.skipped none,go)
  else match findGoUserByUsername js api go username with
    | none => (.skipped (some "not-on-go"),go)
    | some goUser =>
      if safeApiId goUser.id then
        match api.deleteUser goUser.id with
        | .done => (.deleted,go.erase goUser.id)
        | .refused status => (.failed (if status=0 then 502 else status) (status=409),go)
        | .lost carriedOut => (.failed 502 false,if carriedOut then go.erase goUser.id else go)
      else (.failed 502 false,go)

/-- A row as a query returns it: a column that the query does not name is undefined. -/
structure ListedUser where
  username : String
  passwordHash : Option String
  role : Option String
  authProvider : Option String
  totpSecret : Option String
  totpEnabled : Bool

/-- The query of the SQLite adapter names neither the password hash nor the TOTP secret. -/
def getAllUsers (panel : Users) : List ListedUser :=
  panel.rows.map fun e => ⟨e.row.username,none,e.row.role,e.row.authProvider,none,e.row.totpEnabled⟩

def localUserHasTotp (user : ListedUser) : Bool := user.totpEnabled&&trim (user.totpSecret.getD "")≠""

def User.withTotp (secret : Option String) (enabled : Bool) (u : User) : User := {u with
  totpSecret := secret
  totpEnabled := enabled
  totpRecoveryCodes := none}

/-- `lower` of SQLite knows the Latin letters only. -/
def mirrorTotpToGoSqlite (go : Users) (username : String) (enabled : Bool) (secret : Option String) : Users :=
  if normalizeUsername js username="" then go
  else match go.rows.find? fun e => e.row.username.toLower=normalizeUsername js username with
    | none => go
    | some e =>
      if enabled then
        if trim (secret.getD "")="" then go
        else go.modify e.id (User.withTotp (some (trim (secret.getD ""))) true) fun _ => rfl
      else go.modify e.id (User.withTotp (some "") false) fun _ => rfl

def goUserRow (username hash role provider now : String) : User where
  username := username
  passwordHash := hash
  role := some role
  authProvider := some provider
  createdAt := some now
  lastLogin := some ""
  totpSecret := some ""
  totpEnabled := false
  totpRecoveryCodes := none

/-- `none` is the answer `false`; a violated `UNIQUE` counts as success. -/
def insertGoUserWithPasswordHash (go : Users) (username : String) (passwordHash : String)
    (role authProvider : Option String) : Option Users := let normalized:=trim username
  let hash:=trim passwordHash
  if normalized="" ∨ hash="" then none
  else
    let provider:=trim (authProvider.getD "")
    some ((go.insert (goUserRow normalized hash (normalizeRole role)
      (if provider∈["local","ldap","oidc"] then provider else "local") api.now)).getD go)

/-- `POST /users` with a random password, as far as the server carries it out. -/
def postUser (go : Users) (username : String) (role : Option String) : Users :=
  if (api.postUser username).carriedOut&&username≠"" then
    (go.insert (goUserRow username (api.placeholderHash username) (normalizeRole role) "local" api.now)).getD go
  else go

def createGoUser (go : Users) (u : ListedUser) : Users :=
  let hash:=trim (u.passwordHash.getD "")
  if hash="" then postUser api go u.username u.role
  else (insertGoUserWithPasswordHash api go u.username hash u.role u.authProvider).getD
    (postUser api go u.username u.role)

def mirrorTotp (go : Users) (u : ListedUser) : Users :=
  if localUserHasTotp u then mirrorTotpToGoSqlite js go u.username true u.totpSecret else go

def missingOnGo (listed : List Account) (nodeUsers : List ListedUser) : List ListedUser :=
  nodeUsers.filter fun u =>
    js.toLowerCase u.username∉listed.map fun e => js.toLowerCase e.row.username

def backfillFromNode (nodeUsers : List ListedUser) (go : Users) : Users :=
  if nodeUsers=[] then go
  else match api.getUsers with
    | .failed => go
    | _ => nodeUsers.foldl (mirrorTotp js)
        ((missingOnGo js (readGoUsersFromApi api go) nodeUsers).foldl (createGoUser api) go)

def restorable (e : Account) : Bool :=
  normalizeUsername js e.row.username≠""&&trim e.row.passwordHash≠""

/-- `readGoUsersFromSqlite` after the filter of `backfillFromGo`. -/
def restorableUsers (go : Users) : List Account := go.rows.filter (restorable js)

def provider (u : User) : String := orElse (some (trim (orElse u.authProvider "local"))) "local"

def missingOnPanel (panel go : Users) : List Account :=
  (restorableUsers js go).filter fun g => !Known js panel (normalizeUsername js g.row.username)

def restoredRow (now : String) (u : User) : User where
  username := trim u.username
  passwordHash := trim u.passwordHash
  role := some (normalizeRole u.role)
  authProvider := some (provider u)
  createdAt := some (orElse u.createdAt now)
  lastLogin := orNull u.lastLogin
  totpSecret := orNull u.totpSecret
  totpEnabled := u.totpEnabled
  totpRecoveryCodes := none

structure Restoring where
  panel : Users
  localIds : List ℤ

def restoreUser (now : String) (s : Restoring) (g : Account) : Restoring :=
  if 0<g.id ∧ g.id∉s.localIds then
    match s.panel.insertAt g.id (restoredRow now g.row) with
    | some panel => ⟨panel,g.id::s.localIds⟩
    | none => s
  else match s.panel.insert (restoredRow now g.row) with
    | some panel => {s with panel := panel}
    | none => s

def restoreUsers (now : String) (panel go : Users) : Users :=
  ((missingOnPanel js panel go).foldl (restoreUser now) ⟨panel,panel.rows.map Keyed.id⟩).panel

def isSqliteTime (s : String) : Bool :=
  let cs:=s.toList
  let shape := "0000-00-00 00:00:00".toList
  cs.length=shape.length&&(cs.zip shape).all fun (c,d) => if d = '0' then c.isDigit else c=d

def parseLastLogin (value : Option String) : Option ℤ :=
  let text:=trim (value.getD "")
  if text="" then none
  else js.dateParse (if isSqliteTime text then
      String.ofList (text.toList.map fun c => if c = ' ' then 'T' else c)++"Z" else text)

def shouldSyncLastLogin (localValue goValue : Option String) : Bool :=
  match parseLastLogin js goValue with
  | none => false
  | some goTimestamp =>
    if trim (localValue.getD "")="" then true
    else match parseLastLogin js localValue with
      | none => true
      | some localTimestamp => localTimestamp<goTimestamp

def differs (u g : User) : Bool :=
  provider g≠provider u||u.role≠some (normalizeRole g.role)||shouldSyncLastLogin js u.lastLogin g.lastLogin

def User.syncedTo (u g : User) (withLastLogin : Bool) : User := {u with
  role := some (normalizeRole g.role)
  authProvider := some (provider g)
  lastLogin := if withLastLogin then some (trim (g.lastLogin.getD "")) else u.lastLogin}

def localByName (localUsers : List Account) (n : String) : Option Account :=
  localUsers.reverse.find? fun e => normalizeUsername js e.row.username=n

def syncFromGo (localUsers : List Account) (panel : Users) (g : Account) : Users :=
  match localByName js localUsers (normalizeUsername js g.row.username) with
  | none => panel
  | some e =>
    if differs js e.row g.row then
      panel.modify e.id (fun u => u.syncedTo g.row (shouldSyncLastLogin js e.row.lastLogin g.row.lastLogin)) fun _ => rfl
    else panel

def syncExistingAuthFromGo (panel : Users) (goUsers localUsers : List Account) : Users :=
  goUsers.foldl (syncFromGo js localUsers) panel

def backfillFromGo (now : String) (panel go : Users) : Users :=
  let restored:=restoreUsers js now panel go
  syncExistingAuthFromGo js restored (restorableUsers js go) restored.rows

def reconcile (panel go : Users) : Users × Users :=
  let panel':=backfillFromGo js api.now panel go
  (panel',backfillFromNode js api (getAllUsers panel') go)

end BetterDesk.Panel.UserSync
