import BetterDesk.Api.UserAdmin
import BetterDesk.Api.Login
import BetterDesk.Auth.Recovery
import BetterDesk.Lib.Programs

/-! # Calls on the accounts, query by query (api/auth_handlers.go) -/

namespace BetterDesk.Api.Calls
open Auth Db Programs List Monitor

inductive Op
  | getUser (username : String)
  | getUserByID (id : ℕ)
  | listUsers
  | updateUser (user : User)
  | deleteUser (id : ℕ)
  deriving DecidableEq

abbrev Res : Op → Type
  | .getUser _ => Answer (Option User)
  | .getUserByID _ => Answer (Option User)
  | .listUsers => Answer (List User)
  | .updateUser _ => Answer Unit
  | .deleteUser _ => Answer Unit

def perform (db : Store) (op : Op) : Res op × Store := match op with
  | .getUser username => (db.getUser username,db)
  | .getUserByID id => (db.getUserByID id,db)
  | .listUsers => (db.listUsers,db)
  | .updateUser user => match db.updateUser user with
    | .ok db => (.ok (),db)
    | .error e => (.error e,db)
  | .deleteUser id => match db.deleteUser id with
    | .ok db => (.ok (),db)
    | .error e => (.error e,db)

def run (db : Store) (op : Op) (fails : Bool) : Res op × Store := perform {db with fails := fun _ => fails} op

abbrev Prog := Programs.Prog Op Res

def ask (op : Op) : Prog (Res op) := .perform op

structure Env where
  expiry : ℤ
  validateTOTP : ℤ → String → String → Bool     -- at an instant: the secret, the code
  compareHash : String → String → Bool          -- bcrypt: the hash, the password

inductive Reply
  | refused (status : ℕ)
  | token (claims : Claims) (usedRecoveryCode : Bool)
  | updated (id : ℕ)
  | deleted

/-- `claims` is what the partial token validates to. -/
def handleLogin2FA (env : Env) (now : ℤ) (claims : Option Claims) (code : String) : Prog Reply :=
  match claims with
  | none => pure (.refused 401)
  | some claims =>
    if claims.role≠twoFactorPending then pure (.refused 400)
    else do
      let found : Answer (Option User) ← ask (.getUser claims.sub)
      match found.row with
      | none => pure (.refused 401)
      | some user =>
        let token:=issueToken now env.expiry user.username user.role
        if env.validateTOTP now user.totpSecret code then pure (.token token false)
        else if user.totpRecoveryCodes="" then pure (.refused 401)
        else match consumeRecoveryCode env.compareHash user.totpRecoveryCodes code with
          | none => pure (.refused 401)
          | some left => do
            let written : Answer Unit ← ask (.updateUser {user with totpRecoveryCodes := left})
            match written with
            | .error _ => pure (.refused 500)
            | .ok _ => pure (.token token true)

def superAdmins (users : List User) : ℕ := (users.filter fun u => isSuperAdminRole u.role).length

def keepsAdmin (going : Bool) : Prog (Except ℕ Unit) :=
  if going then do
    let listed : Answer (List User) ← ask .listUsers
    match listed with
    | .error _ => pure (.error 500)
    | .ok users => if superAdmins users≤1 then pure (.error 409) else pure (.ok ())
  else pure (.ok ())

def allowsServerAdmin (ctx : Ctx) (user : User) : Prog (Except ℕ Unit) :=
  if user.isServerAdmin then do
    let caller : Answer (Option User) ← ask (.getUser ctx.username)
    match caller.row with
    | none => pure (.error 403)
    | some u => if u.isServerAdmin then pure (.ok ()) else pure (.error 403)
  else pure (.ok ())

def setRole (ctx : Ctx) (body : UpdateUserBody) (user : User) : Prog (Except ℕ User) :=
  if body.role="" then pure (.ok user)
  else if validRole body.role=false then pure (.error 400)
  else if user.username=ctx.username ∧ roleLevel body.role<roleLevel user.role then pure (.error 403)
  else if canAssignRole ctx.role body.role=false then pure (.error 403)
  else do
    let kept : Except ℕ Unit ← keepsAdmin (isSuperAdminRole user.role&&!isSuperAdminRole body.role)
    match kept with
    | .error status => pure (.error status)
    | .ok _ => do
      let allowed : Except ℕ Unit ← allowsServerAdmin ctx user
      match allowed with
      | .error status => pure (.error status)
      | .ok _ => pure (.ok {user with role := body.role})

/-- `hash` is what `HashPassword` makes of the new password. -/
def handleUpdateUser (ctx : Ctx) (id : Option ℕ) (body : UpdateUserBody) (hash : Option String) : Prog Reply :=
  match id with
  | none => pure (.refused 400)
  | some id => do
    let found : Answer (Option User) ← ask (.getUserByID id)
    match found.row with
    | none => pure (.refused 404)
    | some user => match setPassword (fun _ => hash) body user with
      | .error status => pure (.refused status)
      | .ok user => do
        let changed : Except ℕ User ← setRole ctx body user
        match changed with
        | .error status => pure (.refused status)
        | .ok user => do
          let written : Answer Unit ← ask (.updateUser user)
          match written with
          | .error _ => pure (.refused 500)
          | .ok _ => pure (.updated id)

def handleDeleteUser (ctx : Ctx) (id : Option ℕ) : Prog Reply :=
  match id with
  | none => pure (.refused 400)
  | some id => do
    let found : Answer (Option User) ← ask (.getUserByID id)
    match found.row with
    | none => pure (.refused 404)
    | some user => do
      let kept : Except ℕ Unit ← keepsAdmin (isSuperAdminRole user.role)
      match kept with
      | .error status => pure (.refused status)
      | .ok _ => do
        let allowed : Except ℕ Unit ← allowsServerAdmin ctx user
        match allowed with
        | .error status => pure (.refused status)
        | .ok _ => do
          let written : Answer Unit ← ask (.deleteUser id)
          match written with
          | .error _ => pure (.refused 500)
          | .ok _ => pure .deleted

inductive Request
  | login2FA (now : ℤ) (claims : Option Claims) (code : String)
  | updateUser (ctx : Ctx) (id : Option ℕ) (body : UpdateUserBody) (hash : Option String)
  | deleteUser (ctx : Ctx) (id : Option ℕ)
  deriving DecidableEq

def handle (env : Env) : Request → Prog Reply
  | .login2FA now claims code => handleLogin2FA env now claims code
  | .updateUser ctx id body hash => handleUpdateUser ctx id body hash
  | .deleteUser ctx id => handleDeleteUser ctx id

abbrev Process := Programs.Process Store Request Op Res Reply
abbrev Sys := Programs.Sys Store Request Op Res Reply
abbrev Act := Programs.Act Request Empty

def step (env : Env) : Sys → Act → Option Sys := Programs.step run (handle env) fun db _ => db

section Alone
variable {db : Store}

theorem eval_ask {op : Op} {α : Type} {f : Res op → Prog α} :
    (ask op >>= f).eval perform db=(f (perform db op).1).eval perform (perform db op).2 := rfl

theorem eval_keepsAdmin {going : Bool} : (keepsAdmin going).eval perform db=(Api.keepsAdmin db going,db) := by
  unfold keepsAdmin Api.keepsAdmin
  cases going with
  | false => rfl
  | true =>
    rw [if_pos rfl,if_pos rfl,eval_ask]
    dsimp only [perform]
    cases db.listUsers with
    | error e => rfl
    | ok users =>
      show (if superAdmins users≤1 then _ else _ : Prog _).eval perform db=(if superAdmins users≤1 then _ else _,db)
      by_cases hlast : superAdmins users≤1
      · rw [if_pos hlast,if_pos hlast]
        rfl
      · rw [if_neg hlast,if_neg hlast]
        rfl

theorem eval_allowsServerAdmin {ctx : Ctx} {user : User} : (allowsServerAdmin ctx user).eval perform db =
    (if user.isServerAdmin ∧ Api.callerIsServerAdmin db ctx=false then .error 403 else .ok (),db) := by
  unfold allowsServerAdmin Api.callerIsServerAdmin
  cases user.isServerAdmin with
  | false => simp
  | true =>
    rw [if_pos rfl,eval_ask]
    dsimp only [perform]
    cases (db.getUser ctx.username).row with
    | none => rfl
    | some u =>
      dsimp only
      by_cases hadmin : u.isServerAdmin=true
      · rw [if_pos hadmin,if_neg (by simp [hadmin])]
        rfl
      · rw [if_neg hadmin,if_pos ⟨rfl,by simpa using hadmin⟩]
        rfl

theorem eval_setRole {ctx : Ctx} {body : UpdateUserBody} {user : User} :
    (setRole ctx body user).eval perform db=(Api.setRole db ctx body user,db) := by
  unfold setRole Api.setRole
  by_cases hempty : body.role=""
  · rw [if_pos hempty,if_pos hempty]
    rfl
  rw [if_neg hempty,if_neg hempty]
  by_cases hvalid : validRole body.role=false
  · rw [if_pos hvalid,if_pos hvalid]
    rfl
  rw [if_neg hvalid,if_neg hvalid]
  by_cases hself : user.username=ctx.username ∧ roleLevel body.role<roleLevel user.role
  · rw [if_pos hself,if_pos hself]
    rfl
  rw [if_neg hself,if_neg hself]
  by_cases hassign : canAssignRole ctx.role body.role=false
  · rw [if_pos hassign,if_pos hassign]
    rfl
  rw [if_neg hassign,if_neg hassign,Prog.eval_bind,eval_keepsAdmin]
  dsimp only
  cases Api.keepsAdmin db (isSuperAdminRole user.role&&!isSuperAdminRole body.role) with
  | error status => rfl
  | ok _ =>
    dsimp only
    rw [Prog.eval_bind,eval_allowsServerAdmin]
    dsimp only
    by_cases hrefused : user.isServerAdmin=true ∧ Api.callerIsServerAdmin db ctx=false
    · rw [if_pos hrefused,if_pos hrefused]
      rfl
    · rw [if_neg hrefused,if_neg hrefused]
      rfl

def replyOf (db : Store) (done : Reply) : Except ℕ Store → Reply × Store
  | .error status => (.refused status,db)
  | .ok db => (done,db)

theorem eval_handleUpdateUser {ctx : Ctx} {id : ℕ} {body : UpdateUserBody} {hash : Option String} :
    (handleUpdateUser ctx (some id) body hash).eval perform db =
      replyOf db (.updated id) (Api.handleUpdateUser (fun _ => hash) db ctx (some id) body) := by
  unfold handleUpdateUser Api.handleUpdateUser
  dsimp only
  rw [eval_ask]
  dsimp only [perform]
  cases (db.getUserByID id).row with
  | none => rfl
  | some user =>
    dsimp only
    cases setPassword (fun _ => hash) body user with
    | error status => rfl
    | ok user =>
      dsimp only
      rw [Prog.eval_bind,eval_setRole]
      dsimp only
      show _=replyOf db _ (Api.setRole db ctx body user >>= _)
      cases Api.setRole db ctx body user with
      | error status => rfl
      | ok user =>
        dsimp only
        rw [eval_ask]
        dsimp only [bind,Except.bind,perform]
        cases db.updateUser user <;> rfl

theorem eval_handleDeleteUser {ctx : Ctx} {id : ℕ} : (handleDeleteUser ctx (some id)).eval perform db =
    replyOf db .deleted (Api.handleDeleteUser db ctx (some id)) := by
  unfold handleDeleteUser Api.handleDeleteUser
  dsimp only
  rw [eval_ask]
  dsimp only [perform]
  cases (db.getUserByID id).row with
  | none => rfl
  | some user =>
    dsimp only
    rw [Prog.eval_bind,eval_keepsAdmin]
    dsimp only
    cases Api.keepsAdmin db (isSuperAdminRole user.role) with
    | error status => rfl
    | ok _ =>
      dsimp only
      rw [Prog.eval_bind,eval_allowsServerAdmin]
      dsimp only
      by_cases hrefused : user.isServerAdmin=true ∧ Api.callerIsServerAdmin db ctx=false
      · rw [if_pos hrefused,if_pos hrefused]
        rfl
      · rw [if_neg hrefused,if_neg hrefused,eval_ask]
        unfold perform
        dsimp only
        cases db.deleteUser id <;> rfl

theorem eval_handleLogin2FA {env : Env} {now : ℤ} {claims : Option Claims} {code : String} {login : LoginEnv}
    (hvalidate : login.validateTOTP=env.validateTOTP now)
    (hconsume : login.consumeRecoveryCode=consumeRecoveryCode env.compareHash) :
    ∃ used, (handleLogin2FA env now claims code).eval perform db =
      let r:=Api.handleLogin2FA login db env.expiry now claims code
      (match r.1 with
        | .error status => .refused status
        | .ok token => .token token used,r.2) := by
  unfold handleLogin2FA Api.handleLogin2FA
  cases claims with
  | none => exact ⟨false,rfl⟩
  | some claims =>
    dsimp only
    by_cases hrole : claims.role≠twoFactorPending
    · rw [if_pos hrole,if_pos hrole]
      exact ⟨false,rfl⟩
    rw [if_neg hrole,if_neg hrole,eval_ask]
    dsimp only [perform]
    cases (db.getUser claims.sub).row with
    | none => exact ⟨false,rfl⟩
    | some user =>
      dsimp only
      rw [hvalidate,hconsume]
      by_cases htotp : env.validateTOTP now user.totpSecret code=true
      · rw [if_pos htotp,if_pos htotp]
        exact ⟨false,rfl⟩
      rw [if_neg htotp,if_neg htotp]
      by_cases hempty : user.totpRecoveryCodes=""
      · rw [if_pos hempty,if_pos hempty]
        exact ⟨false,rfl⟩
      rw [if_neg hempty,if_neg hempty]
      cases consumeRecoveryCode env.compareHash user.totpRecoveryCodes code with
      | none => exact ⟨false,rfl⟩
      | some left =>
        dsimp only
        rw [eval_ask]
        unfold perform
        dsimp only
        cases db.updateUser {user with totpRecoveryCodes := left} with
        | error e => exact ⟨false,rfl⟩
        | ok db => exact ⟨true,rfl⟩

end Alone

def Saw (seen : List (Seen Res)) (op : Op) (r : Res op) : Prop := ⟨op,r⟩∈seen

def Counted (seen : List (Seen Res)) : Prop := ∃ users, Saw seen .listUsers (.ok users) ∧ 1 < superAdmins users

def edited (body : UpdateUserBody) (hash : Option String) (user : User) : User := {user with
  passwordHash := if body.password="" then user.passwordHash else hash.getD ""
  role := if body.role="" then user.role else body.role}

def MayWrite (env : Env) : Request → List (Seen Res) → Op → Prop
  | _, _, .getUser _ => True
  | _, _, .getUserByID _ => True
  | _, _, .listUsers => True
  | .login2FA _ (some claims) code, seen, .updateUser u => ∃ user left, Saw seen (.getUser claims.sub) (.ok (some user)) ∧
      consumeRecoveryCode env.compareHash user.totpRecoveryCodes code=some left ∧
      u={user with totpRecoveryCodes := left}
  | .updateUser _ (some id) body hash, seen, .updateUser u => ∃ user, Saw seen (.getUserByID id) (.ok (some user)) ∧
      u=edited body hash user ∧ (isSuperAdminRole user.role=true → isSuperAdminRole u.role=false → Counted seen)
  | .deleteUser _ (some id), seen, .deleteUser id' => id'=id ∧ ∃ user, Saw seen (.getUserByID id) (.ok (some user)) ∧
      (isSuperAdminRole user.role=true → Counted seen)
  | _, _, _ => False

def EndsWith : Request → Reply → List (Seen Res) → Prop
  | .login2FA _ (some _) _, .token _ true, seen => ∃ u rest, seen=⟨.updateUser u,.ok ()⟩::rest
  | _, .token _ true, _ => False
  | _, _, _ => True

section
variable {allowed : List (Seen Res) → Op → Prop} {α : Type} {Q : α → List (Seen Res) → Prop} {seen : List (Seen Res)}

theorem wp_ask {op : Op} {f : Res op → Prog α} (hop : allowed seen op)
    (h : ∀ r, (history allowed).wp Q (f r) (⟨op,r⟩::seen)) : (history allowed).wp Q (ask op >>= f) seen := by
  refine wp_bind.mpr ⟨hop,fun r seen' hseen => ?_⟩
  cases hseen
  exact h r

theorem wp_then {β : Type} {x : Prog β} {f : β → Prog α} {R : β → List (Seen Res) → Prop}
    (hx : (history allowed).wp R x seen) (h : ∀ b seen', R b seen' → (history allowed).wp Q (f b) seen') :
    (history allowed).wp Q (x >>= f) seen := wp_bind.mpr (wp_mono h hx)

theorem row_some {found : Answer (Option User)} {user : User} (h : found.row=some user) : found=.ok (some user) := by
  cases found with
  | error e => cases h
  | ok r => exact congrArg Except.ok h

theorem wp_keepsAdmin {going : Bool} (hlist : allowed seen .listUsers) :
    (history allowed).wp (fun r seen' => seen <:+ seen' ∧ (r=.ok () → going=true → Counted seen'))
      (keepsAdmin going) seen := by
  unfold keepsAdmin
  cases going with
  | false => exact ⟨suffix_rfl,fun _ h => (by cases h)⟩
  | true =>
    rw [if_pos rfl]
    refine wp_ask hlist fun r => ?_
    cases r with
    | error e => exact ⟨suffix_cons _ _,fun h => (by cases h)⟩
    | ok users =>
      dsimp only
      by_cases hlast : superAdmins users≤1
      · rw [if_pos hlast]
        exact ⟨suffix_cons _ _,fun h => (by cases h)⟩
      · rw [if_neg hlast]
        exact ⟨suffix_cons _ _,fun _ _ => ⟨users,mem_cons_self,Nat.lt_of_not_le hlast⟩⟩

theorem wp_allowsServerAdmin {ctx : Ctx} {user : User} (hget : allowed seen (.getUser ctx.username)) :
    (history allowed).wp (fun _ seen' => seen <:+ seen') (allowsServerAdmin ctx user) seen := by
  unfold allowsServerAdmin
  split
  · refine wp_ask hget fun r => ?_
    split
    · exact suffix_cons _ _
    · split <;> exact suffix_cons _ _
  · exact suffix_rfl

theorem Counted.mono {seen' : List (Seen Res)} (h : Counted seen) (hs : seen <:+ seen') : Counted seen' := by
  obtain ⟨users,hsaw,hcount⟩:=h
  exact ⟨users,hs.subset hsaw,hcount⟩

def RoleSet (body : UpdateUserBody) (user : User) (seen : List (Seen Res)) (r : Except ℕ User)
    (seen' : List (Seen Res)) : Prop :=
  seen <:+ seen' ∧ ∀ u, r=.ok u → u={user with role := if body.role="" then user.role else body.role} ∧
    (isSuperAdminRole user.role=true → isSuperAdminRole u.role=false → Counted seen')

theorem wp_setRole {ctx : Ctx} {body : UpdateUserBody} {user : User} (hlist : allowed seen .listUsers)
    (hget : ∀ seen, allowed seen (.getUser ctx.username)) :
    (history allowed).wp (RoleSet body user seen) (setRole ctx body user) seen := by
  have hrefused (status : ℕ) (seen' : List (Seen Res)) (hs : seen <:+ seen') :
      RoleSet body user seen (.error status) seen' := ⟨hs,fun u hu => (by cases hu)⟩
  unfold setRole
  split
  · rename_i hempty
    refine ⟨suffix_rfl,fun u hu => ?_⟩
    cases hu
    rw [if_pos hempty]
    exact ⟨rfl,fun h h' => absurd (h.symm.trans h') Bool.noConfusion⟩
  · rename_i hrole
    split
    · exact hrefused 400 _ suffix_rfl
    · split
      · exact hrefused 403 _ suffix_rfl
      · split
        · exact hrefused 403 _ suffix_rfl
        · refine wp_then (wp_keepsAdmin hlist) fun kept seen₁ hkept => ?_
          cases kept with
          | error status => exact hrefused status _ hkept.1
          | ok _ =>
            refine wp_then (wp_allowsServerAdmin (hget seen₁)) fun r seen₂ hs => ?_
            cases r with
            | error status => exact hrefused status _ (hkept.1.trans hs)
            | ok _ =>
              refine ⟨hkept.1.trans hs,fun u hu => ?_⟩
              cases hu
              rw [if_neg hrole]
              refine ⟨rfl,fun hold hnew => (hkept.2 rfl ?_).mono hs⟩
              rw [hold,hnew]
              rfl

theorem setPassword_eq {body : UpdateUserBody} {hash : Option String} {user u : User}
    (h : setPassword (fun _ => hash) body user=.ok u) :
    u={user with passwordHash := if body.password="" then user.passwordHash else hash.getD ""} := by
  unfold setPassword at h
  split at h
  · rename_i hempty
    cases h
    rw [if_pos hempty]
  · rename_i hpassword
    split at h
    · cases h
    · cases hash with
      | none => cases h
      | some hash =>
        cases h
        rw [if_neg hpassword]
        rfl

end

theorem wp_handle (env : Env) (r : Request) : (history (MayWrite env r)).wp (EndsWith r) (handle env r) [] := by
  cases r with
  | login2FA now claims code =>
    unfold handle handleLogin2FA
    dsimp only
    cases claims with
    | none => exact trivial
    | some claims =>
      have hrefused (status : ℕ) (seen : List (Seen Res)) :
          EndsWith (.login2FA now (some claims) code) (.refused status) seen := trivial
      dsimp only
      split
      · exact hrefused 400 _
      · refine wp_ask trivial fun found => ?_
        split
        · exact hrefused 401 _
        · rename_i user hrow
          split
          · exact trivial
          · split
            · exact hrefused 401 _
            · split
              · exact hrefused 401 _
              · rename_i left hleft
                have hfound:=row_some hrow
                subst hfound
                refine wp_ask ⟨user,left,mem_cons_self,hleft,rfl⟩ fun written => ?_
                cases written with
                | error e => exact hrefused 500 _
                | ok _ => exact ⟨_,_,rfl⟩
  | updateUser ctx id body hash =>
    unfold handle handleUpdateUser
    dsimp only
    cases id with
    | none => exact trivial
    | some id =>
      refine wp_ask trivial fun found => ?_
      split
      · exact trivial
      · rename_i user hrow
        have hfound:=row_some hrow
        subst hfound
        split
        · exact trivial
        · rename_i user₁ hpassword
          refine wp_then (wp_setRole trivial fun _ => trivial) fun changed seen hset => ?_
          cases changed with
          | error status => exact trivial
          | ok u =>
            obtain ⟨hu,hcounted⟩:=hset.2 u rfl
            rw [setPassword_eq hpassword] at hu hcounted
            refine wp_ask ⟨user,hset.1.subset mem_cons_self,hu,hcounted⟩ fun written => ?_
            cases written <;> exact trivial
  | deleteUser ctx id =>
    unfold handle handleDeleteUser
    dsimp only
    cases id with
    | none => exact trivial
    | some id =>
      refine wp_ask trivial fun found => ?_
      split
      · exact trivial
      · rename_i user hrow
        have hfound:=row_some hrow
        subst hfound
        refine wp_then (wp_keepsAdmin trivial) fun kept seen₁ hkept => ?_
        cases kept with
        | error status => exact trivial
        | ok _ =>
          refine wp_then (wp_allowsServerAdmin trivial) fun allowed seen₂ hs => ?_
          cases allowed with
          | error status => exact trivial
          | ok _ =>
            refine wp_ask ⟨rfl,user,hs.subset (hkept.1.subset mem_cons_self),fun hsuper =>
              (hkept.2 rfl hsuper).mono hs⟩ fun written => ?_
            cases written <;> exact trivial

end BetterDesk.Api.Calls
