import BetterDesk.Api.Guards
import BetterDesk.Lib.Exec

/-! # User and API key management (api/auth_handlers.go) -/

namespace BetterDesk.Api
open Auth Db Exec

structure CreateUserBody where
  username : String
  password : String
  role : Role

structure UpdateUserBody where
  password : String
  role : Role
  deriving DecidableEq

structure CreateAPIKeyBody where
  name : String
  role : Role
  expiresIn : ℤ

def roleOrViewer (role : Role) : Role := if role="" then roleViewer else role

def handleCreateUser (hashPassword : String → Option String) (db : Store) (newID : ℕ) (ctx : Ctx)
    (body : CreateUserBody) : Except ℕ Store := let role:=roleOrViewer body.role
  if body.username="" ∨ body.password="" then .error 400
  else if validRole role=false then .error 400
  else if canAssignRole ctx.role role=false then .error 403
  else match hashPassword body.password with
    | none => .error 500
    | some hash =>
      match db.createUser ⟨newID,body.username,hash,role,false,authProviderLocal,"",false,""⟩ with
      | .error _ => .error 409
      | .ok db => .ok db

/-- The password part of `handleUpdateUser`. -/
def setPassword (hashPassword : String → Option String) (body : UpdateUserBody) (user : User) :
    Except ℕ User := if body.password="" then .ok user
  else if user.authProvider≠"" ∧ user.authProvider≠authProviderLocal then .error 400
  else match hashPassword body.password with
    | none => .error 500
    | some hash => .ok {user with passwordHash := hash}

def keepsAdmin (db : Store) (going : Bool) : Except ℕ Unit :=
  if going then
    match db.listUsers with
    | .error _ => .error 500
    | .ok users =>
      if (users.filter fun u => isSuperAdminRole u.role).length≤1 then .error 409 else .ok ()
  else .ok ()

def callerIsServerAdmin (db : Store) (ctx : Ctx) : Bool :=
  match (db.getUser ctx.username).row with
  | none => false
  | some u => u.isServerAdmin

/-- The role part of `handleUpdateUser`. -/
def setRole (db : Store) (ctx : Ctx) (body : UpdateUserBody) (user : User) : Except ℕ User :=
  if body.role="" then .ok user
  else if validRole body.role=false then .error 400
  else if user.username=ctx.username ∧ roleLevel body.role<roleLevel user.role then .error 403
  else if canAssignRole ctx.role body.role=false then .error 403
  else match keepsAdmin db (isSuperAdminRole user.role&&!isSuperAdminRole body.role) with
    | .error status => .error status
    | .ok () =>
      if user.isServerAdmin ∧ callerIsServerAdmin db ctx=false then .error 403
      else .ok {user with role := body.role}

/-- `id` is the parsed path value. -/
def handleUpdateUser (hashPassword : String → Option String) (db : Store) (ctx : Ctx)
    (id : Option ℕ) (body : UpdateUserBody) : Except ℕ Store := match id with
  | none => .error 400
  | some id => match (db.getUserByID id).row with
    | none => .error 404
    | some user => do
      let user ← setPassword hashPassword body user
      let user ← setRole db ctx body user
      match db.updateUser user with
      | .error _ => .error 500
      | .ok db => .ok db

def handleDeleteUser (db : Store) (ctx : Ctx) (id : Option ℕ) : Except ℕ Store :=
  match id with
  | none => .error 400
  | some id => match (db.getUserByID id).row with
    | none => .error 404
    | some user => match keepsAdmin db (isSuperAdminRole user.role) with
      | .error status => .error status
      | .ok () =>
        if user.isServerAdmin ∧ callerIsServerAdmin db ctx=false then .error 403
        else match db.deleteUser id with
          | .error _ => .error 500
          | .ok db => .ok db

def handleCreateAPIKey (db : Store) (newID : ℕ) (keyHash : Option String) (now : ℤ)
    (body : CreateAPIKeyBody) : Except ℕ Store := let role:=roleOrViewer body.role
  if body.name="" then .error 400
  else if validRole role=false then .error 400
  else match keyHash with
    | none => .error 500
    | some hash =>
      let expiresAt := if 0<body.expiresIn then some (now+body.expiresIn*86400) else none
      match db.createAPIKey ⟨newID,hash,body.name,role,expiresAt⟩ with
      | .error _ => .error 500
      | .ok db => .ok db

def handleDeleteAPIKey (db : Store) (id : Option ℕ) : Except ℕ Store :=
  match id with
  | none => .error 400
  | some id => match db.deleteAPIKey id with
    | .error _ => .error 500
    | .ok db => .ok db

variable {hashPassword : String → Option String} {db db' : Store} {body : UpdateUserBody} {ctx : Ctx} {id : ℕ}

theorem handleCreateUser_ok {newID : ℕ} {body : CreateUserBody}
    (h : handleCreateUser hashPassword db newID ctx body=.ok db') :
    canAssignRole ctx.role (roleOrViewer body.role)=true ∧ db'.rolePermissions=db.rolePermissions ∧
      db'.apiKeys=db.apiKeys ∧ ∃ u, u.role=roleOrViewer body.role ∧ u.id=newID ∧ db'.users=db.users++[u] := by
  unfold handleCreateUser at h
  dsimp only at h
  split at h
  · cases h
  · split at h
    · cases h
    · split at h
      · cases h
      · rename_i hassign
        split at h
        · cases h
        · split at h
          · cases h
          · rename_i db₁ hcreate
            cases h
            unfold Store.createUser at hcreate
            split at hcreate
            · cases hcreate
            · cases hcreate
              exact ⟨by simpa using hassign,rfl,rfl,_,rfl,rfl,rfl⟩

theorem setPassword_ok {user user' : User} (h : setPassword hashPassword body user=.ok user') :
    user'.role=user.role ∧ user'.id=user.id ∧ (body.password="" → user'.passwordHash=user.passwordHash) := by
  unfold setPassword at h
  split at h
  · cases h
    exact ⟨rfl,rfl,fun _ => rfl⟩
  · rename_i hpass
    split at h
    · cases h
    · split at h
      · cases h
      · cases h
        exact ⟨rfl,rfl,fun hempty => absurd hempty hpass⟩

theorem setRole_ok {user user' : User}
    (h : setRole db ctx body user=.ok user') : user'.id=user.id ∧ user'.passwordHash=user.passwordHash ∧
      (body.role="" ∧ user'.role=user.role ∨
        body.role≠"" ∧ canAssignRole ctx.role body.role=true ∧ user'.role=body.role) := by
  unfold setRole at h
  split at h
  · rename_i hempty
    cases h
    exact ⟨rfl,rfl,Or.inl ⟨hempty,rfl⟩⟩
  · rename_i hrole
    split at h
    · cases h
    · split at h
      · cases h
      · split at h
        · cases h
        · rename_i hassign
          have hdone : user'={user with role := body.role} := by
            split at h
            · cases h
            · split at h
              · cases h
              · cases h
                rfl
          subst hdone
          exact ⟨rfl,rfl,Or.inr ⟨hrole,by simpa using hassign,rfl⟩⟩

theorem handleUpdateUser_ok
    (h : handleUpdateUser hashPassword db ctx (some id) body=.ok db') :
    ∃ user user' : User, (db.getUserByID id).row=some user ∧ user'.id=id ∧
      (body.role="" ∧ user'.role=user.role ∨
        body.role≠"" ∧ canAssignRole ctx.role body.role=true ∧ user'.role=body.role) ∧
      (body.password="" → user'.passwordHash=user.passwordHash) ∧
      db'.rolePermissions=db.rolePermissions ∧ db'.apiKeys=db.apiKeys ∧
      db'.users=db.users.map fun v => if v.id=id then {user' with username := v.username} else v := by
  unfold handleUpdateUser at h
  dsimp only at h
  cases hu : (db.getUserByID id).row with
  | none =>
    rw [hu] at h
    cases h
  | some user =>
    rw [hu] at h
    dsimp only at h
    obtain ⟨user₁,hpass,h⟩:=bind_ok h
    obtain ⟨user₂,hrole,h⟩:=bind_ok h
    obtain ⟨_,hid⟩:=Store.getUserByID_row hu
    obtain ⟨hrole₁,hid₁,hhash₁⟩:=setPassword_ok hpass
    obtain ⟨hid₂,hhash₂,hcases⟩:=setRole_ok hrole
    cases hw : db.updateUser user₂ with
    | error _ =>
      rw [hw] at h
      cases h
    | ok db₁ =>
      rw [hw] at h
      cases h
      obtain ⟨_,rfl⟩:=Store.ask_ok hw
      refine ⟨user,user₂.stored,rfl,?_,?_,fun hp => hhash₂.trans (hhash₁ hp),rfl,rfl,?_⟩
      · show user₂.id=id
        rw [hid₂,hid₁,hid]
      · rw [hrole₁] at hcases
        exact hcases
      · rw [hid₂,hid₁,hid]

theorem handleDeleteUser_ok (h : handleDeleteUser db ctx (some id)=.ok db') :
    (∃ user, (db.getUserByID id).row=some user) ∧ db'.rolePermissions=db.rolePermissions ∧
      db'.apiKeys=db.apiKeys ∧ db'.users=db.users.filter fun v => v.id != id := by
  unfold handleDeleteUser at h
  dsimp only at h
  cases hu : (db.getUserByID id).row with
  | none =>
    rw [hu] at h
    cases h
  | some user =>
    rw [hu] at h
    dsimp only at h
    split at h
    · cases h
    · split at h
      · cases h
      · cases hw : db.deleteUser id with
        | error _ =>
          rw [hw] at h
          cases h
        | ok db₁ =>
          rw [hw] at h
          cases h
          obtain ⟨_,rfl⟩:=Store.ask_ok hw
          exact ⟨⟨user,rfl⟩,rfl,rfl,rfl⟩

theorem handleCreateAPIKey_ok {newID : ℕ} {keyHash : Option String} {now : ℤ}
    {body : CreateAPIKeyBody} (h : handleCreateAPIKey db newID keyHash now body=.ok db') :
    db'.rolePermissions=db.rolePermissions ∧ db'.users=db.users ∧
      ∃ k, k.role=roleOrViewer body.role ∧ db'.apiKeys=db.apiKeys++[k] := by
  unfold handleCreateAPIKey at h
  dsimp only at h
  split at h
  · cases h
  · split at h
    · cases h
    · split at h
      · cases h
      · split at h
        · cases h
        · rename_i db₁ hw
          cases h
          obtain ⟨_,rfl⟩:=Store.ask_ok hw
          exact ⟨rfl,rfl,_,rfl,rfl⟩

theorem handleDeleteAPIKey_ok (h : handleDeleteAPIKey db (some id)=.ok db') :
    db'.rolePermissions=db.rolePermissions ∧ db'.users=db.users ∧
      db'.apiKeys=db.apiKeys.filter fun k => k.id != id := by
  unfold handleDeleteAPIKey at h
  dsimp only at h
  split at h
  · cases h
  · rename_i db₁ hw
    cases h
    obtain ⟨_,rfl⟩:=Store.ask_ok hw
    exact ⟨rfl,rfl,rfl⟩

end BetterDesk.Api
