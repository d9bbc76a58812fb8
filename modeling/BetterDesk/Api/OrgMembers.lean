import BetterDesk.Api.Guards

/-! # Organization members and invitations (api/org_handlers.go) -/

namespace BetterDesk.Api
open Auth Db Text

structure CreateOrgUserBody where
  username : String
  displayName : String
  email : String
  password : String
  role : Role

/-- An absent field is `none`. -/
structure UpdateOrgUserBody where
  displayName : Option String
  email : Option String
  role : Option Role
  password : Option String

structure LinkUserBody where
  userID : ℤ
  role : Role

structure AssignUserBody where
  orgID : OrgID
  role : Role

structure InvitationBody where
  email : String
  role : Role
  expiresIn : ℤ

def roleOrUser (role : Role) : Role := if role="" then orgRoleUser else role

def isGlobalAdmin (role : Role) : Bool := isSuperAdminRole role||role==roleGlobalAdmin

/-- The boundary that `handleCreateOrgUser`, `handleLinkUserToOrg` and
`handleAssignUserToOrg` check. -/
def checkAssign (db : Store) (ctx : Ctx) (orgID : OrgID) (role : Role) : Verdict :=
  if isGlobalAdmin ctx.role then .ok ()
  else match (db.getOrgUserByUsername orgID ctx.username).row with
    | none => .error 403
    | some caller => if orgCanAssignRole caller.role role then .ok () else .error 403

def handleCreateOrgUser (hashPassword : String → Option String) (db : Store) (newID : String) (ctx : Ctx)
    (orgID : OrgID) (body : CreateOrgUserBody) : Except ℕ Store :=
  let username:=trimString body.username
  let role:=roleOrUser body.role
  if orgID="" then .error 400
  else if (db.getOrganization orgID).row.isNone then .error 404
  else if username="" ∨ body.password="" then .error 400
  else if h : validOrgRole role=true then
    match checkAssign db ctx orgID role with
    | .error status => .error status
    | .ok () =>
      if (db.getOrgUserByUsername orgID username).row.isSome then .error 409
      else match hashPassword body.password with
        | none => .error 500
        | some hash =>
          match db.createOrgUser ⟨newID,orgID,0,username,body.displayName,body.email,hash,role,h⟩ with
          | .error _ => .error 500
          | .ok db => .ok db
  else .error 400

/-- The role part of `handleUpdateOrgUser`. -/
def setOrgRole (db : Store) (ctx : Ctx) (role : Option Role) (user : OrgUser) : Except ℕ OrgUser :=
  match role with
  | none => .ok user
  | some role =>
    if h : validOrgRole role=true then
      let updated:={user with role := role,role_valid := h}
      if user.username=ctx.username then .error 403
      else if isGlobalAdmin ctx.role then .ok updated
      else match (db.getOrgUserByUsername user.orgID ctx.username).row with
        | none => .error 403
        | some caller =>
          if orgCanAssignRole caller.role role=false then .error 403
          else if orgRoleLevel caller.role≤orgRoleLevel user.role then .error 403
          else .ok updated
    else .error 400

/-- The user is read by its own number: the organization of the path plays no part. -/
def handleUpdateOrgUser (hashPassword : String → Option String) (db : Store) (ctx : Ctx) (uid : String)
    (body : UpdateOrgUserBody) : Except ℕ Store := if uid="" then .error 400
  else match (db.getOrgUser uid).row with
    | none => .error 404
    | some user =>
      let user:={user with
        displayName := body.displayName.getD user.displayName
        email := body.email.getD user.email}
      match setOrgRole db ctx body.role user with
      | .error status => .error status
      | .ok user => match db.updateOrgUser user with
        | .error _ => .error 500
        | .ok db =>
          match (body.password.filter (· ≠ "")).bind hashPassword with
          | none => .ok db
          | some hash => match db.updateOrgUser {user with passwordHash := hash} with
            | .error _ => .ok db
            | .ok db => .ok db

def handleDeleteOrgUser (db : Store) (uid : String) : Except ℕ Store :=
  if uid="" then .error 400
  else match db.deleteOrgUser uid with
    | .error _ => .error 500
    | .ok db => .ok db

def handleCreateOrgInvitation (db : Store) (newID : String) (token : Option String) (now : ℤ)
    (orgID : OrgID) (body : InvitationBody) : Except ℕ Store :=
  let hours := if body.expiresIn≤0 then 72 else body.expiresIn
  match token with
  | none => .error 500
  | some token =>
    match db.createOrgInvitation
      ⟨newID,orgID,token,body.email,roleOrUser body.role,now+hours*3600⟩ with
    | .error _ => .error 500
    | .ok db => .ok db

def linkStatus (usernameStatus : ℕ) : Store.LinkError → ℕ
  | .alreadyLinked => 409
  | .notFound => 404
  | .usernameExists => usernameStatus
  | .failed => 500

def handleLinkUserToOrg (db : Store) (newID : String) (ctx : Ctx) (orgID : OrgID) (body : LinkUserBody) :
    Except ℕ Store := let role:=roleOrUser body.role
  if orgID="" then .error 400
  else if (db.getOrganization orgID).row.isNone then .error 404
  else if body.userID≤0 then .error 400
  else if h : validOrgRole role=true then
    match checkAssign db ctx orgID role with
    | .error status => .error status
    | .ok () => (db.linkUserToOrg newID orgID body.userID.toNat role h).mapError (linkStatus 409)
  else .error 400

/-- `userID` is the parsed path value. -/
def handleAssignUserToOrg (db : Store) (newID : String) (ctx : Ctx) (userID : Option ℕ)
    (body : AssignUserBody) : Except ℕ Store := let role:=roleOrUser body.role
  match userID.filter (0<·) with
  | none => .error 400
  | some userID =>
    if body.orgID="" then .error 400
    else if h : validOrgRole role=true then
      if (db.getOrganization body.orgID).row.isNone then .error 404
      else match checkAssign db ctx body.orgID role with
        | .error status => .error status
        | .ok () => (db.linkUserToOrg newID body.orgID userID role h).mapError (linkStatus 500)
    else .error 400

def checkUnlink (db : Store) (ctx : Ctx) (orgID : OrgID) : Verdict :=
  if isGlobalAdmin ctx.role then .ok ()
  else match (db.getOrgUserByUsername orgID ctx.username).row with
    | none => .error 403
    | some caller =>
      if caller.role≠orgRoleOwner ∧ caller.role≠orgRoleAdmin then .error 403 else .ok ()

def handleUnlinkUserFromOrg (db : Store) (ctx : Ctx) (orgID : OrgID) (userID : Option ℕ) :
    Except ℕ Store := if orgID="" then .error 400
  else match userID.filter (0<·) with
    | none => .error 400
    | some userID =>
      match checkUnlink db ctx orgID with
      | .error status => .error status
      | .ok () => (db.unlinkUserFromOrg orgID userID).mapError fun e => if e=.notFound then 404 else 500

def outranks (db : Store) (orgID : OrgID) (username : String) (role : Role) : Bool :=
  match db.memberNamed orgID username with
  | none => false
  | some caller => decide (orgRoleLevel role<orgRoleLevel caller.role)

variable {db db' : Store} {orgID : OrgID} {ctx : Ctx} {newID uid : String} {role : Role} {user' user : OrgUser}

theorem outranks_of {username : String} {caller : OrgUser}
    (hc : (db.getOrgUserByUsername orgID username).row=some caller)
    (hl : orgRoleLevel role<orgRoleLevel caller.role) : outranks db orgID username role=true := by
  simp [outranks,Store.getOrgUserByUsername_member hc,hl]

theorem outranks_member {username : String}
    (h : outranks db orgID username role=true) : (db.memberNamed orgID username).isSome=true := by
  unfold outranks at h
  cases hm : db.memberNamed orgID username with
  | none =>
    rw [hm] at h
    cases h
  | some _ => rfl

theorem checkAssign_ok (hctx : isGlobalAdmin ctx.role=false) (h : checkAssign db ctx orgID role=.ok ()) :
    outranks db orgID ctx.username role=true := by
  unfold checkAssign at h
  rw [hctx,if_neg Bool.false_ne_true] at h
  split at h
  · cases h
  · rename_i caller hc
    split at h
    · rename_i hassign
      exact outranks_of hc (orgCanAssignRole_lt hassign)
    · cases h

structure Added (db db' : Store) (ctx : Ctx) (orgID : OrgID) (u : OrgUser) : Prop where
  org : u.orgID=orgID
  fresh : ∀ v∈db.orgUsers,v.id≠u.id
  below : isGlobalAdmin ctx.role=false → outranks db orgID ctx.username u.role=true
  orgUsers : db'.orgUsers=db.orgUsers++[u]
  orgInvitations : db'.orgInvitations=db.orgInvitations

theorem takesOrgUser_fresh {u : OrgUser} (h : ¬ db.takesOrgUser u=false) : ∀ v∈db.orgUsers,v.id≠u.id := by
  intro v hv he
  refine h ?_
  simp only [Store.takesOrgUser,Bool.not_eq_false',List.any_eq_true]
  exact ⟨v,hv,by simp [he]⟩

theorem linkUserToOrg_ok {userID : ℕ} {h : validOrgRole role=true} (hc : checkAssign db ctx orgID role=.ok ())
    (hl : db.linkUserToOrg newID orgID userID role h=.ok db') : ∃ u, Added db db' ctx orgID u := by
  unfold Store.linkUserToOrg at hl
  split at hl
  · cases hl
  · split at hl
    · cases hl
    · split at hl
      · cases hl
      · split at hl
        · cases hl
        · dsimp only at hl
          split at hl
          · cases hl
          · rename_i htakes
            cases hl
            exact ⟨_,rfl,takesOrgUser_fresh htakes,fun hctx => checkAssign_ok hctx hc,rfl,rfl⟩

theorem mapError_ok {ε ε' α : Type} {f : ε → ε'} {x : Except ε α} {a : α} (h : x.mapError f=.ok a) : x=.ok a := by
  cases x with
  | error e => cases h
  | ok b =>
    cases h
    rfl

theorem handleCreateOrgUser_ok {hashPassword : String → Option String} {body : CreateOrgUserBody}
    (h : handleCreateOrgUser hashPassword db newID ctx orgID body=.ok db') : ∃ u, Added db db' ctx orgID u := by
  unfold handleCreateOrgUser at h
  dsimp only at h
  split at h
  · cases h
  · split at h
    · cases h
    · split at h
      · cases h
      · split at h
        · split at h
          · cases h
          · rename_i hc
            split at h
            · cases h
            · split at h
              · cases h
              · split at h
                · cases h
                · rename_i hw
                  cases h
                  unfold Store.createOrgUser at hw
                  split at hw
                  · cases hw
                  · rename_i htakes
                    cases hw
                    exact ⟨_,rfl,takesOrgUser_fresh fun hf => htakes (Or.inr hf),
                      fun hctx => checkAssign_ok hctx hc,rfl,rfl⟩
        · cases h

theorem handleLinkUserToOrg_ok {body : LinkUserBody} (h : handleLinkUserToOrg db newID ctx orgID body=.ok db') :
    ∃ u, Added db db' ctx orgID u := by
  unfold handleLinkUserToOrg at h
  dsimp only at h
  split at h
  · cases h
  · split at h
    · cases h
    · split at h
      · cases h
      · split at h
        · split at h
          · cases h
          · rename_i hc
            exact linkUserToOrg_ok hc (mapError_ok h)
        · cases h

theorem handleAssignUserToOrg_ok {userID : Option ℕ}
    {body : AssignUserBody} (h : handleAssignUserToOrg db newID ctx userID body=.ok db') :
    ∃ u, Added db db' ctx body.orgID u := by
  unfold handleAssignUserToOrg at h
  dsimp only at h
  split at h
  · cases h
  · split at h
    · cases h
    · split at h
      · split at h
        · cases h
        · split at h
          · cases h
          · rename_i hc
            exact linkUserToOrg_ok hc (mapError_ok h)
      · cases h

theorem setOrgRole_ok {role : Option Role} (h : setOrgRole db ctx role user=.ok user') :
    user'.id=user.id ∧ (user'.role=user.role ∨ (isGlobalAdmin ctx.role=false →
      outranks db user.orgID ctx.username user.role=true ∧
        outranks db user.orgID ctx.username user'.role=true)) := by
  unfold setOrgRole at h
  split at h
  · cases h
    exact ⟨rfl,Or.inl rfl⟩
  · split at h
    · dsimp only at h
      split at h
      · cases h
      · split at h
        · rename_i hglobal
          cases h
          exact ⟨rfl,Or.inr fun hctx => absurd (hglobal.symm.trans hctx) Bool.true_eq_false.mp⟩
        · split at h
          · cases h
          · rename_i caller hc
            split at h
            · cases h
            · rename_i hassign
              split at h
              · cases h
              · rename_i hlevel
                cases h
                refine ⟨rfl,Or.inr fun _ => ⟨outranks_of hc (Nat.lt_of_not_le hlevel),?_⟩⟩
                exact outranks_of hc (orgCanAssignRole_lt (by simpa using hassign))
    · cases h

/-- An update rewrites display name, email and role of the rows with the
number `uid`, and the role only within the boundary. -/
structure Updated (db db' : Store) (ctx : Ctx) (uid : String) (user user' : OrgUser) : Prop where
  found : user∈db.orgUsers ∧ user.id=uid
  role : user'.role=user.role ∨ (isGlobalAdmin ctx.role=false →
    outranks db user.orgID ctx.username user.role=true ∧
      outranks db user.orgID ctx.username user'.role=true)
  orgUsers : db'.orgUsers=db.orgUsers.map fun v => if v.id=uid then
    { v with
      displayName := user'.displayName
      email := user'.email
      role := user'.role
      role_valid := user'.role_valid} else v
  orgInvitations : db'.orgInvitations=db.orgInvitations

theorem Updated.of_write (hfound : user∈db.orgUsers ∧ user.id=uid) (hid : user'.id=uid)
    (hrole : user'.role=user.role ∨ (isGlobalAdmin ctx.role=false →
      outranks db user.orgID ctx.username user.role=true ∧ outranks db user.orgID ctx.username user'.role=true))
    (hw : db.updateOrgUser user'=.ok db') : Updated db db' ctx uid user user' := by
  obtain ⟨_,rfl⟩:=Store.ask_ok hw
  subst hid
  exact ⟨hfound,hrole,rfl,rfl⟩

theorem Updated.again {db₁ : Store} {hash : String} (hid : user'.id=uid) (h : Updated db db₁ ctx uid user user')
    (hw : db₁.updateOrgUser {user' with passwordHash := hash}=.ok db') : Updated db db' ctx uid user user' := by
  obtain ⟨_,rfl⟩:=Store.ask_ok hw
  refine ⟨h.found,h.role,?_,h.orgInvitations⟩
  show db₁.orgUsers.map _=_
  rw [h.orgUsers,List.map_map]
  refine List.map_congr_left fun v _ => ?_
  by_cases hv : v.id=uid
  · simp [hv,hid]
  · simp [hv,hid]

theorem handleUpdateOrgUser_ok {hashPassword : String → Option String} {body : UpdateOrgUserBody}
    (h : handleUpdateOrgUser hashPassword db ctx uid body=.ok db') :
    ∃ user user', Updated db db' ctx uid user user' ∧ (body.role=none → user'.role=user.role) := by
  unfold handleUpdateOrgUser at h
  split at h
  · cases h
  · split at h
    · cases h
    · rename_i user hu
      have hfound:=Store.getOrgUser_row hu
      dsimp only at h
      split at h
      · cases h
      · rename_i user' hr
        obtain ⟨hid,hrole⟩:=setOrgRole_ok hr
        have hkeep : body.role=none → user'.role=user.role := by
          intro hnone
          rw [hnone] at hr
          cases hr
          rfl
        split at h
        · cases h
        · rename_i db₁ hw
          have hid' : user'.id=uid := hid.trans hfound.2
          have hone : Updated db db₁ ctx uid user user' := .of_write hfound hid' hrole hw
          split at h
          · cases h
            exact ⟨user,user',hone,hkeep⟩
          · split at h
            · cases h
              exact ⟨user,user',hone,hkeep⟩
            · rename_i hagain
              cases h
              exact ⟨user,user',hone.again hid' hagain,hkeep⟩

theorem handleDeleteOrgUser_ok (h : handleDeleteOrgUser db uid=.ok db') :
    db'.orgUsers=db.orgUsers.filter (fun u => u.id != uid) ∧ db'.orgInvitations=db.orgInvitations := by
  unfold handleDeleteOrgUser at h
  split at h
  · cases h
  · split at h
    · cases h
    · rename_i hw
      cases h
      obtain ⟨_,rfl⟩:=Store.ask_ok hw
      exact ⟨rfl,rfl⟩

theorem handleCreateOrgInvitation_ok {token : Option String} {now : ℤ} {body : InvitationBody}
    (h : handleCreateOrgInvitation db newID token now orgID body=.ok db') :
    db'.orgUsers=db.orgUsers ∧ ∃ i, i.orgID=orgID ∧ i.role=roleOrUser body.role ∧
      db'.orgInvitations=db.orgInvitations++[i] := by
  unfold handleCreateOrgInvitation at h
  dsimp only at h
  split at h
  · cases h
  · split at h
    · cases h
    · rename_i hw
      cases h
      obtain ⟨_,rfl⟩:=Store.ask_ok hw
      exact ⟨rfl,_,rfl,rfl,rfl⟩

theorem handleUnlinkUserFromOrg_ok {userID : Option ℕ}
    (h : handleUnlinkUserFromOrg db ctx orgID userID=.ok db') :
    ∃ n, userID=some n ∧ db'.orgInvitations=db.orgInvitations ∧
      db'.orgUsers=db.orgUsers.filter fun u => !(u.orgID==orgID&&u.serverUserID==n) := by
  unfold handleUnlinkUserFromOrg at h
  split at h
  · cases h
  · split at h
    · cases h
    · rename_i n hn
      split at h
      · cases h
      · have hw:=mapError_ok h
        unfold Store.unlinkUserFromOrg at hw
        split at hw
        · cases hw
        · split at hw
          · cases hw
            exact ⟨n,(Option.filter_eq_some_iff.mp hn).1,rfl,rfl⟩
          · cases hw

end BetterDesk.Api
