import BetterDesk.Api.OrgMembers
import BetterDesk.Lib.Exec
import BetterDesk.Lib.Table

/-! # The organization role boundary -/

namespace BetterDesk.Api
open Auth Db Exec Table List

inductive OrgRequest
  | createUser (orgID : OrgID) (newID : String) (body : CreateOrgUserBody)
  | updateUser (orgID : OrgID) (uid : String) (body : UpdateOrgUserBody)
  | deleteUser (orgID : OrgID) (uid : String)
  | invite (orgID : OrgID) (newID : String) (token : Option String) (now : ℤ) (body : InvitationBody)
  | linkUser (orgID : OrgID) (newID : String) (body : LinkUserBody)
  | unlinkUser (orgID : OrgID) (userID : Option ℕ)
  | assignUser (newID : String) (userID : Option ℕ) (body : AssignUserBody)

/-- The organization the request names: in the path, for `assignUser` in the
body. -/
def OrgRequest.orgID : OrgRequest → OrgID
  | createUser orgID .. | updateUser orgID .. | deleteUser orgID .. | invite orgID ..
  | linkUser orgID .. | unlinkUser orgID .. => orgID
  | assignUser _ _ body => body.orgID

def OrgRequest.guards (db : Store) (ctx : Ctx) : OrgRequest → Bool
  | assignUser .. => (requirePermission db permOrgManageUsers ctx).passes
  | r => (requirePermission db permOrgManageUsers ctx).passes &&
      (requireOrgMembership db r.orgID ctx).passes

def OrgRequest.handle (hashPassword : String → Option String) (db : Store) (ctx : Ctx) :
    OrgRequest → Except ℕ Store
  | createUser orgID newID body => handleCreateOrgUser hashPassword db newID ctx orgID body
  | updateUser _ uid body => handleUpdateOrgUser hashPassword db ctx uid body
  | deleteUser _ uid => handleDeleteOrgUser db uid
  | invite orgID newID token now body => handleCreateOrgInvitation db newID token now orgID body
  | linkUser orgID newID body => handleLinkUserToOrg db newID ctx orgID body
  | unlinkUser orgID userID => handleUnlinkUserFromOrg db ctx orgID userID
  | assignUser newID userID body => handleAssignUserToOrg db newID ctx userID body

/-- `orgLogin` says that the caller logged in to an organization, so that its
role is a role in that organization. -/
structure OrgAction where
  ctx : Ctx
  orgLogin : Bool
  fails : Query → Bool
  request : OrgRequest

def OrgAction.globalAdministrator (a : OrgAction) : Bool := !a.orgLogin&&isGlobalAdmin a.ctx.role

structure OrgChange where
  action : OrgAction
  before : Store
  after : Store

structure OrgState where
  db : Store
  history : List OrgChange

def OrgState.step (hashPassword : String → Option String) (s : OrgState) (a : OrgAction) :
    Option OrgState := let db:={s.db with fails := a.fails}
  some <|
    if a.request.guards db a.ctx then
      match a.request.handle hashPassword db a.ctx with
      | .error _ => s
      | .ok db' => ⟨db',⟨a,db,db'⟩::s.history⟩
    else s

structure Standing where
  id : String
  orgID : OrgID
  role : Role
  passwordHash : String

def standing (u : OrgUser) : Standing := ⟨u.id,u.orgID,u.role,u.passwordHash⟩

/-- Only members of this organization were touched, by a member of it. -/
structure Within (db db' : Store) (orgID : OrgID) (username : String) : Prop where
  inside : ∀ u, Changed db.orgUsers db'.orgUsers u →
    u.orgID=orgID ∧ (db.memberNamed orgID username).isSome=true
  below : ∀ p, Changed (db.orgUsers.map standing) (db'.orgUsers.map standing) p →
    outranks db orgID username p.role=true
  invitations : ∀ i, Changed db.orgInvitations db'.orgInvitations i →
    i.orgID=orgID ∧ outranks db orgID username i.role=true

def OrgRequest.Bounded (db : Store) (ctx : Ctx) : OrgRequest → Prop
  | updateUser orgID uid _ => ∀ u∈db.orgUsers,u.id=uid →
      u.orgID=orgID ∧ (db.memberNamed orgID ctx.username).isSome=true
  | deleteUser orgID uid => ∀ u∈db.orgUsers,u.id=uid →
      u.orgID=orgID ∧ outranks db orgID ctx.username u.role=true
  | invite orgID _ _ _ body => outranks db orgID ctx.username (roleOrUser body.role)=true
  | unlinkUser orgID userID => ∀ u∈db.orgUsers,u.orgID=orgID → some u.serverUserID=userID →
      outranks db orgID ctx.username u.role=true
  | _ => True

/-- A request let through for a caller who is no global administrator does not
pass for one, and names a target within the boundary. -/
def InBoundary (s : OrgState) (a : OrgAction) : Prop :=
  a.globalAdministrator=false → a.request.guards {s.db with fails := a.fails} a.ctx=true →
    isGlobalAdmin a.ctx.role=false ∧ a.request.Bounded s.db a.ctx

instance (db : Store) (ctx : Ctx) (r : OrgRequest) : Decidable (r.Bounded db ctx) := by
  unfold OrgRequest.Bounded
  cases r <;> infer_instance

instance (s : OrgState) (a : OrgAction) : Decidable (InBoundary s a) := by
  unfold InBoundary
  infer_instance

def MemberKeys (db : Store) : Prop := (db.orgUsers.map OrgUser.id).Nodup

variable {db' db : Store} {orgID : OrgID} {ctx : Ctx}

theorem Added.keys {u : OrgUser} (h : Added db db' ctx orgID u) (hk : MemberKeys db) : MemberKeys db' := by
  rw [MemberKeys,h.orgUsers]
  exact nodup_append_key hk h.fresh

theorem Added.within {u : OrgUser} (h : Added db db' ctx orgID u) (hctx : isGlobalAdmin ctx.role=false) :
    Within db db' orgID ctx.username := by
  have hbelow:=h.below hctx
  refine ⟨fun v hv => ?_,fun p hp => ?_,fun i hi => ?_⟩
  · rw [h.orgUsers] at hv
    rw [mem_singleton.mp (changed_append hv)]
    exact ⟨h.org,outranks_member hbelow⟩
  · obtain ⟨v,hv,rfl⟩:=hp.of_map
    rw [h.orgUsers] at hv
    rw [mem_singleton.mp (changed_append hv)]
    exact hbelow
  · rw [h.orgInvitations] at hi
    exact absurd hi not_changed_self

theorem Updated.keys {uid : String} {user user' : OrgUser}
    (h : Updated db db' ctx uid user user') (hk : MemberKeys db) : MemberKeys db' := by
  rw [MemberKeys,h.orgUsers,map_key]
  · exact hk
  · intro v _
    split <;> rfl

theorem Updated.within {uid : String} {user user' : OrgUser}
    (h : Updated db db' ctx uid user user') (hk : MemberKeys db) (hctx : isGlobalAdmin ctx.role=false)
    (hok : ∀ u∈db.orgUsers,u.id=uid → u.orgID=orgID ∧ (db.memberNamed orgID ctx.username).isSome=true) :
    Within db db' orgID ctx.username := by
  -- the key makes `user` the only row that changes
  have honly : ∀ v∈db.orgUsers,v.id=uid → v=user := fun v hv hid =>
    eq_of_key hk hv h.found.1 (hid.trans h.found.2.symm)
  refine ⟨fun v hv => ?_,fun p hp => ?_,fun i hi => ?_⟩
  · rw [h.orgUsers] at hv
    obtain ⟨w,hw,hne,hvw⟩:=changed_map hv
    by_cases hid : w.id=uid
    · rw [if_pos hid] at hvw
      rcases hvw with rfl | rfl
      · exact hok v hw hid
      · exact hok w hw hid
    · exact absurd (if_neg hid) hne
  · rcases h.role with hsame | hchange
    · have hkeep : db'.orgUsers.map standing=db.orgUsers.map standing := by
        rw [h.orgUsers,map_key]
        intro v hv
        split
        · rename_i hid
          rw [honly v hv hid]
          simp only [standing,hsame]
        · rfl
      rw [hkeep] at hp
      exact absurd hp not_changed_self
    · obtain ⟨hold,hnew⟩:=hchange hctx
      rw [(hok user h.found.1 h.found.2).1] at hold hnew
      obtain ⟨v,hv,rfl⟩:=hp.of_map
      rw [h.orgUsers] at hv
      obtain ⟨w,hw,hne,hvw⟩:=changed_map hv
      by_cases hid : w.id=uid
      · rw [if_pos hid] at hvw
        rcases hvw with rfl | rfl
        · rw [honly v hw hid]
          exact hold
        · exact hnew
      · exact absurd (if_neg hid) hne
  · rw [h.orgInvitations] at hi
    exact absurd hi not_changed_self

theorem within_of_filter {username : String} {keep : OrgUser → Bool}
    (husers : db'.orgUsers=db.orgUsers.filter keep) (hinv : db'.orgInvitations=db.orgInvitations)
    (hok : ∀ u∈db.orgUsers,keep u=false → u.orgID=orgID ∧ outranks db orgID username u.role=true) :
    Within db db' orgID username := by
  refine ⟨fun u hu => ?_,fun p hp => ?_,fun i hi => ?_⟩
  · rw [husers] at hu
    obtain ⟨hmem,hgone⟩:=changed_filter hu
    obtain ⟨horg,hbelow⟩:=hok u hmem hgone
    exact ⟨horg,outranks_member hbelow⟩
  · obtain ⟨u,hu,rfl⟩:=hp.of_map
    rw [husers] at hu
    obtain ⟨hmem,hgone⟩:=changed_filter hu
    exact (hok u hmem hgone).2
  · rw [hinv] at hi
    exact absurd hi not_changed_self

theorem keys_of_filter {keep : OrgUser → Bool}
    (husers : db'.orgUsers=db.orgUsers.filter keep) (hk : MemberKeys db) : MemberKeys db' := by
  rw [MemberKeys,husers]
  exact nodup_filter_key hk keep

theorem OrgRequest.handle_within {hashPassword : String → Option String}
    {fails : Query → Bool} {r : OrgRequest} (hk : MemberKeys db)
    (h : r.handle hashPassword {db with fails := fails} ctx=.ok db') :
    MemberKeys db' ∧ (isGlobalAdmin ctx.role=false → r.Bounded db ctx →
      Within {db with fails := fails} db' r.orgID ctx.username) := by
  cases r with
  | createUser orgID newID body =>
    obtain ⟨u,hadd⟩:=handleCreateOrgUser_ok h
    exact ⟨hadd.keys hk,fun hctx _ => hadd.within hctx⟩
  | updateUser orgID uid body =>
    obtain ⟨user,user',hup,_⟩:=handleUpdateOrgUser_ok h
    exact ⟨hup.keys hk,fun hctx hok => hup.within hk hctx hok⟩
  | deleteUser orgID uid =>
    obtain ⟨husers,hinv⟩:=handleDeleteOrgUser_ok h
    refine ⟨keys_of_filter husers hk,fun _ hok => within_of_filter husers hinv fun u hu hgone => ?_⟩
    exact hok u hu (by simpa using hgone)
  | invite orgID newID token now body =>
    obtain ⟨husers,i,horg,hrole,hinv⟩:=handleCreateOrgInvitation_ok h
    refine ⟨by rw [MemberKeys,husers]; exact hk,fun _ hok => ⟨fun u hu => ?_,fun p hp => ?_,fun j hj => ?_⟩⟩
    · rw [husers] at hu
      exact absurd hu not_changed_self
    · rw [husers] at hp
      exact absurd hp not_changed_self
    · rw [hinv] at hj
      rw [mem_singleton.mp (changed_append hj),hrole]
      exact ⟨horg,hok⟩
  | linkUser orgID newID body =>
    obtain ⟨u,hadd⟩:=handleLinkUserToOrg_ok h
    exact ⟨hadd.keys hk,fun hctx _ => hadd.within hctx⟩
  | unlinkUser orgID userID =>
    obtain ⟨n,rfl,hinv,husers⟩:=handleUnlinkUserFromOrg_ok h
    refine ⟨keys_of_filter husers hk,fun _ hok => within_of_filter husers hinv fun u hu hgone => ?_⟩
    have hboth : u.orgID=orgID ∧ u.serverUserID=n := by simpa using hgone
    exact ⟨hboth.1,hok u hu hboth.1 (congrArg some hboth.2)⟩
  | assignUser newID userID body =>
    obtain ⟨u,hadd⟩:=handleAssignUserToOrg_ok h
    exact ⟨hadd.keys hk,fun hctx _ => hadd.within hctx⟩

/-- The key holds, and the changes made for callers who are no global
administrators kept to the boundary. -/
structure Kept (s : OrgState) : Prop where
  keys : MemberKeys s.db
  history : ∀ c∈s.history,c.action.globalAdministrator=false →
    Within c.before c.after c.action.request.orgID c.action.ctx.username

theorem Kept.step {hashPassword : String → Option String} {s t : OrgState} {a : OrgAction} (h : Kept s)
    (hok : InBoundary s a) (hstep : s.step hashPassword a=some t) : Kept t := by
  unfold OrgState.step at hstep
  cases hstep
  split
  · rename_i hguards
    split
    · exact h
    · rename_i db' hr
      obtain ⟨hkeys,hwithin⟩:=OrgRequest.handle_within h.keys hr
      refine ⟨hkeys,fun c hc hglobal => ?_⟩
      rcases mem_cons.mp hc with rfl | hc
      · obtain ⟨hctx,hbounded⟩:=hok hglobal hguards
        exact hwithin hctx hbounded
      · exact h.history c hc hglobal
  · exact h

/-- Along a run whose requests meet the condition, no caller but a global
administrator leaves the boundary. -/
theorem members_keep_boundary {hashPassword : String → Option String} {db : Store} (hkeys : MemberKeys db)
    {as : List OrgAction} (hok : Along (OrgState.step hashPassword) InBoundary ⟨db,[]⟩ as) {t : OrgState}
    (hrun : exec (OrgState.step hashPassword) ⟨db,[]⟩ as=some t) :
    ∀ c∈t.history,c.action.globalAdministrator=false →
      Within c.before c.after c.action.request.orgID c.action.ctx.username := by
  have hstart : Kept ⟨db,[]⟩ := ⟨hkeys,fun c hc => by cases hc⟩
  exact (exec_invariant Kept (fun s a u hs ha hu => hs.step ha hu) hstart hok hrun).history

def twoOrgStore : Store :=
  { Store.empty with
    organizations := [⟨"acme","acme",by decide⟩,⟨"beta","beta",by decide⟩]
    orgUsers := [⟨"1","acme",0,"paula","","","h1",orgRoleAdmin,by decide⟩,
      ⟨"2","acme",0,"omar","","","h2",orgRoleUser,by decide⟩,
      ⟨"9","beta",0,"bea","","","h9",orgRoleOwner,by decide⟩]
    rolePermissions := [⟨roleOperator,permOrgManageUsers,true,by decide,by decide,by decide⟩]}

def paula (r : OrgRequest) : OrgAction := ⟨⟨roleOperator,"paula",""⟩,false,fun _ => false,r⟩

def bcryptSample (password : String) : Option String := some ("bcrypt:" ++ password)

def acmeRun : List OrgAction := [paula (.createUser "acme" "3" ⟨"nora","Nora","","secret",""⟩),
  paula (.updateUser "acme" "3" ⟨none,none,some orgRoleOperator,none⟩),
  paula (.invite "acme" "4" (some "t0ken") 0 ⟨"new@acme","",0⟩),paula (.deleteUser "acme" "2")]

theorem acme_run_keeps_boundary : ∃ t : OrgState,
    exec (OrgState.step bcryptSample) ⟨twoOrgStore,[]⟩ acmeRun=some t ∧ t.history.length=4 ∧
      ∀ c∈t.history,c.action.globalAdministrator=false →
        Within c.before c.after c.action.request.orgID c.action.ctx.username := by
  have hlen : (exec (OrgState.step bcryptSample) ⟨twoOrgStore,[]⟩ acmeRun).map
      (fun t => t.history.length)=some 4 := by decide
  have hok : Along (OrgState.step bcryptSample) InBoundary ⟨twoOrgStore,[]⟩ acmeRun := by decide
  obtain ⟨t,hrun,hlen⟩:=Option.map_eq_some_iff.mp hlen
  exact ⟨t,hrun,hlen,members_keep_boundary (by unfold MemberKeys; decide) hok hrun⟩

/-- `paula` deletes the owner of `beta` under the path of her own organization. -/
theorem delete_crosses_boundary : ∃ t : OrgState,
    exec (OrgState.step bcryptSample) ⟨twoOrgStore,[]⟩ [paula (.deleteUser "acme" "9")]=some t ∧
      ∃ c∈t.history,c.action.globalAdministrator=false ∧
        ¬ Within c.before c.after c.action.request.orgID c.action.ctx.username := by
  have hdone : (exec (OrgState.step bcryptSample) ⟨twoOrgStore,[]⟩ [paula (.deleteUser "acme" "9")]).map
      (fun t => t.history.map fun c => (c.before.orgUsers,c.after.orgUsers,c.action.request.orgID,
        c.action.globalAdministrator)) =
      some [(twoOrgStore.orgUsers,twoOrgStore.orgUsers.take 2,"acme",false)] := by decide
  obtain ⟨t,hrun,hhist⟩:=Option.map_eq_some_iff.mp hdone
  obtain ⟨c,hc,hval⟩:=map_eq_singleton_iff.mp hhist
  simp only [Prod.mk.injEq] at hval
  obtain ⟨hbefore,hafter,horg,hglobal⟩:=hval
  refine ⟨t,hrun,c,by rw [hc]; exact mem_singleton_self c,hglobal,fun hw => ?_⟩
  have hbea:=(hw.inside ⟨"9","beta",0,"bea","","","h9",orgRoleOwner,by decide⟩
    (Or.inl ⟨by rw [hbefore]; decide,by rw [hafter]; decide⟩)).1
  rw [horg] at hbea
  exact absurd hbea (by decide)

end BetterDesk.Api
