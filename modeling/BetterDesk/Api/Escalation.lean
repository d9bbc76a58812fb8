import BetterDesk.Api.UserAdmin

/-! # Privileges over a sequence of requests -/

namespace BetterDesk.Api
open Auth Db Exec List

/-- A successful request: who sent it and the tables before and after it. -/
structure AdminWrite where
  author : Ctx
  before : Store
  after : Store

def account (db : Store) (id : ℕ) : Option (String × Role) :=
  (db.users.find? fun u => u.id==id).map fun u => (u.passwordHash,u.role)

namespace AdminWrite

def ids (w : AdminWrite) : List ℕ := (w.before.users++w.after.users).map User.id

def changed (w : AdminWrite) : List ℕ := w.ids.filter fun id => account w.before id != account w.after id

/-- The accounts with another password hash than before, new ones included. -/
def passwords (w : AdminWrite) : List ℕ := w.ids.filter fun id =>
  (account w.before id).map Prod.fst != (account w.after id).map Prod.fst

def newKeys (w : AdminWrite) : List APIKey := w.after.apiKeys.filter fun k => k∉w.before.apiKeys

/-- The old and the new role of every account that is not as it was, and the
roles of the new keys. -/
def roles (w : AdminWrite) : List Role :=
  (w.changed.flatMap fun id =>
    (account w.before id).toList.map Prod.snd++(account w.after id).toList.map Prod.snd)++
  w.newKeys.map APIKey.role

end AdminWrite

/-- `owned` are the accounts whose password the caller knows. -/
structure AdminState where
  db : Store
  sessions : List Ctx
  owned : List ℕ
  log : List AdminWrite

inductive AdminRequest
  | login (id : ℕ)
  | createUser (newID : ℕ) (body : CreateUserBody)
  | updateUser (id : Option ℕ) (body : UpdateUserBody)
  | deleteUser (id : Option ℕ)
  | createAPIKey (newID : ℕ) (keyHash : Option String) (now : ℤ) (body : CreateAPIKeyBody)
  | deleteAPIKey (id : Option ℕ)

/-- A request of one of the caller's sessions, with the queries that fail
while it is served. -/
structure AdminAction where
  ctx : Ctx
  fails : Query → Bool
  request : AdminRequest

def targetRole (db : Store) (id : Option ℕ) : Option Role :=
  id.bind fun id => ((db.getUserByID id).row).map User.role

namespace AdminState

def login (s : AdminState) (db : Store) (id : ℕ) : Option AdminState :=
  match (db.getUserByID id).row with
  | none => none
  | some u =>
    if id∈s.owned ∧ u.authProvider=authProviderLocal ∧ u.totpEnabled=false then
      some {s with sessions := ⟨u.role,u.username,""⟩::s.sessions}
    else none

/-- What the tables show after a request of `ctx`: a session for each key in
them that was not there, and the accounts whose password is another now. -/
def record (s : AdminState) (ctx : Ctx) (db : Store) : AdminState :=
  let w : AdminWrite:=⟨ctx,s.db,db⟩
  ⟨db,w.newKeys.map (fun k => ⟨k.role,"apikey:" ++ k.name,""⟩)++s.sessions,w.passwords++s.owned,w::s.log⟩

def guarded (s : AdminState) (db : Store) (perm : Permission) (ctx : Ctx) (r : Except ℕ Store) :
    AdminState := if (requirePermission db perm ctx).passes then
    match r with
    | .error _ => s
    | .ok db => s.record ctx db
  else s

/-- A created row gets an id that its table does not have. -/
def step (hashPassword : String → Option String) (s : AdminState) (a : AdminAction) :
    Option AdminState := let db:={s.db with fails := a.fails}
  let ctx:=a.ctx
  if ctx∉s.sessions then none
  else match a.request with
  | .login id => s.login db id
  | .createUser newID body =>
    if db.users.any fun u => u.id==newID then none
    else some (s.guarded db permUserCreate ctx (handleCreateUser hashPassword db newID ctx body))
  | .updateUser id body =>
    some (s.guarded db permUserEdit ctx (handleUpdateUser hashPassword db ctx id body))
  | .deleteUser id => some (s.guarded db permUserDelete ctx (handleDeleteUser db ctx id))
  | .createAPIKey newID keyHash now body =>
    if db.apiKeys.any fun k => k.id==newID then none
    else some (s.guarded db permServerKeys ctx (handleCreateAPIKey db newID keyHash now body))
  | .deleteAPIKey id => some (s.guarded db permServerKeys ctx (handleDeleteAPIKey db id))

end AdminState

/-- Accounts changed or deleted have a role the caller may assign, and so has
every key asked for. -/
def Assignable (s : AdminState) (a : AdminAction) : Prop :=
  let db:={s.db with fails := a.fails}
  match a.request with
  | .updateUser id body => (requirePermission db permUserEdit a.ctx).passes=true →
      body.password≠"" ∨ body.role≠"" →
      ∀ r∈(targetRole db id).toList, canAssignRole a.ctx.role r=true
  | .deleteUser id => (requirePermission db permUserDelete a.ctx).passes=true →
      ∀ r∈(targetRole db id).toList, canAssignRole a.ctx.role r=true
  | .createAPIKey _ _ _ body => (requirePermission db permServerKeys a.ctx).passes=true →
      canAssignRole a.ctx.role (roleOrViewer body.role)=true
  | _ => True

instance (s : AdminState) (a : AdminAction) : Decidable (Assignable s a) := by
  unfold Assignable
  cases a.request <;> infer_instance

/-- Nobody the caller works with exceeds `level`, and every change was within
the rights of who made it. -/
structure Bounded (level : ℕ) (s : AdminState) : Prop where
  sessions : ∀ c∈s.sessions,roleLevel c.role≤level
  owned : ∀ id∈s.owned, ∀ a∈account s.db id,roleLevel a.2≤level
  log : ∀ w∈s.log, ∀ r∈w.roles,canAssignRole w.author.role r=true

variable {s t : AdminState} {fails : Query → Bool} {hashPassword : String → Option String} {level : ℕ} {ctx : Ctx}
  {db db' : Store} {id : ℕ} {r : Role}

theorem found_id {u : User} (h : db.users.find? (fun u => u.id==id)=some u) : u∈db.users ∧ u.id=id := by
  have hp:=find?_some h
  exact ⟨mem_of_find?_eq_some h,beq_iff_eq.mp hp⟩

theorem account_some {a : String × Role} (h : account db id=some a) : ∃ u∈db.users,u.id=id := by
  obtain ⟨u,hu,_⟩:=Option.map_eq_some_iff.mp h
  exact ⟨u,found_id hu⟩

/-- An account that is not as it was is a row of one of the two tables. -/
theorem AdminWrite.mem_ids {w : AdminWrite} (h : account w.before id≠account w.after id) : id∈w.ids := by
  have hrow : (∃ u∈w.before.users,u.id=id) ∨ ∃ u∈w.after.users,u.id=id := by
    cases hb : account w.before id with
    | some a => exact Or.inl (account_some hb)
    | none =>
      cases ha : account w.after id with
      | some a => exact Or.inr (account_some ha)
      | none => exact absurd (hb.trans ha.symm) h
  simpa [AdminWrite.ids,or_and_right,exists_or] using hrow

theorem AdminWrite.mem_roles {w : AdminWrite} : r∈w.roles ↔ (∃ id, account w.before id≠account w.after id ∧
      ((∃ a∈account w.before id,a.2=r) ∨ ∃ a∈account w.after id,a.2=r)) ∨
      ∃ k∈w.after.apiKeys,k∉w.before.apiKeys ∧ k.role=r := by
  have hmem : ∀ id, id∈w.changed ↔ account w.before id≠account w.after id := by
    intro id
    simpa [AdminWrite.changed] using AdminWrite.mem_ids
  simp only [AdminWrite.roles,mem_append,mem_flatMap,mem_map,hmem,Option.mem_toList,AdminWrite.newKeys,
    mem_filter,decide_eq_true_eq,and_assoc]
  rfl

theorem Bounded.assigned (h : Bounded level s) (hl : level≤4)
    (hctx : ctx∈s.sessions) (hr : canAssignRole ctx.role r=true) : roleLevel r≤level := by
  have hc:=h.sessions ctx hctx
  have := canAssignRole_lt (not_super_of_level (Nat.le_trans hc hl)) hr
  omega

theorem Bounded.record (h : Bounded level s) (hl : level≤4) (hctx : ctx∈s.sessions)
    (hok : ∀ r∈(⟨ctx,s.db,db'⟩ : AdminWrite).roles,canAssignRole ctx.role r=true) :
    Bounded level (s.record ctx db') := by
  refine ⟨fun c hc => ?_,fun id hid a ha => ?_,fun w hw => ?_⟩
  · rcases mem_append.mp hc with hnew | hc
    · obtain ⟨k,hk,rfl⟩:=mem_map.mp hnew
      refine h.assigned hl hctx (hok _ (AdminWrite.mem_roles.mpr (Or.inr ⟨k,?_,?_,rfl⟩)))
      · exact (mem_filter.mp hk).1
      · simpa using (mem_filter.mp hk).2
    · exact h.sessions c hc
  · by_cases hsame : account s.db id=account db' id
    · -- the row is as it was, so its password is no new one
      rcases mem_append.mp hid with hnew | hid
      · have hne := (mem_filter.mp hnew).2
        simp [hsame] at hne
      · exact h.owned id hid a (hsame.trans ha)
    · exact h.assigned hl hctx (hok _ (AdminWrite.mem_roles.mpr
        (Or.inl ⟨id,hsame,Or.inr ⟨a,ha,rfl⟩⟩)))
  · rcases mem_cons.mp hw with rfl | hw
    · exact hok
    · exact h.log w hw

theorem Bounded.guarded {perm : Permission} {answer : Except ℕ Store} (h : Bounded level s) (hl : level≤4)
    (hctx : ctx∈s.sessions) (hok : (requirePermission db perm ctx).passes=true → ∀ db', answer=.ok db' →
      ∀ r∈(⟨ctx,s.db,db'⟩ : AdminWrite).roles,canAssignRole ctx.role r=true) :
    Bounded level (s.guarded db perm ctx answer) := by
  unfold AdminState.guarded
  split
  · rename_i hp
    cases answer with
    | error _ => exact h
    | ok db' => exact h.record hl hctx (hok hp db' rfl)
  · exact h

theorem account_row {u : User} (h : (({db with fails := fails} : Store).getUserByID id).row=some u) :
    account db id=some (u.passwordHash,u.role) := by
  unfold Store.getUserByID Store.ask at h
  split at h
  · cases h
  · exact Option.map_eq_some_iff.mpr ⟨u,h,rfl⟩

theorem Bounded.login (h : Bounded level s)
    (hstep : s.login {s.db with fails := fails} id=some t) : Bounded level t := by
  unfold AdminState.login at hstep
  cases hu : (({s.db with fails := fails} : Store).getUserByID id).row with
  | none =>
    rw [hu] at hstep
    cases hstep
  | some u =>
    rw [hu] at hstep
    dsimp only at hstep
    split at hstep
    · rename_i hown
      cases hstep
      refine ⟨fun c hc => ?_,h.owned,h.log⟩
      rcases mem_cons.mp hc with rfl | hc
      · exact h.owned id hown.1 _ (account_row hu)
      · exact h.sessions c hc
    · cases hstep

/-- A request that leaves the keys alone and changes one account. -/
theorem roles_of_account (id : ℕ) (hkeys : db'.apiKeys=db.apiKeys) (hother : ∀ i≠id, account db' i=account db i)
    (hold : account db id≠account db' id → ∀ a∈account db id,canAssignRole ctx.role a.2=true)
    (hnew : account db id≠account db' id → ∀ a∈account db' id,canAssignRole ctx.role a.2=true) :
    ∀ r∈(⟨ctx,db,db'⟩ : AdminWrite).roles,canAssignRole ctx.role r=true := by
  intro r hr
  rcases AdminWrite.mem_roles.mp hr with ⟨i,hne,hrole⟩ | ⟨k,hk,hnot,_⟩
  · have hi : i=id := by
      by_contra hi
      exact hne (hother i hi).symm
    subst hi
    rcases hrole with ⟨a,ha,rfl⟩ | ⟨a,ha,rfl⟩
    · exact hold hne a ha
    · exact hnew hne a ha
  · exact absurd (hkeys ▸ hk) hnot

theorem roles_of_create {newID : ℕ} {body : CreateUserBody} (hfresh : ∀ u∈db.users,u.id≠newID)
    (hr : handleCreateUser hashPassword {db with fails := fails} newID ctx body=.ok db') :
    ∀ r∈(⟨ctx,db,db'⟩ : AdminWrite).roles,canAssignRole ctx.role r=true := by
  obtain ⟨hassign,_,hkeys,u,hrole,hid,husers⟩:=handleCreateUser_ok hr
  have hnone : db.users.find? (fun u => u.id==newID)=none := by simpa using hfresh
  refine roles_of_account newID hkeys (fun i hi => ?_) (fun _ a ha => ?_) (fun _ a ha => ?_)
  · have hu : (u.id==i)=false := by simpa [hid] using Ne.symm hi
    simp [account,husers,find?_append,hu]
  · simp [account,hnone] at ha
  · obtain rfl : (u.passwordHash,u.role)=a := by simpa [account,husers,find?_append,hnone,hid] using ha
    exact hrole ▸ hassign

theorem roles_of_update {body : UpdateUserBody} {target : Option ℕ}
    (hok : body.password≠"" ∨ body.role≠"" →
      ∀ r∈(targetRole {db with fails := fails} target).toList,canAssignRole ctx.role r=true)
    (hr : handleUpdateUser hashPassword {db with fails := fails} ctx target body=.ok db') :
    ∀ r∈(⟨ctx,db,db'⟩ : AdminWrite).roles,canAssignRole ctx.role r=true := by
  cases target with
  | none => cases hr
  | some id =>
    obtain ⟨user,user',hrow,hid,hrole,hpass,_,hkeys,husers⟩:=handleUpdateUser_ok hr
    have hold:=account_row hrow
    have hfind : ∀ i, account db' i=(db.users.find? fun u => u.id==i).map fun u =>
        if u.id=id then (user'.passwordHash,user'.role) else (u.passwordHash,u.role) := by
      intro i
      have hids : ((fun u : User => u.id==i) ∘ fun v : User =>
          if v.id=id then {user' with username := v.username} else v)=fun u => u.id==i := by
        funext v
        by_cases hv : v.id=id <;> simp [hv,hid]
      rw [account,husers,find?_map,hids,Option.map_map]
      congr 1
      funext v
      by_cases hv : v.id=id <;> simp [hv]
    have hnew : account db' id=some (user'.passwordHash,user'.role) := by
      obtain ⟨u,hu,_⟩:=Option.map_eq_some_iff.mp hold
      rw [hfind,hu]
      simp [(found_id hu).2]
    have htarget : account db id≠account db' id → canAssignRole ctx.role user.role=true := by
      intro hne
      refine hok ?_ user.role (by simp [targetRole,hrow])
      by_contra hempty
      obtain ⟨hp,hrole'⟩:=not_or.mp hempty
      rw [hold,hnew,hpass (not_not.mp hp)] at hne
      rcases hrole with ⟨_,hsame⟩ | ⟨hne',_⟩
      · exact hne (by rw [hsame])
      · exact hrole' hne'
    refine roles_of_account id hkeys (fun i hi => ?_) (fun hne a ha => ?_) (fun hne a ha => ?_)
    · rw [hfind,account]
      cases hu : db.users.find? fun u => u.id==i with
      | none => rfl
      | some u =>
        simp [(found_id hu).2,hi]
    · obtain rfl : _=a := Option.some.inj (hold.symm.trans ha)
      exact htarget hne
    · obtain rfl : _=a := Option.some.inj (hnew.symm.trans ha)
      -- a new role was checked, an old one comes from the condition
      rcases hrole with ⟨_,hsame⟩ | ⟨_,hassign,hset⟩
      · exact hsame ▸ htarget hne
      · exact hset ▸ hassign

theorem roles_of_delete {target : Option ℕ}
    (hok : ∀ r∈(targetRole {db with fails := fails} target).toList,canAssignRole ctx.role r=true)
    (hr : handleDeleteUser {db with fails := fails} ctx target=.ok db') :
    ∀ r∈(⟨ctx,db,db'⟩ : AdminWrite).roles,canAssignRole ctx.role r=true := by
  cases target with
  | none => cases hr
  | some id =>
    obtain ⟨⟨user,hrow⟩,_,hkeys,husers⟩:=handleDeleteUser_ok hr
    refine roles_of_account id hkeys (fun i hi => ?_) (fun _ a ha => ?_) (fun _ a ha => ?_)
    · have hp : (fun u : User => decide ((u.id != id)=true ∧ (u.id==i)=true))=fun u => u.id==i := by
        funext u
        by_cases hu : u.id=i <;> simp [hu,hi]
      rw [account,husers,find?_filter,hp,account]
    · obtain rfl : _=a := Option.some.inj ((account_row hrow).symm.trans ha)
      exact hok user.role (by simp [targetRole,hrow])
    · obtain ⟨u,hu,hid⟩:=account_some ha
      rw [husers] at hu
      simpa [hid] using (mem_filter.mp hu).2

theorem roles_of_keys (husers : db'.users=db.users)
    (hkeys : ∀ k∈db'.apiKeys,k∉db.apiKeys → canAssignRole ctx.role k.role=true) :
    ∀ r∈(⟨ctx,db,db'⟩ : AdminWrite).roles,canAssignRole ctx.role r=true := by
  intro r hr
  rcases AdminWrite.mem_roles.mp hr with ⟨i,hne,_⟩ | ⟨k,hk,hnot,rfl⟩
  · exact absurd (by rw [account,account,husers]) hne
  · exact hkeys k hk hnot

theorem Bounded.step {a : AdminAction} (h : Bounded level s) (hl : level≤4) (hok : Assignable s a)
    (hstep : s.step hashPassword a=some t) : Bounded level t := by
  unfold AdminState.step at hstep
  obtain ⟨ctx,fails,request⟩:=a
  dsimp only at hstep
  split at hstep
  · cases hstep
  · rename_i hmem
    have hctx : ctx∈s.sessions := by simpa using hmem
    cases request with
    | login id => exact h.login hstep
    | createUser newID body =>
      dsimp only at hstep
      split at hstep
      · cases hstep
      · rename_i hfresh
        cases hstep
        have hne : ∀ u∈s.db.users,u.id≠newID := by simpa using hfresh
        exact h.guarded hl hctx fun _ _ hr => roles_of_create hne hr
    | updateUser id body =>
      cases hstep
      exact h.guarded hl hctx fun hp _ hr => roles_of_update (hok hp) hr
    | deleteUser id =>
      cases hstep
      exact h.guarded hl hctx fun hp _ hr => roles_of_delete (hok hp) hr
    | createAPIKey newID keyHash now body =>
      dsimp only at hstep
      split at hstep
      · cases hstep
      · cases hstep
        refine h.guarded hl hctx fun hp db' hr => ?_
        obtain ⟨_,husers,k,hrole,hkeys⟩:=handleCreateAPIKey_ok hr
        refine roles_of_keys husers fun k' hk' hnot => ?_
        rw [hkeys] at hk'
        rcases mem_append.mp hk' with hold | hnew
        · exact absurd hold hnot
        · rw [mem_singleton.mp hnew,hrole]
          exact hok hp
    | deleteAPIKey id =>
      cases hstep
      refine h.guarded hl hctx fun _ db' hr => ?_
      cases id with
      | none => cases hr
      | some id =>
        obtain ⟨_,husers,hkeys⟩:=handleDeleteAPIKey_ok hr
        exact roles_of_keys husers fun k hk hnot => absurd (mem_of_mem_filter (hkeys ▸ hk)) hnot

def AdminState.start (db : Store) (caller : Ctx) : AdminState := ⟨db,[caller],[],[]⟩

/-- Every change was to and from roles that its author may assign, and no
session obtained exceeds the caller. -/
theorem management_never_escalates {hashPassword : String → Option String} {db : Store} {caller : Ctx}
    (hcaller : isSuperAdminRole caller.role=false) {as : List AdminAction}
    (hok : Along (AdminState.step hashPassword) Assignable (.start db caller) as) {t : AdminState}
    (hrun : exec (AdminState.step hashPassword) (.start db caller) as=some t) :
    (∀ w∈t.log, ∀ r∈w.roles,canAssignRole w.author.role r=true) ∧
      ∀ c∈t.sessions,roleLevel c.role≤roleLevel caller.role := by
  have hstart : Bounded (roleLevel caller.role) (.start db caller) := by
    refine ⟨fun c hc => ?_,fun _ hown => ?_,fun _ he => ?_⟩
    · exact Nat.le_of_eq (by rw [mem_singleton.mp hc])
    · cases hown
    · cases he
  have hend:=exec_invariant (Bounded (roleLevel caller.role))
    (fun s a u hs ha hu => hs.step (roleLevel_le caller.role hcaller) ha hu) hstart hok hrun
  exact ⟨hend.log,hend.sessions⟩

def officeHash (password : String) : Option String := some ("pbkdf2:" ++ password)

def officeStore : Store :=
  {Store.empty with users := [⟨1,"root","pbkdf2:toor",roleSuperAdmin,true,authProviderLocal,"",false,""⟩]}

def gina : Ctx := ⟨roleGlobalAdmin,"gina",""⟩

def adminAction (ctx : Ctx) (request : AdminRequest) : AdminAction := ⟨ctx,fun _ => false,request⟩

/-- A global admin creates an operator, changes it to a viewer with another
password, logs in as it and deletes it. -/
def operatorRun : List AdminAction := [
  adminAction gina (.createUser 2 ⟨"olga","secret",roleOperator⟩),
  adminAction gina (.updateUser (some 2) ⟨"secret2",roleViewer⟩),adminAction gina (.login 2),
  adminAction gina (.deleteUser (some 2))]

theorem operator_run_never_escalates : ∃ t : AdminState,
    exec (AdminState.step officeHash) (.start officeStore gina) operatorRun=some t ∧
      t.log.length=3 ∧ (∀ w∈t.log, ∀ r∈w.roles,canAssignRole w.author.role r=true) ∧
      ∀ c∈t.sessions,roleLevel c.role≤roleLevel gina.role := by
  have hlen : (exec (AdminState.step officeHash) (.start officeStore gina) operatorRun).map
      (fun t => t.log.length)=some 3 := by decide
  have hok : Along (AdminState.step officeHash) Assignable (.start officeStore gina) operatorRun := by
    decide
  obtain ⟨t,hrun,hlen⟩:=Option.map_eq_some_iff.mp hlen
  exact ⟨t,hrun,hlen,management_never_escalates (by decide) hok hrun⟩

/-- A global admin sets the super admin's password and logs in with it: the
update asks for no role, so nothing compares the two. -/
theorem password_change_takes_over : ∃ t : AdminState,
    exec (AdminState.step officeHash) (.start officeStore gina)
        [adminAction gina (.updateUser (some 1) ⟨"mine",""⟩),adminAction gina (.login 1)]=some t ∧
      (∃ w∈t.log, ∃ r∈w.roles,canAssignRole w.author.role r=false) ∧
      ∃ c∈t.sessions,roleLevel gina.role<roleLevel c.role := by
  have hrun : (exec (AdminState.step officeHash) (.start officeStore gina)
      [adminAction gina (.updateUser (some 1) ⟨"mine",""⟩),adminAction gina (.login 1)]).map
      (fun t => (t.log.map fun w => (w.author,w.roles),t.sessions)) =
        some ([(gina,[roleSuperAdmin,roleSuperAdmin,roleSuperAdmin,roleSuperAdmin])],
          [⟨roleSuperAdmin,"root",""⟩,gina]) := by decide
  obtain ⟨t,hrun,ht⟩:=Option.map_eq_some_iff.mp hrun
  obtain ⟨hlog,hsessions⟩:=Prod.mk.inj ht
  obtain ⟨w,hw,hroles⟩ : ∃ w∈t.log,(w.author,w.roles) =
      (gina,[roleSuperAdmin,roleSuperAdmin,roleSuperAdmin,roleSuperAdmin]) := by
    refine mem_map.mp ?_
    rw [hlog]
    exact mem_singleton_self _
  obtain ⟨hauthor,hroles⟩:=Prod.mk.inj hroles
  refine ⟨t,hrun,⟨w,hw,roleSuperAdmin,?_,?_⟩,⟨roleSuperAdmin,"root",""⟩,?_,by decide⟩
  · simp [hroles]
  · rw [hauthor]
    decide
  · simp [hsessions]

end BetterDesk.Api
