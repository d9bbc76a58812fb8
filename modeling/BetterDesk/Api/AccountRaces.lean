import BetterDesk.Api.AccountCalls
import BetterDesk.Db.Accounts

/-! # Calls on the accounts that run together (api/auth_handlers.go, auth/recovery.go) -/

namespace BetterDesk.Api.Calls
open Auth Db Programs Exec JsonStrings List Option Nat

def HasSuperAdmin (users : List User) : Prop := ∃ u∈users,isSuperAdminRole u.role=true

def usedCode (username code : String) (p : Process) : Bool :=
  match p.request, p.prog.reply with
  | .login2FA _ (some claims) typed, some (.token _ true) =>
    claims.sub=username&&normalizeRecoveryCode typed=code
  | _, _ => false

def loginsWith (s : Sys) (username code : String) : ℕ := s.procs.countP (usedCode username code)

def codesOf (env : Env) (users : List User) (username code : String) : ℕ :=
  match users.find? fun u => u.username==username with
  | none => 0
  | some u => codesLeft env.compareHash u.totpRecoveryCodes code

structure Asked (env : Env) (r : Request) (v w : User) : Prop where
  username : w.username=v.username
  isServerAdmin : w.isServerAdmin=v.isServerAdmin
  provider : provider w=provider v
  totpSecret : w.totpSecret=v.totpSecret
  totpEnabled : w.totpEnabled=v.totpEnabled
  password : w.passwordHash=v.passwordHash ∨
    ∃ ctx body hash, r=.updateUser ctx (some v.id) body hash ∧ body.password≠""
  role : w.role=v.role ∨
    ∃ ctx body hash, r=.updateUser ctx (some v.id) body hash ∧ body.role≠"" ∧ w.role=body.role
  codes : w.totpRecoveryCodes=v.totpRecoveryCodes ∨
    ∃ now claims code, r=.login2FA now (some claims) code ∧ claims.sub=v.username ∧
      consumeRecoveryCode env.compareHash v.totpRecoveryCodes code=some w.totpRecoveryCodes

structure NothingUndone (env : Env) (r : Request) (users users' : List User) : Prop where
  kept : ∀ v∈users,(∃ w∈users',w.id=v.id) ∨ ∃ ctx, r=.deleteUser ctx (some v.id)
  asked : ∀ w∈users', ∃ v∈users,v.id=w.id ∧ Asked env r v w

def WritesAsAsked (env : Env) (s : Sys) : Act → Prop
  | .step i fails => ∀ p∈s.procs[i]?, ∀ t∈step env s (.step i fails),
    NothingUndone env p.request s.store.users t.store.users
  | _ => True

def Op.target : Op → Option ℕ
  | .updateUser user => some user.id
  | .deleteUser id => some id
  | _ => none

def rowOf (users : List User) (id : ℕ) : Option User := users.find? fun u => u.id==id

/-- At a write, the account is stored as it was at each query of the call, and those that it
counted as super admins are super admins. -/
def InTime (s : Sys) : Act → Prop
  | .step i _ => ∀ p∈s.procs[i]?, ∀ op∈p.prog.nextOp, ∀ id∈op.target, ∀ e∈p.log,
    rowOf s.store.users id=rowOf e.store.users id ∧
      (e.op=.listUsers → ∀ v∈e.store.users,isSuperAdminRole v.role=true →
        ∃ w∈s.store.users,w.id=v.id ∧ isSuperAdminRole w.role=true)
  | _ => True

instance (s : Sys) : (a : Act) → Decidable (InTime s a)
  | .begin _ => inferInstanceAs (Decidable True)
  | .env _ => inferInstanceAs (Decidable True)
  | .step i _ => inferInstanceAs (Decidable (∀ p∈s.procs[i]?, ∀ op∈p.prog.nextOp, ∀ id∈op.target, ∀ e∈p.log,
      rowOf s.store.users id=rowOf e.store.users id ∧
        (e.op=.listUsers → ∀ v∈e.store.users,isSuperAdminRole v.role=true →
          ∃ w∈s.store.users,w.id=v.id ∧ isSuperAdminRole w.role=true)))

def written (users : List User) : Op → List User
  | .updateUser user => users.map fun v => if v.id=user.id then {user.stored with username := v.username} else v
  | .deleteUser id => users.filter fun v => v.id != id
  | _ => users

section
variable {db : Store} {fails : Bool}

theorem run_users (op : Op) : (run db op fails).2.users = if fails then db.users else written db.users op := by
  cases op <;> cases fails <;> rfl

variable {user : User}

theorem run_getUser {username : String} (h : .ok (some user)=(run db (.getUser username) fails).1) :
    user∈db.users ∧ user.username=username := by
  cases fails with
  | true => cases h
  | false =>
    have hfind : db.users.find? (fun u => u.username==username)=some user := (Except.ok.inj h).symm
    exact ⟨mem_of_find?_eq_some hfind,by simpa using List.find?_some hfind⟩

theorem run_getUserByID {id : ℕ} (h : .ok (some user)=(run db (.getUserByID id) fails).1) :
    rowOf db.users id=some user := by
  cases fails with
  | true => cases h
  | false => exact (Except.ok.inj h).symm

theorem run_listUsers {users : List User} (h : .ok users=(run db .listUsers fails).1) : users=db.users := by
  cases fails with
  | true => cases h
  | false => exact Except.ok.inj h

theorem run_updateUser (h : .ok ()=(run db (.updateUser user) fails).1) : fails=false := by
  cases fails with
  | true => cases h
  | false => rfl

end

variable {users : List User} {user : User}

theorem rowOf_some {id : ℕ} (h : rowOf users id=some user) : user∈users ∧ user.id=id :=
  ⟨mem_of_find?_eq_some h,by simpa using List.find?_some h⟩

theorem rowOf_mem (h : Keyed users) (hu : user∈users) :
    rowOf users user.id=some user := Table.find?_of_key h.ids hu

theorem codesOf_mem (h : Keyed users) (hu : user∈users) (env : Env) (code : String) :
    codesOf env users user.username code=codesLeft env.compareHash user.totpRecoveryCodes code := by
  unfold Calls.codesOf
  rw [Table.find?_of_key h.usernames hu]

theorem codesOf_le {env : Env} {users' : List User} {code : String} (hkeys : Keyed users)
    (h : ∀ w∈users', ∃ v∈users,v.username=w.username ∧
      codesLeft env.compareHash w.totpRecoveryCodes code≤codesLeft env.compareHash v.totpRecoveryCodes code)
    (username : String) : codesOf env users' username code≤codesOf env users username code := by
  conv_lhs => unfold Calls.codesOf
  split
  · exact zero_le _
  · rename_i w hw
    obtain ⟨v,hv,hname,hle⟩:=h w (mem_of_find?_eq_some hw)
    have hwname : w.username=username := by simpa using List.find?_some hw
    rw [← hwname,← hname,codesOf_mem hkeys hv]
    exact hle

section
variable {env : Env} {r : Request} {users users' : List User} {user u : User}

theorem asked_self (v : User) : Asked env r v v := ⟨rfl,rfl,rfl,rfl,rfl,.inl rfl,.inl rfl,.inl rfl⟩

theorem nothingUndone_replaced (h : Replaced users users' user u) (hasked : Asked env r user u) :
    NothingUndone env r users users' := by
  refine ⟨fun v hv => .inl ?_,fun w hw => ?_⟩
  · by_cases hid : v.id=user.id
    · exact ⟨u,h.new_mem,h.id.trans hid.symm⟩
    · exact ⟨v,h.other_mem hv hid,rfl⟩
  · rcases h.mem hw with rfl | hw
    · exact ⟨user,h.stored,h.id.symm,hasked⟩
    · exact ⟨w,hw,rfl,asked_self w⟩

theorem hasSuperAdmin_replaced (h : Replaced users users' user u) (hkeys : Keyed users) (hadmin : HasSuperAdmin users)
    (hother : isSuperAdminRole user.role=true → isSuperAdminRole u.role=false →
      ∃ w∈users,w.id≠user.id ∧ isSuperAdminRole w.role=true) : HasSuperAdmin users' := by
  obtain ⟨v,hv,hsuper⟩:=hadmin
  by_cases hid : v.id=user.id
  · rw [Table.eq_of_key hkeys.ids hv h.stored hid] at hsuper
    cases hu : isSuperAdminRole u.role with
    | true => exact ⟨u,h.new_mem,hu⟩
    | false =>
      obtain ⟨w,hw,hwid,hwsuper⟩:=hother hsuper hu
      exact ⟨w,h.other_mem hw hwid,hwsuper⟩
  · exact ⟨v,h.other_mem hv hid,hsuper⟩

theorem NothingUndone.refl (users : List User) : NothingUndone env r users users :=
  ⟨fun v hv => .inl ⟨v,hv,rfl⟩,fun w hw => ⟨w,hw,rfl,asked_self w⟩⟩

theorem NothingUndone.codesOf_le (h : NothingUndone env r users users') (hkeys : Keyed users) (username code : String) :
    codesOf env users' username code≤codesOf env users username code := by
  refine Calls.codesOf_le hkeys (fun w hw => ?_) username
  obtain ⟨v,hv,-,hasked⟩:=h.asked w hw
  refine ⟨v,hv,hasked.username.symm,?_⟩
  rcases hasked.codes with hsame | ⟨_,_,_,_,_,hconsumed⟩
  · rw [hsame]
  · exact codesLeft_le hconsumed code

theorem asked_update {ctx : Ctx} {body : UpdateUserBody} {hash : Option String} :
    Asked env (.updateUser ctx (some user.id) body hash) user
      { (edited body hash user).stored with username := user.username} := by
  refine ⟨rfl,rfl,provider_stored _ _,rfl,rfl,?_,?_,.inl rfl⟩
  · by_cases hpassword : body.password=""
    · exact .inl (if_pos hpassword)
    · exact .inr ⟨ctx,body,hash,rfl,hpassword⟩
  · by_cases hrole : body.role=""
    · exact .inl (if_pos hrole)
    · exact .inr ⟨ctx,body,hash,rfl,hrole,if_neg hrole⟩

theorem asked_login {now : ℤ} {claims : Claims} {code left : String} (hname : user.username=claims.sub)
    (hleft : consumeRecoveryCode env.compareHash user.totpRecoveryCodes code=some left) :
    Asked env (.login2FA now (some claims) code) user
      { ({user with totpRecoveryCodes := left} : User).stored with username := user.username} :=
  ⟨rfl,rfl,provider_stored _ _,rfl,rfl,.inl rfl,.inl rfl,.inr ⟨now,claims,code,rfl,hname.symm,hleft⟩⟩

theorem nothingUndone_delete {ctx : Ctx} {id : ℕ} :
    NothingUndone env (.deleteUser ctx (some id)) users (written users (.deleteUser id)) := by
  refine ⟨fun v hv => ?_,fun w hw => ⟨w,mem_of_mem_filter hw,rfl,asked_self w⟩⟩
  by_cases hid : v.id=id
  · exact .inr ⟨ctx,by rw [hid]⟩
  · exact .inl ⟨v,mem_filter.mpr ⟨hv,by simpa using hid⟩,rfl⟩

theorem hasSuperAdmin_delete (hkeys : Keyed users) (huser : user∈users) (hadmin : HasSuperAdmin users)
    (hother : isSuperAdminRole user.role=true → ∃ w∈users,w.id≠user.id ∧ isSuperAdminRole w.role=true) :
    HasSuperAdmin (written users (.deleteUser user.id)) := by
  have hstays (w : User) (hw : w∈users) (hid : w.id≠user.id) : w∈written users (.deleteUser user.id) :=
    mem_filter.mpr ⟨hw,by simpa using hid⟩
  obtain ⟨v,hv,hsuper⟩:=hadmin
  by_cases hid : v.id=user.id
  · rw [Table.eq_of_key hkeys.ids hv huser hid] at hsuper
    obtain ⟨w,hw,hwid,hwsuper⟩:=hother hsuper
    exact ⟨w,hstays w hw hwid,hwsuper⟩
  · exact ⟨v,hstays v hv hid,hsuper⟩

end

/-- What is known of a call: it keeps to what it may do, and saw tables with their keys. -/
structure Known (env : Env) (p : Process) : Prop where
  follows : p.Follows run (MayWrite env) EndsWith
  keyed : ∀ e∈p.log,Keyed e.store.users

section
variable {env : Env} {p : Process} {users : List User} {user : User}

theorem Known.byID {id : ℕ} (h : Known env p) (hrow : ∀ e∈p.log,rowOf users user.id=rowOf e.store.users user.id)
    (hsaw : Saw p.seen (.getUserByID id) (.ok (some user))) : user∈users ∧ user.id=id := by
  obtain ⟨e,he,-,fails,hres⟩:=h.follows.met hsaw
  obtain ⟨hmem,hid⟩:=rowOf_some (run_getUserByID hres)
  exact ⟨(rowOf_some ((hrow e he).trans (rowOf_mem (h.keyed e he) hmem))).1,hid⟩

theorem Known.named {username : String} (h : Known env p)
    (hrow : ∀ e∈p.log,rowOf users user.id=rowOf e.store.users user.id)
    (hsaw : Saw p.seen (.getUser username) (.ok (some user))) : user∈users ∧ user.username=username := by
  obtain ⟨e,he,-,fails,hres⟩:=h.follows.met hsaw
  obtain ⟨hmem,hname⟩:=run_getUser hres
  exact ⟨(rowOf_some ((hrow e he).trans (rowOf_mem (h.keyed e he) hmem))).1,hname⟩

theorem Known.other (h : Known env p) (hcounted : Counted p.seen)
    (hstill : ∀ e∈p.log,e.op=.listUsers → ∀ v∈e.store.users,isSuperAdminRole v.role=true →
      ∃ w∈users,w.id=v.id ∧ isSuperAdminRole w.role=true) (id : ℕ) :
    ∃ w∈users,w.id≠id ∧ isSuperAdminRole w.role=true := by
  obtain ⟨listed,hsaw,hcount⟩:=hcounted
  obtain ⟨e,he,hop,fails,hres⟩:=h.follows.met hsaw
  obtain rfl:=run_listUsers hres
  obtain ⟨v,hv,hsuper,hvid⟩:=Table.exists_other_key (h.keyed e he).ids hcount id
  obtain ⟨w,hw,hwid,hwsuper⟩:=hstill e he hop v hv hsuper
  exact ⟨w,hw,hwid ▸ hvid,hwsuper⟩

end

structure Stays (env : Env) (r : Request) (users users' : List User) : Prop where
  keyed : Keyed users'
  admin : HasSuperAdmin users'
  undone : NothingUndone env r users users'

section
variable {env : Env} {s : Sys} {p : Process} {i : ℕ} {fails : Bool} {op : Op} {k : Res op → Prog Reply}

theorem stays_run (hknown : Known env p) (hkeys : Keyed s.store.users) (hadmin : HasSuperAdmin s.store.users)
    (htime : InTime s (.step i fails)) (hp : s.procs[i]?=some p) (hprog : p.prog=.call op k) :
    Stays env p.request s.store.users (run s.store op fails).2.users := by
  rw [run_users]
  cases fails with
  | true => exact ⟨hkeys,hadmin,.refl _⟩
  | false =>
    have hmay:=hknown.follows.may hprog
    have htarget (id : ℕ) (hid : id∈op.target) := htime p hp op (by rw [hprog]; rfl) id hid
    rw [if_neg Bool.false_ne_true]
    cases op with
    | getUser | getUserByID | listUsers => exact ⟨hkeys,hadmin,.refl _⟩
    | updateUser u =>
      have hu:=htarget u.id rfl
      cases hr : p.request with
      | login2FA now claims code =>
        rw [hr] at hmay
        cases claims with
        | none => exact absurd hmay id
        | some claims =>
          obtain ⟨user,left,hsaw,hleft,rfl⟩:=hmay
          have hrow : ∀ e∈p.log,rowOf s.store.users user.id=rowOf e.store.users user.id := fun e he => (hu e he).1
          obtain ⟨huser,hname⟩:=hknown.named hrow hsaw
          have hrep:=replaced_map (u := {user with totpRecoveryCodes := left}) hkeys huser rfl
          refine ⟨hrep.keyed hkeys,hasSuperAdmin_replaced hrep hkeys hadmin fun h h' => ?_,nothingUndone_replaced hrep (asked_login hname hleft)⟩
          exact absurd (h.symm.trans h') Bool.noConfusion
      | updateUser ctx id body hash =>
        rw [hr] at hmay
        cases id with
        | none => exact absurd hmay fun h => h
        | some id =>
          obtain ⟨user,hsaw,rfl,hcounted⟩:=hmay
          have hrow : ∀ e∈p.log,rowOf s.store.users user.id=rowOf e.store.users user.id := fun e he => (hu e he).1
          obtain ⟨huser,rfl⟩:=hknown.byID hrow hsaw
          have hrep:=replaced_map (u := edited body hash user) hkeys huser rfl
          refine ⟨hrep.keyed hkeys,hasSuperAdmin_replaced hrep hkeys hadmin fun h h' => ?_,nothingUndone_replaced hrep asked_update⟩
          exact hknown.other (hcounted h h') (fun e he => (hu e he).2) user.id
      | deleteUser ctx id =>
        rw [hr] at hmay
        cases id <;> exact absurd hmay fun h => h
    | deleteUser id =>
      have hu:=htarget id rfl
      cases hr : p.request with
      | login2FA now claims code =>
        rw [hr] at hmay
        cases claims <;> exact absurd hmay fun h => h
      | updateUser ctx id body hash =>
        rw [hr] at hmay
        cases id <;> exact absurd hmay fun h => h
      | deleteUser ctx id =>
        rw [hr] at hmay
        cases id with
        | none => exact absurd hmay fun h => h
        | some id =>
          obtain ⟨rfl,user,hsaw,hcounted⟩:=hmay
          have hid : user.id=id := by
            obtain ⟨e,-,-,fails,hres⟩:=hknown.follows.met hsaw
            exact (rowOf_some (run_getUserByID hres)).2
          subst hid
          obtain ⟨huser,-⟩:=hknown.byID (fun e he => (hu e he).1) hsaw
          exact ⟨hkeys.filter _,hasSuperAdmin_delete hkeys huser hadmin fun h =>
            hknown.other (hcounted h) (fun e he => (hu e he).2) user.id,nothingUndone_delete⟩

end

/-- The logins by a code and the codes that are left are not more than `bound` has. -/
structure Sound (env : Env) (bound : List User) (s : Sys) : Prop where
  known : ∀ p∈s.procs,Known env p
  keyed : Keyed s.store.users
  admin : HasSuperAdmin s.store.users
  codes : ∀ username code, loginsWith s username code+codesOf env s.store.users username code ≤
    codesOf env bound username code

section
variable {env : Env} {bound : List User} {s t : Sys}

variable {username code : String} {p : Process} {op : Op}

theorem usedCode_call {k : Res op → Prog Reply} (hprog : p.prog=.call op k) : usedCode username code p=false := by
  unfold usedCode
  rw [hprog]
  split
  · rename_i h
    cases h
  · rfl

theorem usedCode_ends (hknown : Known env p) (h : usedCode username code p=true) :
    ∃ now claims typed u rest, p.request=.login2FA now (some claims) typed ∧ claims.sub=username ∧
      normalizeRecoveryCode typed=code ∧ p.seen=⟨.updateUser u,.ok ()⟩::rest := by
  unfold usedCode at h
  split at h
  · rename_i now claims typed token hr hreply
    simp only [Bool.and_eq_true,decide_eq_true_eq] at h
    cases hprog : p.prog with
    | call op k =>
      rw [hprog] at hreply
      cases hreply
    | done a =>
      rw [hprog] at hreply
      cases hreply
      have hends:=hknown.follows.ends hprog
      rw [hr] at hends
      obtain ⟨u,rest,hseen⟩:=hends
      exact ⟨now,claims,typed,u,rest,hr,h.1,h.2,hseen⟩
  · cases h

theorem Known.next {k : Res op → Prog Reply} {db : Store} {fails : Bool} (h : Known env p)
    (hkeys : Keyed db.users) (hprog : p.prog=.call op k) : Known env (p.next db (run db op fails).1 k) := by
  refine ⟨h.follows.next hprog,fun e he => ?_⟩
  rcases mem_cons.mp he with rfl | he
  · exact hkeys
  · exact h.keyed e he

theorem codes_run {i : ℕ} {fails : Bool} {k : Res op → Prog Reply}
    (hs : Sound env bound s) (htime : InTime s (.step i fails)) (hp : s.procs[i]?=some p) (hprog : p.prog=.call op k) :
    codesOf env (run s.store op fails).2.users username code +
      (usedCode username code (p.next s.store (run s.store op fails).1 k)).toNat ≤
        codesOf env s.store.users username code := by
  have hknown:=hs.known p (mem_of_getElem? hp)
  have hstays:=stays_run hknown hs.keyed hs.admin htime hp hprog
  have hle:=hstays.undone.codesOf_le hs.keyed username code
  cases hused : usedCode username code (p.next s.store (run s.store op fails).1 k) with
  | false => exact hle
  | true =>
    obtain ⟨now,claims,typed,u,rest,hr,rfl,rfl,hseen⟩:=usedCode_ends (hknown.next hs.keyed hprog) hused
    have hhead:=(List.cons.inj hseen).1
    have hr' : p.request=.login2FA now (some claims) typed := hr
    have hmay:=hknown.follows.may hprog
    rw [hr'] at hmay
    cases op with
    | updateUser u' =>
      obtain rfl:=run_updateUser (eq_of_heq (Sigma.mk.inj hhead).2).symm
      obtain ⟨user,left,hsaw,hleft,rfl⟩:=hmay
      have hrow : ∀ e∈p.log,rowOf s.store.users user.id=rowOf e.store.users user.id :=
        fun e he => (htime p hp _ (by rw [hprog]; rfl) user.id rfl e he).1
      obtain ⟨huser,hname⟩:=hknown.named hrow hsaw
      have hrep:=replaced_map (u := {user with totpRecoveryCodes := left}) hs.keyed huser rfl
      have hnew:=codesOf_mem (hrep.keyed hs.keyed) hrep.new_mem env (normalizeRecoveryCode typed)
      have hold:=codesOf_mem hs.keyed huser env (normalizeRecoveryCode typed)
      have hconsumed:=codesLeft_consumed hleft
      rw [run_users,if_neg Bool.false_ne_true,← hname,hold,← hconsumed]
      exact Nat.add_le_add_right (Nat.le_of_eq hnew) 1
    | getUser | getUserByID | listUsers | deleteUser => cases (Sigma.mk.inj hhead).1

theorem sound_begin (hs : Sound env bound s) (r : Request) :
    Sound env bound {s with procs := s.procs++[⟨r,[],handle env r⟩]} := by
  have hnew : Known env ⟨r,[],handle env r⟩ := ⟨⟨wp_handle env r,fun e he => absurd he not_mem_nil⟩,
    fun e he => absurd he not_mem_nil⟩
  refine ⟨fun p hp => ?_,hs.keyed,hs.admin,fun username code => ?_⟩
  · rcases mem_append.mp hp with hp | hp
    · exact hs.known p hp
    · rw [mem_singleton.mp hp]
      exact hnew
  · have hunused : usedCode username code ⟨r,[],handle env r⟩=false := by
      by_contra h
      obtain ⟨_,_,_,_,_,-,-,-,hseen⟩:=usedCode_ends hnew (by simpa using h)
      cases hseen
    have hcount : loginsWith {s with procs := s.procs++[⟨r,[],handle env r⟩]} username code =
        loginsWith s username code := by
      unfold loginsWith
      rw [countP_append,countP_singleton,hunused]
      rfl
    rw [hcount]
    exact hs.codes username code

theorem sound_step {a : Act} (hs : Sound env bound s) (htime : InTime s a) (hst : step env s a=some t) :
    Sound env bound t := by
  cases a with
  | begin r =>
    cases hst
    exact sound_begin hs r
  | env e => exact e.elim
  | step i fails =>
    obtain ⟨p,op,k,hp,hprog,rfl⟩:=step_step hst
    have hmem:=mem_of_getElem? hp
    have hstays:=stays_run (hs.known p hmem) hs.keyed hs.admin htime hp hprog
    refine ⟨fun q hq => ?_,hstays.keyed,hstays.admin,fun username code => ?_⟩
    · rcases mem_or_eq_of_mem_set hq with hq | rfl
      · exact hs.known q hq
      · exact (hs.known p hmem).next hs.keyed hprog
    · have hcodes : codesOf env (run s.store op fails).2.users username code+_≤_ := codes_run hs htime hp hprog
      have hbound:=hs.codes username code
      have hcount:=Table.countP_set_add (usedCode username code) hp (p.next s.store (run s.store op fails).1 k)
      rw [usedCode_call hprog,Bool.toNat_false,add_zero] at hcount
      show (s.procs.set i (p.next s.store (run s.store op fails).1 k)).countP (usedCode username code) +
        codesOf env (run s.store op fails).2.users username code≤_
      unfold loginsWith at hbound
      omega

theorem asked_of_sound {a : Act} (hs : Sound env bound s) (htime : InTime s a) : WritesAsAsked env s a := by
  cases a with
  | begin r => exact trivial
  | env e => exact e.elim
  | step i fails =>
    intro p hp t hst
    obtain ⟨q,op,k,hq,hprog,rfl⟩:=step_step (mem_def.mp hst)
    rw [mem_def.mp hp] at hq
    cases hq
    exact (stays_run (hs.known p (mem_of_getElem? hp)) hs.keyed hs.admin htime hp hprog).undone

end

/-- In a run whose writes come in time, an account is logged in with a code at most as often
as the code was stored, every write is what was asked for, and a super admin is left. -/
theorem account_calls_safe (env : Env) (db : Store) (as : List Act) (t : Sys) (hkeys : Keyed db.users)
    (hadmin : HasSuperAdmin db.users) (htime : Along (step env) InTime (initial db) as)
    (hrun : exec (step env) (initial db) as=some t) :
    (∀ username code, loginsWith t username code≤codesOf env db.users username code) ∧
      Along (step env) (WritesAsAsked env) (initial db) as ∧ HasSuperAdmin t.store.users := by
  have hstart : Sound env db.users (initial db) := ⟨fun p hp => absurd hp not_mem_nil,hkeys,hadmin,
    fun username code => le_of_eq (zero_add _)⟩
  have hkeep (s : Sys) (a : Act) (t : Sys) (hs : Sound env db.users s) (hin : InTime s a) (hst : step env s a=some t) :
      Sound env db.users t := sound_step hs hin hst
  have hend:=exec_invariant (Sound env db.users) hkeep hstart htime hrun
  refine ⟨fun username code => ?_,?_,hend.admin⟩
  · exact le_trans (le_add_right _ _) (hend.codes username code)
  · exact htime.of_invariant (Sound env db.users) hkeep (fun s a hs hin => asked_of_sound hs hin) hstart

/-- `anna` has one recovery code. -/
def twoAdmins : Store := {Store.empty with users :=
  [⟨1,"root","h1",roleAdmin,false,authProviderLocal,"",false,""⟩,
    ⟨2,"anna","h2",roleAdmin,false,authProviderLocal,"S",true,marshal ["ABCD"]⟩]}

def plainHashes : Env := ⟨3600,fun _ _ _ => false,fun hash password => hash==password⟩

def codeLogin : Request := .login2FA 0 (some (issueToken 0 partialTokenTTL "anna" twoFactorPending)) "abcd"

def demoteAnna : Request := .updateUser ⟨roleAdmin,"root",""⟩ (some 2) ⟨"",roleViewer⟩ none

theorem keyed_twoAdmins : Keyed twoAdmins.users := ⟨by decide,by decide⟩

theorem hasSuperAdmin_twoAdmins : HasSuperAdmin twoAdmins.users := ⟨_,mem_cons_self,by decide⟩

def demotedInTime : List Act :=
  [.begin codeLogin,.step 0 false,.step 0 false,.begin demoteAnna,.begin codeLogin,.step 1 false,.step 2 false,
    .step 1 false,.step 1 false]

theorem account_calls_safe_demotion : ∃ t, exec (step plainHashes) (initial twoAdmins) demotedInTime=some t ∧
    loginsWith t "anna" "ABCD" = 1 ∧ HasSuperAdmin t.store.users := by
  have hlogins : (exec (step plainHashes) (initial twoAdmins) demotedInTime).map
      (fun t => loginsWith t "anna" "ABCD")=some 1 := by decide +kernel
  obtain ⟨t,ht,hone⟩:=map_eq_some_iff.mp hlogins
  have hsafe:=account_calls_safe plainHashes twoAdmins demotedInTime t keyed_twoAdmins hasSuperAdmin_twoAdmins
    (by decide +kernel) ht
  exact ⟨t,ht,hone,hsafe.2.2⟩

def sameCode : List Act :=
  [.begin codeLogin,.begin codeLogin,.step 0 false,.step 1 false,.step 0 false,.step 1 false]

def demotedMeanwhile : List Act :=
  [.begin codeLogin,.step 0 false,.begin demoteAnna,.step 1 false,.step 1 false,.step 1 false]

def eachOther : List Act :=
  [.begin (.deleteUser ⟨roleAdmin,"root",""⟩ (some 2)),.begin (.deleteUser ⟨roleAdmin,"anna",""⟩ (some 1)),
    .step 0 false,.step 1 false,.step 0 false,.step 1 false,.step 0 false,.step 1 false]

def roleOf (u : User) : ℕ × Role := (u.id,u.role)

theorem accounts_race :
    ¬ (∀ (env : Env) (db : Store) (as : List Act) (t : Sys), Keyed db.users → HasSuperAdmin db.users →
        exec (step env) (initial db) as=some t →
        ∀ username code, loginsWith t username code≤codesOf env db.users username code) ∧
      ¬ (∀ (env : Env) (db : Store) (as : List Act) (t : Sys), Keyed db.users → HasSuperAdmin db.users →
        exec (step env) (initial db) as=some t → Along (step env) (WritesAsAsked env) (initial db) as) ∧
      ¬ (∀ (env : Env) (db : Store) (as : List Act) (t : Sys), Keyed db.users → HasSuperAdmin db.users →
        exec (step env) (initial db) as=some t → HasSuperAdmin t.store.users) := by
  refine ⟨fun h => ?_,fun h => ?_,fun h => ?_⟩
  · have hlogins : (exec (step plainHashes) (initial twoAdmins) sameCode).map
        (fun t => loginsWith t "anna" "ABCD")=some 2 := by decide +kernel
    obtain ⟨t,ht,htwo⟩:=map_eq_some_iff.mp hlogins
    have hle:=h plainHashes twoAdmins sameCode t keyed_twoAdmins hasSuperAdmin_twoAdmins ht "anna" "ABCD"
    have hone : codesOf plainHashes twoAdmins.users "anna" "ABCD" = 1 := by decide +kernel
    omega
  · have hlast : (exec (step plainHashes) (initial twoAdmins) demotedMeanwhile).bind (fun s =>
        (s.procs[0]?).bind fun p => (step plainHashes s (.step 0 false)).map fun t =>
          (p.request,s.store.users.map roleOf,t.store.users.map roleOf)) =
        some (codeLogin,[(1,roleAdmin),(2,roleViewer)],[(1,roleAdmin),(2,roleAdmin)]) := by decide +kernel
    obtain ⟨s,hs,hlast⟩:=bind_eq_some_iff.mp hlast
    obtain ⟨p,hp,hlast⟩:=bind_eq_some_iff.mp hlast
    obtain ⟨t,ht,hlast⟩:=map_eq_some_iff.mp hlast
    simp only [Prod.mk.injEq] at hlast
    obtain ⟨hrequest,hbefore,hafter⟩:=hlast
    have hrun : exec (step plainHashes) (initial twoAdmins) (demotedMeanwhile++[.step 0 false])=some t := by
      rw [exec_append,hs]
      exact (congrArg (· >>= _) ht).trans rfl
    have hasked:=(h plainHashes twoAdmins _ t keyed_twoAdmins hasSuperAdmin_twoAdmins hrun).after hs
    have hundone:=hasked.1 p hp t ht
    -- the row that the login writes has the role back
    obtain ⟨w,hw,hwrole⟩:=mem_map.mp (hafter ▸ mem_cons_of_mem _ mem_cons_self : _∈t.store.users.map roleOf)
    obtain ⟨v,hv,hid,hvw⟩:=hundone.asked w hw
    have hvrole : roleOf v∈[(1,roleAdmin),(2,roleViewer)] := hbefore ▸ mem_map_of_mem hv
    have hwid:=congrArg Prod.fst hwrole
    have hwadmin:=congrArg Prod.snd hwrole
    dsimp only [roleOf] at hwid hwadmin hvrole
    rcases hvw.role with hsame | ⟨_,_,_,hr,-⟩
    · rw [hid,hwid,← hsame,hwadmin] at hvrole
      revert hvrole
      decide
    · rw [hrequest] at hr
      cases hr
  · have hgone : (exec (step plainHashes) (initial twoAdmins) eachOther).map (fun t => t.store.users)=some [] := by
      decide
    obtain ⟨t,ht,hnone⟩:=map_eq_some_iff.mp hgone
    obtain ⟨u,hu,-⟩:=h plainHashes twoAdmins eachOther t keyed_twoAdmins hasSuperAdmin_twoAdmins ht
    rw [hnone] at hu
    cases hu

end BetterDesk.Api.Calls
