import BetterDesk.Api.Providers
import BetterDesk.Db.Accounts

/-! # Accounts and their providers (api/login_auth.go, api/client_oidc_handlers.go, db/database.go) -/

namespace BetterDesk.Api.Providers
open Auth Db Exec List Option

/-- Rows keep their name and their provider, and get no password where it is not local. -/
structure SameBinding (users users' : List User) : Prop where
  same : ∀ u∈users, ∀ w∈users',w.id=u.id → w.username=u.username ∧ provider w=provider u ∧
    (provider u≠authProviderLocal → w.passwordHash=u.passwordHash)

/-- A login through `P`: rows of other providers stay, and a new one is one of `P`. -/
structure LoginEffect (P : String) (users users' : List User) : Prop extends SameBinding users users' where
  other : ∀ u∈users,provider u≠P → u∈users'
  new : ∀ w∈users',(∀ u∈users,u.id≠w.id) → provider w=P

inductive Wrote (newID : ℕ) (touches : User → User → Prop) (adds : User → Prop) (users : List User) : List User → Prop
  | same : Wrote newID touches adds users users
  | replaced {users' : List User} {user u : User} (h : Replaced users users' user u) (ht : touches user u) :
      Wrote newID touches adds users users'
  | added {u : User} (hid : u.id=newID) (hname : ∀ v∈users,v.username≠u.username) (ha : adds u) :
      Wrote newID touches adds users (users++[u])

section
variable {newID : ℕ} {touches touches' : User → User → Prop} {adds adds' : User → Prop} {users users' : List User}
  {P : String}

theorem Wrote.keyed (h : Wrote newID touches adds users users') (hkeys : Keyed users)
    (hfresh : ∀ v∈users,v.id≠newID) : Keyed users' := by
  cases h with
  | same => exact hkeys
  | replaced h _ => exact h.keyed hkeys
  | added hid hname _ => exact hkeys.append (fun v hv => hid ▸ hfresh v hv) hname

theorem Wrote.mono (h : Wrote newID touches adds users users') (ht : ∀ user u, touches user u → touches' user u)
    (ha : ∀ u, adds u → adds' u) : Wrote newID touches' adds' users users' := by
  cases h with
  | same => exact .same
  | replaced h htouch => exact .replaced h (ht _ _ htouch)
  | added hid hname hadd => exact .added hid hname (ha _ hadd)

theorem sameBinding_refl (hkeys : Keyed users) : SameBinding users users := by
  refine ⟨fun u hu w hw hid => ?_⟩
  rw [Table.eq_of_key hkeys.ids hw hu hid]
  exact ⟨rfl,rfl,fun _ => rfl⟩

theorem loginEffect_refl (hkeys : Keyed users) : LoginEffect P users users :=
  ⟨sameBinding_refl hkeys,fun _ hu _ => hu,fun w hw hno => absurd rfl (hno w hw)⟩

theorem sameBinding_replaced {user u : User} (hkeys : Keyed users) (h : Replaced users users' user u)
    (hprovider : provider u=provider user)
    (hhash : provider user≠authProviderLocal → u.passwordHash=user.passwordHash) : SameBinding users users' := by
  refine ⟨fun v hv w hw hid => ?_⟩
  rcases h.mem hw with rfl | hw
  · rw [Table.eq_of_key hkeys.ids hv h.stored (hid.symm.trans h.id)]
    exact ⟨h.username,hprovider,hhash⟩
  · exact (sameBinding_refl hkeys).same v hv w hw hid

theorem sameBinding_append {u : User} (hkeys : Keyed users) (hfresh : ∀ v∈users,v.id≠u.id) :
    SameBinding users (users++[u]) := by
  refine ⟨fun v hv w hw hid => ?_⟩
  rcases mem_append.mp hw with hw | hw
  · exact (sameBinding_refl hkeys).same v hv w hw hid
  · rw [mem_singleton.mp hw] at hid
    exact absurd hid.symm (hfresh v hv)

theorem sameBinding_filter (hkeys : Keyed users) (p : User → Bool) : SameBinding users (users.filter p) :=
  ⟨fun v hv w hw hid => (sameBinding_refl hkeys).same v hv w (mem_of_mem_filter hw) hid⟩

/-- What a login through `P` may write. -/
def OwnRow (P : String) (user u : User) : Prop := provider user=P ∧ provider u=P ∧
  (P≠authProviderLocal → u.passwordHash=user.passwordHash)

theorem Wrote.loginEffect (h : Wrote newID (OwnRow P) (fun u => provider u=P) users users') (hkeys : Keyed users)
    (hfresh : ∀ v∈users,v.id≠newID) : LoginEffect P users users' := by
  cases h with
  | same => exact loginEffect_refl hkeys
  | replaced h hown =>
    refine ⟨sameBinding_replaced hkeys h (hown.2.1.trans hown.1.symm) fun hp => hown.2.2 (hown.1 ▸ hp),?_,?_⟩
    · intro v hv hp
      refine h.other_mem hv fun hid => hp ?_
      rw [Table.eq_of_key hkeys.ids hv h.stored hid]
      exact hown.1
    · intro w hw hno
      rcases h.mem hw with rfl | hw
      · exact hown.2.1
      · exact absurd rfl (hno w hw)
  | added hid hname hp =>
    refine ⟨sameBinding_append hkeys fun v hv => hid ▸ hfresh v hv,fun v hv _ => mem_append_left _ hv,?_⟩
    intro w hw hno
    rcases mem_append.mp hw with hw | hw
    · exact absurd rfl (hno w hw)
    · rw [mem_singleton.mp hw]
      exact hp

end

section
variable {env : LoginEnv} {db db' : Store} {newID : ℕ} {username password : String} {user : User}

theorem getUser_cases (db : Store) (username : String) : db.getUser username=.error () ∨
    (db.getUser username=.ok none ∧ ∀ u∈db.users,u.username≠username) ∨
    ∃ user∈db.users,db.getUser username=.ok (some user) ∧ user.username=username := by
  unfold Store.getUser Store.ask
  split
  · exact .inl rfl
  · cases hf : db.users.find? fun u => u.username==username with
    | none => exact .inr (.inl ⟨rfl,fun u hu => by simpa using List.find?_eq_none.mp hf u hu⟩)
    | some user =>
      exact .inr (.inr ⟨user,mem_of_find?_eq_some hf,rfl,by simpa using List.find?_some hf⟩)

theorem named_provider (hkeys : Keyed db.users) (huser : user∈db.users) {P : String} (hp : provider user=P) :
    ∀ u∈db.users,u.username=user.username → provider u=P := by
  intro u hu hname
  rw [Table.eq_of_key hkeys.usernames hu huser hname]
  exact hp

theorem provider_eq {u : User} {P : String} (h : u.authProvider=P) (hne : P≠"") : provider u=P := by
  unfold provider
  rw [if_neg (h ▸ hne),h]

theorem updateUser_wrote {adds : User → Prop} {P : String} {u : User} (h : db.updateUser u=.ok db')
    (hkeys : Keyed db.users) (huser : user∈db.users) (hid : u.id=user.id) (hp : provider user=P)
    (hp' : provider u=P) (hhash : P≠authProviderLocal → u.passwordHash=user.passwordHash) :
    Wrote newID (OwnRow P) adds db.users db'.users :=
  .replaced (Store.updateUser_replaced h hkeys huser hid) ⟨hp,(provider_stored u _).trans hp',hhash⟩

theorem createUser_wrote {touches : User → User → Prop} {u : User} {P : String} (h : db.createUser u=.ok db')
    (hid : u.id=newID) (hp : provider u=P) : Wrote newID touches (fun u => provider u=P) db.users db'.users := by
  obtain ⟨hname,hrows⟩:=Store.createUser_ok h
  rw [hrows]
  exact .added hid hname ((provider_stored u u.username).trans hp)

theorem provisionLDAP_wrote {touches : User → User → Prop} {role : Role} :
    Wrote newID touches (fun u => provider u=authProviderLDAP) db.users
      (provisionLDAP env db newID username role).2.users := by
  unfold provisionLDAP
  split
  · exact .same
  · dsimp only
    split
    · exact .same
    · rename_i db₁ hcreate
      split <;> exact createUser_wrote hcreate rfl (provider_eq rfl (by decide))

theorem provisionLDAP_ok {role : Role} (h : (provisionLDAP env db newID username role).1=.ok user) :
    user.username=username := by
  unfold provisionLDAP at h
  split at h
  · cases h
  · dsimp only at h
    split at h
    · cases h
    · split at h
      · cases h
      · rename_i hrow
        cases h
        exact (Store.getUser_row hrow).2

theorem syncLDAP_wrote {adds : User → Prop} {role : Role} (hkeys : Keyed db.users) (huser : user∈db.users)
    (hp : provider user=authProviderLDAP) :
    Wrote newID (OwnRow authProviderLDAP) adds db.users (syncLDAP db user role).2.users := by
  unfold syncLDAP
  dsimp only
  split
  · split
    · exact .same
    · rename_i hw
      exact updateUser_wrote hw hkeys huser rfl hp (provider_eq rfl (by decide)) fun _ => rfl
  · exact .same

theorem syncLDAP_username {role : Role} : (syncLDAP db user role).1.username=user.username := by
  unfold syncLDAP
  dsimp only
  split
  · split <;> rfl
  · rfl

theorem localLogin_wrote {adds : User → Prop} (hkeys : Keyed db.users) (huser : user∈db.users) :
    Wrote newID (OwnRow authProviderLocal) adds db.users (localLogin env db user password).2.users := by
  unfold localLogin
  split
  · exact .same
  · rename_i hno
    have hp : provider user=authProviderLocal := by
      by_contra h
      exact hno (.inl h)
    split
    · split
      · exact .same
      · dsimp only
        split
        · exact .same
        · rename_i hw
          exact updateUser_wrote hw hkeys huser rfl hp hp fun h => absurd rfl h
    · exact .same

theorem localLogin_ok {u : User} (h : (localLogin env db user password).1=.ok u) :
    u.username=user.username ∧ provider user=authProviderLocal := by
  unfold localLogin at h
  split at h
  · cases h
  · rename_i hno
    have hp : provider user=authProviderLocal := by
      by_contra h
      exact hno (.inl h)
    split at h
    · split at h
      · cases h
        exact ⟨rfl,hp⟩
      · dsimp only at h
        split at h
        · cases h
          exact ⟨rfl,hp⟩
        · cases h
          exact ⟨rfl,hp⟩
    · cases h
      exact ⟨rfl,hp⟩

theorem authenticate_wrote (hkeys : Keyed db.users) :
    Wrote newID (OwnRow (authMethod env db username)) (fun u => provider u=authMethod env db username) db.users
      (authenticatePasswordLogin env db newID username password).2.users := by
  unfold authenticatePasswordLogin authMethod
  rcases getUser_cases db username with hq | ⟨hq,-⟩ | ⟨user,huser,hq,-⟩
  · rw [hq]
    exact .same
  · rw [hq]
    dsimp only [Answer.row]
    split
    · split
      · exact .same
      · exact provisionLDAP_wrote
    · exact .same
  · rw [hq]
    dsimp only [Answer.row]
    by_cases hoidc : provider user=authProviderOIDC
    · rw [if_pos hoidc]
      exact .same
    · rw [if_neg hoidc]
      by_cases hldap : env.ldapEnabled=true ∧ provider user=authProviderLDAP
      · simp only [if_pos hldap]
        split
        · exact .same
        · exact syncLDAP_wrote hkeys huser hldap.2
      · simp only [if_neg hldap]
        exact localLogin_wrote hkeys huser

theorem authenticate_through (hkeys : Keyed db.users)
    (h : (authenticatePasswordLogin env db newID username password).1=.ok user) :
    user.username=username ∧ ∀ u∈db.users,u.username=username → provider u=authMethod env db username := by
  unfold authenticatePasswordLogin at h
  unfold authMethod
  rcases getUser_cases db username with hq | ⟨hq,hnone⟩ | ⟨found,hfound,hq,hname⟩
  · rw [hq] at h
    cases h
  · rw [hq] at h
    refine ⟨?_,fun u hu hname => absurd hname (hnone u hu)⟩
    dsimp only at h
    split at h
    · split at h
      · cases h
      · exact provisionLDAP_ok h
    · cases h
  · rw [hq] at h ⊢
    dsimp only [Answer.row] at h ⊢
    subst hname
    split at h
    · cases h
    · split at h
      · rename_i hldap
        rw [if_pos hldap]
        split at h
        · cases h
        · cases h
          exact ⟨syncLDAP_username,named_provider hkeys hfound hldap.2⟩
      · rename_i hldap
        rw [if_neg hldap]
        obtain ⟨hu,hp⟩:=localLogin_ok h
        exact ⟨hu,named_provider hkeys hfound hp⟩

end

def codeAccepted (env : LoginEnv) (db : Store) (user : User) (code : String) : Bool :=
  env.validateTOTP user.totpSecret code||(user.totpRecoveryCodes≠"" &&
    (env.consumeRecoveryCode user.totpRecoveryCodes code).isSome&&!db.fails (.updateUser user.id))

section
variable {env : LoginEnv} {db : Store} {expiry now : ℤ} {claims : Claims} {code : String} {user : User}

theorem login2FA_accepts (hrole : claims.role=twoFactorPending) (hrow : (db.getUser claims.sub).row=some user)
    (haccepted : codeAccepted env db user code=true) :
    ∃ token db', Api.handleLogin2FA env db expiry now (some claims) code=(.ok token,db') ∧
      token.sub=user.username := by
  unfold Api.handleLogin2FA
  dsimp only
  rw [if_neg (not_not_intro hrole),hrow]
  dsimp only
  by_cases htotp : env.validateTOTP user.totpSecret code=true
  · rw [if_pos htotp]
    exact ⟨_,_,rfl,rfl⟩
  · rw [if_neg htotp]
    simp only [codeAccepted,htotp,Bool.false_or,Bool.and_eq_true,decide_eq_true_eq,Bool.not_eq_true'] at haccepted
    obtain ⟨⟨hcodes,hleft⟩,hstored⟩:=haccepted
    obtain ⟨left,hleft⟩:=isSome_iff_exists.mp hleft
    rw [if_neg hcodes,hleft]
    unfold Store.updateUser Store.ask
    dsimp only
    rw [hstored]
    exact ⟨_,_,rfl,rfl⟩

theorem login2FA_result : ((Api.handleLogin2FA env db expiry now (some claims) code).2=db ∧
      ∀ token, (Api.handleLogin2FA env db expiry now (some claims) code).1 ≠ .ok token) ∨
    ∃ user token, (db.getUser claims.sub).row=some user ∧ codeAccepted env db user code=true ∧
      (Api.handleLogin2FA env db expiry now (some claims) code).1=.ok token ∧ token.sub=user.username ∧
      ((Api.handleLogin2FA env db expiry now (some claims) code).2=db ∨ ∃ left,
        db.updateUser {user with totpRecoveryCodes := left}=.ok (Api.handleLogin2FA env db expiry now (some claims) code).2) := by
  unfold Api.handleLogin2FA
  dsimp only
  split
  · exact .inl ⟨rfl,fun token h => (by cases h)⟩
  · cases hrow : (db.getUser claims.sub).row with
    | none => exact .inl ⟨rfl,fun token h => (by cases h)⟩
    | some user =>
      dsimp only
      split
      · rename_i htotp
        exact .inr ⟨user,_,rfl,by simp [codeAccepted,htotp],rfl,rfl,.inl rfl⟩
      · split
        · exact .inl ⟨rfl,fun token h => (by cases h)⟩
        · rename_i hcodes
          split
          · exact .inl ⟨rfl,fun token h => (by cases h)⟩
          · rename_i left hleft
            split
            · exact .inl ⟨rfl,fun token h => (by cases h)⟩
            · rename_i db' hw
              have hstored:=(Store.ask_ok hw).1
              exact .inr ⟨user,_,rfl,by simp [codeAccepted,hcodes,hleft,hstored],rfl,rfl,.inr ⟨left,hw⟩⟩

end

section
variable {env : LoginEnv} {db : Store} {newID : ℕ} {user : User} {result : OIDCResult} {cfg : Option OIDCConfig}

theorem syncOIDC_username : (syncOIDC db user result).1.username=user.username := by
  unfold syncOIDC
  dsimp only
  split
  · split <;> rfl
  · rfl

theorem syncOIDC_wrote {adds : User → Prop} (hkeys : Keyed db.users) (huser : user∈db.users) :
    Wrote newID (fun v u => v=user ∧ provider u=authProviderOIDC ∧ u.passwordHash=v.passwordHash) adds db.users
      (syncOIDC db user result).2.users := by
  unfold syncOIDC
  dsimp only
  split
  · split
    · exact .same
    · rename_i db' hw
      exact .replaced (Store.updateUser_replaced hw hkeys huser rfl)
        ⟨rfl,(provider_stored _ _).trans (provider_eq rfl (by decide)),rfl⟩
  · exact .same

theorem provisionOIDC_wrote {touches : User → User → Prop} :
    Wrote newID touches (fun u => provider u=authProviderOIDC) db.users (provisionOIDC env db newID result).2.users := by
  unfold provisionOIDC
  split
  · exact .same
  · split
    · exact .same
    · rename_i db₁ hcreate
      split <;> exact createUser_wrote hcreate rfl (provider_eq rfl (by decide))

theorem provisionOIDC_ok (h : (provisionOIDC env db newID result).1=.ok user) : user.username=result.username := by
  unfold provisionOIDC at h
  split at h
  · cases h
  · split at h
    · cases h
    · split at h
      · cases h
      · rename_i hrow
        cases h
        exact (Store.getUser_row hrow).2

theorem ensureOIDCUser_wrote (hkeys : Keyed db.users) :
    Wrote newID (fun v u => (db.getUser result.username).row=some v ∧ result.username≠"" ∧
        provider u=authProviderOIDC ∧ u.passwordHash=v.passwordHash)
      (fun u => provider u=authProviderOIDC) db.users (ensureOIDCUser env db newID (some result) cfg).2.users := by
  unfold ensureOIDCUser
  dsimp only
  split
  · exact .same
  · rename_i hne
    rcases getUser_cases db result.username with hq | ⟨hq,-⟩ | ⟨user,huser,hq,-⟩
    · rw [hq]
      exact .same
    · rw [hq]
      dsimp only
      split
      · exact provisionOIDC_wrote
      · exact .same
    · rw [hq]
      dsimp only
      refine (syncOIDC_wrote hkeys huser).mono (fun v u hv => ?_) fun u hu => hu
      obtain ⟨rfl,hp,hhash⟩:=hv
      exact ⟨rfl,hne,hp,hhash⟩

theorem ensureOIDCUser_ok (h : (ensureOIDCUser env db newID (some result) cfg).1=.ok user) :
    user.username=result.username ∧ result.username≠"" := by
  unfold ensureOIDCUser at h
  dsimp only at h
  split at h
  · cases h
  · rename_i hne
    rcases getUser_cases db result.username with hq | ⟨hq,-⟩ | ⟨found,hfound,hq,hname⟩
    · rw [hq] at h
      cases h
    · rw [hq] at h
      dsimp only at h
      split at h
      · exact ⟨provisionOIDC_ok h,hne⟩
      · cases h
    · rw [hq] at h
      cases h
      exact ⟨syncOIDC_username.trans hname,hne⟩

theorem ensureOIDCUser_found (hne : result.username≠"") (hrow : (db.getUser result.username).row=some user) :
    ∃ synced, (ensureOIDCUser env db newID (some result) cfg).1=.ok synced ∧ synced.username=user.username := by
  unfold ensureOIDCUser
  dsimp only
  rw [if_neg hne]
  rcases getUser_cases db result.username with hq | ⟨hq,-⟩ | ⟨found,hfound,hq,-⟩
  · rw [hq] at hrow
    cases hrow
  · rw [hq] at hrow
    cases hrow
  · rw [hq] at hrow ⊢
    cases hrow
    exact ⟨_,rfl,syncOIDC_username⟩

end

def Event.isLogin : Event → Bool
  | .createUser _ _ => false
  | .updateUser _ _ _ => false
  | .deleteUser _ _ => false
  | .setupTOTP _ _ => false
  | .confirmTOTP _ _ _ => false
  | .disableTOTP _ => false
  | _ => true

/-- The provider a login goes through; that of a second step is the first step's. -/
def method (s : State) (a : Act) : String := match a.event with
  | .login username _ _ => authMethod a.env (tables s a) username
  | .clientLogin username _ _ _ => authMethod a.env (tables s a) username
  | .login2FA token _ => ((s.partialTokens token).map Ticket.via).getD authProviderLocal
  | .clientTFAVerify secret _ => ((s.tfaSessions secret).map Ticket.via).getD authProviderLocal
  | .oidcCallback _ _ _ => authProviderOIDC
  | .clientOIDCAuth _ _ _ => authProviderOIDC
  | .clientOIDCAuthQuery _ _ _ => authProviderOIDC
  | _ => authProviderLocal

structure BindingKept (s : State) (a : Act) : Prop where
  through : ∀ name∈(respond s a).1, ∀ u∈s.db.users,u.username=name → provider u=method s a
  effect : a.event.isLogin=true → LoginEffect (method s a) s.db.users (respond s a).2.db.users
  same : SameBinding s.db.users (respond s a).2.db.users

/-- The accounts that a login other than by password comes upon are of its provider. -/
def OfProviderAt (s : State) (a : Act) : Event → Prop
  | .login2FA token code => ∀ t ∈ s.partialTokens token,
    JWTManager.current a.now (issueToken t.createdAt partialTokenTTL t.username twoFactorPending)=true →
      ∀ u∈((tables s a).getUser t.username).row, codeAccepted a.env (tables s a) u code=true → provider u=t.via
  | .clientTFAVerify secret code => ∀ t∈s.tfaSessions secret, a.now-t.createdAt≤tfaSessionTTL →
    code.utf8ByteSize=6 → ∀ u∈((tables s a).getUser t.username).row,
      a.env.validateTOTP u.totpSecret code=true → provider u=t.via
  | .oidcCallback result _ _ => ∀ r∈result,r.username≠"" →
    ∀ u∈((tables s a).getUser r.username).row, provider u=authProviderOIDC
  | .clientOIDCAuthQuery code clientID clientUUID => ∀ p∈s.pending a.now code, ∀ username∈p.username,
    ofDevice p clientID clientUUID=true → ∀ u∈((tables s a).getUser username).row, provider u=authProviderOIDC
  | .cdapLogin username password code => username≠"" → password≠"" →
    ∀ u∈((tables s a).getUser username).row, Cdap.rowMatches a.env u password code=true →
      provider u=authProviderLocal
  | _ => True

instance (s : State) (a : Act) : (e : Event) → Decidable (OfProviderAt s a e)
  | .login2FA token _ => inferInstanceAs (Decidable (∀ t ∈ s.partialTokens token, _ → ∀ u∈_,_ → _))
  | .clientTFAVerify secret _ => inferInstanceAs (Decidable (∀ t∈s.tfaSessions secret, _ → _ → ∀ u∈_,_ → _))
  | .oidcCallback result _ _ => inferInstanceAs (Decidable (∀ r∈result,_ → ∀ u∈_,_))
  | .clientOIDCAuthQuery code _ _ =>
    inferInstanceAs (Decidable (∀ p∈s.pending a.now code, ∀ username∈p.username,_ → ∀ u∈_,_))
  | .cdapLogin _ _ _ => inferInstanceAs (Decidable (_ → _ → ∀ u∈_,_ → _))
  | .login _ _ _ => inferInstanceAs (Decidable True)
  | .clientLogin _ _ _ _ => inferInstanceAs (Decidable True)
  | .clientOIDCAuth _ _ _ => inferInstanceAs (Decidable True)
  | .createUser _ _ => inferInstanceAs (Decidable True)
  | .updateUser _ _ _ => inferInstanceAs (Decidable True)
  | .deleteUser _ _ => inferInstanceAs (Decidable True)
  | .setupTOTP _ _ => inferInstanceAs (Decidable True)
  | .confirmTOTP _ _ _ => inferInstanceAs (Decidable True)
  | .disableTOTP _ => inferInstanceAs (Decidable True)

def OfProvider (s : State) (a : Act) : Prop := OfProviderAt s a a.event

instance (s : State) (a : Act) : Decidable (OfProvider s a) := inferInstanceAs (Decidable (OfProviderAt s a a.event))

section
variable {s : State} {a : Act}

theorem bindingKept_quiet (hkeys : Keyed s.db.users) (hnone : (respond s a).1=none)
    (hrows : (respond s a).2.db.users=s.db.users) : BindingKept s a := by
  refine ⟨fun name hname => ?_,fun _ => ?_,?_⟩
  · rw [hnone] at hname
    cases hname
  · rw [hrows]
    exact loginEffect_refl hkeys
  · rw [hrows]
    exact sameBinding_refl hkeys

theorem bindingKept_reads (hkeys : Keyed s.db.users) (hrows : (respond s a).2.db.users=s.db.users)
    (hthrough : ∀ name∈(respond s a).1, ∃ u∈s.db.users,u.username=name ∧ provider u=method s a) :
    BindingKept s a := by
  refine ⟨fun name hname => ?_,fun _ => ?_,?_⟩
  · obtain ⟨u,hu,rfl,hp⟩:=hthrough name hname
    exact fun v hv hvname => @named_provider s.db _ hkeys hu _ hp v hv hvname
  · rw [hrows]
    exact loginEffect_refl hkeys
  · rw [hrows]
    exact sameBinding_refl hkeys

theorem bindingKept_login (hkeys : Keyed s.db.users) (hfresh : ∀ v∈s.db.users,v.id≠a.newID)
    (hwrote : Wrote a.newID (OwnRow (method s a)) (fun u => provider u=method s a) s.db.users (respond s a).2.db.users)
    (hthrough : ∀ name∈(respond s a).1, ∀ u∈s.db.users,u.username=name → provider u=method s a) :
    BindingKept s a := have heffect:=hwrote.loginEffect hkeys hfresh
  ⟨hthrough,fun _ => heffect,heffect.toSameBinding⟩

end

section
variable {s : State} {a : Act}

theorem apiLogin_wrote {env : LoginEnv} {db : Store} {newID : ℕ} {expiry now : ℤ} {username password : String}
    (hkeys : Keyed db.users) :
    Wrote newID (OwnRow (authMethod env db username)) (fun u => provider u=authMethod env db username) db.users
      (Api.handleLogin env db newID expiry now username password).2.users := by
  have hwrote := @authenticate_wrote env _ newID username password hkeys
  unfold Api.handleLogin
  split
  · exact .same
  · cases hauth : authenticatePasswordLogin env db newID username password with
    | mk r db' =>
      rw [hauth] at hwrote
      cases r with
      | ok user =>
        dsimp only
        split <;> exact hwrote
      | invalid | oidc | internal => exact hwrote

theorem apiLogin_token {env : LoginEnv} {db : Store} {newID : ℕ} {expiry now : ℤ} {username password : String}
    {claims : Claims} (h : (Api.handleLogin env db newID expiry now username password).1=.ok (.token claims)) :
    ∃ user, (authenticatePasswordLogin env db newID username password).1=.ok user ∧ claims.sub=user.username := by
  unfold Api.handleLogin at h
  split at h
  · cases h
  · cases hauth : authenticatePasswordLogin env db newID username password with
    | mk r db' =>
      rw [hauth] at h
      cases r with
      | ok user =>
        dsimp only at h
        split at h
        · cases h
        · cases h
          exact ⟨user,rfl,rfl⟩
      | invalid | oidc | internal => cases h

theorem handleLogin_spec {username password : String} {token : ℕ} (hkeys : Keyed s.db.users) :
    Wrote a.newID (OwnRow (authMethod a.env (tables s a) username))
        (fun u => provider u=authMethod a.env (tables s a) username) s.db.users
        (handleLogin s a username password token).2.db.users ∧
      ∀ name∈(handleLogin s a username password token).1, ∀ u∈s.db.users,u.username=name →
        provider u=authMethod a.env (tables s a) username := by
  have hwrote := @apiLogin_wrote a.env (tables s a) a.newID a.expiry a.now username password hkeys
  unfold handleLogin
  cases hlogin : Api.handleLogin a.env (tables s a) a.newID a.expiry a.now username password with
  | mk r db =>
    rw [hlogin] at hwrote
    cases r with
    | error status => exact ⟨hwrote,fun name h => (by cases h)⟩
    | ok reply =>
      cases reply with
      | partialToken claims => exact ⟨hwrote,fun name h => (by cases h)⟩
      | token claims =>
        refine ⟨hwrote,fun name h => ?_⟩
        cases h
        obtain ⟨user,hauth,hsub⟩:=apiLogin_token (congrArg Prod.fst hlogin)
        obtain ⟨hname,hp⟩ := @authenticate_through _ (tables s a) _ _ _ _ hkeys hauth
        rw [hsub,hname]
        exact hp

theorem handleClientLogin_spec {username password : String} {secret : ℕ} {full : Bool} (hkeys : Keyed s.db.users) :
    Wrote a.newID (OwnRow (authMethod a.env (tables s a) username))
        (fun u => provider u=authMethod a.env (tables s a) username) s.db.users
        (handleClientLogin s a username password secret full).2.db.users ∧
      ∀ name∈(handleClientLogin s a username password secret full).1, ∀ u∈s.db.users,u.username=name →
        provider u=authMethod a.env (tables s a) username := by
  have hwrote := @authenticate_wrote a.env (tables s a) a.newID username password hkeys
  unfold handleClientLogin
  split
  · exact ⟨.same,fun name h => (by cases h)⟩
  · cases hauth : authenticatePasswordLogin a.env (tables s a) a.newID username password with
    | mk r db =>
      rw [hauth] at hwrote
      cases r with
      | ok user =>
        dsimp only
        split
        · exact ⟨hwrote,fun name h => (by cases h)⟩
        · refine ⟨hwrote,fun name h => ?_⟩
          cases h
          obtain ⟨hname,hp⟩ := @authenticate_through _ (tables s a) _ _ _ _ hkeys (congrArg Prod.fst hauth)
          rw [hname]
          exact hp
      | invalid | oidc | internal => exact ⟨hwrote,fun name h => (by cases h)⟩

end

section
variable {s : State} {a : Act} {token : ℕ} {code : String} {t : Ticket}

def Ticket.claims (t : Ticket) : Claims := issueToken t.createdAt partialTokenTTL t.username twoFactorPending

theorem partialClaims_some (ht : s.partialTokens token=some t) (hcurrent : JWTManager.current a.now t.claims=true) :
    partialClaims s a token=some t.claims := by
  unfold partialClaims
  rw [ht]
  exact if_pos hcurrent

theorem partialClaims_cases : partialClaims s a token=none ∨
    ∃ t, s.partialTokens token=some t ∧ JWTManager.current a.now t.claims=true := by
  unfold partialClaims
  cases ht : s.partialTokens token with
  | none => exact .inl rfl
  | some t =>
    by_cases hcurrent : JWTManager.current a.now t.claims=true
    · exact .inr ⟨t,rfl,hcurrent⟩
    · exact .inl (if_neg hcurrent)

theorem handleLogin2FA_none (h : partialClaims s a token=none) : (handleLogin2FA s a token code).1=none ∧
    (handleLogin2FA s a token code).2.db.users=s.db.users := by
  unfold handleLogin2FA
  rw [h]
  exact ⟨rfl,rfl⟩

theorem handleLogin2FA_some (hkeys : Keyed s.db.users) (h : partialClaims s a token=some t.claims) :
    ((handleLogin2FA s a token code).1=none ∧ (handleLogin2FA s a token code).2.db.users=s.db.users) ∨
    ∃ user, ((tables s a).getUser t.username).row=some user ∧ codeAccepted a.env (tables s a) user code=true ∧
      (handleLogin2FA s a token code).1=some user.username ∧
      Wrote a.newID (fun v u => v=user ∧ provider u=provider v ∧ u.passwordHash=v.passwordHash) (fun _ => False)
        s.db.users (handleLogin2FA s a token code).2.db.users := by
  unfold handleLogin2FA
  rw [h]
  have hresult := @login2FA_result a.env (tables s a) a.expiry a.now t.claims code
  cases hr : Api.handleLogin2FA a.env (tables s a) a.expiry a.now (some t.claims) code with
  | mk r db =>
    rw [hr] at hresult
    rcases hresult with ⟨hdb,hno⟩ | ⟨user,token,hrow,haccepted,hok,hsub,hdb⟩
    · dsimp only at hdb hno
      cases r with
      | error status =>
        have hrows : db.users=s.db.users := by
          rw [hdb]
          rfl
        exact .inl ⟨rfl,hrows⟩
      | ok token => exact absurd rfl (hno token)
    · dsimp only at hok hdb
      subst hok
      refine .inr ⟨user,hrow,haccepted,congrArg some hsub,?_⟩
      rcases hdb with rfl | ⟨left,hw⟩
      · exact .same
      · have huser : user∈s.db.users := (Store.getUser_row hrow).1
        have hrep:=Store.updateUser_replaced hw hkeys huser rfl
        exact .replaced hrep ⟨rfl,provider_stored _ _,rfl⟩

theorem handleLogin2FA_accepts {user : User} (h : partialClaims s a token=some t.claims)
    (hrow : ((tables s a).getUser t.username).row=some user)
    (haccepted : codeAccepted a.env (tables s a) user code=true) :
    (handleLogin2FA s a token code).1=some user.username := by
  obtain ⟨token',db,hr,hsub⟩ := @login2FA_accepts _ _ a.expiry a.now t.claims _ _ rfl hrow haccepted
  unfold handleLogin2FA
  rw [h,hr]
  exact congrArg some hsub

theorem login2FA_iff (hkeys : Keyed s.db.users) (hfresh : ∀ v∈s.db.users,v.id≠a.newID)
    (he : a.event=.login2FA token code) : BindingKept s a ↔ OfProvider s a := by
  have hrespond : respond s a=handleLogin2FA s a token code := by
    unfold respond
    rw [he]
  have hof : OfProvider s a ↔ ∀ t ∈ s.partialTokens token, JWTManager.current a.now t.claims=true →
      ∀ u∈((tables s a).getUser t.username).row, codeAccepted a.env (tables s a) u code=true →
        provider u=t.via := by
    unfold OfProvider
    rw [he]
    rfl
  rw [hof]
  constructor
  · intro hkept t ht hcurrent u hrow haccepted
    have haccepts:=handleLogin2FA_accepts (partialClaims_some ht hcurrent) hrow haccepted
    have hmethod : method s a=t.via := by
      unfold method
      rw [he]
      dsimp only
      rw [mem_def.mp ht]
      rfl
    rw [← hmethod]
    exact hkept.through u.username (hrespond ▸ haccepts) u (Store.getUser_row hrow).1 rfl
  · intro hown
    rcases @partialClaims_cases s a token with hnone | ⟨t,ht,hcurrent⟩
    · have hquiet := @handleLogin2FA_none _ _ _ code hnone
      rw [← hrespond] at hquiet
      exact bindingKept_quiet hkeys hquiet.1 hquiet.2
    · have hmethod : method s a=t.via := by
        unfold method
        rw [he]
        dsimp only
        rw [ht]
        rfl
      rcases @handleLogin2FA_some _ _ _ code _ hkeys (partialClaims_some ht hcurrent) with
        hquiet | ⟨user,hrow,haccepted,hname,hwrote⟩
      · rw [← hrespond] at hquiet
        exact bindingKept_quiet hkeys hquiet.1 hquiet.2
      · rw [← hrespond] at hname hwrote
        have hp : provider user=method s a := hmethod ▸ hown t ht hcurrent user hrow haccepted
        have huser : user∈s.db.users := (Store.getUser_row hrow).1
        refine bindingKept_login hkeys hfresh (hwrote.mono (fun v u hv => ?_) fun u hu => hu.elim) fun name hn => ?_
        · obtain ⟨rfl,hpu,hhash⟩:=hv
          exact ⟨hp,hpu.trans hp,fun _ => hhash⟩
        · rw [hname] at hn
          cases hn
          exact @named_provider s.db _ hkeys huser _ hp

end

section
variable {s : State} {a : Act}

theorem handleClientTFAVerify_rows {secret : ℕ} {code : String} :
    (handleClientTFAVerify s a secret code).2.db=s.db := by
  unfold handleClientTFAVerify
  cases s.tfaSessions secret with
  | none => rfl
  | some t =>
    dsimp only
    split
    · rfl
    · split
      · rfl
      · split <;> rfl

theorem handleClientTFAVerify_some {secret : ℕ} {code name : String} : (handleClientTFAVerify s a secret code).1=some name ↔
    ∃ t, s.tfaSessions secret=some t ∧ a.now-t.createdAt≤tfaSessionTTL ∧ code.utf8ByteSize=6 ∧
      ∃ u, ((tables s a).getUser t.username).row=some u ∧ a.env.validateTOTP u.totpSecret code=true ∧
        u.username=name := by
  unfold handleClientTFAVerify
  cases s.tfaSessions secret with
  | none =>
    refine ⟨fun h => (by cases h),?_⟩
    rintro ⟨t,h,-⟩
    cases h
  | some t =>
    dsimp only
    by_cases hold : tfaSessionTTL<a.now-t.createdAt
    · rw [if_pos hold]
      refine ⟨fun h => (by cases h),?_⟩
      rintro ⟨t',ht',hle,-⟩
      cases ht'
      omega
    rw [if_neg hold]
    by_cases hsize : code.utf8ByteSize≠6
    · rw [if_pos hsize]
      refine ⟨fun h => (by cases h),?_⟩
      rintro ⟨_,-,-,h,-⟩
      exact absurd h hsize
    rw [if_neg hsize]
    cases hrow : ((tables s a).getUser t.username).row with
    | none =>
      refine ⟨fun h => (by cases h),?_⟩
      rintro ⟨t',ht',-,-,u,hu,-⟩
      cases ht'
      rw [hrow] at hu
      cases hu
    | some user =>
      dsimp only
      constructor
      · intro h
        split at h
        · rename_i hvalid
          exact ⟨t,rfl,by omega,not_not.mp hsize,user,hrow,hvalid,Option.some.inj h⟩
        · cases h
      · rintro ⟨t',ht',-,-,u,hu,hvalid,rfl⟩
        cases ht'
        rw [hrow] at hu
        cases hu
        rw [if_pos hvalid]

theorem clientTFAVerify_iff {secret : ℕ} {code : String} (hkeys : Keyed s.db.users)
    (he : a.event=.clientTFAVerify secret code) : BindingKept s a ↔ OfProvider s a := by
  have hrespond : respond s a=handleClientTFAVerify s a secret code := by
    unfold respond
    rw [he]
  have hmethod (t : Ticket) (ht : s.tfaSessions secret=some t) : method s a=t.via := by
    unfold method
    rw [he]
    dsimp only
    rw [ht]
    rfl
  unfold OfProvider
  rw [he]
  dsimp only [OfProviderAt]
  constructor
  · intro hkept t ht hold hsize u hrow hvalid
    have hname:=handleClientTFAVerify_some.mpr ⟨t,ht,hold,hsize,u,hrow,hvalid,rfl⟩
    rw [← hmethod t ht]
    exact hkept.through u.username (hrespond ▸ hname) u (Store.getUser_row hrow).1 rfl
  · intro hown
    refine bindingKept_reads hkeys (hrespond ▸ congrArg Store.users handleClientTFAVerify_rows) fun name hname => ?_
    rw [hrespond] at hname
    obtain ⟨t,ht,hold,hsize,u,hrow,hvalid,rfl⟩:=handleClientTFAVerify_some.mp hname
    exact ⟨u,(Store.getUser_row hrow).1,rfl,(hown t ht hold hsize u hrow hvalid).trans (hmethod t ht).symm⟩

theorem completeClientPending_db {code : ℕ} {username : String} : (completeClientPending s a code username).db=s.db := by
  unfold completeClientPending
  split
  · rfl
  · split <;> rfl

theorem handleOIDCCallback_rows {result : Option OIDCResult} {cfg : Option OIDCConfig} {code : Option ℕ} :
    (handleOIDCCallback s a result cfg code).2.db=(ensureOIDCUser a.env (tables s a) a.newID result cfg).2 ∧
      (handleOIDCCallback s a result cfg code).1 =
        match (ensureOIDCUser a.env (tables s a) a.newID result cfg).1 with
        | .ok user => some user.username
        | .error _ => none := by
  unfold handleOIDCCallback
  cases ensureOIDCUser a.env (tables s a) a.newID result cfg with
  | mk r db =>
    cases r with
    | error e => exact ⟨rfl,rfl⟩
    | ok user =>
      cases code with
      | none => exact ⟨rfl,rfl⟩
      | some code => exact ⟨completeClientPending_db,rfl⟩

theorem oidcCallback_iff {result : Option OIDCResult} {cfg : Option OIDCConfig} {code : Option ℕ} (hkeys : Keyed s.db.users)
    (hfresh : ∀ v∈s.db.users,v.id≠a.newID) (he : a.event=.oidcCallback result cfg code) :
    BindingKept s a ↔ OfProvider s a := by
  have hrespond : respond s a=handleOIDCCallback s a result cfg code := by
    unfold respond
    rw [he]
  have hmethod : method s a=authProviderOIDC := by
    unfold method
    rw [he]
  obtain ⟨hrows,hname⟩ := @handleOIDCCallback_rows s a result cfg code
  rw [← hrespond] at hrows hname
  unfold OfProvider
  rw [he]
  dsimp only [OfProviderAt]
  cases result with
  | none =>
    refine iff_of_true (bindingKept_quiet hkeys hname ?_) fun r hr => (by cases hr)
    rw [hrows]
    rfl
  | some result =>
    constructor
    · intro hkept r hr hne u hrow
      cases hr
      obtain ⟨synced,hok,hsynced⟩ := @ensureOIDCUser_found a.env _ a.newID _ _ cfg hne hrow
      rw [hok] at hname
      rw [← hmethod]
      exact hkept.through synced.username hname u (Store.getUser_row hrow).1 hsynced.symm
    · intro hown
      have hwrote := @ensureOIDCUser_wrote a.env (tables s a) a.newID result cfg hkeys
      rw [← hrows] at hwrote
      refine bindingKept_login hkeys hfresh (hwrote.mono (fun v u hv => ?_) fun u hu => hu.trans hmethod.symm)
        fun name hn => ?_
      · obtain ⟨hrow,hne,hp,hhash⟩:=hv
        exact ⟨(hown result rfl hne v hrow).trans hmethod.symm,hp.trans hmethod.symm,fun _ => hhash⟩
      · rw [hname] at hn
        cases hok : (ensureOIDCUser a.env (tables s a) a.newID (some result) cfg).1 with
        | error e =>
          rw [hok] at hn
          cases hn
        | ok user =>
          rw [hok] at hn
          cases hn
          obtain ⟨huser,hne⟩:=ensureOIDCUser_ok hok
          intro u hu huname
          -- a row of that name is the one the query finds
          rcases getUser_cases (tables s a) result.username with hq | ⟨hq,hnone⟩ | ⟨v,hv,hq,hvname⟩
          · unfold ensureOIDCUser at hok
            dsimp only at hok
            rw [if_neg hne,hq] at hok
            cases hok
          · exact absurd (huname.trans huser) (hnone u hu)
          · rw [Table.eq_of_key hkeys.usernames hu hv ((huname.trans huser).trans hvname.symm),hmethod]
            exact hown result rfl hne v (by rw [hq]; rfl)

theorem handleClientOIDCAuthQuery_rows {code : ℕ} {clientID clientUUID : String} :
    (handleClientOIDCAuthQuery s a code clientID clientUUID).2.db=s.db := by
  unfold handleClientOIDCAuthQuery
  split
  · rfl
  · split
    · rfl
    · split
      · rfl
      · dsimp only
        split <;> rfl

theorem handleClientOIDCAuthQuery_some {code : ℕ} {clientID clientUUID name : String} :
    (handleClientOIDCAuthQuery s a code clientID clientUUID).1=some name ↔
      ∃ p, s.pending a.now code=some p ∧ ∃ username, p.username=some username ∧
        ofDevice p clientID clientUUID=true ∧ ∃ u, ((tables s a).getUser username).row=some u ∧ u.username=name := by
  unfold handleClientOIDCAuthQuery
  cases s.pending a.now code with
  | none =>
    refine ⟨fun h => (by cases h),?_⟩
    rintro ⟨p,h,-⟩
    cases h
  | some p =>
    dsimp only
    cases husername : p.username with
    | none =>
      refine ⟨fun h => (by cases h),?_⟩
      rintro ⟨p',hp',username,h,-⟩
      cases hp'
      rw [husername] at h
      cases h
    | some username =>
      dsimp only
      by_cases hdevice : ofDevice p clientID clientUUID=false
      · rw [if_pos hdevice]
        refine ⟨fun h => (by cases h),?_⟩
        rintro ⟨p',hp',_,-,h,-⟩
        cases hp'
        rw [hdevice] at h
        cases h
      rw [if_neg hdevice]
      constructor
      · intro h
        split at h
        · cases h
        · rename_i user hrow
          exact ⟨p,rfl,username,husername,by simpa using hdevice,user,hrow,Option.some.inj h⟩
      · rintro ⟨p',hp',username',h,-,u,hrow,rfl⟩
        cases hp'
        rw [husername] at h
        cases h
        rw [hrow]

theorem clientOIDCAuthQuery_iff {code : ℕ} {clientID clientUUID : String} (hkeys : Keyed s.db.users)
    (he : a.event=.clientOIDCAuthQuery code clientID clientUUID) : BindingKept s a ↔ OfProvider s a := by
  have hrespond : respond s a=handleClientOIDCAuthQuery s a code clientID clientUUID := by
    unfold respond
    rw [he]
  have hmethod : method s a=authProviderOIDC := by
    unfold method
    rw [he]
  unfold OfProvider
  rw [he]
  dsimp only [OfProviderAt]
  constructor
  · intro hkept p hp username husername hdevice u hrow
    have hname:=handleClientOIDCAuthQuery_some.mpr ⟨p,hp,username,husername,hdevice,u,hrow,rfl⟩
    rw [← hmethod]
    exact hkept.through u.username (hrespond ▸ hname) u (Store.getUser_row hrow).1 rfl
  · intro hown
    refine bindingKept_reads hkeys (hrespond ▸ congrArg Store.users handleClientOIDCAuthQuery_rows) fun name hname => ?_
    rw [hrespond] at hname
    obtain ⟨p,hp,username,husername,hdevice,u,hrow,rfl⟩:=handleClientOIDCAuthQuery_some.mp hname
    exact ⟨u,(Store.getUser_row hrow).1,rfl,(hown p hp username husername hdevice u hrow).trans hmethod.symm⟩

theorem cdapLogin_iff {username password code : String} (hkeys : Keyed s.db.users)
    (he : a.event=.cdapLogin username password code) : BindingKept s a ↔ OfProvider s a := by
  have hrespond : respond s a =
      ((Cdap.authUserPassword a.env (tables s a) username password code).map Prod.fst,s) := by
    unfold respond
    rw [he]
  have hmethod : method s a=authProviderLocal := by
    unfold method
    rw [he]
  unfold OfProvider
  rw [he]
  dsimp only [OfProviderAt]
  constructor
  · intro hkept hname hpassword u hrow hmatches
    have haccepted:=Cdap.authUserPassword_of_matches ⟨hname,hpassword⟩ hrow hmatches
    rw [← hmethod]
    refine hkept.through username ?_ u (Store.getUser_row hrow).1 (Store.getUser_row hrow).2
    rw [hrespond,haccepted]
    rfl
  · intro hown
    refine bindingKept_reads hkeys (by rw [hrespond]) fun name hname => ?_
    rw [hrespond] at hname
    obtain ⟨⟨name',role⟩,haccepted,rfl⟩:=map_eq_some_iff.mp hname
    obtain ⟨hne,hpassword,rfl,u,hrow,hmatches⟩:=Cdap.authUserPassword_some haccepted
    exact ⟨u,(Store.getUser_row hrow).1,(Store.getUser_row hrow).2,
      (hown hne hpassword u hrow hmatches).trans hmethod.symm⟩

structure EditEffect (users users' : List User) : Prop extends SameBinding users users' where
  keyed : Keyed users'

structure KeepsProvider (user u : User) : Prop where
  id : u.id=user.id
  authProvider : u.authProvider=user.authProvider
  passwordHash : provider user≠authProviderLocal → u.passwordHash=user.passwordHash

theorem editEffect_refl {users : List User} (hkeys : Keyed users) : EditEffect users users :=
  ⟨sameBinding_refl hkeys,hkeys⟩

theorem editEffect_update {db db' : Store} {user u : User} (h : db.updateUser u=.ok db') (hkeys : Keyed db.users)
    (huser : user∈db.users) (hkeeps : KeepsProvider user u) : EditEffect db.users db'.users := by
  have hrep:=Store.updateUser_replaced h hkeys huser hkeeps.id
  have hprovider : provider u=provider user := by
    unfold provider
    rw [hkeeps.authProvider]
  exact ⟨sameBinding_replaced hkeys hrep ((provider_stored u _).trans hprovider) hkeeps.passwordHash,hrep.keyed hkeys⟩

theorem edited_effect {r : Except ℕ Store} (hkeys : Keyed s.db.users)
    (h : ∀ db, r=.ok db → EditEffect s.db.users db.users) : EditEffect s.db.users (edited s a r).db.users := by
  cases r with
  | error status => exact editEffect_refl hkeys
  | ok db => exact h db rfl

theorem editUser_effect {id : Option ℕ} {edit : User → Except ℕ User} {db : Store} (hkeys : Keyed s.db.users)
    (hedit : ∀ user u, edit user=.ok u → KeepsProvider user u) (h : editUser s a id edit=.ok db) :
    EditEffect s.db.users db.users := by
  unfold editUser at h
  split at h
  · cases h
  · split at h
    · cases h
    · rename_i user hrow
      split at h
      · cases h
      · rename_i u hu
        split at h
        · cases h
        · rename_i db' hw
          cases h
          have heffect : EditEffect (tables s a).users db.users :=
            editEffect_update hw hkeys (Store.getUserByID_row hrow).1 (hedit user u hu)
          exact heffect

theorem setPassword_keeps {hashPassword : String → Option String} {body : UpdateUserBody} {user u : User}
    (h : setPassword hashPassword body user=.ok u) : KeepsProvider user u := by
  unfold setPassword at h
  split at h
  · cases h
    exact ⟨rfl,rfl,fun _ => rfl⟩
  · split at h
    · cases h
    · rename_i hlocal
      split at h
      · cases h
      · cases h
        refine ⟨rfl,rfl,fun hp => absurd ?_ hp⟩
        unfold provider
        split
        · rfl
        · rename_i hne
          by_contra h
          exact hlocal ⟨hne,h⟩

theorem setRole_keeps {db : Store} {ctx : Ctx} {body : UpdateUserBody} {user u : User}
    (h : setRole db ctx body user=.ok u) : KeepsProvider user u := by
  unfold setRole at h
  split at h
  · cases h
    exact ⟨rfl,rfl,fun _ => rfl⟩
  · split at h
    · cases h
    · split at h
      · cases h
      · split at h
        · cases h
        · split at h
          · cases h
          · split at h
            · cases h
            · cases h
              exact ⟨rfl,rfl,fun _ => rfl⟩

theorem KeepsProvider.trans {user u w : User} (h : KeepsProvider user u) (h' : KeepsProvider u w) : KeepsProvider user w := by
  refine ⟨h'.id.trans h.id,h'.authProvider.trans h.authProvider,fun hp => ?_⟩
  have hp' : provider u≠authProviderLocal := by
    unfold provider at hp ⊢
    rw [h.authProvider]
    exact hp
  exact (h'.passwordHash hp').trans (h.passwordHash hp)

theorem updateUser_effect {hashPassword : String → Option String} {db db' : Store} {ctx : Ctx} {id : Option ℕ}
    {body : UpdateUserBody} (hkeys : Keyed db.users) (h : handleUpdateUser hashPassword db ctx id body=.ok db') :
    EditEffect db.users db'.users := by
  cases id with
  | none => cases h
  | some id =>
    unfold handleUpdateUser at h
    dsimp only at h
    cases hrow : (db.getUserByID id).row with
    | none =>
      rw [hrow] at h
      cases h
    | some user =>
      rw [hrow] at h
      dsimp only at h
      obtain ⟨u,hpassword,h⟩:=bind_ok h
      obtain ⟨w,hrole,h⟩:=bind_ok h
      split at h
      · cases h
      · rename_i hw
        cases h
        exact editEffect_update hw hkeys (Store.getUserByID_row hrow).1
          ((setPassword_keeps hpassword).trans (setRole_keeps hrole))

theorem createUser_effect {hashPassword : String → Option String} {db db' : Store} {newID : ℕ} {ctx : Ctx}
    {body : CreateUserBody} (hkeys : Keyed db.users) (hfresh : ∀ v∈db.users,v.id≠newID)
    (h : handleCreateUser hashPassword db newID ctx body=.ok db') : EditEffect db.users db'.users := by
  unfold handleCreateUser at h
  dsimp only at h
  split at h
  · cases h
  · split at h
    · cases h
    · split at h
      · cases h
      · split at h
        · cases h
        · split at h
          · cases h
          · rename_i hcreate
            cases h
            obtain ⟨hname,hrows⟩:=Store.createUser_ok hcreate
            rw [hrows]
            exact ⟨sameBinding_append hkeys hfresh,hkeys.append hfresh hname⟩

theorem deleteUser_effect {db db' : Store} {ctx : Ctx} {id : Option ℕ} (hkeys : Keyed db.users)
    (h : handleDeleteUser db ctx id=.ok db') : EditEffect db.users db'.users := by
  cases id with
  | none => cases h
  | some id =>
    obtain ⟨-,-,-,hrows⟩:=handleDeleteUser_ok h
    rw [hrows]
    exact ⟨sameBinding_filter hkeys _,hkeys.filter _⟩

theorem setupTOTP_effect {id : Option ℕ} {secret : String} {db : Store} (hkeys : Keyed s.db.users)
    (h : handleSetupTOTP s a id secret=.ok db) : EditEffect s.db.users db.users := by
  refine editUser_effect hkeys (fun user u hu => ?_) h
  split at hu
  · cases hu
  · cases hu
    exact ⟨rfl,rfl,fun _ => rfl⟩

theorem confirmTOTP_effect {id : Option ℕ} {code : String} {hashedCodes : Option String} {db : Store}
    (hkeys : Keyed s.db.users) (h : handleConfirmTOTP s a id code hashedCodes=.ok db) :
    EditEffect s.db.users db.users := by
  refine editUser_effect hkeys (fun user u hu => ?_) h
  split at hu
  · cases hu
  · split at hu
    · cases hu
    · split at hu
      · cases hu
      · cases hu
        exact ⟨rfl,rfl,fun _ => rfl⟩

theorem disableTOTP_effect {id : Option ℕ} {db : Store} (hkeys : Keyed s.db.users)
    (h : handleDisableTOTP s a id=.ok db) : EditEffect s.db.users db.users := by
  refine editUser_effect hkeys (fun user u hu => ?_) h
  cases hu
  exact ⟨rfl,rfl,fun _ => rfl⟩

theorem bindingKept_edit {r : Except ℕ Store} (hrespond : respond s a=(none,edited s a r))
    (hlogin : a.event.isLogin=false) (heffect : EditEffect s.db.users (edited s a r).db.users) : BindingKept s a := by
  refine ⟨fun name hname => ?_,fun h => ?_,?_⟩
  · rw [hrespond] at hname
    cases hname
  · rw [hlogin] at h
    cases h
  · rw [hrespond]
    exact heffect.toSameBinding

theorem edit_effect (hkeys : Keyed s.db.users) (hfresh : ∀ v∈s.db.users,v.id≠a.newID)
    (hlogin : a.event.isLogin=false) : ∃ r, respond s a=(none,edited s a r) ∧
      EditEffect s.db.users (edited s a r).db.users := by
  unfold respond
  cases he : a.event with
  | createUser ctx body => exact ⟨_,rfl,edited_effect hkeys fun db h => @createUser_effect _ (tables s a) _ _ _ _ hkeys hfresh h⟩
  | updateUser ctx id body => exact ⟨_,rfl,edited_effect hkeys fun db h => @updateUser_effect _ (tables s a) _ _ _ _ hkeys h⟩
  | deleteUser ctx id => exact ⟨_,rfl,edited_effect hkeys fun db h => @deleteUser_effect (tables s a) _ _ _ hkeys h⟩
  | setupTOTP id secret => exact ⟨_,rfl,edited_effect hkeys fun db h => setupTOTP_effect hkeys h⟩
  | confirmTOTP id code hashedCodes => exact ⟨_,rfl,edited_effect hkeys fun db h => confirmTOTP_effect hkeys h⟩
  | disableTOTP id => exact ⟨_,rfl,edited_effect hkeys fun db h => disableTOTP_effect hkeys h⟩
  | login | login2FA | clientLogin | clientTFAVerify | clientOIDCAuth | oidcCallback
    | clientOIDCAuthQuery | cdapLogin => rw [he] at hlogin; cases hlogin

theorem bindingKept_iff (hkeys : Keyed s.db.users) (hfresh : ∀ v∈s.db.users,v.id≠a.newID) :
    BindingKept s a ↔ OfProvider s a := by
  have hedit (hlogin : a.event.isLogin=false) (hown : OfProvider s a) : BindingKept s a ↔ OfProvider s a := by
    obtain ⟨r,hrespond,heffect⟩:=edit_effect hkeys hfresh hlogin
    exact iff_of_true (bindingKept_edit hrespond hlogin heffect) hown
  cases he : a.event with
  | login username password token =>
    have hrespond : respond s a=handleLogin s a username password token := by
      unfold respond
      rw [he]
    have hmethod : method s a=authMethod a.env (tables s a) username := by
      unfold method
      rw [he]
    obtain ⟨hwrote,hthrough⟩ := @handleLogin_spec _ a username password token hkeys
    rw [← hrespond,← hmethod] at hwrote hthrough
    refine iff_of_true (bindingKept_login hkeys hfresh hwrote hthrough) ?_
    unfold OfProvider
    rw [he]
    trivial
  | clientLogin username password secret full =>
    have hrespond : respond s a=handleClientLogin s a username password secret full := by
      unfold respond
      rw [he]
    have hmethod : method s a=authMethod a.env (tables s a) username := by
      unfold method
      rw [he]
    obtain ⟨hwrote,hthrough⟩ := @handleClientLogin_spec _ a username password secret full hkeys
    rw [← hrespond,← hmethod] at hwrote hthrough
    refine iff_of_true (bindingKept_login hkeys hfresh hwrote hthrough) ?_
    unfold OfProvider
    rw [he]
    trivial
  | clientOIDCAuth clientID clientUUID code =>
    have hrespond : respond s a=(none,handleClientOIDCAuth s a clientID clientUUID code) := by
      unfold respond
      rw [he]
    refine iff_of_true (bindingKept_quiet hkeys (by rw [hrespond]) (by rw [hrespond]; rfl)) ?_
    unfold OfProvider
    rw [he]
    trivial
  | login2FA token code => exact login2FA_iff hkeys hfresh he
  | clientTFAVerify secret code => exact clientTFAVerify_iff hkeys he
  | oidcCallback result cfg code => exact oidcCallback_iff hkeys hfresh he
  | clientOIDCAuthQuery code clientID clientUUID => exact clientOIDCAuthQuery_iff hkeys he
  | cdapLogin username password code => exact cdapLogin_iff hkeys he
  | createUser | updateUser | deleteUser | setupTOTP | confirmTOTP | disableTOTP =>
      exact hedit (by rw [he]; rfl) (by unfold OfProvider; rw [he]; trivial)

theorem respond_keyed (hkeys : Keyed s.db.users) (hfresh : ∀ v∈s.db.users,v.id≠a.newID) :
    Keyed (respond s a).2.db.users := by
  have hedit (hlogin : a.event.isLogin=false) : Keyed (respond s a).2.db.users := by
    obtain ⟨r,hrespond,heffect⟩:=edit_effect hkeys hfresh hlogin
    rw [hrespond]
    exact heffect.keyed
  cases he : a.event with
  | login username password token =>
    have hwrote:=(@handleLogin_spec _ a username password token hkeys).1
    unfold respond
    rw [he]
    exact hwrote.keyed hkeys hfresh
  | clientLogin username password secret full =>
    have hwrote:=(@handleClientLogin_spec _ a username password secret full hkeys).1
    unfold respond
    rw [he]
    exact hwrote.keyed hkeys hfresh
  | login2FA token code =>
    unfold respond
    rw [he]
    dsimp only
    rcases @partialClaims_cases s a token with hnone | ⟨t,ht,hcurrent⟩
    · rw [(handleLogin2FA_none hnone).2]
      exact hkeys
    · rcases @handleLogin2FA_some _ _ _ code _ hkeys (partialClaims_some ht hcurrent) with
        ⟨-,hrows⟩ | ⟨user,-,-,-,hwrote⟩
      · rw [hrows]
        exact hkeys
      · exact hwrote.keyed hkeys hfresh
  | clientTFAVerify secret code =>
    unfold respond
    rw [he]
    dsimp only
    rw [handleClientTFAVerify_rows]
    exact hkeys
  | clientOIDCAuth | cdapLogin =>
    unfold respond
    rw [he]
    exact hkeys
  | oidcCallback result cfg code =>
    unfold respond
    rw [he]
    dsimp only
    rw [handleOIDCCallback_rows.1]
    cases result with
    | none => exact hkeys
    | some result =>
      exact (@ensureOIDCUser_wrote a.env (tables s a) a.newID result cfg
        hkeys).keyed hkeys hfresh
  | clientOIDCAuthQuery code clientID clientUUID =>
    unfold respond
    rw [he]
    dsimp only
    rw [handleClientOIDCAuthQuery_rows]
    exact hkeys
  | createUser | updateUser | deleteUser | setupTOTP | confirmTOTP | disableTOTP => exact hedit (by rw [he]; rfl)

theorem step_some {t : State} (h : step s a=some t) : (∀ v∈s.db.users,v.id≠a.newID) ∧ t=(respond s a).2 := by
  unfold step at h
  split at h
  · cases h
  · rename_i hno
    cases h
    refine ⟨fun v hv hid => hno (any_eq_true.mpr ⟨v,hv,by simpa using hid⟩),rfl⟩

end

/-- In a run of requests every one of them keeps the bindings just when the logins other than
by password come upon accounts of their own provider. -/
theorem bindings_kept_iff (db : Store) (as : List Act) (t : State) (hkeys : Keyed db.users)
    (hrun : exec step (.start db) as=some t) :
    Along step BindingKept (.start db) as ↔ Along step OfProvider (.start db) as := by
  refine along_iff (fun s => Keyed s.db.users) (fun s a t hs hst => ?_) (fun s a t hs hst => ?_) hkeys hrun
  · obtain ⟨hfresh,rfl⟩:=step_some hst
    exact respond_keyed hs hfresh
  · exact bindingKept_iff hs (step_some hst).1

def plainLogins : LoginEnv where
  verifyPassword hash password := hash==password
  needsRehash _ := false
  hashPassword := some
  randomSecret := "unusable"
  ldapEnabled := false
  ldapAuthenticate _ _ := none
  validateTOTP _ _ := false
  consumeRecoveryCode _ _ := none

def localAdmin : Store := {Store.empty with users :=
  [⟨1,"anna","secret",roleAdmin,false,authProviderLocal,"",false,""⟩]}

theorem keyed_localAdmin : Keyed localAdmin.users := ⟨by decide,by decide⟩

def request (event : Event) : Act := ⟨plainLogins,fun _ => false,0,3600,2,event⟩

/-- `eva` is new and comes from the provider, `anna` has her password. -/
def ownProviders : List Act :=
  [request (.login "anna" "secret" 0),request (.oidcCallback (some ⟨"eva",roleOperator,true⟩) (some ⟨true⟩) none),
    {request (.cdapLogin "anna" "secret" "") with newID := 3}]

theorem bindings_kept_own : ∃ t, exec step (.start localAdmin) ownProviders=some t ∧
    Along step BindingKept (.start localAdmin) ownProviders := by
  have hrun : (exec step (.start localAdmin) ownProviders).isSome=true := by decide
  obtain ⟨t,ht⟩:=isSome_iff_exists.mp hrun
  have hiff:=bindings_kept_iff localAdmin ownProviders t keyed_localAdmin ht
  exact ⟨t,ht,hiff.mpr (by decide)⟩

/-- Someone else's `anna` comes from the provider. -/
def otherAnna : Act := request (.oidcCallback (some ⟨"anna",roleViewer,true⟩) (some ⟨false⟩) none)

theorem admin_taken_over : ¬ ∀ (db : Store) (as : List Act) (t : State), Keyed db.users →
    exec step (.start db) as=some t → Along step BindingKept (.start db) as := by
  intro h
  have hrun : (exec step (.start localAdmin) [otherAnna]).isSome=true := by decide
  obtain ⟨t,ht⟩:=isSome_iff_exists.mp hrun
  have hkept:=(h localAdmin [otherAnna] t keyed_localAdmin ht).1
  have haccepted : (respond (.start localAdmin) otherAnna).1=some "anna" := by decide
  have hthrough:=hkept.through "anna" haccepted _ mem_cons_self rfl
  revert hthrough
  decide

end BetterDesk.Api.Providers
