import BetterDesk.RemoteTarget.Targets
import BetterDesk.Lib.Exec

/-! # Tenancy of remote targets -/

namespace BetterDesk.RemoteTarget.Tenancy
open Text Auth Db Api Table Exec List Option

/-- Scoped as `peerOrgScopeCheck` has it. -/
def orgScoped (ctx : Ctx) : Bool :=
  ctx.orgID≠""&&!(isSuperAdminRole ctx.role||ctx.role==roleGlobalAdmin)

structure Confined (targets : Targets) (orgID : OrgID) (reply : Reply) : Prop where
  shown : ∀ t∈reply.shown,t.orgID=orgID
  changed : ∀ t, Changed targets reply.targets t → t.orgID=orgID
  connected : ∀ t, reply.connected=some t → t.orgID=orgID

structure KeepsOmitted (body : RemoteTargetRequest) (old new : Row) : Prop where
  orgID : body.orgID="" → new.orgID=old.orgID
  name : body.name="" → new.name=old.name
  protocol : body.protocol="" → new.protocol=old.protocol
  platform : body.platform="" → new.platform=old.platform
  host : body.host="" → new.host=old.host
  port : body.port=0 → new.port=old.port
  username : body.username="" → new.username=old.username
  credentialMode : body.credentialMode="" → new.credentialMode=old.credentialMode
  tlsMode : body.tlsMode="" → new.tlsMode=old.tlsMode
  certFingerprint : body.certFingerprint="" → new.certFingerprint=old.certFingerprint
  enabled : body.enabled=none → new.enabled=old.enabled
  credential : new.credentialCiphertext=old.credentialCiphertext ∧
    new.credentialNonce=old.credentialNonce ∧ new.credentialKeyID=old.credentialKeyID
  origin : new.id=old.id ∧ new.createdBy=old.createdBy

variable (u : CaseMap)

structure InTenancy (targets : Targets) (a : Action) : Prop where
  confined : orgScoped a.ctx=true → Confined targets a.ctx.orgID (a.reply u targets)
  kept : ∀ id body, a.request=.update id (some body) → ∀ old new,
    getRemoteTarget targets id=some old →
      getRemoteTarget (a.reply u targets).targets id=some new →
        KeepsOmitted body old new

def owns (targets : Targets) (orgID : OrgID) (id : String) : Bool :=
  targets.all fun t => t.id≠id||t.orgID=orgID

def Request.within (env : Env) (targets : Targets) (orgID : OrgID) : Request → Bool
  | list asked includeDisabled => trimString asked=orgID ||
      targets.all fun t => t.orgID≠trimString asked||!(includeDisabled||t.enabled)
  | get id | credentialStatus id | delete id | clearCredentials id => owns targets orgID id
  | create _ body => body.all fun b =>
      (validateRemoteTargetRequest u env b).toOption.isNone||trimString b.orgID=orgID
  | update id body => body.all fun b => (getRemoteTarget targets id).all fun t =>
      (validateRemoteTargetRequest u env (mergeUpdate b t)).toOption.isNone ||
        (owns targets orgID id&&(b.orgID=""||trimString b.orgID=orgID))
  | setCredentials id body => env.vaultSeal.isNone||body.all fun b =>
      b.password=""||owns targets orgID id
  | acceptCertificate id fingerprint => fingerprint.all fun f =>
      !matchesFingerprint (normalizeFingerprint u f)||owns targets orgID id
  | tunnel id => targets.all fun t => t.id≠trimString id||!t.enabled||t.orgID=orgID

def Request.keepsPlatform (env : Env) (targets : Targets) : Request → Bool
  | update id (some b) => b.platform≠""||(getRemoteTarget targets id).all fun t =>
      (validateRemoteTargetRequest u env (mergeUpdate b t)).toOption.isNone||t.platform=""
  | _ => true

def inOrder (targets : Targets) (a : Action) : Bool :=
  !(requirePermission a.db a.request.permission a.ctx).passes ||
    ((!orgScoped a.ctx||a.request.within u a.env targets a.ctx.orgID)&&a.request.keepsPlatform u a.env targets)

structure Normal (t : Row) : Prop where
  orgID : trimString t.orgID=t.orgID
  name : trimString t.name=t.name
  protocol : t.protocol∈["rdp","vnc"]
  host : trimString t.host=t.host
  username : trimString t.username=t.username
  credentialMode : t.credentialMode∈["saved","prompt","none"]
  tlsMode : t.tlsMode∈["required","preferred","disabled"]
  certFingerprint : lowered u t.certFingerprint=t.certFingerprint

variable {u} {env : Env} {targets : Targets} {orgID : OrgID}

variable {id s : String} {b : RemoteTargetRequest} {shown : List Row} {old t : Row}

theorem getRemoteTarget_mem (h : getRemoteTarget targets id=some t) : t∈targets ∧ t.id=id :=
  ⟨mem_of_find?_eq_some h,by simpa using List.find?_some h⟩

theorem owns_get (h : owns targets orgID id=true) (hget : getRemoteTarget targets id=some t) : t.orgID=orgID := by
  obtain ⟨hmem,hid⟩:=getRemoteTarget_mem hget
  have hrow:=all_eq_true.mp h t hmem
  simpa only [hid,ne_eq,not_true,decide_false,Bool.false_or,decide_eq_true_eq] using hrow

theorem withTarget_cases (env : Env) (targets : Targets) (id : String) (k : Row → Reply) :
    (∃ status, withTarget env targets id k=refuse targets status) ∨
      ∃ t, getRemoteTarget targets id=some t ∧ withTarget env targets id k=k t := by
  unfold withTarget
  split
  · exact .inl ⟨500,rfl⟩
  · cases h : getRemoteTarget targets id with
    | none => exact .inl ⟨404,rfl⟩
    | some t => exact .inr ⟨t,rfl,rfl⟩

theorem refuse_confined (targets : Targets) (orgID : OrgID) (status : ℕ) :
    Confined targets orgID (refuse targets status) :=
  ⟨fun _ h => absurd h not_mem_nil,fun _ h => absurd h not_changed_self,fun _ h => nomatch h⟩

theorem withTarget_confined {k : Row → Reply}
    (h : ∀ t, getRemoteTarget targets id=some t → Confined targets orgID (k t)) :
    Confined targets orgID (withTarget env targets id k) := by
  rcases withTarget_cases env targets id k with ⟨status,hr⟩ | ⟨t,ht,hr⟩
  · exact hr ▸ refuse_confined ..
  · exact hr ▸ h t ht

theorem shows_confined (status : ℕ) (h : ∀ t∈shown,t.orgID=orgID) :
    Confined targets orgID ⟨status,shown,none,targets⟩ :=
  ⟨h,fun _ h => absurd h not_changed_self,fun _ h => nomatch h⟩

theorem store_confined {target : Row} (hid : owns targets orgID target.id=true)
    (ho : target.orgID=orgID) (hs : ∀ t∈shown,t.orgID=orgID) :
    Confined targets orgID (store env targets target shown) := by
  unfold store
  split
  · exact refuse_confined ..
  · refine ⟨hs,fun t ht => ?_,fun _ h => nomatch h⟩
    obtain ⟨y,hy,hne,heq⟩:=changed_map ht
    have hyid : y.id=target.id := by
      by_contra hno
      exact hne (if_neg hno)
    rw [if_pos hyid] at heq
    rcases heq with rfl | rfl
    · have hrow:=all_eq_true.mp hid t hy
      simpa only [hyid,ne_eq,not_true,decide_false,Bool.false_or,decide_eq_true_eq] using hrow
    · exact ho

structure Validated (u : CaseMap) (b b' : RemoteTargetRequest) : Prop where
  orgID : b'.orgID=trimString b.orgID
  name : b'.name=trimString b.name
  protocol : b'.protocol=lowered u b.protocol ∧ b'.protocol∈["rdp","vnc"]
  platform : b'.platform=trimString b.platform
  host : b'.host=trimString b.host
  port : b'.port=b.port
  username : b'.username=trimString b.username
  credentialMode : b'.credentialMode=orDefault (lowered u b.credentialMode) "prompt" ∧
    b'.credentialMode∈["saved","prompt","none"]
  tlsMode : b'.tlsMode=orDefault (lowered u b.tlsMode) "preferred" ∧
    b'.tlsMode∈["required","preferred","disabled"]
  certFingerprint : b'.certFingerprint=lowered u b.certFingerprint
  enabled : b'.enabled=b.enabled

theorem oneOf_ok {r e : String} {l : List String} (h : oneOf s l e=.ok r) : r=s ∧ r∈l := by
  unfold oneOf at h
  split at h
  · cases h
    exact ⟨rfl,by assumption⟩
  · cases h

theorem validateRemoteTargetRequest_ok {b' : RemoteTargetRequest}
    (h : validateRemoteTargetRequest u env b=.ok b') : Validated u b b' := by
  obtain ⟨-,-,h⟩:=Exec.bind_ok h
  obtain ⟨protocol,hprotocol,h⟩:=Exec.bind_ok h
  obtain ⟨-,-,h⟩:=Exec.bind_ok h
  obtain ⟨-,-,h⟩:=Exec.bind_ok h
  obtain ⟨-,-,h⟩:=Exec.bind_ok h
  obtain ⟨credentialMode,hcredentialMode,h⟩:=Exec.bind_ok h
  obtain ⟨tlsMode,htlsMode,h⟩:=Exec.bind_ok h
  obtain ⟨-,-,h⟩:=Exec.bind_ok h
  cases h
  exact ⟨rfl,rfl,oneOf_ok hprotocol,rfl,rfl,rfl,rfl,oneOf_ok hcredentialMode,
    oneOf_ok htlsMode,rfl,rfl⟩

theorem toLower_toLower (s : String) : u.toLower (u.toLower s)=u.toLower s := by
  have hcomp : u.lower ∘ u.lower=u.lower := funext u.idem
  simp [CaseMap.toLower,hcomp]

theorem lowered_lowered (s : String) : lowered u (lowered u s)=lowered u s := by
  have htrim : trimString (u.toLower (trimString s))=u.toLower (trimString (trimString s)) :=
    trimString_map u.space (trimString s)
  rw [lowered,lowered,htrim,trimString_trimString,toLower_toLower]

theorem lowered_eq_self (h : ∀ c∈s.toList,c.toNat<128 ∧ c.toLower=c ∧ isSpace c=false) : lowered u s=s := by
  have hmap : s.toList.map u.lower=s.toList := by
    conv_rhs => rw [← map_id s.toList]
    refine map_congr_left fun c hc => ?_
    obtain ⟨hascii,hlower,-⟩:=h c hc
    rw [u.ascii c hascii,hlower,id]
  rw [lowered,trimString_eq_self fun c hc => (h c hc).2.2,CaseMap.toLower,hmap,String.ofList_toList]

theorem lowered_mem {l : List String} (h : s∈l)
    (hl : (l.all fun t => t.toList.all fun c => c.toNat<128 ∧ c.toLower=c ∧ isSpace c=false)=true) : lowered u s=s :=
  lowered_eq_self fun c hc => decide_eq_true_eq.mp (all_eq_true.mp (all_eq_true.mp hl s h) c hc)

theorem lowered_fingerprint (s : String) : lowered u (normalizeFingerprint u s)=normalizeFingerprint u s := by
  have htrim : trimString (normalizeFingerprint u s)=normalizeFingerprint u s := by
    refine trimString_eq_self fun c hc => ?_
    rw [normalizeFingerprint,CaseMap.toLower,String.toList_ofList,String.toList_ofList] at hc
    obtain ⟨d,hd,rfl⟩:=mem_map.mp hc
    rw [u.space]
    simpa using (mem_filter.mp hd).2
  rw [lowered,htrim,normalizeFingerprint,toLower_toLower]

theorem validated_normal {b' : RemoteTargetRequest} (h : Validated u b b')
    (ht : t.orgID=b'.orgID ∧ t.name=b'.name ∧ t.protocol=b'.protocol ∧ t.host=b'.host ∧
      t.username=b'.username ∧ t.credentialMode=b'.credentialMode ∧ t.tlsMode=b'.tlsMode ∧
      t.certFingerprint=b'.certFingerprint) : Normal u t := by
  obtain ⟨horg,hname,hprotocol,hhost,husername,hmode,htls,hcert⟩:=ht
  refine ⟨?_,?_,hprotocol ▸ h.protocol.2,?_,?_,hmode ▸ h.credentialMode.2,htls ▸ h.tlsMode.2,?_⟩
  · rw [horg,h.orgID,trimString_trimString]
  · rw [hname,h.name,trimString_trimString]
  · rw [hhost,h.host,trimString_trimString]
  · rw [husername,h.username,trimString_trimString]
  · rw [hcert,h.certFingerprint,lowered_lowered]

theorem orDefault_empty {default : String} (h : s="") : orDefault s default=default := if_pos h

theorem orDefault_ne {default : String} (h : s≠"") : orDefault s default=s := if_neg h

theorem updatedTarget_kept {body : RemoteTargetRequest} (hn : Normal u old)
    (h : Validated u (mergeUpdate body old) b) (hp : body.platform="" → old.platform="") :
    KeepsOmitted body old (updatedTarget old b) where
  orgID he := h.orgID.trans ((congrArg trimString (orDefault_empty he)).trans hn.orgID)
  name he := h.name.trans ((congrArg trimString (orDefault_empty he)).trans hn.name)
  protocol he := h.protocol.1.trans ((congrArg (lowered u) (orDefault_empty he)).trans
    (lowered_mem hn.protocol (by decide)))
  platform he := h.platform.trans ((congrArg trimString he).trans (hp he).symm)
  host he := h.host.trans ((congrArg trimString (orDefault_empty he)).trans hn.host)
  port he := h.port.trans (if_pos he)
  username he := h.username.trans ((congrArg trimString (orDefault_empty he)).trans hn.username)
  credentialMode he := by
    have hmode : lowered u (mergeUpdate body old).credentialMode=old.credentialMode :=
      (congrArg (lowered u) (orDefault_empty he)).trans (lowered_mem hn.credentialMode (by decide))
    have hne : old.credentialMode≠"" := fun hno => absurd (hno ▸ hn.credentialMode) (by decide)
    exact h.credentialMode.1.trans (by rw [hmode,orDefault_ne hne])
  tlsMode he := by
    have hmode : lowered u (mergeUpdate body old).tlsMode=old.tlsMode :=
      (congrArg (lowered u) (orDefault_empty he)).trans (lowered_mem hn.tlsMode (by decide))
    have hne : old.tlsMode≠"" := fun hno => absurd (hno ▸ hn.tlsMode) (by decide)
    exact h.tlsMode.1.trans (by rw [hmode,orDefault_ne hne])
  certFingerprint he :=
    h.certFingerprint.trans ((congrArg (lowered u) (orDefault_empty he)).trans hn.certFingerprint)
  enabled he := (congrArg (Option.getD · old.enabled) (h.enabled.trans he)).trans rfl
  credential := ⟨rfl,rfl,rfl⟩
  origin := ⟨rfl,rfl⟩

theorem keepsOmitted_refl (body : RemoteTargetRequest) (old : Row) : KeepsOmitted body old old :=
  ⟨fun _ => rfl,fun _ => rfl,fun _ => rfl,fun _ => rfl,fun _ => rfl,fun _ => rfl,fun _ => rfl,
    fun _ => rfl,fun _ => rfl,fun _ => rfl,fun _ => rfl,⟨rfl,rfl,rfl⟩,⟨rfl,rfl⟩⟩

theorem getRemoteTarget_update {new : Row} (hid : new.id=id) (h : getRemoteTarget targets id=some old) :
    getRemoteTarget (updateRemoteTarget targets new) id=some new := by
  subst hid
  obtain ⟨hmem,hold⟩:=getRemoteTarget_mem h
  have hkeep : ((fun t : Row => decide (t.id=new.id)) ∘ fun t => if t.id=new.id then new else t) =
      fun t => decide (t.id=new.id) := by
    funext t
    by_cases ht : t.id=new.id
    · rw [Function.comp_apply,if_pos ht,ht]
    · rw [Function.comp_apply,if_neg ht]
  rw [getRemoteTarget,updateRemoteTarget,List.find?_map,hkeep]
  exact (congrArg _ h).trans (congrArg some (if_pos hold))

theorem handleUpdateRemoteTarget_kept {body : RemoteTargetRequest} {new : Row}
    (hn : ∀ t∈targets,Normal u t) (hget : getRemoteTarget targets id=some old)
    (hp : body.platform="" → ∀ b, validateRemoteTargetRequest u env (mergeUpdate body old)=.ok b →
      old.platform="")
    (hnew : getRemoteTarget (handleUpdateRemoteTarget u env targets id (some body)).targets id =
      some new) : KeepsOmitted body old new := by
  have hsame (hno : getRemoteTarget targets id=some new) : KeepsOmitted body old new := by
    rw [hget] at hno
    cases hno
    exact keepsOmitted_refl body old
  unfold handleUpdateRemoteTarget at hnew
  rcases withTarget_cases env targets id _ with ⟨status,hr⟩ | ⟨t,ht,hr⟩
  · rw [hr] at hnew
    exact hsame hnew
  · rw [hr] at hnew
    rw [hget] at ht
    cases ht
    dsimp only at hnew
    split at hnew
    · exact hsame hnew
    · rename_i b hb
      unfold store at hnew
      split at hnew
      · exact hsame hnew
      · obtain ⟨hmem,hid⟩:=getRemoteTarget_mem hget
        have hupdated : getRemoteTarget (updateRemoteTarget targets (updatedTarget old b)) id =
            some (updatedTarget old b) := getRemoteTarget_update hid hget
        cases hupdated.symm.trans hnew
        exact updatedTarget_kept (hn old hmem) (validateRemoteTargetRequest_ok hb) fun he => hp he b hb

theorem handleUpdateRemoteTarget_confined {body : Option RemoteTargetRequest} (hn : ∀ t∈targets,Normal u t)
    (h : (Request.update id body).within u env targets orgID=true) :
    Confined targets orgID (handleUpdateRemoteTarget u env targets id body) := by
  refine withTarget_confined fun t ht => ?_
  obtain ⟨hmem,hid⟩:=getRemoteTarget_mem ht
  split
  · exact refuse_confined ..
  · rename_i b
    split
    · exact refuse_confined ..
    · rename_i b' hb
      simp only [Request.within,all_some,ht,hb,Except.toOption,isNone_some,
        Bool.false_or,Bool.and_eq_true,Bool.or_eq_true,decide_eq_true_eq] at h
      have hold : trimString t.orgID=orgID := (hn t hmem).orgID.trans (owns_get h.1 ht)
      have hmerged : trimString (orDefault b.orgID t.orgID)=orgID := by
        by_cases he : b.orgID=""
        · rw [orDefault_empty he,hold]
        · rw [orDefault_ne he,h.2.resolve_left he]
      have horg : (updatedTarget t b').orgID=orgID := (validateRemoteTargetRequest_ok hb).orgID.trans hmerged
      exact store_confined ((congrArg (owns targets orgID) hid).trans h.1) horg
        fun x hx => mem_singleton.mp hx ▸ horg

theorem handleSetRemoteTargetCredentials_confined {body : Option RemoteTargetCredentialRequest}
    (h : (Request.setCredentials id body).within u env targets orgID=true) :
    Confined targets orgID (handleSetRemoteTargetCredentials env targets id body) := by
  unfold handleSetRemoteTargetCredentials
  split
  · exact refuse_confined ..
  · rename_i sealValue hv
    refine withTarget_confined fun t ht => ?_
    obtain ⟨-,hid⟩:=getRemoteTarget_mem ht
    split
    · exact refuse_confined ..
    · rename_i body
      dsimp only
      split
      · exact refuse_confined ..
      · split
        · exact refuse_confined ..
        · rename_i hp
          have howns : owns targets orgID id=true := by
            simpa only [Request.within,hv,isNone_some,all_some,Bool.false_or,hp,
              decide_false] using h
          split
          · exact refuse_confined ..
          · have horg : t.orgID=orgID := owns_get howns ht
            exact store_confined ((congrArg (owns targets orgID) hid).trans howns) horg
              fun _ hx => absurd hx not_mem_nil

theorem handleRemoteTargetTunnel_confined (h : (Request.tunnel id).within u env targets orgID=true) :
    Confined targets orgID (handleRemoteTargetTunnel u env targets id) := by
  unfold handleRemoteTargetTunnel
  split
  · exact refuse_confined ..
  · rename_i t ht
    obtain ⟨hget,hon⟩:=filter_eq_some_iff.mp ht
    have hrow : getRemoteTarget targets (trimString id)=some t := by
      split at hget
      · cases hget
      · exact hget
    obtain ⟨hmem,hid⟩:=getRemoteTarget_mem hrow
    have horg : t.orgID=orgID := by
      have hall:=all_eq_true.mp h t hmem
      simpa [hid,hon] using hall
    split
    · exact refuse_confined ..
    · split
      · exact refuse_confined ..
      · split
        · exact refuse_confined ..
        · exact ⟨fun _ h => absurd h not_mem_nil,fun _ h => absurd h not_changed_self,
            fun x hx => Option.some.inj hx ▸ horg⟩

theorem handle_confined (username : String) {r : Request} (hn : ∀ t∈targets,Normal u t)
    (h : r.within u env targets orgID=true) : Confined targets orgID (r.handle u env targets username) := by
  cases r with
  | list asked includeDisabled =>
    simp only [Request.handle,handleListRemoteTargets]
    split
    · exact refuse_confined ..
    · refine shows_confined 200 fun t ht => ?_
      obtain ⟨hmem,hrow⟩:=mem_filter.mp ht
      simp only [Bool.and_eq_true,decide_eq_true_eq] at hrow
      simp only [Request.within,Bool.or_eq_true,decide_eq_true_eq] at h
      rcases h with hasked | hnone
      · exact hrow.1.trans hasked
      · have hall:=all_eq_true.mp hnone t hmem
        simp [hrow.1,hrow.2] at hall
  | get | credentialStatus =>
    exact withTarget_confined fun t ht =>
      shows_confined 200 fun x hx => mem_singleton.mp hx ▸ owns_get h ht
  | create newID body =>
    simp only [Request.handle,handleCreateRemoteTarget]
    split
    · exact refuse_confined ..
    · rename_i b
      split
      · exact refuse_confined ..
      · rename_i b' hb
        have hasked : trimString b.orgID=orgID := by
          simpa only [Request.within,all_some,hb,Except.toOption,isNone_some,
            Bool.false_or,decide_eq_true_eq] using h
        have horg : (newTarget newID username b').orgID=orgID :=
          (validateRemoteTargetRequest_ok hb).orgID.trans hasked
        split
        · exact refuse_confined ..
        · exact ⟨fun x hx => mem_singleton.mp hx ▸ horg,
            fun x hx => mem_singleton.mp (changed_append hx) ▸ horg,fun _ h => nomatch h⟩
  | update id body => exact handleUpdateRemoteTarget_confined hn h
  | delete id =>
    simp only [Request.handle,handleDeleteRemoteTarget]
    split
    · exact refuse_confined ..
    · refine ⟨fun _ h => absurd h not_mem_nil,fun x hx => ?_,fun _ h => nomatch h⟩
      obtain ⟨hmem,hid⟩:=changed_filter hx
      have hrow:=all_eq_true.mp h x hmem
      simpa only [hid,Bool.false_or,decide_eq_true_eq] using hrow
  | setCredentials id body => exact handleSetRemoteTargetCredentials_confined h
  | clearCredentials id =>
    refine withTarget_confined fun t ht => ?_
    obtain ⟨-,hid⟩:=getRemoteTarget_mem ht
    have horg : t.orgID=orgID := owns_get h ht
    exact store_confined ((congrArg (owns targets orgID) hid).trans h) horg
      fun _ hx => absurd hx not_mem_nil
  | acceptCertificate id fingerprint =>
    refine withTarget_confined fun t ht => ?_
    obtain ⟨-,hid⟩:=getRemoteTarget_mem ht
    cases fingerprint with
    | none => exact refuse_confined ..
    | some f =>
      dsimp only
      split
      · exact refuse_confined ..
      · rename_i hf
        have howns : owns targets orgID id=true := by
          simpa only [Request.within,all_some,hf,Bool.not_eq_false,Bool.not_true,
            Bool.false_or] using h
        have horg : t.orgID=orgID := owns_get howns ht
        exact store_confined ((congrArg (owns targets orgID) hid).trans howns) horg
          fun _ hx => absurd hx not_mem_nil
  | tunnel id =>
    rw [Request.handle]
    exact handleRemoteTargetTunnel_confined h

theorem withTarget_normal {k : Row → Reply} (hn : ∀ t∈targets,Normal u t)
    (h : ∀ t, Normal u t → ∀ x∈(k t).targets, Normal u x) :
    ∀ x∈(withTarget env targets id k).targets, Normal u x := by
  rcases withTarget_cases env targets id k with ⟨status,hr⟩ | ⟨t,ht,hr⟩
  · exact hr ▸ hn
  · exact hr ▸ h t (hn t (getRemoteTarget_mem ht).1)

theorem store_normal {target : Row} (hn : ∀ t∈targets,Normal u t)
    (ht : Normal u target) : ∀ x∈(store env targets target shown).targets, Normal u x := by
  unfold store
  split
  · exact hn
  · intro x hx
    obtain ⟨y,hy,rfl⟩:=mem_map.mp hx
    split
    · exact ht
    · exact hn y hy

theorem handleSetRemoteTargetCredentials_normal
    {body : Option RemoteTargetCredentialRequest} (hn : ∀ t∈targets,Normal u t) :
    ∀ x∈(handleSetRemoteTargetCredentials env targets id body).targets, Normal u x := by
  unfold handleSetRemoteTargetCredentials
  split
  · exact hn
  · refine withTarget_normal hn fun t ht => ?_
    split
    · exact hn
    · dsimp only
      split
      · exact hn
      · split
        · exact hn
        · split
          · exact hn
          · exact store_normal hn {ht with
              username := trimString_trimString _
              credentialMode := mem_cons_self}

theorem handle_normal (username : String) (r : Request) (hn : ∀ t∈targets,Normal u t) :
    ∀ x∈(r.handle u env targets username).targets, Normal u x := by
  cases r with
  | list asked includeDisabled =>
    simp only [Request.handle,handleListRemoteTargets]
    split <;> exact hn
  | get | credentialStatus => exact withTarget_normal hn fun _ _ => hn
  | create newID body =>
    simp only [Request.handle,handleCreateRemoteTarget]
    split
    · exact hn
    · split
      · exact hn
      · rename_i b' hb
        have hnew : Normal u (newTarget newID username b') :=
          validated_normal (validateRemoteTargetRequest_ok hb) ⟨rfl,rfl,rfl,rfl,rfl,rfl,rfl,rfl⟩
        split
        · exact hn
        · intro x hx
          rcases mem_append.mp hx with hold | hx
          · exact hn x hold
          · exact mem_singleton.mp hx ▸ hnew
  | update id body =>
    refine withTarget_normal hn fun t _ => ?_
    split
    · exact hn
    · split
      · exact hn
      · rename_i b' hb
        exact store_normal hn
          (validated_normal (validateRemoteTargetRequest_ok hb) ⟨rfl,rfl,rfl,rfl,rfl,rfl,rfl,rfl⟩)
  | delete id =>
    simp only [Request.handle,handleDeleteRemoteTarget]
    split
    · exact hn
    · exact fun x hx => hn x (mem_of_mem_filter hx)
  | setCredentials id body => exact handleSetRemoteTargetCredentials_normal hn
  | clearCredentials id =>
    refine withTarget_normal hn fun t ht => ?_
    exact store_normal hn {ht with credentialMode := mem_cons_of_mem _ mem_cons_self}
  | acceptCertificate id fingerprint =>
    refine withTarget_normal hn fun t ht => ?_
    cases fingerprint with
    | none => exact hn
    | some f =>
      dsimp only
      split
      · exact hn
      · exact store_normal hn {ht with certFingerprint := lowered_fingerprint f}
  | tunnel id =>
    simp only [Request.handle,handleRemoteTargetTunnel]
    split
    · exact hn
    · split
      · exact hn
      · split
        · exact hn
        · split <;> exact hn

theorem reply_cases (u : CaseMap) (targets : Targets) (a : Action) :
    ((requirePermission a.db a.request.permission a.ctx).passes=false ∧
        ∃ status, a.reply u targets=refuse targets status) ∨
      (requirePermission a.db a.request.permission a.ctx).passes=true ∧
        a.reply u targets=a.request.handle u a.env targets a.ctx.username := by
  unfold Action.reply
  cases requirePermission a.db a.request.permission a.ctx with
  | error status => exact .inl ⟨rfl,status,rfl⟩
  | ok _ => exact .inr ⟨rfl,rfl⟩

theorem reply_normal (a : Action) (hn : ∀ t∈targets,Normal u t) : ∀ x∈(a.reply u targets).targets, Normal u x := by
  rcases reply_cases u targets a with ⟨-,status,hr⟩ | ⟨-,hr⟩
  · exact hr ▸ hn
  · exact hr ▸ handle_normal a.ctx.username a.request hn

theorem inTenancy_of_inOrder {a : Action} (hn : ∀ t∈targets,Normal u t)
    (h : inOrder u targets a=true) : InTenancy u targets a := by
  rcases reply_cases u targets a with ⟨-,status,hr⟩ | ⟨hpass,hr⟩
  · refine ⟨fun _ => hr ▸ refuse_confined ..,fun id body _ old new hold hnew => ?_⟩
    rw [hr] at hnew
    cases hold.symm.trans hnew
    exact keepsOmitted_refl body old
  · simp only [inOrder,hpass,Bool.not_true,Bool.false_or,Bool.and_eq_true,Bool.or_eq_true] at h
    refine ⟨fun hscope => ?_,fun id body hreq old new hold hnew => ?_⟩
    · have hwithin:=h.1.resolve_left (by rw [hscope]; exact Bool.false_ne_true)
      exact hr ▸ handle_confined a.ctx.username hn hwithin
    · rw [hr,hreq] at hnew
      refine handleUpdateRemoteTarget_kept hn hold (fun he b hb => ?_) hnew
      have hkeeps:=h.2
      rw [hreq] at hkeeps
      simpa [Request.keepsPlatform,he,hold,hb,Except.toOption] using hkeeps

/-- From the empty table, as long as scoped callers name their own targets and
updates name the platform. -/
theorem remote_targets_in_tenancy (u : CaseMap) (as : List Action)
    (h : Along (step u) (fun targets a => inOrder u targets a=true) [] as) : Along (step u) (InTenancy u) [] as := by
  refine h.of_invariant (fun targets => ∀ t∈targets,Normal u t) ?_
    (fun _ _ hn hok => inTenancy_of_inOrder hn hok) fun _ h => absurd h not_mem_nil
  intro targets a targets' hn _ ht
  cases ht
  exact reply_normal a hn

def latinCase : CaseMap where
  lower := Char.toLower
  ascii _ _ := rfl
  idem c := by
    rcases toLower_cases c with h | h
    · rw [h,h]
    · have hall : (((List.range' 65 26).map Char.ofNat).all fun c => c.toLower.toLower=c.toLower)=true := by
        decide
      exact decide_eq_true_eq.mp (all_eq_true.mp hall c h)
  space c := by
    rcases toLower_cases c with h | h
    · rw [h]
    · have hall : (((List.range' 65 26).map Char.ofNat).all fun c => isSpace c.toLower=isSpace c)=true := by
        decide
      exact decide_eq_true_eq.mp (all_eq_true.mp hall c h)

def officeEnv : Env where
  parseIP host := host="198.51.100.7"
  lookupIP host := if host="pc7.example.com" then ["198.51.100.7"] else []
  blockedIP ip := ip="127.0.0.1"
  certMatches _ _ _ _ := true
  gateway := true
  vaultSeal := none
  fails _ := false

/-- `ops` of the organization `acme` and an administrator without one. -/
def ofOps (request : Request) : Action := ⟨⟨roleOperator,"ops","acme"⟩,.empty,officeEnv,request⟩
def ofRoot (request : Request) : Action := ⟨⟨roleSuperAdmin,"root",""⟩,.empty,officeEnv,request⟩

def officePC (orgID : OrgID) : RemoteTargetRequest :=
  ⟨orgID,"PC 7","RDP","windows","pc7.example.com",3389,"","","","",none⟩

def renamed : RemoteTargetRequest := ⟨"","PC 8","","windows","",0,"","","","",none⟩

theorem remote_targets_in_tenancy_own : Along (step latinCase) (InTenancy latinCase) []
      [ofRoot (.create "7" (some (officePC "acme"))),ofRoot (.create "9" (some (officePC "globex"))),
        ofOps (.list "acme" false),ofOps (.get "rt_7"),ofOps (.tunnel "rt_7"),
        ofRoot (.update "rt_7" (some renamed)),ofOps (.update "rt_9" (some renamed))] :=
  remote_targets_in_tenancy latinCase _ (by decide)

/-- An operator of `acme` is connected to a target of `globex`, and a new name
clears the platform. -/
theorem tunnel_crosses_tenancy :
    ¬ (∀ (u : CaseMap) (as : List Action), Along (step u) (InTenancy u) [] as) ∧
      ¬ Along (step latinCase) (InTenancy latinCase) []
        [ofRoot (.create "9" (some (officePC "globex"))),ofOps (.tunnel "rt_9")] ∧
      ¬ Along (step latinCase) (InTenancy latinCase) []
        [ofRoot (.create "9" (some (officePC "globex"))),
          ofRoot (.update "rt_9" (some {renamed with platform := ""}))] := by
  have htunnel : ¬ Along (step latinCase) (InTenancy latinCase) []
      [ofRoot (.create "9" (some (officePC "globex"))),ofOps (.tunnel "rt_9")] := by
    intro h
    have hstep:=(h.2 _ rfl).1.confined (by decide)
    exact absurd (hstep.connected _ rfl) (by decide)
  refine ⟨fun h => htunnel (h latinCase _),htunnel,fun h => ?_⟩
  have hkept:=(h.2 _ rfl).1.kept _ _ rfl _ _ rfl rfl
  exact absurd (hkept.platform rfl) (by decide)

end BetterDesk.RemoteTarget.Tenancy
