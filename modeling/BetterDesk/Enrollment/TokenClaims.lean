import BetterDesk.Enrollment.Quota

/-! # Issued, bounded, shared -/

namespace BetterDesk.Enrollment
open Db Text Programs Exec Option Function

def IssuesEntitled (env : Env) (p : EnrollmentProcess) : Prop :=
  ∀ s hash t res earlier, ⟨s,.createDeviceToken hash t,res⟩::earlier <:+ p.log →
    t.peerID=p.request.device ∧ Entitled env p.request earlier

def alone (env : Env) (s : Store) (q : Request) : Reply × Store := (handle env q).eval perform s

structure Newcomer (s : Store) (req : EnrollmentRequest) : Prop where
  named : req.deviceID≠""
  key : req.publicKey≠[] → canonicalizeDevicePublicKey req.publicKey≠none
  agent : isSupportAgentEnrollment req=false
  row : s.peers req.deviceID=none
  marker : s.config (.rejectedDevice req.deviceID)=none

structure Beside (hash : TokenHash) (id : PeerID) (s s' : Store) : Prop where
  token : s'.tokens hash=s.tokens hash
  now : s'.now=s.now
  rows : ∀ other, other≠id → s'.peers other=s.peers other
  markers : ∀ other, s'.config (.rejectedDevice other)=s.config (.rejectedDevice other)

theorem Beside.refl (hash : TokenHash) (id : PeerID) (s : Store) : Beside hash id s s :=
  ⟨rfl,rfl,fun _ _ => rfl,fun _ => rfl⟩

theorem Beside.trans {hash : TokenHash} {id : PeerID} {s s' s'' : Store} (h : Beside hash id s s')
    (h' : Beside hash id s' s'') : Beside hash id s s'' :=
  ⟨h'.token.trans h.token,h'.now.trans h.now,fun o ho => (h'.rows o ho).trans (h.rows o ho),
    fun o => (h'.markers o).trans (h.markers o)⟩

theorem Beside.put {hash : TokenHash} {id : PeerID} {s : Store} {key : ConfigKey}
    {value : Option key.Value} (hkey : ∀ other, key ≠ .rejectedDevice other) : Beside hash id s (s.put key value) :=
  ⟨rfl,rfl,fun _ _ => rfl,fun o => update_of_ne (Ne.symm (hkey o)) _ _⟩

section Sequential
variable {env : Env} {r : Incoming} {req : EnrollmentRequest} {s : Store} {hash : TokenHash}

theorem eval_storeBdMgmtPublicKey {id : PeerID} {encoded : Bytes} :
    Beside hash id s ((storeBdMgmtPublicKey id encoded).eval perform s).2 := by
  unfold storeBdMgmtPublicKey
  split
  · exact .refl hash id s
  · exact .put (by simp)

theorem eval_createPeer (hash : TokenHash) (hid : req.deviceID≠"") (hrow : s.peers req.deviceID=none) :
    ∃ s', (createPeerFromEnrollment req true .registration).eval perform s=(true,s') ∧
      Beside hash req.deviceID s s' := by
  have hchecked : (checkSecureState req.deviceID true).eval perform s =
      (true,s.put (.telemetrySeq req.deviceID) none) := by
    unfold checkSecureState
    simp only [if_true,Prog.eval_bind,ask,Prog.eval_perform,perform,hrow,idState]
    rfl
  unfold createPeerFromEnrollment
  have hupsert : Beside hash req.deviceID s
      ((s.put (.telemetrySeq req.deviceID) none).upsert req.deviceID req.uuid .registration) :=
    .trans (.put (by simp)) ⟨rfl,rfl,fun o ho => update_of_ne ho _ _,fun _ => rfl⟩
  have hkey : ∀ s', Beside hash req.deviceID s s' → ∃ s'', Prog.eval perform (do
      if req.publicKey≠[] then
        storeBdMgmtPublicKey req.deviceID req.publicKey
      pure true : Prog Bool) s'=(true,s'') ∧ Beside hash req.deviceID s s'' := by
    intro s' h
    dsimp only
    split
    · exact ⟨_,Prog.eval_bind,h.trans eval_storeBdMgmtPublicKey⟩
    · exact ⟨s',rfl,h⟩
  rw [if_neg hid,Prog.eval_bind,hchecked]
  simp only [if_true,ask,Prog.eval_bind,Prog.eval_perform,perform,succeeded]
  split
  · rw [Prog.eval_bind]
    exact hkey _ (hupsert.trans (.put (by simp)))
  · exact hkey _ hupsert

theorem eval_issue {id : PeerID} (htoken : (s.tokens hash).isSome=true) :
    Beside hash id s ((issueEnrollmentDeviceToken env r id).eval perform s).2 := by
  unfold issueEnrollmentDeviceToken
  split
  · exact .refl hash id s
  · rename_i plain
    simp only [Prog.eval_bind,ask,Prog.eval_perform,perform,Prog.eval_pure]
    split
    · exact .refl hash id s
    · rename_i hnew
      refine ⟨update_of_ne ?_ _ _,rfl,fun _ _ => rfl,fun _ => rfl⟩
      rintro rfl
      exact hnew htoken

theorem alone_newcomer (hnew : Newcomer s req) (hmode : env.enrollmentMode="locked") :
    alone env s (.register r req)=(enrollLocked env r req).eval perform s := by
  have hblock : (enrollmentBlock req.deviceID).eval perform s=(none,s) := by
    simp [enrollmentBlock,ask,perform,hnew.row,hnew.marker,yes,Answer.row]
  have hmode' : enrollmentMode env="locked" := by
    unfold enrollmentMode
    rw [hmode]
    rfl
  have hkey : ¬ (req.publicKey≠[] ∧ canonicalizeDevicePublicKey req.publicKey=none) := fun h =>
    hnew.key h.1 h.2
  unfold alone handle handleDeviceRegister
  dsimp only
  rw [if_neg hnew.named,if_neg hkey,hnew.agent]
  unfold registerDevice
  simp only [Bool.false_eq_true,if_false,Prog.eval_bind,hblock,ask,Prog.eval_perform,perform,
    Store.livePeer,hnew.row,filter_none,Answer.row,hmode']
  rfl

theorem enrollLocked_refused {t : DeviceToken} (htoken : s.tokens (env.hashToken req.token)=some t)
    (hfits : t.fits req.deviceID=false) : ((enrollLocked env r req).eval perform s).1.status="rejected" := by
  have hnone : ((some t).filter fun t => t.usable s.now).filter (fun t => t.fits req.deviceID)=none := by
    rw [filter_filter]
    simp [Option.filter,hfits]
  unfold enrollLocked
  dsimp only
  split
  · rfl
  · simp only [Prog.eval_bind,ask,Prog.eval_perform,perform,htoken,Answer.row,hnone]
    rfl

def afterUse (t : DeviceToken) (id : PeerID) : DeviceToken :=
  let t := if t.status=.pending then {t with
    peerID := id
    status := .active} else t
  {t with useCount := t.useCount+1}

theorem enrollLocked_approved {t : DeviceToken} (hid : req.deviceID≠"")
    (hrow : s.peers req.deviceID=none) (hne : req.token≠[])
    (htoken : s.tokens (env.hashToken req.token)=some t) (husable : t.usable s.now=true)
    (hfits : t.fits req.deviceID=true) :
    ∃ reply s', (enrollLocked env r req).eval perform s=(reply,s') ∧ reply.status="approved" ∧
      Beside (env.hashToken req.token) req.deviceID
        (s.setToken (env.hashToken req.token) (some (afterUse t req.deviceID))) s' := by
  have hrow' : (s.tokens (env.hashToken req.token)).filter (fun t => t.usable s.now)=some t :=
    filter_eq_some_iff.mpr ⟨htoken,husable⟩
  have hmarked : (s.markExpired (env.hashToken req.token)).tokens (env.hashToken req.token)=some t := by
    rw [Store.markExpired,Store.updateToken_self,htoken]
    simp only [DeviceToken.usable,Bool.and_eq_true,Bool.not_eq_true'] at husable
    simp [husable.1.2]
  -- what is left once the use is counted
  have hrest : ∀ s', s'.tokens (env.hashToken req.token)=some (afterUse t req.deviceID) →
      s'.now=s.now → s'.peers=s.peers → s'.config=s.config →
      ∃ reply s'', Prog.eval perform (do
        if ← createPeerFromEnrollment req true .registration then
          let issued ← issueEnrollmentDeviceToken env r req.deviceID
          pure (approvedReply "standard" "" "" (some (issued.getD req.token)))
        else pure (httpError 500 "Failed to enroll device") : Prog Reply) s'=(reply,s'') ∧
        reply.status="approved" ∧ Beside (env.hashToken req.token) req.deviceID
          (s.setToken (env.hashToken req.token) (some (afterUse t req.deviceID))) s'' := by
    intro s' htok hnow hpeers hconfig
    have hstart : Beside (env.hashToken req.token) req.deviceID
        (s.setToken (env.hashToken req.token) (some (afterUse t req.deviceID))) s' :=
      ⟨htok.trans (Store.setToken_self _).symm,hnow,fun o _ => congrFun hpeers o,
        fun o => congrFun hconfig _⟩
    obtain ⟨s₁,hcreate,hbeside⟩:=eval_createPeer (env.hashToken req.token) (s := s') hid
      (by rw [hpeers,hrow])
    rw [Prog.eval_bind,hcreate]
    refine ⟨_,_,Prog.eval_bind,rfl,(hstart.trans hbeside).trans (eval_issue ?_)⟩
    rw [hbeside.token,htok]
    rfl
  unfold enrollLocked
  rw [if_neg hne]
  simp only [Prog.eval_bind] at hrest
  simp only [Prog.eval_bind,ask,Prog.eval_perform,perform,hrow',Answer.row,filter_some,hfits,
    if_true]
  split
  · rename_i hpending
    simp only [Prog.eval_bind,Prog.eval_perform]
    refine hrest _ ?_ rfl rfl rfl
    simp [perform,Store.updateToken_self,hmarked,hpending,afterUse]
  · rename_i hstatus
    simp only [Prog.eval_bind,Prog.eval_perform]
    refine hrest _ ?_ rfl rfl rfl
    simp [perform,Store.updateToken_self,hmarked,hstatus,afterUse]

end Sequential

theorem second_device_iff {env : Env} {s : Store} {r₁ r₂ : Incoming} {req₁ req₂ : EnrollmentRequest}
    {t : DeviceToken} (hmode : env.enrollmentMode="locked") (h₁ : Newcomer s req₁)
    (h₂ : Newcomer s req₂) (hne : req₁.deviceID≠req₂.deviceID) (htext : req₁.token≠[])
    (hsame : req₂.token=req₁.token) (htoken : s.tokens (env.hashToken req₁.token)=some t)
    (hunbound : t.peerID="") (husable : t.usable s.now=true)
    (htwo : t.limited=true → ((t.useCount+1 : ℕ) : ℤ)<t.maxUses) :
    ((alone env s (.register r₁ req₁)).1.status="approved" ∧
      (alone env (alone env s (.register r₁ req₁)).2 (.register r₂ req₂)).1.status="approved") ↔
      t.status ≠ .pending := by
  have hfits : ∀ id, t.fits id=true := fun id => by simp [DeviceToken.fits,hunbound]
  obtain ⟨reply,s',heval,happroved,hbeside⟩ :=
    enrollLocked_approved (r := r₁) h₁.named h₁.row htext htoken husable (hfits _)
  have hnew : Newcomer s' req₂ := by
    refine ⟨h₂.named,h₂.key,h₂.agent,?_,?_⟩
    · rw [hbeside.rows _ (Ne.symm hne)]
      exact h₂.row
    · rw [hbeside.markers]
      exact h₂.marker
  have htoken' : s'.tokens (env.hashToken req₂.token)=some (afterUse t req₁.deviceID) := by
    rw [hsame,hbeside.token]
    exact Store.setToken_self _
  rw [alone_newcomer h₁ hmode,heval,alone_newcomer hnew hmode]
  simp only [happroved,true_and]
  by_cases hstatus : t.status=.pending
  · refine iff_of_false ?_ (not_not_intro hstatus)
    have hother : (afterUse t req₁.deviceID).fits req₂.deviceID=false := by
      simp [afterUse,hstatus,DeviceToken.fits,h₁.named,hne]
    rw [enrollLocked_refused htoken' hother]
    decide
  · refine iff_of_true ?_ hstatus
    have huse : afterUse t req₁.deviceID={t with useCount := t.useCount+1} := by
      simp [afterUse,hstatus]
    have husable' : (afterUse t req₁.deviceID).usable s'.now=true := by
      rw [huse,hbeside.now]
      simp only [DeviceToken.usable,Bool.and_eq_true,Bool.not_eq_true'] at husable ⊢
      refine ⟨husable.1,?_⟩
      cases hl : t.limited with
      | false =>
        have hl' : DeviceToken.limited {t with useCount := t.useCount+1}=false := hl
        rw [DeviceToken.exhausted,hl']
        rfl
      | true =>
        have hleft : ¬ t.maxUses≤((t.useCount+1 : ℕ) : ℤ) := not_le.mpr (htwo hl)
        rw [DeviceToken.exhausted,decide_eq_false hleft,Bool.and_false]
    obtain ⟨reply₂,s'',heval₂,happroved₂,-⟩:=enrollLocked_approved (r := r₂) hnew.named hnew.row
      (by rw [hsame]; exact htext) htoken' husable' (by rw [huse]; exact hfits _)
    rw [heval₂]
    exact happroved₂

/-- Enrollment tokens, over every run: whatever interleaves or fails, a device
token is issued to an entitled requester; along a calm run a limited token
enrolls no more devices than it has uses; and a token without a device lets a
second device in exactly if it is no longer pending. -/
theorem enrollment_tokens {env : Env} {σ : Store} {as : List EnrollmentAct} {s : EnrollmentSys}
    (h : exec (step env) (initial σ) as=some s) : (∀ p∈s.procs,IssuesEntitled env p) ∧
    (Along (step env) (fun s a => calm s a=true) (initial σ) as →
      ∀ hash t (ids : List PeerID), s.store.tokens hash=some t → t.limited=true → ids.Nodup →
        (∀ id∈ids,EnrolledOn s hash id) → (ids.length : ℤ)≤t.maxUses) ∧
    (env.enrollmentMode="locked" → ∀ r₁ r₂ req₁ req₂ t, Newcomer s.store req₁ →
      Newcomer s.store req₂ → req₁.deviceID≠req₂.deviceID → req₁.token≠[] →
      req₂.token=req₁.token → s.store.tokens (env.hashToken req₁.token)=some t → t.peerID="" →
      t.usable s.store.now=true → (t.limited=true → ((t.useCount+1 : ℕ) : ℤ)<t.maxUses) →
      (((alone env s.store (.register r₁ req₁)).1.status="approved" ∧
        (alone env (alone env s.store (.register r₁ req₁)).2 (.register r₂ req₂)).1.status =
          "approved") ↔ t.status ≠ .pending)) := by
  refine ⟨fun p hp σ' hash t res earlier hsuf => ?_,fun hcalm hash t ids ht hl hnodup hids => ?_,?_⟩
  · obtain ⟨hpeer,-,hentitled⟩:=exec_lawful h p hp _ earlier hsuf
    exact ⟨hpeer,hentitled⟩
  · exact (exec_withinQuotas hcalm h).enrolled_le ht hl hnodup hids
  · intro hmode r₁ r₂ req₁ req₂ t h₁ h₂ hne htext hsame htoken hunbound husable htwo
    exact second_device_iff hmode h₁ h₂ hne htext hsame htoken hunbound husable htwo

def lockedEnv : Env where
  enrollmentMode := "locked"
  hashToken text := if text=lit "invite" then "h1" else "h0"
  verify _ _ _ := false
  parseTime _ := none

def inviteRequest (id : PeerID) : Request :=
  .register ⟨"POST","/api/devices/register",[],"","","",[],some (lit "issued-to-" ++ lit id)⟩
    ⟨id,[],[],[],[],[],[],[],[],lit "invite"⟩

def inviteStore (status : TokenStatus) (maxUses : ℤ) : Store where
  peers _ := none
  config _ := none
  tokens hash := if hash="h1" then some ⟨"",status,maxUses,0,none⟩ else none
  nonces _ := none
  now := 0

/-- The next `n` operations of a request, none failing. -/
def steps (i n : ℕ) : List EnrollmentAct := List.replicate n (.step i false)

def orderlyRun : List EnrollmentAct := .begin (inviteRequest "desk-1")::steps 0 10

def hastyRun : List EnrollmentAct :=
  .begin (inviteRequest "desk-1") :: .begin (inviteRequest "desk-2") ::
    steps 0 5++steps 1 5++steps 0 5++steps 1 5

instance (s : EnrollmentSys) (hash : TokenHash) (id : PeerID) : Decidable (EnrolledOn s hash id) := by
  unfold EnrolledOn
  infer_instance

theorem inviteRequest_newcomer {s : Store} {id : PeerID} (hid : id≠"") (hrow : s.peers id=none)
    (hmarker : s.config (.rejectedDevice id)=none) : Newcomer s ⟨id,[],[],[],[],[],[],[],[],lit "invite"⟩ :=
  ⟨hid,fun h => absurd rfl h,rfl,hrow,hmarker⟩

theorem orderly_run_tokens : ∃ s, exec (step lockedEnv) (initial (inviteStore .active 3)) orderlyRun=some s ∧
    (∀ p∈s.procs,IssuesEntitled lockedEnv p) ∧
    (∀ ids : List PeerID, ids.Nodup → (∀ id∈ids,EnrolledOn s "h1" id) → (ids.length : ℤ)≤3) ∧
    (alone lockedEnv s.store (inviteRequest "desk-2")).1.status="approved" ∧
    (alone lockedEnv (alone lockedEnv s.store (inviteRequest "desk-2")).2
      (inviteRequest "desk-3")).1.status="approved" := by
  have hrun : (exec (step lockedEnv) (initial (inviteStore .active 3)) orderlyRun).map (fun s =>
      (s.store.tokens "h1",s.store.now,["desk-2","desk-3"].all fun id =>
        (s.store.peers id).isNone&&(s.store.config (.rejectedDevice id)).isNone)) =
      some (some ⟨"",.active,3,1,none⟩,0,true) := by
    decide
  have hcalm : Along (step lockedEnv) (fun s a => calm s a=true) (initial (inviteStore .active 3))
      orderlyRun := by
    decide
  obtain ⟨s,hs,hfacts⟩:=map_eq_some_iff.mp hrun
  simp only [Prod.mk.injEq,List.all_cons,List.all_nil,Bool.and_true,Bool.and_eq_true,
    isNone_iff_eq_none] at hfacts
  obtain ⟨htoken,hnow,⟨hrow₂,hmarker₂⟩,hrow₃,hmarker₃⟩:=hfacts
  obtain ⟨hentitled,hbound,hshared⟩:=enrollment_tokens hs
  refine ⟨s,hs,hentitled,fun ids => hbound hcalm "h1" _ ids htoken rfl,?_⟩
  refine (hshared rfl _ _ _ _ _ (inviteRequest_newcomer (by decide) hrow₂ hmarker₂)
    (inviteRequest_newcomer (by decide) hrow₃ hmarker₃) (by decide) (by decide) rfl htoken rfl ?_
    fun _ => by decide).mpr (by decide)
  rw [hnow]
  rfl

/-- An invitation for one device lets two in when both validate it first, and
one for any number of devices lets in a single one while it is pending. -/
theorem invitation_overdrawn_and_stuck :
    (∃ s, exec (step lockedEnv) (initial (inviteStore .active 1)) hastyRun=some s ∧
      s.store.tokens "h1" = some ⟨"",.active,1,2,none⟩ ∧ EnrolledOn s "h1" "desk-1" ∧
      EnrolledOn s "h1" "desk-2") ∧
    (alone lockedEnv (inviteStore .pending 0) (inviteRequest "desk-1")).1.status="approved" ∧
    (alone lockedEnv (alone lockedEnv (inviteStore .pending 0) (inviteRequest "desk-1")).2
      (inviteRequest "desk-2")).1.status="rejected" := by
  have hrun : (exec (step lockedEnv) (initial (inviteStore .active 1)) hastyRun).map (fun s =>
      (s.store.tokens "h1",decide (EnrolledOn s "h1" "desk-1"),decide (EnrolledOn s "h1" "desk-2"))) =
      some (some ⟨"",.active,1,2,none⟩,true,true) := by
    decide
  obtain ⟨s,hs,hfacts⟩:=map_eq_some_iff.mp hrun
  simp only [Prod.mk.injEq,decide_eq_true_eq] at hfacts
  exact ⟨⟨s,hs,hfacts⟩,by decide,by decide⟩

end BetterDesk.Enrollment
