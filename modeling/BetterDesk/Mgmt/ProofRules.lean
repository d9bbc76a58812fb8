import BetterDesk.Mgmt.Proofs

/-! # What a request does about its proof -/

namespace BetterDesk.Mgmt
open Text Base64 Programs Enrollment List Monitor
open Db (PeerID Answer)

abbrev Sight := List (Seen Res)

def Proved (seen : Sight) : Prop := ∃ key now, (⟨.markUsed key now,false⟩ : Seen Res)∈seen

def RowSeen (seen : Sight) : Prop := ∃ id row, (⟨.getPeer id,.ok (some row)⟩ : Seen Res)∈seen

def LetIn (id : PeerID) (seen : Sight) : Prop :=
  ∃ hash r earlier, (⟨.validateToken hash,r⟩::earlier : Sight) <:+ seen ∧ fitting id r=true ∧
    ¬ RowSeen earlier ∧ ¬ Proved earlier

theorem Proved.mono {seen seen' : Sight} (h : Proved seen) (hs : seen <:+ seen') : Proved seen' := by
  obtain ⟨key,now,hmem⟩:=h
  exact ⟨key,now,hs.subset hmem⟩

theorem RowSeen.mono {seen seen' : Sight} (h : RowSeen seen) (hs : seen <:+ seen') : RowSeen seen' := by
  obtain ⟨id,row,hmem⟩:=h
  exact ⟨id,row,hs.subset hmem⟩

theorem LetIn.mono {id : PeerID} {seen seen' : Sight} (h : LetIn id seen) (hs : seen <:+ seen') : LetIn id seen' := by
  obtain ⟨hash,r,earlier,hsuffix,hrest⟩:=h
  exact ⟨hash,r,earlier,hsuffix.trans hs,hrest⟩

namespace Request

def device : Request → PeerID
  | enroll q => q.device
  | manage m => m.device

def skew : Request → ℕ
  | enroll _ => enrollmentProofClockSkew
  | manage _ => bdMgmtClockSkew

/-- At `now` the proof is within its window, by the difference the code computes, and some
key has signed it. -/
def Sound (env : Env) (q : Request) (now : ℤ) : Prop :=
  (∃ signedAt, q.signedAt env=some signedAt ∧ outsideSkew q.skew now signedAt=false) ∧
    ∃ key, q.signedBy env key=true

def Entitled (q : Request) (seen : Sight) : Prop := q.attempts=true → Proved seen ∨ LetIn q.device seen

def LooksUp (env : Env) (q : Request) (seen : Sight) : Prop :=
  q.attempts=true → RowSeen seen ∨ Proved seen ∨ enrollmentMode env="locked"

end Request

def Rule (env : Env) (q : Request) (seen : Sight) : Op → Prop
  | .markUsed key now => key=q.nonceKey ∧ q.Sound env now
  | .validateToken _ => q.LooksUp env seen
  | .bindTokenToPeer _ _ => q.Entitled seen
  | .incrementTokenUse _ => q.Entitled seen
  | .createDeviceToken _ _ => q.Entitled seen
  | _ => True

def free : Op → Bool
  | .markUsed _ _ => false
  | .validateToken _ => false
  | .bindTokenToPeer _ _ => false
  | .incrementTokenUse _ => false
  | .createDeviceToken _ _ => false
  | _ => true

theorem rule_free {env : Env} {q : Request} {seen : Sight} {op : Op} (h : free op=true) : Rule env q seen op := by
  cases op <;> trivial

abbrev Free {α : Type} (x : Enrollment.Prog α) : Prop := Prog.Performs (fun op => free op=true) x

section Free
variable {α β : Type}

theorem free_ask {op : Op} (h : free op=true) : Free (ask op) := .perform h

theorem free_loadBdMgmtPublicKey {id : PeerID} : Free (loadBdMgmtPublicKey id) := by
  refine .bind (free_ask rfl) fun r => ?_
  split
  · exact .pure
  · exact .pure
  · exact .bind (free_ask rfl) fun _ => .pure

theorem free_enrollmentProofPublicKey {id : PeerID} {incoming : Bytes} :
    Free (enrollmentProofPublicKey id incoming) := by
  refine .bind (free_ask rfl) fun r => ?_
  split
  · exact .pure
  · exact .bind free_loadBdMgmtPublicKey fun _ => .pure
  · refine .bind (.bind (free_ask rfl) fun _ => .pure) fun found => ?_
    split <;> exact .pure

theorem free_storeBdMgmtPublicKey {id : PeerID} {encoded : Bytes} : Free (storeBdMgmtPublicKey id encoded) := by
  unfold storeBdMgmtPublicKey
  split
  · exact .pure
  · exact .bind (free_ask rfl) fun _ => .pure

theorem free_deviceSettings {id : PeerID} : Free (deviceSettings id) :=
  .bind (free_ask rfl) fun _ => .bind (free_ask rfl) fun _ => .pure

theorem free_bindBundle {req : EnrollmentRequest} : Free (bindBundle req) := by
  unfold bindBundle
  split
  · refine .bind (free_ask rfl) fun stored => ?_
    dsimp only
    split
    · exact .pure
    split
    · exact .bind (free_ask rfl) fun _ => .pure
    · exact .pure
  · exact .pure

theorem free_checkSecureState {id : PeerID} {reset : Bool} : Free (checkSecureState id reset) := by
  unfold checkSecureState
  split
  · refine .bind (free_ask rfl) fun state => ?_
    split
    · exact .pure
    · exact .bind (free_ask rfl) fun _ => .pure
    · exact .pure
    · exact .pure
  · exact .pure

theorem free_createPeer {req : EnrollmentRequest} {reset : Bool} {origin : Origin} :
    Free (createPeerFromEnrollment req reset origin) := by
  have hkey : Free (do
      if req.publicKey≠[] then
        storeBdMgmtPublicKey req.deviceID req.publicKey
      pure true) := by
    dsimp only
    split
    · exact .bind free_storeBdMgmtPublicKey fun _ => .pure
    · exact .pure
  unfold createPeerFromEnrollment
  split
  · exact .pure
  refine .bind free_checkSecureState fun checked => ?_
  split
  · refine .bind (free_ask rfl) fun created => ?_
    split
    · dsimp only
      split
      · exact .bind (free_ask rfl) fun _ => hkey
      · exact hkey
    · exact .pure
  · exact .pure

theorem free_storePendingDevice {req : EnrollmentRequest} {clientIP : Bytes} :
    Free (storePendingDevice req clientIP) := by
  refine .bind (free_ask rfl) fun raw => ?_
  split
  · dsimp only
    split
    · exact .pure
    split
    · exact .pure
    · exact .bind (free_ask rfl) fun _ => .pure
  · exact .bind (free_ask rfl) fun _ => .pure

theorem rowless_enrollmentBlock {id : PeerID} :
    (enrollmentBlock id).Performs fun op => free op=true ∧ ∀ id', op ≠ .getPeer id' := by
  refine .bind (.perform ⟨rfl,nofun⟩) fun banned => ?_
  split
  · exact .pure
  refine .bind (.perform ⟨rfl,nofun⟩) fun removed => ?_
  split
  · exact .pure
  refine .bind (.perform ⟨rfl,nofun⟩) fun rejected => ?_
  split <;> exact .pure

theorem wp_free {env : Env} {q : Request} {seen : Sight} {x : Enrollment.Prog α} {f : α → Enrollment.Prog β}
    {Q : β → Sight → Prop} (hx : Free x) (h : ∀ a seen', seen <:+ seen' → (history (Rule env q)).wp Q (f a) seen') :
    (history (Rule env q)).wp Q (x >>= f) seen := by
  have hfree (seen' : Sight) (op : Op) (_ : seen <:+ seen') (hop : free op=true) : Rule env q seen' op :=
    rule_free hop
  exact wp_bind.mpr (history_performs hfree hx fun a new _ => h a _ (suffix_append new seen))

end Free

section Specs
variable {env : Env} {seen : Sight}

theorem wp_mark {q : Request} {key : String} {now : ℤ} {seen' : Sight} (hs : seen <:+ seen')
    (h : Rule env q seen' (.markUsed key now)) :
    (history (Rule env q)).wp (fun proved seen' => seen <:+ seen' ∧ (proved=true → Proved seen'))
      (do
        let replayed : Bool ← ask (.markUsed key now)
        pure (!replayed) : Enrollment.Prog Bool) seen' := by
  refine history_call h fun replayed => ⟨hs.trans (suffix_cons _ _),fun hfresh => ?_⟩
  have hanswer : replayed=(false : Bool) := (Bool.not_eq_true' _).mp hfresh
  subst hanswer
  exact ⟨key,now,mem_cons_self⟩

theorem wp_enrollmentProof {q : Enrollment.Request} :
    (history (Rule env (.enroll q))).wp (fun proved seen' => seen <:+ seen' ∧ (proved=true → Proved seen'))
      (verifyEnrollmentDeviceProof env q.incoming q.device q.publicKey) seen := by
  have hno (seen' : Sight) (hs : seen <:+ seen') : seen <:+ seen' ∧ (false=true → Proved seen') := ⟨hs,nofun⟩
  unfold verifyEnrollmentDeviceProof
  split
  · exact hno _ suffix_rfl
  rename_i signedAt hsigned
  refine wp_free (free_ask rfl) fun now seen₁ h₁ => ?_
  split
  · exact hno _ h₁
  rename_i hskew
  refine wp_free free_enrollmentProofPublicKey fun key seen₂ h₂ => ?_
  split
  · exact hno _ (h₁.trans h₂)
  rename_i key
  split
  · rename_i hsig
    exact wp_mark (h₁.trans h₂) ⟨rfl,⟨signedAt,hsigned,eq_false_of_ne_true hskew⟩,key,hsig⟩
  · exact hno _ (h₁.trans h₂)

theorem wp_managementProof {m : MgmtRequest} :
    (history (Rule env (.manage m))).wp (fun proved seen' => seen <:+ seen' ∧ (proved=true → Proved seen'))
      (verifyBdMgmtRequest env m) seen := by
  have hno (seen' : Sight) (hs : seen <:+ seen') : seen <:+ seen' ∧ (false=true → Proved seen') := ⟨hs,nofun⟩
  unfold verifyBdMgmtRequest
  split
  · exact hno _ suffix_rfl
  rename_i signedAt hsigned
  refine wp_free (free_ask rfl) fun now seen₁ h₁ => ?_
  split
  · exact hno _ h₁
  rename_i hskew
  refine wp_free free_loadBdMgmtPublicKey fun key seen₂ h₂ => ?_
  split
  · exact hno _ (h₁.trans h₂)
  rename_i key
  split
  · rename_i hsig
    exact wp_mark (h₁.trans h₂) ⟨rfl,⟨signedAt,hsigned,eq_false_of_ne_true hskew⟩,key,hsig⟩
  · exact hno _ (h₁.trans h₂)

theorem wp_handleBdMgmt {m : MgmtRequest} :
    (history (Rule env (.manage m))).wp (fun reply seen' => reply=.upgraded → Proved seen')
      (handleBdMgmt env m) seen := by
  unfold handleBdMgmt
  split
  · exact nofun
  refine wp_free (free_ask rfl) fun peer seen₁ h₁ => ?_
  split
  · exact nofun
  · exact nofun
  refine wp_free (free_ask rfl) fun banned seen₂ h₂ => ?_
  split
  · exact nofun
  refine wp_free (free_ask rfl) fun deleted seen₃ h₃ => ?_
  split
  · exact nofun
  refine history_bind wp_managementProof fun proved seen₄ h₄ => ?_
  split
  · rename_i hproved
    exact fun _ => h₄.2 hproved
  · exact nofun

theorem wp_hasEnrollmentCredential {q : Request} {id : PeerID} {requireBound : Bool} {candidates : List Bytes}
    (h : q.LooksUp env seen) : (history (Rule env q)).wp (fun _ seen' => seen <:+ seen')
      (hasEnrollmentCredential env id requireBound candidates) seen := by
  induction candidates generalizing seen with
  | nil => exact suffix_rfl
  | cons candidate rest ih =>
    refine history_call h fun token => ?_
    have hsuffix : seen <:+ ⟨.validateToken (env.hashToken candidate),token⟩::seen := suffix_cons _ _
    split
    · exact hsuffix
    · refine wp_mono (fun _ _ hs => hsuffix.trans hs) (ih fun hattempts => ?_)
      rcases h hattempts with hrow | hproved | hlocked
      · exact .inl (hrow.mono hsuffix)
      · exact .inr (.inl (hproved.mono hsuffix))
      · exact .inr (.inr hlocked)

theorem wp_authorize {q : Enrollment.Request} {verified requireBound : Bool} {bodyToken : Bytes}
    (hverified : verified=true → Proved seen) : (history (Rule env (.enroll q))).wp
      (fun authorized seen' => seen <:+ seen' ∧ (authorized=true → (Request.enroll q).Entitled seen'))
      (authorizeEnrollmentTokenIssue env q.incoming verified q.device q.publicKey bodyToken requireBound) seen := by
  unfold authorizeEnrollmentTokenIssue
  split
  · rename_i hknown
    exact ⟨suffix_rfl,fun _ _ => .inl (hverified hknown.1)⟩
  split
  · exact wp_mono (fun _ _ h => ⟨h.1,fun hproved _ => .inl (h.2 hproved)⟩) wp_enrollmentProof
  · rename_i hnone
    have hno : (Request.enroll q).attempts=true → False := hnone
    exact wp_mono (fun _ _ h => ⟨h,fun _ hattempts => (hno hattempts).elim⟩)
      (wp_hasEnrollmentCredential fun hattempts => (hno hattempts).elim)

theorem wp_issue {q : Request} {r : Incoming} {id : PeerID} (h : q.Entitled seen) :
    (history (Rule env q)).wp (fun _ seen' => seen <:+ seen') (issueEnrollmentDeviceToken env r id) seen := by
  unfold issueEnrollmentDeviceToken
  split
  · exact suffix_rfl
  · exact history_call h fun stored => suffix_cons _ _

end Specs

theorem Request.Entitled.mono {q : Request} {seen seen' : Sight} (h : q.Entitled seen) (hs : seen <:+ seen') :
    q.Entitled seen' := fun hattempts => (h hattempts).imp (fun hp => hp.mono hs) (fun hl => hl.mono hs)

section Handlers
variable {env : Env} {r : Incoming} {req : EnrollmentRequest} {verified : Bool} {seen : Sight}

abbrev enrolling (env : Env) (r : Incoming) (req : EnrollmentRequest) : Monitor Op Res Sight :=
  history (Rule env (.enroll (.register r req)))

theorem wp_reregister {existing : Peer} (hrow : RowSeen seen) (hverified : verified=true → Proved seen) :
    (enrolling env r req).wp (fun _ _ => True) (reregister env r req verified existing) seen := by
  unfold reregister
  split
  · trivial
  refine wp_free free_loadBdMgmtPublicKey fun bound seen₁ h₁ => ?_
  split
  · trivial
  refine wp_free free_bindBundle fun refusal seen₂ h₂ => ?_
  split
  · trivial
  refine wp_free free_deviceSettings fun settings seen₃ h₃ => ?_
  have hs₃ : seen <:+ seen₃ := (h₁.trans h₂).trans h₃
  refine history_bind (wp_hasEnrollmentCredential fun _ => .inl (hrow.mono hs₃)) fun bearer seen₄ h₄ => ?_
  have hs₄ : seen <:+ seen₄ := hs₃.trans h₄
  refine history_bind (wp_authorize fun hv => (hverified hv).mono hs₄) fun authorized seen₅ h₅ => ?_
  split
  · rename_i hauthorized
    have hissue (seen' : Sight) (hs : seen₅ <:+ seen') : (enrolling env r req).wp (fun _ _ => True) (do
        if bearer then pure (approvedReply settings.1 settings.2 "" none)
        else
          let token ← issueEnrollmentDeviceToken env r req.deviceID
          pure (approvedReply settings.1 settings.2 "" token) : Enrollment.Prog Reply) seen' := by
      split
      · trivial
      · exact history_bind (wp_issue ((h₅.2 hauthorized).mono hs)) fun _ _ _ => trivial
    dsimp only
    split
    · exact wp_free free_storeBdMgmtPublicKey fun _ seen' hs => hissue seen' hs
    · exact hissue seen₅ suffix_rfl
  · trivial

theorem wp_enrollOpen (hverified : verified=true → Proved seen) :
    (enrolling env r req).wp (fun _ _ => True) (enrollOpen env r req verified) seen := by
  refine wp_free free_createPeer fun created seen₁ h₁ => ?_
  split
  · refine history_bind (wp_authorize fun hv => (hverified hv).mono h₁) fun authorized seen₂ h₂ => ?_
    split
    · rename_i hauthorized
      exact history_bind (wp_issue (h₂.2 hauthorized)) fun _ _ _ => trivial
    · trivial
  · trivial

theorem wp_enrollManaged : (enrolling env r req).wp (fun _ _ => True) (enrollManaged r req) seen := by
  refine wp_free free_storePendingDevice fun stored seen₁ h₁ => ?_
  split <;> trivial

theorem wp_enrollLocked (hmode : enrollmentMode env="locked") (hrow : ¬ Proved seen → ¬ RowSeen seen) :
    (enrolling env r req).wp (fun _ _ => True) (enrollLocked env r req) seen := by
  unfold enrollLocked
  dsimp only
  split
  · trivial
  refine history_call (fun _ => .inr (.inr hmode)) fun token => ?_
  split
  · trivial
  rename_i t htoken
  have hfits : fitting req.deviceID token=true := by
    obtain ⟨hrow,hfit⟩:=Option.filter_eq_some_iff.mp htoken
    unfold fitting
    rw [hrow]
    exact hfit
  have hentitled : (Request.enroll (.register r req)).Entitled (⟨.validateToken (env.hashToken req.token),token⟩::seen) := by
    intro _
    by_cases hproved : Proved seen
    · exact .inl (hproved.mono (suffix_cons _ _))
    · exact .inr ⟨_,token,seen,suffix_rfl,hfits,hrow hproved,hproved⟩
  have hcounted (seen' : Sight) (h : (Request.enroll (.register r req)).Entitled seen') :
      (enrolling env r req).wp (fun _ _ => True) (do
        let _ ← ask (.incrementTokenUse (env.hashToken req.token))
        if ← createPeerFromEnrollment req true .registration then
          let issued ← issueEnrollmentDeviceToken env r req.deviceID
          pure (approvedReply "standard" "" "" (some (issued.getD req.token)))
        else pure (httpError 500 "Failed to enroll device") : Enrollment.Prog Reply) seen' := by
    refine history_call h fun counted => ?_
    refine wp_free free_createPeer fun created seen₂ h₂ => ?_
    split
    · exact history_bind (wp_issue ((h.mono (suffix_cons _ _)).mono h₂)) fun _ _ _ => trivial
    · trivial
  split
  · exact history_call hentitled fun _ => hcounted _ (hentitled.mono (suffix_cons _ _))
  · exact hcounted _ hentitled

theorem wp_registerDevice (hverified : verified=true → Proved seen) (hfirst : verified=false → seen=[]) :
    (enrolling env r req).wp (fun _ _ => True) (registerDevice env r req verified) seen := by
  have hfree (seen' : Sight) (op : Op) (_ : seen <:+ seen') (hop : free op=true ∧ ∀ id', op ≠ .getPeer id') :
      Rule env (.enroll (.register r req)) seen' op := rule_free hop.1
  refine wp_bind.mpr (history_performs hfree rowless_enrollmentBlock fun block new hnew => ?_)
  split
  · trivial
  have hproved (hv : verified=true) : Proved (new++seen) := (hverified hv).mono (suffix_append _ _)
  -- without a proof there was nothing before the lookups
  have hrowless (h : ¬ Proved (new++seen)) : ¬ RowSeen (new++seen) := by
    rintro ⟨id,row,hmem⟩
    have hv : verified=false := by
      cases hcase : verified with
      | false => rfl
      | true => exact absurd (hproved hcase) h
    rw [hfirst hv,append_nil] at hmem
    exact (hnew _ hmem).2 id rfl
  refine history_call (rule_free rfl) fun peer => ?_
  have hsuffix : new++seen <:+ ⟨.getPeer req.deviceID,peer⟩::(new++seen) := suffix_cons _ _
  split
  · rename_i existing hexisting
    refine wp_reregister ⟨req.deviceID,existing,?_⟩ fun hv => (hproved hv).mono hsuffix
    match peer, hexisting with
    | .ok (some _), rfl => exact mem_cons_self
  · rename_i hnone
    split
    · exact wp_enrollOpen fun hv => (hproved hv).mono hsuffix
    split
    · exact wp_enrollManaged
    split
    · rename_i hmode
      refine wp_enrollLocked hmode fun hno => ?_
      rintro ⟨id,row,hmem⟩
      rcases mem_cons.mp hmem with heq | hmem
      · cases heq
        cases hnone
      · exact hrowless (fun h => hno (h.mono hsuffix)) ⟨id,row,hmem⟩
    · trivial

theorem wp_handleDeviceRegister : (enrolling env r req).wp (fun _ _ => True) (handleDeviceRegister env r req) [] := by
  unfold handleDeviceRegister
  split
  · trivial
  split
  · trivial
  split
  · split
    · trivial
    · refine history_bind (@wp_enrollmentProof env [] (.register r req)) fun proved seen' h => ?_
      split
      · rename_i hproved
        exact wp_registerDevice (fun _ => h.2 hproved) nofun
      · trivial
  · exact wp_registerDevice nofun fun _ => rfl

theorem wp_handleDeviceRegisterStatus {id : PeerID} :
    (history (Rule env (.enroll (.status r id)))).wp (fun _ _ => True) (handleDeviceRegisterStatus env r id) [] := by
  unfold handleDeviceRegisterStatus
  split
  · trivial
  have hblock : Free (enrollmentBlock id) := rowless_enrollmentBlock.mono fun _ h => h.1
  refine wp_free hblock fun block seen₁ _ => ?_
  split
  · trivial
  refine history_call (rule_free rfl) fun peer => ?_
  split
  · rename_i p hp
    split
    · trivial
    refine wp_free free_deviceSettings fun settings seen₂ h₂ => ?_
    have hrow : RowSeen seen₂ := by
      refine RowSeen.mono ⟨id,p,?_⟩ h₂
      match peer, hp with
      | .ok (some _), rfl => exact mem_cons_self
    refine history_bind (wp_hasEnrollmentCredential fun _ => .inl hrow) fun bearer seen₃ h₃ => ?_
    split
    · trivial
    refine history_bind (@wp_authorize env seen₃ (.status r id) false true [] nofun) fun authorized seen₄ h₄ => ?_
    split
    · rename_i hauthorized
      exact history_bind (wp_issue (h₄.2 hauthorized)) fun _ _ _ => trivial
    · trivial
  · refine history_call (rule_free rfl) fun pending => ?_
    split <;> trivial

end Handlers

def Allowed (env : Env) (q : Request) (seen : List (Seen CallRes)) (c : Call) : Prop :=
  c.1=q.channel ∧ Rule env q (untag seen) c.2

def Ends (_ : Request) (o : Outcome) (seen : List (Seen CallRes)) : Prop :=
  o=.management .upgraded → Proved (untag seen)

theorem wp_serve {env : Env} (q : Request) : (history (Allowed env q)).wp (Ends q) (serve env q) [] := by
  have hprogram : (history (Rule env q)).wp (fun o seen => o=.management .upgraded → Proved seen) (program env q)
      (untag ([] : List (Seen CallRes))) := by
    cases q with
    | enroll q =>
      refine history_bind (R := fun _ _ => True) ?_ fun reply seen' _ => nofun
      cases q with
      | register r req => exact wp_handleDeviceRegister
      | status r id => exact wp_handleDeviceRegisterStatus
    | manage m =>
      refine history_bind wp_handleBdMgmt fun reply seen' h heq => h ?_
      injection heq
  exact history_tag hprogram

end BetterDesk.Mgmt
