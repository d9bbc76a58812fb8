import BetterDesk.Enrollment.Outcome

/-! # The requests of devices -/

namespace BetterDesk.Enrollment
open Db Text Programs Monitor

variable {α β : Type}

def lookup : Op → Bool
  | .isPeerBanned _ => true
  | .isPeerSoftDeleted _ => true
  | .getConfig (.rejectedDevice _) => true
  | _ => false

variable {req : EnrollmentRequest} {failed verified : Bool} {id : PeerID} {r : Incoming} {env : Env} {op : Op}

theorem lookupFailed_other {s : Store} {r : Res op} (h : lookup op=false) : lookupFailed ⟨s,op,r⟩=false := by
  cases op with
  | isPeerBanned _ => cases h
  | isPeerSoftDeleted _ => cases h
  | getConfig key => cases key <;> first | rfl | cases h
  | _ => rfl

def Steady (x : Prog α) : Prop :=
  ∀ failed, decisionMonitor.wp (fun _ g => g=.device failed) x (.device failed)

theorem wp_device {Q : Res op → Actor → Prop} (hrule : DeviceRule op) (hlookup : lookup op=false)
    (hQ : ∀ s fails, Store.Own s → (failed=true → Rowless op (run s op fails).1) →
      Q (run s op fails).1 (.device failed)) : decisionMonitor.wp Q (ask op) (.device failed) := by
  refine wp_perform.mpr ⟨hrule,?_⟩
  rintro r g' ⟨failed',⟨s,fails,hown,rfl,hfailed,hafter⟩,rfl⟩
  rw [lookupFailed_other hlookup,Bool.or_false] at hfailed
  rw [hfailed]
  exact hQ s fails hown hafter

theorem wp_device_aside {Q : Res op → Actor → Prop}
    (htouch : touches op=none) (hown : ownEntry op) (hlookup : lookup op=false)
    (hQ : ∀ r, Q r (.device failed)) : decisionMonitor.wp Q (ask op) (.device failed) :=
  wp_device ⟨.inl htouch,hown⟩ hlookup fun _ _ _ _ => hQ _

namespace Steady

theorem pure (a : α) : Steady (Pure.pure a) := fun _ => rfl

theorem bind {x : Prog α} {f : α → Prog β} (hx : Steady x) (hf : ∀ a, Steady (f a)) : Steady (x >>= f) := by
  intro failed
  refine wp_bind.mpr (wp_mono ?_ (hx failed))
  rintro a g rfl
  exact hf a failed

theorem ask {op : Op} (htouch : touches op=none) (hown : ownEntry op) (hlookup : lookup op=false) : Steady (ask op) :=
  fun _ => wp_device_aside htouch hown hlookup fun _ => rfl

theorem wp {x : Prog α} {failed : Bool} {Q : α → Actor → Prop} (h : Steady x)
    (hQ : ∀ a, Q a (.device failed)) : decisionMonitor.wp Q x (.device failed) := by
  refine wp_mono ?_ (h failed)
  rintro a g rfl
  exact hQ a

end Steady

theorem steady_loadBdMgmtPublicKey : Steady (loadBdMgmtPublicKey id) := by
  refine .bind (.ask rfl trivial rfl) fun r => ?_
  split
  · exact .pure _
  · exact .pure _
  · exact .bind (.ask rfl trivial rfl) fun _ => .pure _

theorem steady_enrollmentProofPublicKey {incoming : Bytes} : Steady (enrollmentProofPublicKey id incoming) := by
  refine .bind (.ask rfl trivial rfl) fun r => ?_
  split
  · exact .pure _
  · exact .bind steady_loadBdMgmtPublicKey fun _ => .pure _
  · refine .bind (.bind (.ask rfl trivial rfl) fun _ => .pure _) fun found => ?_
    split <;> exact .pure _

theorem steady_verifyEnrollmentDeviceProof {incoming : Bytes} :
    Steady (verifyEnrollmentDeviceProof env r id incoming) := by
  unfold verifyEnrollmentDeviceProof
  split
  · exact .pure _
  refine .bind (.ask rfl trivial rfl) fun now => ?_
  split
  · exact .pure _
  refine .bind steady_enrollmentProofPublicKey fun key => ?_
  split
  · exact .pure _
  split
  · exact .bind (.ask rfl trivial rfl) fun _ => .pure _
  · exact .pure _

theorem steady_hasEnrollmentCredential {requireBound : Bool}
    {candidates : List Bytes} : Steady (hasEnrollmentCredential env id requireBound candidates) := by
  induction candidates with
  | nil => exact .pure _
  | cons candidate rest ih =>
    refine .bind (.ask rfl trivial rfl) fun token => ?_
    split
    · exact .pure _
    · exact ih

theorem steady_authorizeEnrollmentTokenIssue {publicKey bodyToken : Bytes} {requireBound : Bool} :
    Steady (authorizeEnrollmentTokenIssue env r verified id publicKey bodyToken requireBound) := by
  unfold authorizeEnrollmentTokenIssue
  split
  · exact .pure _
  split
  · exact steady_verifyEnrollmentDeviceProof
  · exact steady_hasEnrollmentCredential

theorem steady_issueEnrollmentDeviceToken : Steady (issueEnrollmentDeviceToken env r id) := by
  unfold issueEnrollmentDeviceToken
  split
  · exact .pure _
  · exact .bind (.ask rfl trivial rfl) fun _ => .pure _

theorem steady_storeBdMgmtPublicKey {encoded : Bytes} : Steady (storeBdMgmtPublicKey id encoded) := by
  unfold storeBdMgmtPublicKey
  split
  · exact .pure _
  · exact .bind (.ask rfl trivial rfl) fun _ => .pure _

theorem steady_deviceSettings : Steady (deviceSettings id) :=
  .bind (.ask rfl trivial rfl) fun _ => .bind (.ask rfl trivial rfl) fun _ => .pure _

theorem steady_bindBundle : Steady (bindBundle req) := by
  unfold bindBundle
  split
  · refine .bind (.ask rfl trivial rfl) fun stored => ?_
    dsimp only
    split
    · exact .pure _
    split
    · exact .bind (.ask rfl trivial rfl) fun _ => .pure _
    · exact .pure _
  · exact .pure _

theorem steady_checkSecureState {reset : Bool} : Steady (checkSecureState id reset) := by
  unfold checkSecureState
  split
  · refine .bind (.ask rfl trivial rfl) fun state => ?_
    split
    · exact .pure _
    · exact .bind (.ask rfl trivial rfl) fun _ => .pure _
    · exact .pure _
    · exact .pure _
  · exact .pure _

theorem wp_device_createPeer :
    decisionMonitor.wp (fun created g => g=.device failed ∧ (created=true → failed=false))
      (createPeerFromEnrollment req true .registration) (.device failed) := by
  unfold createPeerFromEnrollment
  split
  · exact ⟨rfl,nofun⟩
  refine wp_bind.mpr (steady_checkSecureState.wp fun checked => ?_)
  split
  · refine wp_bind.mpr (wp_device ⟨.inr ⟨_,_,rfl⟩,trivial⟩ rfl fun s fails _ hafter => ?_)
    have hfailed : failed=false := by
      cases failed with
      | false => rfl
      | true => exact (hafter rfl).elim
    split
    · have hkey : Steady (do
          if req.publicKey≠[] then
            storeBdMgmtPublicKey req.deviceID req.publicKey
          Pure.pure true) := by
        dsimp only
        split
        · exact .bind steady_storeBdMgmtPublicKey fun _ => .pure _
        · exact .pure _
      dsimp only
      split
      · exact wp_bind.mpr (wp_device_aside rfl trivial rfl fun _ =>
          hkey.wp fun _ => ⟨rfl,fun _ => hfailed⟩)
      · exact hkey.wp fun _ => ⟨rfl,fun _ => hfailed⟩
    · exact ⟨rfl,nofun⟩
  · exact ⟨rfl,nofun⟩

theorem steady_storePendingDevice {clientIP : Bytes} : Steady (storePendingDevice req clientIP) := by
  intro failed
  refine wp_bind.mpr (wp_device ⟨.inl rfl,trivial⟩ rfl fun s fails hown _ => ?_)
  split
  · rename_i found hfound
    have hdevice : (found.identified req.deviceID).deviceID=req.deviceID := by
      show (if found.deviceID="" then req.deviceID else found.deviceID)=req.deviceID
      split
      · rfl
      · rename_i hne
        exact (hown _ _ (run_getConfig_row hfound)).resolve_left hne
    dsimp only
    split
    · rfl
    split
    · rfl
    · exact wp_bind.mpr (wp_device_aside rfl (.inr hdevice) rfl fun _ => rfl)
  · exact wp_bind.mpr (wp_device_aside rfl (.inr rfl) rfl fun _ => rfl)

theorem wp_device_enrollmentBlock :
    decisionMonitor.wp (fun _ g => ∃ failed', g=.device failed') (enrollmentBlock id) (.device failed) := by
  have hask : ∀ {op : Op} {failed : Bool} {Q : Res op → Actor → Prop}, DeviceRule op →
      (∀ r failed', Q r (.device failed')) → decisionMonitor.wp Q (ask op) (.device failed) := by
    intro op failed Q hrule hQ
    refine wp_perform.mpr ⟨hrule,?_⟩
    rintro r g' ⟨failed',-,rfl⟩
    exact hQ r failed'
  refine wp_bind.mpr (hask ⟨.inl rfl,trivial⟩ fun banned f₁ => ?_)
  split
  · exact ⟨_,rfl⟩
  refine wp_bind.mpr (hask ⟨.inl rfl,trivial⟩ fun removed f₂ => ?_)
  split
  · exact ⟨_,rfl⟩
  refine wp_bind.mpr (hask ⟨.inl rfl,trivial⟩ fun rejected f₃ => ?_)
  split <;> exact ⟨_,rfl⟩

theorem Finished.refusal {reply : Reply} (hstatus : reply.status≠"approved")
    (htoken : reply.deviceToken=none) : Finished reply (.device failed) := fun _ => ⟨hstatus,htoken⟩

theorem Finished.unfailed {reply : Reply} : Finished reply (.device false) := nofun

theorem steady_reregister {existing : Peer} : Steady (reregister env r req verified existing) := by
  unfold reregister
  split
  · exact .pure _
  refine .bind steady_loadBdMgmtPublicKey fun bound => ?_
  split
  · exact .pure _
  refine .bind steady_bindBundle fun refusal => ?_
  split
  · exact .pure _
  refine .bind steady_deviceSettings fun settings => ?_
  refine .bind steady_hasEnrollmentCredential fun hasBound => ?_
  refine .bind steady_authorizeEnrollmentTokenIssue fun authorized => ?_
  have hissue : Steady (do
      if hasBound then Pure.pure (approvedReply settings.1 settings.2 "" none)
      else
        let token ← issueEnrollmentDeviceToken env r req.deviceID
        Pure.pure (approvedReply settings.1 settings.2 "" token)) := by
    split
    · exact .pure _
    · exact .bind steady_issueEnrollmentDeviceToken fun _ => .pure _
  split
  · dsimp only
    split
    · exact .bind steady_storeBdMgmtPublicKey fun _ => hissue
    · exact hissue
  · exact .pure _

theorem wp_device_enrollOpen : decisionMonitor.wp Finished (enrollOpen env r req verified) (.device failed) := by
  refine wp_bind.mpr (wp_mono ?_ wp_device_createPeer)
  rintro created g ⟨rfl,hcreated⟩
  cases created with
  | false => exact .refusal (by decide) rfl
  | true =>
    rw [hcreated rfl]
    have hsteady : Steady (do
        if ← authorizeEnrollmentTokenIssue env r verified req.deviceID req.publicKey req.token false then
          let token ← issueEnrollmentDeviceToken env r req.deviceID
          Pure.pure (approvedReply "standard" "" "" token)
        else Pure.pure (approvedReply "standard" "" proofRequired none)) := by
      refine .bind steady_authorizeEnrollmentTokenIssue fun authorized => ?_
      split
      · exact .bind steady_issueEnrollmentDeviceToken fun _ => .pure _
      · exact .pure _
    exact hsteady.wp fun _ => .unfailed

theorem wp_device_enrollManaged : decisionMonitor.wp Finished (enrollManaged r req) (.device failed) := by
  refine wp_bind.mpr (steady_storePendingDevice.wp fun stored => ?_)
  cases stored <;> exact .refusal (by decide) rfl

theorem wp_device_enrollLocked : decisionMonitor.wp Finished (enrollLocked env r req) (.device failed) := by
  have hlocked : Finished (rejectedReply 403 "Enrollment is locked — a valid token is required")
      (.device failed) := .refusal (by decide) rfl
  unfold enrollLocked
  split
  · exact hlocked
  refine wp_bind.mpr (wp_device_aside rfl trivial rfl fun token => ?_)
  split
  · exact hlocked
  have hcreate : decisionMonitor.wp Finished (do
      if ← createPeerFromEnrollment req true .registration then
        let issued ← issueEnrollmentDeviceToken env r req.deviceID
        Pure.pure (approvedReply "standard" "" "" (some (issued.getD req.token)))
      else Pure.pure (httpError 500 "Failed to enroll device")) (.device failed) := by
    refine wp_bind.mpr (wp_mono ?_ wp_device_createPeer)
    rintro created g ⟨rfl,hcreated⟩
    cases created with
    | false => exact .refusal (by decide) rfl
    | true =>
      rw [hcreated rfl]
      exact wp_bind.mpr (steady_issueEnrollmentDeviceToken.wp fun _ => .unfailed)
  have hcount : decisionMonitor.wp Finished (do
      let _ ← ask (.incrementTokenUse (env.hashToken req.token))
      if ← createPeerFromEnrollment req true .registration then
        let issued ← issueEnrollmentDeviceToken env r req.deviceID
        Pure.pure (approvedReply "standard" "" "" (some (issued.getD req.token)))
      else Pure.pure (httpError 500 "Failed to enroll device")) (.device failed) :=
    wp_bind.mpr (wp_device_aside rfl trivial rfl fun _ => hcreate)
  dsimp only
  split
  · exact wp_bind.mpr (wp_device_aside rfl trivial rfl fun _ => hcount)
  · exact hcount

theorem wp_device_registerDevice :
    decisionMonitor.wp Finished (registerDevice env r req verified) (.device failed) := by
  refine wp_bind.mpr (wp_mono ?_ wp_device_enrollmentBlock)
  rintro block g ⟨failed',rfl⟩
  split
  · exact .refusal (by simp [rejectedReply]) rfl
  refine wp_bind.mpr (wp_device ⟨.inl rfl,trivial⟩ rfl fun s fails _ hafter => ?_)
  split
  · rename_i existing hrow
    cases failed' with
    | true =>
      rw [hafter rfl] at hrow
      cases hrow
    | false => exact steady_reregister.wp fun _ => .unfailed
  split
  · exact wp_device_enrollOpen
  split
  · exact wp_device_enrollManaged
  split
  · exact wp_device_enrollLocked
  · exact .refusal (by decide) rfl

theorem wp_device_handleDeviceRegister :
    decisionMonitor.wp Finished (handleDeviceRegister env r req) (.device failed) := by
  unfold handleDeviceRegister
  split
  · exact .refusal (by decide) rfl
  split
  · exact .refusal (by decide) rfl
  split
  · split
    · exact .refusal (by decide) rfl
    refine wp_bind.mpr (steady_verifyEnrollmentDeviceProof.wp fun proved => ?_)
    split
    · exact wp_device_registerDevice
    · exact .refusal (by decide) rfl
  · exact wp_device_registerDevice

theorem wp_device_handleDeviceRegisterStatus :
    decisionMonitor.wp Finished (handleDeviceRegisterStatus env r id) (.device failed) := by
  unfold handleDeviceRegisterStatus
  split
  · exact .refusal (by decide) rfl
  refine wp_bind.mpr (wp_mono ?_ wp_device_enrollmentBlock)
  rintro block g ⟨failed',rfl⟩
  split
  · exact .refusal (by simp [rejectedReply]) rfl
  refine wp_bind.mpr (wp_device ⟨.inl rfl,trivial⟩ rfl fun s fails _ hafter => ?_)
  split
  · rename_i p hrow
    split
    · exact .refusal (by decide) rfl
    cases failed' with
    | true =>
      rw [hafter rfl] at hrow
      cases hrow
    | false =>
      refine wp_bind.mpr (steady_deviceSettings.wp fun settings => ?_)
      refine wp_bind.mpr (steady_hasEnrollmentCredential.wp fun hasBound => ?_)
      split
      · exact .unfailed
      refine wp_bind.mpr (steady_authorizeEnrollmentTokenIssue.wp fun authorized => ?_)
      split
      · exact wp_bind.mpr (steady_issueEnrollmentDeviceToken.wp fun _ => .unfailed)
      · exact .unfailed
  · refine wp_bind.mpr (wp_device_aside rfl trivial rfl fun pending => ?_)
    split <;> exact .refusal (by decide) rfl

theorem wp_device_handle {q : Request} : decisionMonitor.wp Finished (handle env q) (.device failed) := by
  cases q with
  | register r req => exact wp_device_handleDeviceRegister
  | status r id => exact wp_device_handleDeviceRegisterStatus

end BetterDesk.Enrollment
