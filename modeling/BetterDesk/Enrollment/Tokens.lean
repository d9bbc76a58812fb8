import BetterDesk.Enrollment.Register

/-! # What an enrollment does with tokens -/

namespace BetterDesk.Enrollment
open Db Text Programs List Option Monitor

inductive Request
  | register (r : Incoming) (req : EnrollmentRequest)
  | status (r : Incoming) (id : PeerID)

namespace Request

def incoming : Request → Incoming
  | register r _ => r
  | status r _ => r

def device : Request → PeerID
  | register _ req => req.deviceID
  | status _ id => id

def publicKey : Request → Bytes
  | register _ req => req.publicKey
  | status _ _ => []

def presented : Request → List Bytes
  | register r req => req.token::enrollmentTokenCandidates r req.token
  | status r _ => enrollmentTokenCandidates r []

end Request

def handle (env : Env) : Request → Prog Reply
  | .register r req => handleDeviceRegister env r req
  | .status r id => handleDeviceRegisterStatus env r id

abbrev Log := List (Entry Store Op Res)

/-- A token that was active and bound or bindable to the device when it was
validated. -/
def ShowedToken (env : Env) (q : Request) (log : Log) : Prop :=
  ∃ e∈log, ∃ text∈q.presented, ∃ t, e.op=.validateToken (env.hashToken text) ∧
    e.store.tokens (env.hashToken text)=some t ∧ t.usable e.store.now=true ∧
    t.fits q.device=true

def Store.HoldsKey (s : Store) (id : PeerID) (key : Bytes) : Prop :=
  s.config (.bdMgmtPublicKey id)=some key ∨ (∃ p, s.livePeer id=some p ∧ p.pk=key) ∨
    ∃ entry, s.config (.pendingDevice id)=some entry ∧
      canonicalizeDevicePublicKey entry.publicKey=some key

def KeyOfDevice (q : Request) (log : Log) (key : Bytes) : Prop :=
  (∃ e∈log,e.store.HoldsKey q.device key) ∨
    (∃ e∈log,e.store.livePeer q.device=none) ∧ canonicalizeDevicePublicKey q.publicKey=some key

def AcceptedNonce (nonce : String) : Entry Store Op Res → Prop
  | ⟨_,.markUsed n _,replayed⟩ => n=nonce ∧ replayed=false
  | _ => False

def ProvedKey (env : Env) (q : Request) (log : Log) : Prop :=
  ∃ key, KeyOfDevice q log key ∧ signedBy env q.incoming q.device key=true ∧
    ∃ e∈log,AcceptedNonce (proofNonceKey q.incoming q.device) e

def Entitled (env : Env) (q : Request) (log : Log) : Prop :=
  ShowedToken env q log ∨ ProvedKey env q log

inductive Phase
  | arriving
  | deciding                            -- the rejection marker was read
  | known                               -- the device has a row
  | fresh                               -- it has none
  | held (hash : TokenHash)             -- a token that fits was validated
  | counted (hash : TokenHash)          -- and its use counted
  | uncounted (hash : TokenHash)        -- or not: the increment failed
  | admitted (hash : TokenHash)         -- the row was created on a token
  | opened (hashes : List TokenHash)    -- it was created without; tokens shown since

def fitting (id : PeerID) (r : Answer (Option DeviceToken)) : Bool := r.row.any fun t => t.fits id

namespace Phase

def next (id : PeerID) : Phase → (op : Op) → Res op → Phase
  | .arriving, .getConfig (.rejectedDevice _), _ => .deciding
  | .deciding, .getPeer _, r => if (Answer.row r).isSome then .known else .fresh
  | .fresh, .validateToken hash, r => if fitting id r then .held hash else .fresh
  | .fresh, .upsertPeer _ _ _, r => if succeeded r then .opened [] else .fresh
  | .held _, .incrementTokenUse hash, r => if succeeded r then .counted hash else .uncounted hash
  | .counted hash, .upsertPeer _ _ _, r => if succeeded r then .admitted hash else .counted hash
  | .uncounted hash, .upsertPeer _ _ _, r => if succeeded r then .admitted hash else .uncounted hash
  | .opened hashes, .validateToken hash, r =>
    if fitting id r then .opened (hash::hashes) else .opened hashes
  | phase, _, _ => phase

def holds (hash : TokenHash) : Phase → Bool
  | .held h => h=hash
  | _ => false

def used (hash : TokenHash) : Phase → Bool
  | .counted h => h=hash
  | .admitted h => h=hash
  | _ => false

def enrolledOn (hash : TokenHash) : Phase → Bool
  | .admitted h => h=hash
  | .opened hashes => hash∈hashes
  | _ => false

def slipped (hash : TokenHash) : Phase → Bool
  | .uncounted h => h=hash
  | .opened hashes => hash∈hashes
  | _ => false

end Phase

def phase (id : PeerID) : Log → Phase
  | [] => .arriving
  | e::log => (phase id log).next id e.op e.res

structure Trace where
  request : Request
  log : Log

namespace Trace

def phase (g : Trace) : Phase := Enrollment.phase g.request.device g.log

def After (g : Trace) (op : Op) (r : Res op) (g' : Trace) : Prop :=
  ∃ s fails, r=(run s op fails).1 ∧ g'={g with log := ⟨s,op,r⟩::g.log}

end Trace

def Rule (env : Env) (g : Trace) : Op → Prop
  | .createDeviceToken _ t =>
    t.peerID=g.request.device ∧ t.limited=false ∧ Entitled env g.request g.log
  | .incrementTokenUse hash => g.phase=.held hash
  | .upsertPeer id _ _ => id=g.request.device
  | _ => True

def tokenMonitor (env : Env) : Monitor Op Res Trace := ⟨Rule env,Trace.After⟩

/-- Operations that change the phase of no request, or only of one that is about
to look for the row. -/
def quiet : Op → Bool
  | .getConfig (.rejectedDevice _) => false
  | .validateToken _ => false
  | .incrementTokenUse _ => false
  | .upsertPeer _ _ _ => false
  | _ => true

variable {ph : Phase} {id : PeerID} {g' g : Trace}

theorem Phase.next_quiet {op : Op} {r : Res op} (hop : quiet op=true) (hph : ph ≠ .deciding) : ph.next id op r=ph := by
  cases op with
  | getConfig key =>
    cases key with
    | rejectedDevice _ => cases hop
    | _ => cases ph <;> rfl
  | validateToken | incrementTokenUse | upsertPeer => cases hop
  | getPeer _ =>
    cases ph with
    | deciding => exact absurd rfl hph
    | _ => rfl
  | _ => cases ph <;> rfl

structure Trace.Keeps (g g' : Trace) : Prop where
  request : g'.request=g.request
  log : g.log ⊆ g'.log
  phase : g'.phase=g.phase

theorem Trace.Keeps.refl (g : Trace) : g.Keeps g := ⟨rfl,List.Subset.refl _,rfl⟩

theorem Trace.Keeps.trans {g'' : Trace} (h : g.Keeps g') (h' : g'.Keeps g'') : g.Keeps g'' :=
  ⟨h'.request.trans h.request,List.Subset.trans h.log h'.log,h'.phase.trans h.phase⟩

def Trace.Saw (g : Trace) (op : Op) (r : Res op) : Prop :=
  ∃ s fails, r=(run s op fails).1 ∧ ⟨s,op,r⟩∈g.log

theorem Entitled.mono {env : Env} {q : Request} {log log' : Log} (hsub : log ⊆ log')
    (h : Entitled env q log) : Entitled env q log' := by
  rcases h with ⟨e,he,hshow⟩ | ⟨key,hkey,hsig,e,he,hnonce⟩
  · exact .inl ⟨e,hsub he,hshow⟩
  · refine .inr ⟨key,?_,hsig,e,hsub he,hnonce⟩
    rcases hkey with ⟨e',he',hk⟩ | ⟨⟨e',he',hrow⟩,hown⟩
    · exact .inl ⟨e',hsub he',hk⟩
    · exact .inr ⟨⟨e',hsub he',hrow⟩,hown⟩

section Specs
variable {env : Env} {α : Type} {g : Trace}

theorem wp_ask {op : Op} {Q : Res op → Trace → Prop} (hrule : Rule env g op)
    (hQ : ∀ s fails, Q (run s op fails).1 ⟨g.request,⟨s,op,(run s op fails).1⟩::g.log⟩) :
    (tokenMonitor env).wp Q (ask op) g := by
  refine wp_perform.mpr ⟨hrule,?_⟩
  rintro r g' ⟨s,fails,rfl,rfl⟩
  exact hQ s fails

theorem wp_ask_quiet {op : Op} {Q : Res op → Trace → Prop} (hop : quiet op=true)
    (hph : g.phase ≠ .deciding) (hrule : Rule env g op)
    (hQ : ∀ r g', g.Keeps g' → g'.Saw op r → Q r g') : (tokenMonitor env).wp Q (ask op) g := by
  refine wp_ask hrule fun s fails => hQ _ _ ⟨rfl,subset_cons_self _ _,?_⟩
    ⟨s,fails,rfl,mem_cons_self⟩
  exact Phase.next_quiet hop hph

theorem wp_loadBdMgmtPublicKey {id : PeerID} (hph : g.phase ≠ .deciding) :
    (tokenMonitor env).wp (fun key g' => g.Keeps g' ∧
      ∀ k, key=some k → ∃ e∈g'.log,e.store.HoldsKey id k) (loadBdMgmtPublicKey id) g := by
  refine wp_bind.mpr (wp_ask_quiet rfl hph trivial fun r g₁ h₁ hsaw => ?_)
  match r, hsaw with
  | .error _, _ => exact ⟨h₁,nofun⟩
  | .ok (some key), ⟨s,fails,hr,hmem⟩ =>
    refine ⟨h₁,fun k hk => ⟨_,hmem,.inl ?_⟩⟩
    split at hk
    · rw [← Option.some.inj hk]
      exact run_getConfig hr.symm
    · cases hk
  | .ok none, _ =>
    refine wp_bind.mpr (wp_ask_quiet rfl (h₁.phase ▸ hph) trivial fun r g₂ h₂ hsaw => ?_)
    refine ⟨h₁.trans h₂,fun k hk => ?_⟩
    obtain ⟨s,fails,hr,hmem⟩:=hsaw
    obtain ⟨p,hp,hpk⟩:=bind_eq_some_iff.mp hk
    refine ⟨_,hmem,.inr (.inl ⟨p,?_,?_⟩)⟩
    · match r, hr, hp with
      | .ok (some _), hr, rfl => exact run_getPeer hr.symm
    · split at hpk
      · exact Option.some.inj hpk
      · cases hpk

theorem unlessOther_eq {incoming key k : Bytes} (h : unlessOther incoming key=some k) : key=k := by
  unfold unlessOther at h
  split at h
  · cases h
  · exact Option.some.inj h

theorem wp_enrollmentProofPublicKey (hph : g.phase ≠ .deciding) :
    (tokenMonitor env).wp (fun key g' => g.Keeps g' ∧ ∀ k, key=some k → KeyOfDevice g.request g'.log k)
      (enrollmentProofPublicKey g.request.device g.request.publicKey) g := by
  refine wp_bind.mpr (wp_ask_quiet rfl hph trivial fun r g₁ h₁ hsaw => ?_)
  have hph₁ : g₁.phase ≠ .deciding := h₁.phase ▸ hph
  match r, hsaw with
  | .error _, _ => exact ⟨h₁,nofun⟩
  | .ok (some _), _ =>
    refine wp_bind.mpr (wp_mono ?_ (wp_loadBdMgmtPublicKey hph₁))
    rintro key g₂ ⟨h₂,hkey⟩
    refine ⟨h₁.trans h₂,fun k hk => ?_⟩
    obtain ⟨bound,hbound,hk⟩:=bind_eq_some_iff.mp hk
    rw [unlessOther_eq hk] at hbound
    exact .inl (hkey k hbound)
  | .ok none, ⟨s,fails,hr,hmem⟩ =>
    have hnorow : ∃ e∈g₁.log,e.store.livePeer g.request.device=none :=
      ⟨_,hmem,run_getPeer hr.symm⟩
    refine wp_bind.mpr (wp_bind.mpr (wp_ask_quiet rfl hph₁ trivial
      fun r g₂ h₂ hsaw => ?_))
    rw [wp_pure]
    split
    · rename_i p hp
      refine ⟨h₁.trans h₂,fun k hk => ?_⟩
      obtain ⟨s,fails,hr,hmem⟩:=hsaw
      obtain ⟨key,hkey,hk⟩:=bind_eq_some_iff.mp hk
      rw [unlessOther_eq hk] at hkey
      have hrow:=(filter_eq_some_iff.mp (filter_eq_some_iff.mp hp).1).1
      refine .inl ⟨_,hmem,.inr (.inr ⟨p,?_,hkey⟩)⟩
      match r, hr, hrow with
      | .ok (some _), hr, rfl => exact run_getConfig hr.symm
    · refine ⟨h₁.trans h₂,fun k hk => .inr ⟨?_,hk⟩⟩
      obtain ⟨e,he,hrow⟩:=hnorow
      exact ⟨e,h₂.log he,hrow⟩

theorem wp_verifyEnrollmentDeviceProof (hph : g.phase ≠ .deciding) :
    (tokenMonitor env).wp (fun proved g' => g.Keeps g' ∧ (proved=true → Entitled env g.request g'.log))
      (verifyEnrollmentDeviceProof env g.request.incoming g.request.device g.request.publicKey) g := by
  have hno : g.Keeps g ∧ (false=true → Entitled env g.request g.log) := ⟨.refl g,nofun⟩
  unfold verifyEnrollmentDeviceProof
  split
  · exact hno
  refine wp_bind.mpr (wp_ask_quiet rfl hph trivial fun now g₁ h₁ _ => ?_)
  have hph₁ : g₁.phase ≠ .deciding := h₁.phase ▸ hph
  split
  · exact ⟨h₁,nofun⟩
  have hproof := @wp_enrollmentProofPublicKey env g₁ hph₁
  rw [h₁.request] at hproof
  refine wp_bind.mpr (wp_mono ?_ hproof)
  rintro key g₂ ⟨h₂,hkey⟩
  match key, hkey with
  | none, _ => exact ⟨h₁.trans h₂,nofun⟩
  | some key, hkey =>
    dsimp only
    split
    · rename_i hsig
      refine wp_bind.mpr (wp_ask_quiet rfl (h₂.phase ▸ hph₁) trivial fun replayed g₃ h₃ hsaw => ?_)
      refine ⟨(h₁.trans h₂).trans h₃,fun hfresh => .inr ⟨key,?_,hsig,?_⟩⟩
      · rcases hkey key rfl with ⟨e,he,hk⟩ | ⟨⟨e,he,hrow⟩,hown⟩
        · exact .inl ⟨e,h₃.log he,hk⟩
        · exact .inr ⟨⟨e,h₃.log he,hrow⟩,hown⟩
      · obtain ⟨s,fails,_,hmem⟩:=hsaw
        exact ⟨_,hmem,rfl,Bool.not_eq_true' replayed ▸ hfresh⟩
    · exact ⟨h₁.trans h₂,nofun⟩

end Specs

def Phase.settled : Phase → Bool
  | .known => true
  | .admitted _ => true
  | .opened _ => true
  | _ => false

structure Trace.Settles (g g' : Trace) : Prop where
  request : g'.request=g.request
  log : g.log ⊆ g'.log
  phase : g'.phase.settled=true

theorem Trace.Settles.trans {g'' : Trace} (h : g.Settles g') (h' : g'.Settles g'') : g.Settles g'' :=
  ⟨h'.request.trans h.request,List.Subset.trans h.log h'.log,h'.phase⟩

theorem Trace.Keeps.settles (h : g.Keeps g') (hph : g.phase.settled=true) :
    g.Settles g' := ⟨h.request,h.log,h.phase ▸ hph⟩

theorem Phase.settled_ne (h : ph.settled=true) : ph ≠ .deciding := by
  rintro rfl
  cases h

theorem credentialFits_fits {requireBound : Bool} {t : DeviceToken}
    (h : credentialFits id requireBound t=true) : t.fits id=true := by
  unfold credentialFits at h
  split at h
  · simp only [Bool.and_eq_true,decide_eq_true_eq] at h
    simp [DeviceToken.fits,h.2]
  · exact h

section Specs
variable {env : Env} {α : Type} {g : Trace}

theorem wp_ask_settled {op : Op} {Q : Res op → Trace → Prop} (hop : quiet op=true)
    (hph : g.phase.settled=true) (hrule : Rule env g op)
    (hQ : ∀ r g', g.Settles g' → Q r g') : (tokenMonitor env).wp Q (ask op) g :=
  wp_ask_quiet hop (Phase.settled_ne hph) hrule fun r g' h _ => hQ r g' (h.settles hph)

variable {id : PeerID}

theorem wp_hasEnrollmentCredential {requireBound : Bool} {candidates : List Bytes}
    (hid : id=g.request.device) (hin : candidates ⊆ g.request.presented) (hph : g.phase.settled=true) :
    (tokenMonitor env).wp (fun shown g' => g.Settles g' ∧ (shown=true → Entitled env g.request g'.log))
      (hasEnrollmentCredential env id requireBound candidates) g := by
  subst hid
  induction candidates generalizing g with
  | nil => exact ⟨⟨rfl,List.Subset.refl _,hph⟩,nofun⟩
  | cons candidate rest ih =>
    refine wp_bind.mpr (wp_ask trivial fun s fails => ?_)
    generalize hr : (run s (.validateToken (env.hashToken candidate)) fails).1=r
    have hset : g.Settles ⟨g.request,⟨s,.validateToken (env.hashToken candidate),r⟩::g.log⟩ := by
      refine ⟨rfl,subset_cons_self _ _,?_⟩
      show (g.phase.next _ _ _).settled=true
      cases hg : g.phase with
      | opened hashes =>
        unfold Phase.next
        dsimp only
        split <;> rfl
      | known => rfl
      | admitted _ => rfl
      | _ =>
        rw [hg] at hph
        cases hph
    split
    · rename_i hany
      refine ⟨hset,fun _ => .inl ?_⟩
      obtain ⟨t,hrow,hfits⟩:=(any_eq_true _ _).mp hany
      rw [← hr] at hrow
      obtain ⟨hstored,husable⟩:=run_validateToken hrow
      exact ⟨_,mem_cons_self,candidate,hin mem_cons_self,t,rfl,hstored,husable,
        credentialFits_fits hfits⟩
    · refine wp_mono ?_ (@ih ⟨g.request,_::g.log⟩ (fun c hc => hin (mem_cons_of_mem _ hc)) hset.phase)
      rintro shown g' ⟨h,hshown⟩
      exact ⟨hset.trans h,hshown⟩

theorem wp_authorizeEnrollmentTokenIssue {r : Incoming} {publicKey bodyToken : Bytes}
    {verified requireBound : Bool} (hr : r=g.request.incoming) (hid : id=g.request.device)
    (hkey : publicKey=g.request.publicKey) (hverified : verified=true → Entitled env g.request g.log)
    (hin : enrollmentTokenCandidates r bodyToken ⊆ g.request.presented) (hph : g.phase.settled=true) :
    (tokenMonitor env).wp (fun authorized g' => g.Settles g' ∧
      (authorized=true → Entitled env g.request g'.log))
      (authorizeEnrollmentTokenIssue env r verified id publicKey bodyToken requireBound) g := by
  subst hr hid hkey
  unfold authorizeEnrollmentTokenIssue
  split
  · rename_i h
    exact ⟨(Trace.Keeps.refl g).settles hph,fun _ => hverified h.1⟩
  split
  · refine wp_mono ?_ (wp_verifyEnrollmentDeviceProof (Phase.settled_ne hph))
    rintro proved g' ⟨h,hproved⟩
    exact ⟨h.settles hph,hproved⟩
  · exact wp_hasEnrollmentCredential rfl hin hph

theorem wp_issueEnrollmentDeviceToken {r : Incoming} {Q : Option Bytes → Trace → Prop}
    (hid : id=g.request.device) (hentitled : Entitled env g.request g.log)
    (hph : g.phase.settled=true) (hQ : ∀ token g', Q token g') :
    (tokenMonitor env).wp Q (issueEnrollmentDeviceToken env r id) g := by
  unfold issueEnrollmentDeviceToken
  split
  · exact hQ _ g
  · exact wp_bind.mpr (wp_ask_settled rfl hph ⟨hid,rfl,hentitled⟩ fun r g' _ => hQ _ g')

theorem wp_storeBdMgmtPublicKey {encoded : Bytes} {Q : Unit → Trace → Prop}
    (hph : g.phase.settled=true) (hQ : ∀ g', g.Settles g' → Q () g') :
    (tokenMonitor env).wp Q (storeBdMgmtPublicKey id encoded) g := by
  unfold storeBdMgmtPublicKey
  split
  · exact hQ g ((Trace.Keeps.refl g).settles hph)
  · exact wp_bind.mpr (wp_ask_settled rfl hph trivial fun _ g' h => hQ g' h)

theorem wp_deviceSettings {Q : String × String → Trace → Prop}
    (hph : g.phase.settled=true) (hQ : ∀ settings g', g.Settles g' → Q settings g') :
    (tokenMonitor env).wp Q (deviceSettings id) g := by
  refine wp_bind.mpr (wp_ask_settled rfl hph trivial fun _ g₁ h₁ => ?_)
  refine wp_bind.mpr (wp_ask_settled rfl h₁.phase trivial fun _ g₂ h₂ => ?_)
  exact hQ _ g₂ (h₁.trans h₂)

theorem wp_bindBundle {req : EnrollmentRequest} {Q : Option Reply → Trace → Prop}
    (hph : g.phase.settled=true) (hQ : ∀ refusal g', g.Settles g' → Q refusal g') :
    (tokenMonitor env).wp Q (bindBundle req) g := by
  unfold bindBundle
  split
  · refine wp_bind.mpr (wp_ask_settled rfl hph trivial fun _ g₁ h₁ => ?_)
    dsimp only
    split
    · exact hQ _ g₁ h₁
    split
    · exact wp_bind.mpr (wp_ask_settled rfl h₁.phase trivial fun _ g₂ h₂ => hQ _ g₂ (h₁.trans h₂))
    · exact hQ _ g₁ h₁
  · exact hQ _ g ((Trace.Keeps.refl g).settles hph)

end Specs

def Phase.entering : Phase → Bool
  | .fresh => true
  | .counted _ => true
  | .uncounted _ => true
  | _ => false

theorem Phase.entering_ne (h : ph.entering=true) : ph ≠ .deciding := by
  rintro rfl
  cases h

theorem Phase.next_upsert {d : PeerID} {uuid : Bytes} {origin : Origin}
    {r : Res (.upsertPeer d uuid origin)} (h : ph.entering=true) (hr : succeeded r=true) :
    (ph.next id (.upsertPeer d uuid origin) r).settled=true := by
  cases ph with
  | fresh | counted | uncounted => simp [next,hr,settled]
  | _ => cases h

structure Trace.Grows (g g' : Trace) : Prop where
  request : g'.request=g.request
  log : g.log ⊆ g'.log

section Specs
variable {env : Env} {g : Trace}

variable {Q : Bool → Trace → Prop} {id : PeerID}

theorem wp_checkSecureState {reset : Bool} (hph : g.phase ≠ .deciding) (hQ : ∀ b g', g.Keeps g' → Q b g') :
    (tokenMonitor env).wp Q (checkSecureState id reset) g := by
  unfold checkSecureState
  split
  · refine wp_bind.mpr (wp_ask_quiet rfl hph trivial fun state g₁ h₁ _ => ?_)
    match state with
    | .error _ => exact hQ _ g₁ h₁
    | .ok .missing =>
      exact wp_bind.mpr (wp_ask_quiet rfl (h₁.phase ▸ hph) trivial fun _ g₂ h₂ _ =>
        hQ _ g₂ (h₁.trans h₂))
    | .ok .softDeleted => exact hQ _ g₁ h₁
    | .ok .active => exact hQ _ g₁ h₁
  · exact hQ _ g (.refl g)

theorem wp_createPeerFromEnrollment {req : EnrollmentRequest} {reset : Bool} {origin : Origin}
    (hid : req.deviceID=g.request.device) (hph : g.phase.entering=true)
    (hno : ∀ g', Q false g') (hyes : ∀ g', g.Settles g' → Q true g') :
    (tokenMonitor env).wp Q (createPeerFromEnrollment req reset origin) g := by
  unfold createPeerFromEnrollment
  split
  · exact hno g
  refine wp_bind.mpr (wp_checkSecureState (Phase.entering_ne hph) fun checked g₁ h₁ => ?_)
  have hph₁ : g₁.phase.entering=true := h₁.phase ▸ hph
  split
  · refine wp_bind.mpr (wp_ask (hid.trans (congrArg _ h₁.request.symm)) fun s fails => ?_)
    generalize (run s (.upsertPeer req.deviceID req.uuid origin) fails).1=created
    split
    · rename_i hcreated
      have h₂ : g.Settles ⟨g₁.request,⟨s,_,created⟩::g₁.log⟩ :=
        ⟨h₁.request,List.Subset.trans h₁.log (subset_cons_self _ _),Phase.next_upsert hph₁ hcreated⟩
      have hkey : ∀ g', g.Settles g' → (tokenMonitor env).wp Q (do
          if req.publicKey≠[] then
            storeBdMgmtPublicKey req.deviceID req.publicKey
          pure true) g' := by
        intro g' h
        split
        · exact wp_bind.mpr (wp_storeBdMgmtPublicKey h.phase fun g'' h' => hyes g'' (h.trans h'))
        · exact hyes g' h
      dsimp only
      split
      · exact wp_bind.mpr (wp_ask_settled rfl h₂.phase trivial fun _ g₃ h₃ =>
          hkey g₃ (h₂.trans h₃))
      · exact hkey _ h₂
    · exact hno _
  · exact hno g₁

theorem wp_enrollmentBlock {Q : Option String → Trace → Prop}
    (hph : g.phase=.arriving) (hblocked : ∀ message g', Q (some message) g')
    (hfree : ∀ g', g.Grows g' → g'.phase=.deciding → Q none g') : (tokenMonitor env).wp Q (enrollmentBlock id) g := by
  have harriving : ∀ {g' : Trace}, g'.phase=.arriving → g'.phase ≠ .deciding := fun h h' => by
    rw [h] at h'
    cases h'
  refine wp_bind.mpr (wp_ask_quiet rfl (harriving hph) trivial fun _ g₁ h₁ _ => ?_)
  split
  · exact hblocked _ g₁
  refine wp_bind.mpr (wp_ask_quiet rfl (harriving (h₁.phase.trans hph)) trivial
    fun _ g₂ h₂ _ => ?_)
  split
  · exact hblocked _ g₂
  refine wp_bind.mpr (wp_ask trivial fun s fails => ?_)
  split
  · exact hblocked _ _
  · have h:=h₁.trans h₂
    refine hfree _ ⟨h.request,List.Subset.trans h.log (subset_cons_self _ _)⟩ ?_
    show g₂.phase.next _ _ _=_
    rw [h.phase,hph]
    rfl

theorem wp_getPeer_deciding {Q : Answer (Option Peer) → Trace → Prop} (hph : g.phase=.deciding)
    (hknown : ∀ r g', g.Grows g' → (Answer.row r).isSome=true → g'.phase=.known → Q r g')
    (hfresh : ∀ r g', g.Grows g' → Answer.row r=none → g'.phase=.fresh → Q r g') :
    (tokenMonitor env).wp Q (ask (.getPeer id)) g := by
  refine wp_ask trivial fun s fails => ?_
  have hgrows : g.Grows ⟨g.request,⟨s,.getPeer id,(run s (.getPeer id) fails).1⟩::g.log⟩ :=
    ⟨rfl,subset_cons_self _ _⟩
  have hnext : Trace.phase ⟨g.request,⟨s,.getPeer id,(run s (.getPeer id) fails).1⟩::g.log⟩ =
      if (Answer.row (run s (.getPeer id) fails).1).isSome then .known else .fresh := by
    show g.phase.next _ _ _=_
    rw [hph]
    rfl
  by_cases hrow : (Answer.row (run s (.getPeer id) fails).1).isSome=true
  · rw [if_pos hrow] at hnext
    exact hknown _ _ hgrows hrow hnext
  · rw [if_neg hrow] at hnext
    exact hfresh _ _ hgrows (not_isSome_iff_eq_none.mp hrow) hnext

variable {r : Incoming} {req : EnrollmentRequest} {verified : Bool}

theorem wp_reregister {existing : Peer} (hreq : g.request=.register r req)
    (hverified : verified=true → Entitled env g.request g.log) (hph : g.phase.settled=true) :
    (tokenMonitor env).wp (fun _ _ => True) (reregister env r req verified existing) g := by
  unfold reregister
  split
  · trivial
  refine wp_bind.mpr (wp_mono ?_ (wp_loadBdMgmtPublicKey (Phase.settled_ne hph)))
  rintro bound g₁ ⟨h₁,-⟩
  have h₁:=h₁.settles hph
  split
  · trivial
  refine wp_bind.mpr (wp_bindBundle h₁.phase fun refusal g₂ h₂ => ?_)
  have h₂:=h₁.trans h₂
  split
  · trivial
  refine wp_bind.mpr (wp_deviceSettings h₂.phase fun settings g₃ h₃ => ?_)
  have h₃:=h₂.trans h₃
  have hq₃:=h₃.request.trans hreq
  have hin : ∀ {g' : Trace}, g'.request=.register r req →
      enrollmentTokenCandidates r req.token ⊆ g'.request.presented := fun h => by
    rw [h]
    exact subset_cons_self _ _
  refine wp_bind.mpr (wp_mono ?_
    (wp_hasEnrollmentCredential (by rw [hq₃]; rfl) (hin hq₃) h₃.phase))
  rintro hasBound g₄ ⟨h₄,-⟩
  have h₄:=h₃.trans h₄
  have hq₄:=h₄.request.trans hreq
  refine wp_bind.mpr (wp_mono ?_
    (wp_authorizeEnrollmentTokenIssue (by rw [hq₄]; rfl) (by rw [hq₄]; rfl) (by rw [hq₄]; rfl)
      (fun hv => h₄.request ▸ (hverified hv).mono h₄.log) (hin hq₄) h₄.phase))
  rintro authorized g₅ ⟨h₅,hauth⟩
  have h₅':=h₄.trans h₅
  split
  · rename_i hyes
    have hissue : ∀ g', g₅.Settles g' → (tokenMonitor env).wp (fun _ _ => True) (do
        if hasBound then pure (approvedReply settings.1 settings.2 "" none)
        else
          let token ← issueEnrollmentDeviceToken env r req.deviceID
          pure (approvedReply settings.1 settings.2 "" token)) g' := by
      intro g' h
      split
      · trivial
      · have hq : g'.request=.register r req := (h.request.trans h₅'.request).trans hreq
        have hent:=(hauth hyes).mono h.log
        rw [hq₄,← hq] at hent
        exact wp_bind.mpr (wp_issueEnrollmentDeviceToken (by rw [hq]; rfl) hent h.phase
          fun _ _ => trivial)
    dsimp only
    split
    · exact wp_bind.mpr (wp_storeBdMgmtPublicKey h₅.phase fun g' h => hissue g' h)
    · exact hissue g₅ ⟨rfl,List.Subset.refl _,h₅.phase⟩
  · trivial

theorem wp_enrollOpen (hreq : g.request=.register r req)
    (hverified : verified=true → Entitled env g.request g.log) (hph : g.phase=.fresh) :
    (tokenMonitor env).wp (fun _ _ => True) (enrollOpen env r req verified) g := by
  refine wp_bind.mpr (wp_createPeerFromEnrollment (by rw [hreq]; rfl) (by rw [hph]; rfl)
    (fun _ => trivial) fun g₁ h₁ => ?_)
  have hq₁:=h₁.request.trans hreq
  have hin : enrollmentTokenCandidates r req.token ⊆ g₁.request.presented := by
    rw [hq₁]
    exact subset_cons_self _ _
  refine wp_bind.mpr (wp_mono ?_
    (wp_authorizeEnrollmentTokenIssue (by rw [hq₁]; rfl) (by rw [hq₁]; rfl) (by rw [hq₁]; rfl)
      (fun hv => h₁.request ▸ (hverified hv).mono h₁.log) hin h₁.phase))
  rintro authorized g₂ ⟨h₂,hauth⟩
  have hq₂ : g₂.request=.register r req := h₂.request.trans hq₁
  split
  · rename_i hyes
    exact wp_bind.mpr (wp_issueEnrollmentDeviceToken (by rw [hq₂]; rfl)
      (h₂.request.symm ▸ hauth hyes) h₂.phase fun _ _ => trivial)
  · trivial

theorem wp_storePendingDevice {clientIP : Bytes} (hph : g.phase=.fresh)
    (hQ : ∀ b g', Q b g') : (tokenMonitor env).wp Q (storePendingDevice req clientIP) g := by
  have hfresh : ∀ {g' : Trace}, g'.phase=.fresh → g'.phase ≠ .deciding := fun h h' => by
    rw [h] at h'
    cases h'
  refine wp_bind.mpr (wp_ask_quiet rfl (hfresh hph) trivial fun raw g₁ h₁ _ => ?_)
  have hph₁:=hfresh (h₁.phase.trans hph)
  split
  · dsimp only
    split
    · exact hQ _ g₁
    split
    · exact hQ _ g₁
    · exact wp_bind.mpr (wp_ask_quiet rfl hph₁ trivial fun _ g₂ _ _ => hQ _ g₂)
  · exact wp_bind.mpr (wp_ask_quiet rfl hph₁ trivial fun _ g₂ _ _ => hQ _ g₂)

theorem wp_enrollManaged (hph : g.phase=.fresh) : (tokenMonitor env).wp (fun _ _ => True) (enrollManaged r req) g := by
  refine wp_bind.mpr (wp_storePendingDevice hph fun b g' => ?_)
  split <;> trivial

theorem wp_enrollLocked (hreq : g.request=.register r req) (hph : g.phase=.fresh) :
    (tokenMonitor env).wp (fun _ _ => True) (enrollLocked env r req) g := by
  unfold enrollLocked
  dsimp only
  split
  · trivial
  refine wp_bind.mpr (wp_ask trivial fun s fails => ?_)
  generalize hr : (run s (.validateToken (env.hashToken req.token)) fails).1=token
  split
  · trivial
  rename_i t hrow
  obtain ⟨hrow,hfits⟩:=filter_eq_some_iff.mp hrow
  have hvalid:=hrow
  rw [← hr] at hvalid
  obtain ⟨hstored,husable⟩:=run_validateToken hvalid
  generalize hg₁ : (⟨g.request,⟨s,.validateToken (env.hashToken req.token),token⟩::g.log⟩ :
    Trace)=g₁
  have hq₁ : g₁.request=.register r req := by
    rw [← hg₁]
    exact hreq
  have hph₁ : g₁.phase=.held (env.hashToken req.token) := by
    rw [← hg₁]
    show g.phase.next g.request.device _ _=_
    have hfit : fitting g.request.device token=true := by
      rw [hreq]
      exact (any_eq_true _ _).mpr ⟨t,hrow,hfits⟩
    rw [hph]
    exact if_pos hfit
  have hshown : Entitled env g₁.request g₁.log := by
    rw [hq₁,← hg₁]
    exact .inl ⟨_,mem_cons_self,req.token,mem_cons_self,t,rfl,hstored,husable,hfits⟩
  clear hg₁
  have hrest : ∀ g', g₁.Keeps g' → (tokenMonitor env).wp (fun _ _ => True) (do
      let _ ← ask (.incrementTokenUse (env.hashToken req.token))
      if ← createPeerFromEnrollment req true .registration then
        let issued ← issueEnrollmentDeviceToken env r req.deviceID
        pure (approvedReply "standard" "" "" (some (issued.getD req.token)))
      else pure (httpError 500 "Failed to enroll device")) g' := by
    intro g' h
    have hph':=h.phase.trans hph₁
    refine wp_bind.mpr (wp_ask hph' fun s fails => ?_)
    generalize (run s (.incrementTokenUse (env.hashToken req.token)) fails).1=counted
    have hq' : g'.request=.register r req := h.request.trans hq₁
    have hent : Entitled env (.register r req) g'.log := hq₁ ▸ hshown.mono h.log
    have hentering : (Trace.phase ⟨g'.request,
        ⟨s,.incrementTokenUse (env.hashToken req.token),counted⟩::g'.log⟩).entering=true := by
      show (g'.phase.next _ _ _).entering=true
      rw [hph']
      unfold Phase.next
      dsimp only
      split <;> rfl
    refine wp_bind.mpr (wp_createPeerFromEnrollment (by rw [hq']; rfl) hentering
      (fun _ => trivial) fun g'' h'' => ?_)
    have hq'' : g''.request=.register r req := h''.request.trans hq'
    refine wp_bind.mpr (wp_issueEnrollmentDeviceToken (by rw [hq'']; rfl) ?_ h''.phase
      fun _ _ => trivial)
    rw [hq'']
    exact hent.mono (List.Subset.trans (subset_cons_self _ _) h''.log)
  split
  · have hne : g₁.phase ≠ .deciding := by
      rw [hph₁]
      nofun
    exact wp_bind.mpr (wp_ask_quiet rfl hne trivial fun _ g₂ h₂ _ => hrest g₂ h₂)
  · exact hrest g₁ (.refl g₁)

theorem wp_registerDevice (hreq : g.request=.register r req)
    (hverified : verified=true → Entitled env g.request g.log) (hph : g.phase=.arriving) :
    (tokenMonitor env).wp (fun _ _ => True) (registerDevice env r req verified) g := by
  refine wp_bind.mpr (wp_enrollmentBlock hph (fun _ _ => trivial) fun g₁ h₁ hph₁ => ?_)
  have hverified₁ : verified=true → Entitled env g₁.request g₁.log := fun hv =>
    h₁.request ▸ (hverified hv).mono h₁.log
  refine wp_bind.mpr (wp_getPeer_deciding hph₁ ?_ ?_)
  · intro row g₂ h₂ hrow hph₂
    have hverified₂ : verified=true → Entitled env g₂.request g₂.log := fun hv =>
      h₂.request ▸ (hverified₁ hv).mono h₂.log
    obtain ⟨existing,hrow⟩:=isSome_iff_exists.mp hrow
    rw [hrow]
    exact wp_reregister ((h₂.request.trans h₁.request).trans hreq) hverified₂ (by rw [hph₂]; rfl)
  · intro row g₂ h₂ hrow hph₂
    have hverified₂ : verified=true → Entitled env g₂.request g₂.log := fun hv =>
      h₂.request ▸ (hverified₁ hv).mono h₂.log
    have hq₂ : g₂.request=.register r req := (h₂.request.trans h₁.request).trans hreq
    rw [hrow]
    dsimp only
    split
    · exact wp_enrollOpen hq₂ hverified₂ hph₂
    split
    · exact wp_enrollManaged hph₂
    split
    · exact wp_enrollLocked hq₂ hph₂
    · trivial

theorem wp_handleDeviceRegister (hreq : g.request=.register r req) (hph : g.phase=.arriving) :
    (tokenMonitor env).wp (fun _ _ => True) (handleDeviceRegister env r req) g := by
  unfold handleDeviceRegister
  split
  · trivial
  split
  · trivial
  split
  · split
    · trivial
    have hproof := @wp_verifyEnrollmentDeviceProof env g (by rw [hph]; nofun)
    rw [hreq] at hproof
    refine wp_bind.mpr (wp_mono ?_ hproof)
    rintro proved g₁ ⟨h₁,hproved⟩
    split
    · rename_i hyes
      have hq₁ : g₁.request=.register r req := h₁.request.trans hreq
      exact wp_registerDevice hq₁ (fun _ => hq₁ ▸ hproved hyes) (h₁.phase.trans hph)
    · trivial
  · exact wp_registerDevice hreq nofun hph

theorem wp_handleDeviceRegisterStatus (hreq : g.request=.status r id) (hph : g.phase=.arriving) :
    (tokenMonitor env).wp (fun _ _ => True) (handleDeviceRegisterStatus env r id) g := by
  unfold handleDeviceRegisterStatus
  split
  · trivial
  refine wp_bind.mpr (wp_enrollmentBlock hph (fun _ _ => trivial) fun g₁ h₁ hph₁ => ?_)
  refine wp_bind.mpr (wp_getPeer_deciding hph₁ ?_ ?_)
  · intro row g₂ h₂ hrow hph₂
    obtain ⟨p,hrow⟩:=isSome_iff_exists.mp hrow
    rw [hrow]
    dsimp only
    split
    · trivial
    have hset₂ : g₂.phase.settled=true := by
      rw [hph₂]
      rfl
    refine wp_bind.mpr (wp_deviceSettings hset₂ fun settings g₃ h₃ => ?_)
    have hq₃ : g₃.request=.status r id :=
      ((h₃.request.trans h₂.request).trans h₁.request).trans hreq
    have hin : ∀ {g' : Trace}, g'.request=.status r id →
        enrollmentTokenCandidates r [] ⊆ g'.request.presented := fun h => by
      rw [h]
      exact List.Subset.refl _
    refine wp_bind.mpr (wp_mono ?_
      (wp_hasEnrollmentCredential (by rw [hq₃]; rfl) (hin hq₃) h₃.phase))
    rintro hasBound g₄ ⟨h₄,-⟩
    have hq₄ : g₄.request=.status r id := h₄.request.trans hq₃
    split
    · trivial
    refine wp_bind.mpr (wp_mono ?_
      (wp_authorizeEnrollmentTokenIssue (by rw [hq₄]; rfl) (by rw [hq₄]; rfl) (by rw [hq₄]; rfl)
        nofun (hin hq₄) h₄.phase))
    rintro authorized g₅ ⟨h₅,hauth⟩
    have hq₅ : g₅.request=.status r id := h₅.request.trans hq₄
    split
    · rename_i hyes
      exact wp_bind.mpr (wp_issueEnrollmentDeviceToken (by rw [hq₅]; rfl)
        (h₅.request.symm ▸ hauth hyes) h₅.phase fun _ _ => trivial)
    · trivial
  · intro row g₂ h₂ hrow hph₂
    rw [hrow]
    have hne : g₂.phase ≠ .deciding := by
      rw [hph₂]
      nofun
    refine wp_bind.mpr (wp_ask_quiet rfl hne trivial fun pending g₃ _ _ => ?_)
    split <;> trivial

end Specs

theorem wp_handle (env : Env) (q : Request) : (tokenMonitor env).wp (fun _ _ => True) (handle env q) ⟨q,[]⟩ := by
  cases q with
  | register r req => exact wp_handleDeviceRegister rfl rfl
  | status r id => exact wp_handleDeviceRegisterStatus rfl rfl

end BetterDesk.Enrollment
