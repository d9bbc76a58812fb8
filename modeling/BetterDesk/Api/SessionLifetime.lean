import BetterDesk.Api.ClientSessions

/-! # How long a client session lasts -/

namespace BetterDesk.Api
open Text Exec ClientSessions List Option

/-- No session lasts, or was accepted, past its creation and the maximum, and at most
one is active for a user and device. -/
structure SessionsKept (E : SessionEnv) (s : ClientSessions) : Prop where
  bounded : ∀ r∈s.rows,r.expiresAt≤r.createdAt+E.maxLifetime
  accepted : ∀ a∈s.accepted,a.2≤a.1.createdAt+E.maxLifetime
  single : ∀ r∈s.rows, ∀ r'∈s.rows,r.active s.now=true → r'.active s.now=true →
    r.device=r'.device → r=r'

/-- A login reads a time and a lifetime within the maximum from its insert, and no other
session of the device is active then; an expiry that comes after the session has
expired brings it back only where no other one is active. -/
def StepFits (E : SessionEnv) (s : ClientSessions) : SessionAction → Prop
  | .loginCreates login token now => ∀ r, s.inserted E login token now=some r →
      now+E.lifetime ≤ s.now+E.maxLifetime ∧
      (s.now<now+E.lifetime → ∀ r'∈s.rows,r'.active s.now=true → r'.device≠r.device)
  | .touch pending now => ∀ p, s.touches[pending]?=some p → p.readAt≤now → now ≤ s.now →
      ∀ r∈s.rows,r.id=p.row.id → r.revoked=false → r.expiresAt ≤ s.now →
        s.now<E.nextExpiry p.row now → ∀ r'∈s.rows,r'.active s.now=true → r'.device≠r.device
  | _ => True

structure Quiet (s t : ClientSessions) : Prop where
  now : s.now≤t.now
  rows : ∃ (keep : ClientSessionRow → Bool) (f : ClientSessionRow → ClientSessionRow),
    t.rows=(s.rows.filter keep).map f ∧ ∀ r, f r=r ∨ f r={r with revoked := true}
  nextID : t.nextID=s.nextID
  touches : t.touches ⊆ s.touches
  accepted : t.accepted=s.accepted

inductive Effect (E : SessionEnv) (s : ClientSessions) : SessionAction → ClientSessions → Prop
  | quiet {a : SessionAction} {t : ClientSessions} (fits : StepFits E s a) (h : Quiet s t) : Effect E s a t
  | finds {a : SessionAction} (fits : StepFits E s a) (r : ClientSessionRow) (hr : r∈s.rows)
      (hactive : r.active s.now=true) (touches : List PendingTouch)
      (htouches : touches ⊆ s.touches++[⟨r,s.now⟩]) :
      Effect E s a {s with touches := touches,accepted := s.accepted++[(r,s.now)]}
  | inserts (login : ℕ) (token : Bytes) (now : ℤ) (r : ClientSessionRow)
      (hr : s.inserted E login token now=some r) :
      Effect E s (.loginCreates login token now) {s with
        rows := s.rows++[r],nextID := s.nextID+1,logins := s.logins.eraseIdx login}
  | touches (pending : ℕ) (now : ℤ) (p : PendingTouch) (hp : s.touches[pending]?=some p)
      (hread : p.readAt≤now) (hnow : now ≤ s.now) :
      Effect E s (.touch pending now) {s with
        rows := touchClientSession s.rows p.row.id (E.nextExpiry p.row now) now
        touches := s.touches.eraseIdx pending}

section
variable {E : SessionEnv} {s t : ClientSessions} {a : SessionAction}

variable {r : ClientSessionRow} {token : Bytes} {now : ℤ} {id : ℕ}

theorem found_mem (h : s.found E token=some r) : r∈s.rows ∧ r.active s.now=true := by
  unfold ClientSessions.found at h
  split at h
  · refine ⟨mem_of_find?_eq_some h,?_⟩
    have hfound:=List.find?_some h
    simp only [Bool.and_eq_true] at hfound
    exact hfound.2
  · cases h

theorem inserted_some {login : ℕ} (h : s.inserted E login token now=some r) :
    r.id=s.nextID ∧ r.createdAt=s.now ∧ r.expiresAt=now+E.lifetime ∧ r.revoked=false := by
  obtain ⟨p,_,h⟩:=bind_eq_some_iff.mp h
  split at h
  · cases h
    exact ⟨rfl,rfl,rfl,rfl⟩
  · cases h

theorem revokeDevice_rows (rows : List ClientSessionRow) (device : ℤ × String × String) :
    ∃ (keep : ClientSessionRow → Bool) (f : ClientSessionRow → ClientSessionRow),
      revokeClientSessionsForDevice rows device=(rows.filter keep).map f ∧
        ∀ r, f r=r ∨ f r={r with revoked := true} := by
  refine ⟨fun _ => true,_,by rw [filter_true]; rfl,fun r => ?_⟩
  split
  · exact .inr rfl
  · exact .inl rfl

theorem revokeToken_rows (rows : List ClientSessionRow) (tokenHash : String) :
    ∃ (keep : ClientSessionRow → Bool) (f : ClientSessionRow → ClientSessionRow),
      revokeClientSessionByTokenHash rows tokenHash=(rows.filter keep).map f ∧
        ∀ r, f r=r ∨ f r={r with revoked := true} := by
  refine ⟨fun _ => true,_,by rw [filter_true]; rfl,fun r => ?_⟩
  split
  · exact .inr rfl
  · exact .inl rfl

theorem same_rows (rows : List ClientSessionRow) :
    ∃ (keep : ClientSessionRow → Bool) (f : ClientSessionRow → ClientSessionRow),
      rows=(rows.filter keep).map f ∧ ∀ r, f r=r ∨ f r={r with revoked := true} :=
  ⟨fun _ => true,fun r => r,by rw [filter_true,List.map_id'],fun _ => .inl rfl⟩

theorem quiet_self (s : ClientSessions) : Quiet s s :=
  ⟨le_refl _,same_rows _,rfl,List.Subset.refl _,rfl⟩

theorem step_effect (h : step E s a=some t) : Effect E s a t := by
  cases a with
  | tick seconds =>
    cases h
    exact .quiet trivial ⟨by dsimp only; omega,same_rows _,rfl,List.Subset.refl _,rfl⟩
  | loginRevokes userID clientID clientUUID =>
    simp only [step] at h
    split at h
    · cases h
    · cases h
      exact .quiet trivial ⟨le_refl _,revokeDevice_rows _ _,rfl,List.Subset.refl _,rfl⟩
  | loginCreates login token now =>
    obtain ⟨r,hr,rfl⟩:=map_eq_some_iff.mp h
    exact .inserts login token now r hr
  | loginFails | banFinds =>
    cases h
    exact .quiet trivial ⟨le_refl _,same_rows _,rfl,List.Subset.refl _,rfl⟩
  | use token userExists =>
    simp only [step] at h
    cases hfound : s.found E token with
    | none =>
      rw [hfound] at h
      cases h
      exact .quiet trivial (quiet_self s)
    | some r =>
      obtain ⟨hr,hactive⟩:=found_mem hfound
      rw [hfound] at h
      dsimp only at h
      split at h
      · cases h
        exact .finds (a := .use token userExists) trivial r hr hactive _ (List.Subset.refl _)
      · cases h
        exact .quiet trivial (quiet_self s)
  | useSignal token =>
    cases h
    cases hfound : s.found E token with
    | none => exact .quiet trivial ⟨le_refl _,same_rows _,rfl,List.Subset.refl _,append_nil _⟩
    | some r =>
      obtain ⟨hr,hactive⟩:=found_mem hfound
      exact .finds (a := .useSignal token) trivial r hr hactive s.touches (subset_append_left _ _)
  | touch pending now =>
    obtain ⟨p,hp,h⟩:=bind_eq_some_iff.mp h
    split at h
    · rename_i hguard
      cases h
      exact .touches pending now p hp hguard.1 hguard.2
    · cases h
  | touchFails pending =>
    cases h
    exact .quiet trivial ⟨le_refl _,same_rows _,rfl,eraseIdx_subset,rfl⟩
  | logout token =>
    simp only [step] at h
    split at h
    · cases h
      exact .quiet trivial ⟨le_refl _,revokeToken_rows _ _,rfl,List.Subset.refl _,rfl⟩
    · cases h
      exact .quiet trivial (quiet_self s)
  | banRevokes ban =>
    obtain ⟨r,_,h⟩:=bind_eq_some_iff.mp h
    cases h
    exact .quiet trivial ⟨le_refl _,revokeDevice_rows _ _,rfl,List.Subset.refl _,rfl⟩
  | cleanup =>
    cases h
    exact .quiet trivial ⟨le_refl _,⟨_,fun r => r,by rw [List.map_id']; rfl,fun _ => .inl rfl⟩,rfl,
      List.Subset.refl _,rfl⟩

theorem Quiet.row (h : Quiet s t) (hr : r∈t.rows) : ∃ r0∈s.rows,r=r0 ∨ r={r0 with revoked := true} := by
  obtain ⟨keep,f,hrows,hf⟩:=h.rows
  rw [hrows] at hr
  obtain ⟨r0,hr0,rfl⟩:=mem_map.mp hr
  exact ⟨r0,mem_of_mem_filter hr0,hf r0⟩

theorem active_before {r0 : ClientSessionRow} (h : r=r0 ∨ r={r0 with revoked := true}) {now' : ℤ}
    (hle : now≤now') (hactive : r.active now'=true) : r=r0 ∧ r0.active now=true := by
  rcases h with rfl | rfl
  · refine ⟨rfl,?_⟩
    simp only [ClientSessionRow.active,Bool.and_eq_true,decide_eq_true_eq] at hactive ⊢
    exact ⟨hactive.1,by omega⟩
  · simp [ClientSessionRow.active] at hactive

theorem touch_row {rows : List ClientSessionRow} {expiresAt lastUsed : ℤ}
    (hr : r∈touchClientSession rows id expiresAt lastUsed) :
    ∃ r0∈rows,r.id=r0.id ∧ r.createdAt=r0.createdAt ∧ r.device=r0.device ∧ r.revoked=r0.revoked ∧
      ((r=r0 ∧ ¬ (r0.id=id ∧ r0.revoked=false)) ∨ (r0.id=id ∧ r0.revoked=false ∧ r.expiresAt=expiresAt)) := by
  obtain ⟨r0,hr0,rfl⟩:=mem_map.mp hr
  refine ⟨r0,hr0,?_⟩
  split
  · rename_i hmatch
    exact ⟨rfl,rfl,rfl,rfl,.inr ⟨hmatch.1,hmatch.2,rfl⟩⟩
  · rename_i hother
    exact ⟨rfl,rfl,rfl,rfl,.inl ⟨rfl,hother⟩⟩

theorem touch_mem {rows : List ClientSessionRow} (hr : r∈rows) (id : ℕ)
    (expiresAt lastUsed : ℤ) : (if r.id=id ∧ r.revoked=false then {r with expiresAt,lastUsed} else r) ∈
      touchClientSession rows id expiresAt lastUsed := mem_map_of_mem hr

/-- Keys are not used twice, and a pending use knows when its session was created. -/
structure SessionsInv (s : ClientSessions) : Prop where
  ids : ∀ r∈s.rows, ∀ r'∈s.rows,r.id=r'.id → r=r'
  fresh : ∀ r∈s.rows,r.id < s.nextID
  known : ∀ p∈s.touches,p.row.id < s.nextID ∧ ∀ r∈s.rows,r.id=p.row.id → r.createdAt=p.row.createdAt

theorem sessionsInv_init (now : ℤ) : SessionsInv (.init now) := by
  constructor <;> simp [ClientSessions.init]

theorem SessionsInv.quiet (hi : SessionsInv s) (h : Quiet s t) : SessionsInv t := by
  obtain ⟨keep,f,hrows,hf⟩:=h.rows
  have hrow {r : ClientSessionRow} (hr : r∈t.rows) :
      ∃ r0∈s.rows,r=f r0 ∧ (f r0).id=r0.id ∧ (f r0).createdAt=r0.createdAt := by
    rw [hrows] at hr
    obtain ⟨r0,hr0,rfl⟩:=mem_map.mp hr
    refine ⟨r0,mem_of_mem_filter hr0,rfl,?_⟩
    rcases hf r0 with h0 | h0 <;> rw [h0] <;> exact ⟨rfl,rfl⟩
  constructor
  · intro r hr r' hr' heq
    obtain ⟨r0,hr0,rfl,hid,_⟩:=hrow hr
    obtain ⟨r0',hr0',rfl,hid',_⟩:=hrow hr'
    rw [hi.ids r0 hr0 r0' hr0' (by rw [← hid,← hid',heq])]
  · intro r hr
    obtain ⟨r0,hr0,rfl,hid,_⟩:=hrow hr
    rw [hid,h.nextID]
    exact hi.fresh r0 hr0
  · intro p hp
    obtain ⟨hlt,hcreated⟩:=hi.known p (h.touches hp)
    refine ⟨h.nextID ▸ hlt,fun r hr heq => ?_⟩
    obtain ⟨r0,hr0,rfl,hid,hcreated0⟩:=hrow hr
    rw [hcreated0]
    exact hcreated r0 hr0 (hid ▸ heq)

theorem SessionsInv.insert (hi : SessionsInv s) (hid : r.id=s.nextID) (logins : List PendingLogin) :
    SessionsInv {s with rows := s.rows++[r],nextID := s.nextID+1,logins := logins} := by
  constructor
  · intro r1 hr1 r2 hr2 heq
    rcases mem_append.mp hr1 with hr1 | hr1 <;> rcases mem_append.mp hr2 with hr2 | hr2
    · exact hi.ids r1 hr1 r2 hr2 heq
    · have hlt:=hi.fresh r1 hr1
      rw [mem_singleton.mp hr2] at heq
      omega
    · have hlt:=hi.fresh r2 hr2
      rw [mem_singleton.mp hr1] at heq
      omega
    · rw [mem_singleton.mp hr1,mem_singleton.mp hr2]
  · intro r1 hr1
    dsimp only
    rcases mem_append.mp hr1 with hr1 | hr1
    · have hlt:=hi.fresh r1 hr1
      omega
    · rw [mem_singleton.mp hr1]
      omega
  · intro p hp
    obtain ⟨hlt,hcreated⟩:=hi.known p hp
    refine ⟨by dsimp only; omega,fun r1 hr1 heq => ?_⟩
    rcases mem_append.mp hr1 with hr1 | hr1
    · exact hcreated r1 hr1 heq
    · rw [mem_singleton.mp hr1] at heq
      omega

theorem Effect.inv (h : Effect E s a t) (hi : SessionsInv s) : SessionsInv t := by
  cases h with
  | quiet _ h => exact hi.quiet h
  | finds _ r hr hactive touches htouches =>
    refine ⟨hi.ids,hi.fresh,fun p hp => ?_⟩
    rcases mem_append.mp (htouches hp) with hp | hp
    · exact hi.known p hp
    · rw [mem_singleton.mp hp]
      exact ⟨hi.fresh r hr,fun r' hr' heq => by rw [hi.ids r' hr' r hr heq]⟩
  | inserts login token now r hr => exact hi.insert (inserted_some hr).1 _
  | touches pending now p hp hread hnow =>
    constructor
    · intro r hr r' hr' heq
      obtain ⟨r0,hr0,rfl⟩:=mem_map.mp hr
      obtain ⟨r0',hr0',rfl⟩:=mem_map.mp hr'
      have hids : r0.id=r0'.id := by
        split at heq <;> split at heq <;> exact heq
      rw [hi.ids r0 hr0 r0' hr0' hids]
    · intro r hr
      obtain ⟨r0,hr0,hid,_⟩:=touch_row hr
      rw [hid]
      exact hi.fresh r0 hr0
    · intro q hq
      obtain ⟨hlt,hcreated⟩:=hi.known q (mem_of_mem_eraseIdx hq)
      refine ⟨hlt,fun r hr heq => ?_⟩
      obtain ⟨r0,hr0,hid,hsame,_⟩:=touch_row hr
      rw [hsame]
      exact hcreated r0 hr0 (hid.symm.trans heq)

def ClientSessions.Gone (s : ClientSessions) (id : ℕ) : Prop :=
  id < s.nextID ∧ ∀ r∈s.rows,r.id=id → r.revoked=true

theorem Effect.gone (h : Effect E s a t) (hgone : s.Gone id) :
    t.Gone id ∧ ∃ new, t.accepted=s.accepted++new ∧ ∀ x∈new,x.1.id≠id := by
  cases h with
  | quiet _ h =>
    refine ⟨⟨h.nextID ▸ hgone.1,fun r hr heq => ?_⟩,[],by rw [h.accepted,append_nil],by simp⟩
    obtain ⟨r0,hr0,hor⟩:=h.row hr
    rcases hor with rfl | rfl
    · exact hgone.2 r hr0 heq
    · rfl
  | finds _ r hr hactive touches htouches =>
    refine ⟨hgone,_,rfl,fun x hx heq => ?_⟩
    rw [mem_singleton.mp hx] at heq
    have hrevoked:=hgone.2 r hr heq
    simp [ClientSessionRow.active,hrevoked] at hactive
  | inserts login token now r hr =>
    refine ⟨⟨by have := hgone.1; dsimp only; omega,fun r1 hr1 heq => ?_⟩,[],(append_nil _).symm,by simp⟩
    rcases mem_append.mp hr1 with hr1 | hr1
    · exact hgone.2 r1 hr1 heq
    · have hlt:=hgone.1
      have hid:=(inserted_some hr).1
      rw [mem_singleton.mp hr1] at heq
      omega
  | touches pending now p hp hread hnow =>
    refine ⟨⟨hgone.1,fun r hr heq => ?_⟩,[],(append_nil _).symm,by simp⟩
    obtain ⟨r0,hr0,hid,_,_,hrevoked,_⟩:=touch_row hr
    rw [hrevoked]
    exact hgone.2 r0 hr0 (hid.symm.trans heq)

theorem gone_run {as : List SessionAction} (hgone : s.Gone id) (h : exec (step E) s as=some t) :
    ∃ new, t.accepted=s.accepted++new ∧ ∀ x∈new,x.1.id≠id := by
  have hrun : t.Gone id ∧ ∃ new, t.accepted=s.accepted++new ∧ ∀ x∈new,x.1.id≠id := by
    refine exec_invariant_all
      (fun u => u.Gone id ∧ ∃ new, u.accepted=s.accepted++new ∧ ∀ x∈new,x.1.id≠id) ?_
      ⟨hgone,[],(append_nil _).symm,by simp⟩ h
    rintro u a v ⟨hu,new,hnew,hids⟩ hstep
    obtain ⟨hv,more,hmore,hids'⟩:=(step_effect hstep).gone hu
    refine ⟨hv,new++more,by rw [hmore,hnew,append_assoc],fun x hx => ?_⟩
    rcases mem_append.mp hx with hx | hx
    · exact hids x hx
    · exact hids' x hx
  exact hrun.2

def ClientSessions.ReadBounded (E : SessionEnv) (s : ClientSessions) : Prop :=
  ∀ p∈s.touches,p.row.expiresAt≤p.row.createdAt+E.maxLifetime

theorem Effect.readBounded (h : Effect E s a t) (hk : SessionsKept E s) (hread : s.ReadBounded E) :
    t.ReadBounded E := by
  cases h with
  | quiet _ h => exact fun p hp => hread p (h.touches hp)
  | finds _ r hr hactive touches htouches =>
    intro p hp
    rcases mem_append.mp (htouches hp) with hp | hp
    · exact hread p hp
    · rw [mem_singleton.mp hp]
      exact hk.bounded r hr
  | inserts => exact hread
  | touches => exact fun p hp => hread p (mem_of_mem_eraseIdx hp)

theorem nextExpiry_bounded (h : r.expiresAt≤r.createdAt+E.maxLifetime) (now : ℤ) :
    E.nextExpiry r now≤r.createdAt+E.maxLifetime := by
  unfold SessionEnv.nextExpiry
  split
  · dsimp only
    split <;> omega
  · exact h

theorem Quiet.kept (h : Quiet s t) (hk : SessionsKept E s) : SessionsKept E t := by
  constructor
  · intro r hr
    obtain ⟨r0,hr0,h0⟩:=h.row hr
    have hbound:=hk.bounded r0 hr0
    rcases h0 with rfl | rfl
    · exact hbound
    · exact hbound
  · rw [h.accepted]
    exact hk.accepted
  · intro r hr r' hr' hactive hactive' hdevice
    obtain ⟨r0,hr0,h0⟩:=h.row hr
    obtain ⟨r0',hr0',h0'⟩:=h.row hr'
    obtain ⟨rfl,hbefore⟩:=active_before h0 h.now hactive
    obtain ⟨rfl,hbefore'⟩:=active_before h0' h.now hactive'
    exact hk.single r hr0 r' hr0' hbefore hbefore' hdevice

theorem inserts_kept_iff (hi : SessionsInv s) (hk : SessionsKept E s) {login : ℕ}
    (hr : s.inserted E login token now=some r) (logins : List PendingLogin) :
    SessionsKept E {s with rows := s.rows++[r],nextID := s.nextID+1,logins := logins} ↔
      StepFits E s (.loginCreates login token now) := by
  obtain ⟨hid,hcreated,hexpires,hopen⟩:=inserted_some hr
  have hnew : r.active s.now=true ↔ s.now<now+E.lifetime := by
    simp [ClientSessionRow.active,hopen,hexpires]
  have hother {r' : ClientSessionRow} (hr' : r'∈s.rows) : r'≠r := by
    rintro rfl
    have hlt:=hi.fresh r' hr'
    omega
  constructor
  · intro hkept r' hr''
    rw [hr] at hr''
    cases hr''
    refine ⟨?_,fun hactive r' hr' hactive' hdevice => ?_⟩
    · have hbound:=hkept.bounded r (mem_append_right _ (mem_singleton_self _))
      rwa [hcreated,hexpires] at hbound
    · exact hother hr' (hkept.single r' (mem_append_left _ hr') r
        (mem_append_right _ (mem_singleton_self _)) hactive' (hnew.mpr hactive) hdevice)
  · intro hfits
    obtain ⟨hbound,hsingle⟩:=hfits r hr
    constructor
    · intro r' hr'
      rcases mem_append.mp hr' with hr' | hr'
      · exact hk.bounded r' hr'
      · rw [mem_singleton.mp hr',hcreated,hexpires]
        exact hbound
    · exact hk.accepted
    · intro r1 hr1 r2 hr2 hactive1 hactive2 hdevice
      rcases mem_append.mp hr1 with hr1 | hr1 <;> rcases mem_append.mp hr2 with hr2 | hr2
      · exact hk.single r1 hr1 r2 hr2 hactive1 hactive2 hdevice
      · rw [mem_singleton.mp hr2] at hactive2 hdevice
        exact absurd hdevice (hsingle (hnew.mp hactive2) r1 hr1 hactive1)
      · rw [mem_singleton.mp hr1] at hactive1 hdevice
        exact absurd hdevice.symm (hsingle (hnew.mp hactive1) r2 hr2 hactive2)
      · rw [mem_singleton.mp hr1,mem_singleton.mp hr2]

theorem touches_kept_iff (hi : SessionsInv s) (hk : SessionsKept E s) (hread : s.ReadBounded E) {pending : ℕ}
    {p : PendingTouch} (hp : s.touches[pending]?=some p) (hreadAt : p.readAt≤now)
    (hnow : now ≤ s.now) (touches : List PendingTouch) :
    SessionsKept E {s with
        rows := touchClientSession s.rows p.row.id (E.nextExpiry p.row now) now
        touches := touches} ↔ StepFits E s (.touch pending now) := by
  have hmem:=mem_of_getElem? hp
  have hids:=((Effect.touches (E := E) pending now p hp hreadAt hnow).inv hi).ids
  constructor
  · intro hkept q hq _ _ r hr hid hopen hexpired hlater r' hr' hactive' hdevice
    obtain rfl:=Option.some.inj (hp.symm.trans hq)
    have hne : r'.id≠p.row.id := by
      intro hid'
      obtain rfl:=hi.ids r hr r' hr' (hid.trans hid'.symm)
      simp only [ClientSessionRow.active,Bool.and_eq_true,decide_eq_true_eq] at hactive'
      omega
    have htouched:=touch_mem hr p.row.id (E.nextExpiry p.row now) now
    have hkeptRow:=touch_mem hr' p.row.id (E.nextExpiry p.row now) now
    rw [if_pos ⟨hid,hopen⟩] at htouched
    rw [if_neg (fun h => hne h.1)] at hkeptRow
    have hsame : (r.userID,r.clientID,r.clientUUID)=r'.device := hdevice.symm
    have heq:=hkept.single _ htouched r' hkeptRow (by simp [ClientSessionRow.active,hopen,hlater]) hactive' hsame
    exact hne (by rw [← heq]; exact hid)
  · intro hfits
    have hcond:=hfits p hp hreadAt hnow
    constructor
    · intro r hr
      obtain ⟨r0,hr0,_,hcreated,_,_,h0⟩:=touch_row hr
      rcases h0 with ⟨rfl,_⟩ | ⟨hid,_,hexpires⟩
      · exact hk.bounded r hr0
      · have hbound:=nextExpiry_bounded (hread p hmem) now
        rw [hexpires,hcreated,(hi.known p hmem).2 r0 hr0 hid]
        exact hbound
    · exact hk.accepted
    · -- at most one of the two was touched; if it had expired before, the condition says that
      -- the other one is not active
      have hpair {r0 r' : ClientSessionRow} (hr0 : r0∈s.rows) (hr' : r'∈s.rows) (hid : r0.id=p.row.id)
          (hopen : r0.revoked=false) (hlater : s.now<E.nextExpiry p.row now)
          (hactive' : r'.active s.now=true) (hdevice : r'.device=r0.device) : r0=r' := by
        by_cases hexpired : r0.expiresAt ≤ s.now
        · exact absurd hdevice (hcond r0 hr0 hid hopen hexpired hlater r' hr' hactive')
        · have hactive : r0.active s.now=true := by
            simp only [ClientSessionRow.active,hopen,Bool.not_false,Bool.true_and,decide_eq_true_eq]
            omega
          exact hk.single r0 hr0 r' hr' hactive hactive' hdevice.symm
      have hlater {r : ClientSessionRow} (hexpires : r.expiresAt=E.nextExpiry p.row now)
          (hactive : r.active s.now=true) : s.now<E.nextExpiry p.row now := by
        simp only [ClientSessionRow.active,Bool.and_eq_true,decide_eq_true_eq] at hactive
        omega
      intro r hr r' hr' hactive hactive' hdevice
      obtain ⟨r0,hr0,hid,_,hdev,_,h0⟩:=touch_row hr
      obtain ⟨r0',hr0',hid',_,hdev',_,h0'⟩:=touch_row hr'
      rcases h0 with ⟨rfl,hother⟩ | ⟨hkey,hopen,hexpires⟩ <;>
        rcases h0' with ⟨rfl,hother'⟩ | ⟨hkey',hopen',hexpires'⟩
      · exact hk.single r hr0 r' hr0' hactive hactive' hdevice
      · have heq:=hpair hr0' hr0 hkey' hopen' (hlater hexpires' hactive') hactive (hdevice.trans hdev')
        exact absurd ⟨heq ▸ hkey',heq ▸ hopen'⟩ hother
      · have heq:=hpair hr0 hr0' hkey hopen (hlater hexpires hactive) hactive' (hdevice.symm.trans hdev)
        exact absurd ⟨heq ▸ hkey,heq ▸ hopen⟩ hother'
      · obtain rfl:=hi.ids r0 hr0 r0' hr0' (hkey.trans hkey'.symm)
        exact hids r hr r' hr' (hid.trans hid'.symm)

theorem Effect.kept_iff (h : Effect E s a t) (hi : SessionsInv s) (hk : SessionsKept E s)
    (hread : s.ReadBounded E) : SessionsKept E t ↔ StepFits E s a := by
  cases h with
  | quiet fits h => exact iff_of_true (h.kept hk) fits
  | finds fits r hr hactive touches htouches =>
    refine iff_of_true ⟨hk.bounded,fun x hx => ?_,hk.single⟩ fits
    rcases mem_append.mp hx with hx | hx
    · exact hk.accepted x hx
    · have hbound:=hk.bounded r hr
      rw [mem_singleton.mp hx]
      simp only [ClientSessionRow.active,Bool.and_eq_true,decide_eq_true_eq] at hactive
      dsimp only
      omega
  | inserts login token now r hr => exact inserts_kept_iff hi hk hr _
  | touches pending now p hp hread' hnow => exact touches_kept_iff hi hk hread hp hread' hnow _

theorem fits_of_none (h : step E s a=none) : StepFits E s a := by
  cases a with
  | loginCreates login token now =>
    intro r hr
    simp only [step,hr,map_some] at h
    cases h
  | touch pending now =>
    intro p hp hread hnow
    simp only [step,hp,bind_eq_bind,bind_some,hread,hnow,and_self,if_true] at h
    cases h
  | _ => trivial

end

/-- In every run, whatever requests interleave: the sessions stay bounded and single in
every state exactly when each step fits, and a session that is revoked is never
accepted again. -/
theorem client_sessions_iff (E : SessionEnv) (now : ℤ) {as : List SessionAction} {s : ClientSessions}
    (h : exec (step E) (.init now) as=some s) :
    ((∀ before, before <+: as → ∀ t, exec (step E) (.init now) before=some t → SessionsKept E t) ↔
      Along (step E) (StepFits E) (.init now) as) ∧
    (∀ before after t, before++after=as → exec (step E) (.init now) before=some t → ∀ r∈t.rows,r.revoked=true →
        ∃ new, s.accepted=t.accepted++new ∧ ∀ x∈new,x.1.id≠r.id) := by
  constructor
  · have hkept : SessionsKept E (.init now) := by constructor <;> simp [ClientSessions.init]
    have hread : (ClientSessions.init now).ReadBounded E := by
      simp [ClientSessions.ReadBounded,ClientSessions.init]
    rw [along_reached_iff hkept]
    refine along_iff_of_keep (fun s => SessionsInv s ∧ SessionsKept E s ∧ s.ReadBounded E) ?_ ?_
      ⟨sessionsInv_init now,hkept,hread⟩
    · rintro s a t ⟨hi,hk,hread⟩ hok ht
      exact ⟨(step_effect ht).inv hi,hok t ht,(step_effect ht).readBounded hk hread⟩
    · rintro s a ⟨hi,hk,hread⟩
      constructor
      · intro hok
        cases ht : step E s a with
        | none => exact fits_of_none ht
        | some t => exact ((step_effect ht).kept_iff hi hk hread).mp (hok t ht)
      · exact fun hok t ht => ((step_effect ht).kept_iff hi hk hread).mpr hok
  · rintro before after t rfl ht r hr hrevoked
    rw [exec_append,ht,bind_some] at h
    have hi : SessionsInv t :=
      exec_invariant_all SessionsInv (fun _ _ _ hi hstep => (step_effect hstep).inv hi) (sessionsInv_init now) ht
    refine gone_run ⟨hi.fresh r hr,fun r' hr' heq => ?_⟩ h
    rw [hi.ids r' hr' r hr heq,hrevoked]

def sessionEnv (settings : SessionSettings) : SessionEnv where
  sha256Hex token := String.ofList (token.map fun b => Char.ofNat b.toNat)
  settings := settings

def firstToken : Bytes := List.replicate 64 97
def secondToken : Bytes := List.replicate 64 98

def defaultEnv : SessionEnv := sessionEnv ⟨none,"",none,none⟩

def ordinaryUse : List SessionAction :=
  [.loginRevokes 7 "dev-a" "uuid-a",.loginCreates 0 firstToken 1000,.tick 432000,.use firstToken true,
    .touch 0 433000,.tick 604000,.use firstToken true,.touch 0 1037000,.logout firstToken,
    .use firstToken true]

theorem client_sessions_ordinaryUse : ∃ s, exec (step defaultEnv) (.init 1000) ordinaryUse=some s ∧
    s.accepted.length=2 ∧
    ((∀ before, before <+: ordinaryUse → ∀ t, exec (step defaultEnv) (.init 1000) before=some t →
        SessionsKept defaultEnv t) ↔ Along (step defaultEnv) (StepFits defaultEnv) (.init 1000) ordinaryUse) ∧
    (∀ before after t, before++after=ordinaryUse → exec (step defaultEnv) (.init 1000) before=some t →
      ∀ r∈t.rows,r.revoked=true → ∃ new, s.accepted=t.accepted++new ∧ ∀ x∈new,x.1.id≠r.id) := by
  have hrun : (exec (step defaultEnv) (.init 1000) ordinaryUse).map (fun s => s.accepted.length)=some 2 := by
    decide
  obtain ⟨s,hs,hlength⟩:=map_eq_some_iff.mp hrun
  exact ⟨s,hs,hlength,client_sessions_iff defaultEnv 1000 hs⟩

def longEnv : SessionEnv := sessionEnv ⟨some 60,"",some 30,none⟩

def lateUse : List SessionAction :=
  [.loginRevokes 7 "dev-a" "uuid-a",.loginCreates 0 firstToken 1000,.tick 3888000,.use firstToken true]

def twoLogins : List SessionAction :=
  [.loginRevokes 7 "dev-a" "uuid-a",.loginRevokes 7 "dev-a" "uuid-a",.loginCreates 0 firstToken 1000,
    .loginCreates 0 secondToken 1000]

theorem session_late_and_double :
    (∃ s, exec (step longEnv) (.init 1000) lateUse=some s ∧
      ¬ ∀ a∈s.accepted,a.2≤a.1.createdAt+longEnv.maxLifetime) ∧
    (∃ s, exec (step defaultEnv) (.init 1000) twoLogins=some s ∧
      ¬ ∀ r∈s.rows, ∀ r'∈s.rows,r.active s.now=true → r'.active s.now=true →
        r.device=r'.device → r=r') := by
  have hlate : (exec (step longEnv) (.init 1000) lateUse).map (fun s =>
      decide (∀ a∈s.accepted,a.2≤a.1.createdAt+longEnv.maxLifetime))=some false := by
    decide
  have hdouble : (exec (step defaultEnv) (.init 1000) twoLogins).map (fun s =>
      decide (∀ r∈s.rows, ∀ r'∈s.rows,r.active s.now=true → r'.active s.now=true →
        r.device=r'.device → r=r'))=some false := by
    decide
  obtain ⟨s,hs,hlate⟩:=map_eq_some_iff.mp hlate
  obtain ⟨s',hs',hdouble⟩:=map_eq_some_iff.mp hdouble
  exact ⟨⟨s,hs,of_decide_eq_false hlate⟩,s',hs',of_decide_eq_false hdouble⟩

end BetterDesk.Api
