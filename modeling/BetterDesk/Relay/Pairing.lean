import BetterDesk.Relay.Invariant

/-! # Relay pairs and tickets -/

namespace BetterDesk.Relay
open Exec Registry State Function

variable {s t : State} {c : ConnID} {cc cc' : Conn} {u : UUID}

theorem Inv.registry (h : Inv s) (hr : Registry.Sub t.reg s.reg) (hn : s.now≤t.now)
    (hsw : t.sweep=s.sweep) (hp : t.pending=s.pending) (hc : t.conns=s.conns) : Inv t :=
  ⟨h.account.weaker (weaker_of_conns_eq hr hn hc),h.places.registry hr.retains hn hsw hp hc⟩

theorem Inv.conn (h : Inv s) (hc : s.conns c=some cc)
    (hr : Registry.Sub t.reg s.reg) (hn : s.now≤t.now) (hsw : t.sweep=s.sweep)
    (hp : ∀ u d, t.pending u=some d → s.pending u=some d)
    (ht : t.conns=update s.conns c (some cc')) (hl : cc'.Later cc)
    (hcr : cc'.created=cc.created ∨ cc'.created≤t.now)
    (stay : t.pending cc.uuid=some c → cc'.done=false ∧ (cc'.phase=.waiting ∨ cc'.phase=.timedOut))
    (load : ∀ e, cc'.phase=.loaded e → cc.phase=.loaded e ∨ s.pending cc.uuid=some e)
    (del : ∀ e, cc'.phase=.deleted e →
      cc.phase=.deleted e ∨ cc.phase=.loaded e ∧ t.pending cc.uuid≠some e)
    (hd : cc'.done=cc.done) : Inv t := by
  refine ⟨h.account.weaker (weaker_of_update hr hn hc hl hcr ht),
    h.places.conn hc hr.retains hn hsw hp ht hl.uuid hl.ticket ?_ stay load del ?_⟩
  · intro hf
    by_contra hf'
    rw [hl.fresh (by simpa using hf')] at hf
    cases hf
  · exact fun hf => ⟨hl.fresh hf,hd⟩

theorem Places.not_pending (h : Places s)
    (hc : s.conns c=some cc) (hw : cc.phase ≠ .waiting) (ht : cc.phase ≠ .timedOut) : s.pending u≠some c := by
  intro hp
  obtain ⟨cd,hd,_,_,hph⟩:=h.pendingConn u c hp
  rw [hc,Option.some.injEq] at hd
  subst hd
  rcases hph with hph | hph
  · exact hw hph
  · exact ht hph

theorem Inv.apart (h : Inv s) (hc : s.conns c=some cc) (hout : s.pending cc.uuid≠some c) (hl : cc'.Later cc)
    (hcr : cc'.created=cc.created ∨ cc'.created ≤ s.now) (hload : ∀ e, cc'.phase ≠ .loaded e)
    (hdel : ∀ e, cc'.phase ≠ .deleted e) (hd : cc'.done=cc.done) : Inv (s.setConn c cc') := by
  refine h.conn hc (Registry.Sub.refl _) (Nat.le_refl _) rfl (fun _ _ hd => hd) rfl hl hcr
    (fun hp => ?_) (fun e he => ?_) (fun e he => ?_) hd
  · exact absurd hp hout
  · exact absurd he (hload e)
  · exact absurd he (hdel e)

theorem Inv.takesOut (h : Inv s) (hc : s.conns c=some cc)
    (hl : cc'.Later cc) (hcr : cc'.created=cc.created) (hload : ∀ e, cc'.phase ≠ .loaded e)
    (hdel : ∀ e, cc'.phase=.deleted e → cc.phase=.loaded e) (hd : cc'.done=cc.done) :
    Inv ((s.setConn c cc').setPending cc.uuid none) := by
  have hgone (e : ConnID) : ((s.setConn c cc').setPending cc.uuid none).pending cc.uuid≠some e := by
    simp [setPending]
  refine h.conn hc (Registry.Sub.refl _) (Nat.le_refl _) rfl (fun u d hd => ?_) rfl hl (Or.inl hcr)
    (fun hp => ?_) (fun e he => ?_) (fun e he => ?_) hd
  · rcases setPending_cases hd with ⟨_,hv⟩ | ⟨_,hd⟩
    · cases hv
    · exact hd
  · exact absurd hp (hgone c)
  · exact absurd he (hload e)
  · exact Or.inr ⟨hdel e he,hgone e⟩

theorem Conn.Later.finished (cc : Conn) : Conn.Later {cc with phase := .finished} cc :=
  ⟨rfl,rfl,Nat.le_refl _,by simp [Conn.active],by simp [Conn.holding],by simp [Conn.fresh],
    by simp [Conn.partner]⟩

theorem Inv.sweeps (h : Inv s) (hr : Registry.Sub t.reg s.reg) (hn : t.now=s.now)
    (hc : t.conns=s.conns) (hp : ∀ u d, t.pending u=some d → s.pending u=some d)
    (stored : ∀ u c, t.sweep=.visiting u c ∨ t.sweep=.stale u c ∨ t.sweep=.releasing u c ∨
      t.sweep=.closing u c → ∃ cc, s.conns c=some cc ∧ cc.uuid=u ∧ cc.fresh=false)
    (gone : ∀ u c, t.sweep=.releasing u c ∨ t.sweep=.closing u c → t.pending u≠some c)
    (visiting : ∀ u c cc tk, t.sweep=.visiting u c → s.conns c=some cc →
      s.reg.tickets u=some tk → cc.ticket=tk.id)
    (expired : ∀ u c tk, t.sweep=.stale u c ∨ t.sweep=.releasing u c →
      s.reg.tickets u=some tk → tk.expiresAt ≤ s.now) : Inv t := by
  refine ⟨h.account.weaker (weaker_of_conns_eq hr (Nat.le_of_eq hn.symm) hc),?_⟩
  constructor
  · rw [hc]
    exact fun u d hd => h.places.pendingConn u d (hp u d hd)
  · rw [hc]
    intro p cp e hpc hd
    obtain ⟨hne,hce⟩:=h.places.deletedStored p cp e hpc hd
    exact ⟨fun hpe => hne (hp _ _ hpe),hce⟩
  · rw [hc]
    exact h.places.loadedStored
  · rw [hc]
    exact h.places.freshOpen
  · rw [hc]
    exact stored
  · exact gone
  · rw [hc]
    exact fun u c cc tk hs hcc ht => visiting u c cc tk hs hcc (hr.tickets u tk ht)
  · rw [hn]
    exact fun u c tk hs ht => expired u c tk hs (hr.tickets u tk ht)

theorem claim_inv {tr : Transport} (h : Inv s) (hstep : s.claim c u tr=some t) : Inv t := by
  unfold State.claim at hstep
  cases hc : s.conns c with
  | some cc =>
    rw [hc] at hstep
    cases hstep
  | none =>
    rw [hc] at hstep
    dsimp only at hstep
    rcases claim_cases s.reg s.now u with ⟨hno,hsub⟩ | ⟨tk,htk,hid,hiss,hcl⟩
    · rw [hno,Option.some.injEq] at hstep
      subst hstep
      exact h.registry hsub (Nat.le_refl _) rfl rfl rfl
    · rw [hid,Option.some.injEq] at hstep
      have hlive:=((prune_tickets s.reg s.now u tk).mp htk).1
      have hother : ∀ v tk', v≠u → (s.reg.claim s.now u).2.tickets v=some tk' →
          s.reg.tickets v=some tk' := by
        intro v tk' hv ht
        refine (prune_sub s.reg s.now).tickets v tk' ?_
        rcases hcl with ⟨_,hcl⟩ | ⟨_,hcl⟩ <;> rw [hcl,update_of_ne hv] at ht <;> exact ht
      have hhere : (tk.claims=0 ∧ (s.reg.claim s.now u).2.tickets u=some {tk with claims := 1}) ∨
          (tk.claims=1 ∧ (s.reg.claim s.now u).2.tickets u=none) := by
        rcases hcl with ⟨h0,hcl⟩ | ⟨h1,hcl⟩
        · exact Or.inl ⟨h0,by rw [hcl,update_self]⟩
        · exact Or.inr ⟨h1,by rw [hcl,update_self]⟩
      have hret : Registry.Retains (s.reg.claim s.now u).2 s.reg :=
        retains_update hother hlive (hhere.imp And.right And.right)
      subst hstep
      refine ⟨h.account.claimed hc hlive ⟨rfl,rfl,rfl,rfl⟩ rfl rfl hiss hother hhere,?_⟩
      -- the new connection is in no store but `conns`
      have old : ∀ {d cd}, s.conns d=some cd → d≠c := by
        rintro d cd hd rfl
        rw [hc] at hd
        cases hd
      refine h.places.carry hret (Nat.le_refl _) rfl (fun _ _ hd => Or.inl hd)
        (fun d cd hd => ?_) (fun v d hd => ?_) (fun d cd e hd hl => ?_) (fun d cd e hd hl => ?_)
        (fun d cd hd hf => ?_)
      · exact ⟨cd,by rw [setConn_conns,update_of_ne (old hd)]; exact hd,rfl,rfl,id⟩
      · obtain ⟨cd,hcd,hst⟩:=h.places.pendingConn v d hd
        exact ⟨cd,by rw [setConn_conns,update_of_ne (old hcd)]; exact hcd,hst⟩
      · rcases setConn_cases hd with ⟨rfl,rfl⟩ | ⟨_,hd⟩
        · cases hl
        · exact h.places.loadedStored d cd e hd hl
      · rcases setConn_cases hd with ⟨rfl,rfl⟩ | ⟨_,hd⟩
        · cases hl
        · exact h.places.deletedStored d cd e hd hl
      · rcases setConn_cases hd with ⟨rfl,rfl⟩ | ⟨_,hd⟩
        · rfl
        · exact h.places.freshOpen d cd hd hf

theorem build_inv (h : Inv s) (hc : s.conns c=some cc) (hstep : build s c cc=some t) : Inv t := by
  unfold build at hstep
  split at hstep
  · rename_i hp
    cases hstep
    refine h.apart hc (h.places.not_pending hc (by simp [hp]) (by simp [hp])) ?_
      (Or.inr (Nat.le_refl _)) (by simp) (by simp) rfl
    exact ⟨rfl,rfl,h.account.past c cc hc,by simp [Conn.active,hp],by simp [Conn.holding,hp],
      by simp [Conn.fresh,hp],by simp [Conn.partner]⟩
  · cases hstep

theorem loadOrStore_inv (h : Inv s) (hc : s.conns c=some cc) (hstep : loadOrStore s c cc=some t) : Inv t := by
  unfold loadOrStore at hstep
  split at hstep
  · rename_i hp
    have hopen : cc.done=false := h.places.freshOpen c cc hc (by simp [Conn.fresh,hp])
    cases he : s.pending cc.uuid with
    | some e =>
      rw [he] at hstep
      cases hstep
      obtain ⟨ce,hce,heu,hed,hew⟩:=h.places.pendingConn cc.uuid e he
      have hst : ce.active=true ∧ ce.holding=true ∧ ce.fresh=false := by
        rcases hew with hew | hew <;> simp [Conn.active,Conn.holding,Conn.fresh,hew,hed]
      refine ⟨h.account.loaded hc hp hce hst.1 hst.2.1 hst.2.2 heu rfl rfl rfl rfl,?_⟩
      refine h.places.conn hc (Registry.Sub.refl _).retains (Nat.le_refl _) rfl (fun _ _ hd => hd) rfl
        rfl rfl (fun _ => rfl) (fun hd => ?_) (fun x hx => ?_) (fun x hx => ?_) (fun hf => ?_)
      · exact absurd hd (h.places.not_pending hc (by simp [hp]) (by simp [hp]))
      · cases hx
        exact Or.inr he
      · cases hx
      · cases hf
    | none =>
      rw [he] at hstep
      cases hstep
      have hl : Conn.Later {cc with armed := s.now,phase := .waiting} cc :=
        ⟨rfl,rfl,Nat.le_refl _,by simp [Conn.active,hp],by simp [Conn.holding,hp],
          by simp [Conn.fresh],by simp [Conn.partner]⟩
      refine ⟨h.account.weaker (weaker_of_update (Registry.Sub.refl _) (Nat.le_refl _) hc hl
        (Or.inl rfl) rfl),?_⟩
      refine h.places.carry (Registry.Sub.refl _).retains (Nat.le_refl _) rfl (fun u d hd => ?_)
        (fun d cd hd => ?_) (fun u d hd => ?_) (fun d cd e hd hl => ?_) (fun d cd e hd hl => ?_)
        (fun d cd hd hf => ?_)
      · rcases setPending_cases hd with ⟨rfl,hv⟩ | ⟨_,hd⟩
        · cases hv
          exact Or.inr ⟨cc,hc,by simp [Conn.fresh,hp]⟩
        · exact Or.inl hd
      · by_cases hdc : d=c
        · subst hdc
          rw [hc,Option.some.injEq] at hd
          subst hd
          exact ⟨_,update_self ..,rfl,rfl,fun _ => rfl⟩
        · exact ⟨cd,(update_of_ne hdc ..).trans hd,rfl,rfl,id⟩
      · rcases setPending_cases hd with ⟨rfl,hv⟩ | ⟨_,hd⟩
        · cases hv
          exact ⟨_,update_self ..,rfl,hopen,Or.inl rfl⟩
        · obtain ⟨cd,hcd,hst⟩:=h.places.pendingConn u d hd
          have hdc : d≠c := by
            rintro rfl
            exact h.places.not_pending hc (by simp [hp]) (by simp [hp]) hd
          exact ⟨cd,(update_of_ne hdc ..).trans hcd,hst⟩
      · rcases setConn_cases hd with ⟨rfl,rfl⟩ | ⟨_,hd⟩
        · cases hl
        · exact h.places.loadedStored d cd e hd hl
      · rcases setConn_cases hd with ⟨rfl,rfl⟩ | ⟨_,hd⟩
        · cases hl
        · obtain ⟨hne,ce,hce,hcu,hcf⟩:=h.places.deletedStored d cd e hd hl
          refine ⟨fun hpe => ?_,ce,hce,hcu,hcf⟩
          rcases setPending_cases hpe with ⟨_,hv⟩ | ⟨_,hpe⟩
          · -- the connection stored now is none that was stored before
            cases hv
            rw [hc,Option.some.injEq] at hce
            subst hce
            simp [Conn.fresh,hp] at hcf
          · exact hne hpe
      · rcases setConn_cases hd with ⟨rfl,rfl⟩ | ⟨_,hd⟩
        · cases hf
        · exact h.places.freshOpen d cd hd hf
  · cases hstep

theorem pairDelete_inv (h : Inv s) (hc : s.conns c=some cc) (hstep : pairDelete s c cc=some t) : Inv t := by
  unfold pairDelete at hstep
  split at hstep
  · rename_i e hp
    cases hstep
    refine h.takesOut hc ?_ rfl (by simp) (fun x hx => ?_) rfl
    · exact ⟨rfl,rfl,Nat.le_refl _,by simp [Conn.active,hp],by simp [Conn.holding],
        by simp [Conn.fresh],by simp [Conn.partner,hp]⟩
    · cases hx
      exact hp
  · cases hstep

theorem pairClose_inv (h : Inv s) (hc : s.conns c=some cc) (hstep : pairClose s c cc=some t) : Inv t := by
  unfold pairClose at hstep
  split at hstep
  · rename_i e hp
    obtain ⟨hgone,ce,hce,hcu,hcf⟩:=h.places.deletedStored c cc e hc hp
    rw [hce] at hstep
    dsimp only at hstep
    cases hstep
    have hne : e≠c := (h.account.partnerOk c cc e hc (by simp [Conn.partner,hp])).1
    have hj : Inv (s.setConn c {cc with phase := .joined e (relayKind ce.transport cc.transport)}) := by
      refine h.apart hc (h.places.not_pending hc (by simp [hp]) (by simp [hp])) ?_ (Or.inl rfl)
        (by simp) (by simp) rfl
      exact ⟨rfl,rfl,Nat.le_refl _,by simp [Conn.active],by simp [Conn.holding],
        by simp [Conn.fresh],by simp [Conn.partner,hp]⟩
    refine ⟨hj.account.weaker (weaker_closeDone _ _),hj.places.closeDone fun cd hcd => ?_⟩
    rcases setConn_cases hcd with ⟨rfl,_⟩ | ⟨_,hcd⟩
    · exact absurd rfl hne
    · rw [hce,Option.some.injEq] at hcd
      subst hcd
      exact ⟨hcu ▸ hgone,hcf⟩
  · cases hstep

theorem doneSeen_inv (h : Inv s) (hc : s.conns c=some cc) (hstep : doneSeen s c cc=some t) : Inv t := by
  unfold doneSeen at hstep
  split at hstep
  · rename_i hp
    cases hstep
    have hout : s.pending cc.uuid≠some c := by
      -- a connection in the map has not been told to stop
      intro hd
      obtain ⟨cd,hcd,_,hopen,_⟩:=h.places.pendingConn _ _ hd
      rw [hc,Option.some.injEq] at hcd
      rw [← hcd,hp.2] at hopen
      cases hopen
    exact h.apart hc hout (.finished cc) (Or.inl rfl) (by simp) (by simp) rfl
  · cases hstep

theorem timeoutLoad_inv (h : Inv s) (hc : s.conns c=some cc) (hstep : timeoutLoad s c cc=some t) : Inv t := by
  unfold timeoutLoad at hstep
  split at hstep
  · rename_i hp
    split at hstep
    · rename_i hmap
      cases hstep
      obtain ⟨cd,hcd,_,hopen,_⟩:=h.places.pendingConn _ _ hmap
      rw [hc,Option.some.injEq] at hcd
      subst hcd
      refine h.conn hc (Registry.Sub.refl _) (Nat.le_refl _) rfl (fun _ _ hd => hd) rfl ?_ (Or.inl rfl)
        (fun _ => ⟨hopen,Or.inr rfl⟩) (fun x hx => ?_) (fun x hx => ?_) rfl
      · exact ⟨rfl,rfl,Nat.le_refl _,by simp [Conn.active,hp.1,hopen],by simp [Conn.holding,hp.1],
          by simp [Conn.fresh],by simp [Conn.partner]⟩
      · cases hx
      · cases hx
    · rename_i hmap
      cases hstep
      exact h.apart hc hmap (.finished cc) (Or.inl rfl) (by simp) (by simp) rfl
  · cases hstep

theorem timeoutDelete_inv (h : Inv s) (hc : s.conns c=some cc) (hstep : timeoutDelete s c cc=some t) : Inv t := by
  unfold timeoutDelete at hstep
  split at hstep
  · rename_i hp
    cases hstep
    refine h.takesOut hc ?_ rfl (by simp) (by simp) rfl
    exact ⟨rfl,rfl,Nat.le_refl _,by simp [Conn.active,hp],by simp [Conn.holding,hp],
      by simp [Conn.fresh],by simp [Conn.partner]⟩
  · cases hstep

theorem timeoutRelease_inv (h : Inv s) (hc : s.conns c=some cc) (hstep : timeoutRelease s c cc=some t) : Inv t := by
  unfold timeoutRelease at hstep
  split at hstep
  · rename_i hp
    cases hstep
    rcases release_cases s.reg s.now cc.uuid with ⟨hsub,_⟩ | ⟨tk,htk,_,hiss,hrel⟩
    · refine h.conn hc hsub (Nat.le_refl _) rfl (fun _ _ hd => hd) rfl ?_ (Or.inl rfl)
        (fun hd => ?_) (fun x hx => ?_) (fun x hx => ?_) rfl
      · exact ⟨rfl,rfl,Nat.le_refl _,by simp [Conn.active],by simp [Conn.holding],
          by simp [Conn.fresh],by simp [Conn.partner]⟩
      · exact absurd hd (h.places.not_pending hc (by simp [hp]) (by simp [hp]))
      · cases hx
      · cases hx
    · have hlive:=((prune_tickets s.reg s.now cc.uuid tk).mp htk).1
      have hother : ∀ v tk', v≠cc.uuid → (s.reg.release s.now cc.uuid).tickets v=some tk' →
          s.reg.tickets v=some tk' := by
        intro v tk' hv ht
        rw [hrel,update_of_ne hv] at ht
        exact (prune_sub s.reg s.now).tickets v tk' ht
      have hhere : (s.reg.release s.now cc.uuid).tickets cc.uuid =
          some {tk with claims := tk.claims-1} := by
        rw [hrel,update_self]
      refine ⟨h.account.released hc hp rfl hlive rfl rfl hiss hother hhere,?_⟩
      refine h.places.conn hc (retains_update hother hlive (Or.inl hhere)) (Nat.le_refl _) rfl
        (fun _ _ hd => hd) rfl rfl rfl (fun _ => rfl) (fun hd => ?_) (fun x hx => ?_) (fun x hx => ?_)
        (fun hf => ?_)
      · exact absurd hd (h.places.not_pending hc (by simp [hp]) (by simp [hp]))
      · cases hx
      · cases hx
      · cases hf
  · cases hstep

theorem timeoutClose_inv (h : Inv s) (hc : s.conns c=some cc) (hstep : timeoutClose s c cc=some t) : Inv t := by
  unfold timeoutClose at hstep
  split at hstep
  · rename_i hp
    cases hstep
    exact h.apart hc (h.places.not_pending hc (by simp [hp]) (by simp [hp])) (.finished cc) (Or.inl rfl)
      (by simp) (by simp) rfl
  · cases hstep

theorem sweepVisit_inv (h : Inv s) (hstep : s.sweepVisit u=some t) : Inv t := by
  unfold State.sweepVisit at hstep
  split at hstep
  · rename_i c _ hmap
    cases hstep
    obtain ⟨cc,hcc,hcu,hopen,hw⟩:=h.places.pendingConn u c hmap
    have hst : cc.active=true ∧ cc.fresh=false := by
      rcases hw with hw | hw <;> simp [Conn.active,Conn.fresh,hw,hopen]
    refine h.sweeps (Registry.Sub.refl _) rfl rfl (fun _ _ hd => hd) (fun v d hs => ?_)
      (fun v d hs => ?_) (fun v d cd tk hs hcd ht => ?_) (fun v d tk hs _ => ?_)
    · simp only [Sweep.visiting.injEq,reduceCtorEq,or_false] at hs
      obtain ⟨rfl,rfl⟩:=hs
      exact ⟨cc,hcc,hcu,hst.2⟩
    · simp only [reduceCtorEq,or_self] at hs
    · simp only [Sweep.visiting.injEq] at hs
      obtain ⟨rfl,rfl⟩:=hs
      rw [hcc,Option.some.injEq] at hcd
      subst hcd
      exact h.account.latest tk c cc hcc hst.1 (hcu ▸ ht)
    · simp only [reduceCtorEq,or_self] at hs
  · cases hstep

theorem sweepCheck_inv (h : Inv s) (hstep : s.sweepCheck=some t) : Inv t := by
  unfold State.sweepCheck at hstep
  split at hstep
  · rename_i u c hsw
    split at hstep
    · rename_i cc hcc
      cases hstep
      by_cases hold : cc.created+relayPairTimeout < s.now
      · rw [if_pos hold]
        refine h.sweeps (Registry.Sub.refl _) rfl rfl (fun _ _ hd => hd) (fun v d hs => ?_)
          (fun v d hs => ?_) (fun v d cd tk hs hcd ht => ?_) (fun v d tk hs ht => ?_)
        · simp only [Sweep.stale.injEq,reduceCtorEq,or_false,false_or] at hs
          obtain ⟨rfl,rfl⟩:=hs
          exact h.places.sweepStored u c (Or.inl hsw)
        · simp only [reduceCtorEq,or_self] at hs
        · simp only [reduceCtorEq] at hs
        · -- the entry is older than the timeout, so its ticket has expired
          simp only [Sweep.stale.injEq,reduceCtorEq,or_false] at hs
          obtain ⟨rfl,rfl⟩:=hs
          have hid:=h.places.sweepVisiting u c cc tk hsw hcc ht
          have := h.account.expiresByConn u tk c cc ht hcc hid
          omega
      · rw [if_neg hold]
        refine h.sweeps (Registry.Sub.refl _) rfl rfl (fun _ _ hd => hd) (fun v d hs => ?_)
          (fun v d hs => ?_) (fun v d cd tk hs hcd ht => ?_) (fun v d tk hs ht => ?_) <;>
          simp only [reduceCtorEq,or_self] at hs
    · cases hstep
  · cases hstep

theorem sweepDelete_inv (h : Inv s) (hstep : s.sweepDelete=some t) : Inv t := by
  unfold State.sweepDelete at hstep
  split at hstep
  · rename_i u c hsw
    split at hstep
    · cases hstep
      refine h.sweeps (Registry.Sub.refl _) rfl rfl (fun v d hd => ?_) (fun v d hs => ?_)
        (fun v d hs => ?_) (fun v d cd tk hs hcd ht => ?_) (fun v d tk hs ht => ?_)
      · rcases setPending_cases hd with ⟨_,hv⟩ | ⟨_,hd⟩
        · cases hv
        · exact hd
      · simp only [Sweep.releasing.injEq,reduceCtorEq,or_false,false_or] at hs
        obtain ⟨rfl,rfl⟩:=hs
        exact h.places.sweepStored u c (Or.inr (Or.inl hsw))
      · simp only [Sweep.releasing.injEq,reduceCtorEq,or_false] at hs
        obtain ⟨rfl,rfl⟩:=hs
        intro hd
        rcases setPending_cases hd with ⟨_,hv⟩ | ⟨hne,_⟩
        · cases hv
        · exact hne rfl
      · simp only [reduceCtorEq] at hs
      · simp only [Sweep.releasing.injEq,reduceCtorEq,false_or] at hs
        obtain ⟨rfl,rfl⟩:=hs
        exact h.places.sweepExpired u c tk (Or.inl hsw) ht
    · cases hstep
      refine h.sweeps (Registry.Sub.refl _) rfl rfl (fun _ _ hd => hd) (fun v d hs => ?_)
        (fun v d hs => ?_) (fun v d cd tk hs hcd ht => ?_) (fun v d tk hs ht => ?_) <;>
        simp only [reduceCtorEq,or_self] at hs
  · cases hstep

theorem sweepRelease_inv (h : Inv s) (hstep : s.sweepRelease=some t) : Inv t := by
  unfold State.sweepRelease at hstep
  split at hstep
  · rename_i u c hsw
    cases hstep
    -- the ticket of a stale entry has expired, so there is no claim to take back
    have hsub : Registry.Sub (s.reg.release s.now u) s.reg := by
      rcases release_cases s.reg s.now u with ⟨hsub,_⟩ | ⟨tk,htk,_⟩
      · exact hsub
      · obtain ⟨hlive,hafter⟩:=(prune_tickets s.reg s.now u tk).mp htk
        have := h.places.sweepExpired u c tk (Or.inr hsw) hlive
        omega
    refine h.sweeps hsub rfl rfl (fun _ _ hd => hd) (fun v d hs => ?_)
      (fun v d hs => ?_) (fun v d cd tk hs hcd ht => ?_) (fun v d tk hs ht => ?_)
    · simp only [Sweep.closing.injEq,reduceCtorEq,false_or] at hs
      obtain ⟨rfl,rfl⟩:=hs
      exact h.places.sweepStored u c (Or.inr (Or.inr (Or.inl hsw)))
    · simp only [Sweep.closing.injEq,reduceCtorEq,false_or] at hs
      obtain ⟨rfl,rfl⟩:=hs
      exact h.places.sweepGone u c (Or.inl hsw)
    · simp only [reduceCtorEq] at hs
    · simp only [reduceCtorEq,or_self] at hs
  · cases hstep

theorem sweepClose_inv (h : Inv s) (hstep : s.sweepClose=some t) : Inv t := by
  unfold State.sweepClose at hstep
  split at hstep
  · rename_i u c hsw
    cases hstep
    obtain ⟨cc,hcc,hcu,hcf⟩:=h.places.sweepStored u c (Or.inr (Or.inr (Or.inr hsw)))
    have hd : Inv (s.closeDone c) := by
      refine ⟨h.account.weaker (weaker_closeDone s c),h.places.closeDone fun cd hcd => ?_⟩
      rw [hcc,Option.some.injEq] at hcd
      subst hcd
      exact ⟨hcu ▸ h.places.sweepGone u c (Or.inr hsw),hcf⟩
    refine hd.sweeps (Registry.Sub.refl _) rfl rfl (fun _ _ hd => hd) (fun v d hs => ?_)
      (fun v d hs => ?_) (fun v d cd tk hs hcd ht => ?_) (fun v d tk hs ht => ?_) <;>
      simp only [reduceCtorEq,or_self] at hs
  · cases hstep

theorem onConn_inv {f : State → ConnID → Conn → Option State}
    (hf : ∀ cc, s.conns c=some cc → f s c cc=some t → Inv t) (hstep : s.onConn c f=some t) : Inv t := by
  obtain ⟨cc,hc,hstep⟩:=Option.bind_eq_some_iff.mp hstep
  exact hf cc hc hstep

theorem step_inv {a : Action} (h : Inv s) (hok : FreshWhenSettled s a) (hstep : s.step a=some t) : Inv t := by
  unfold State.step at hstep
  split at hstep
  · cases hstep
  · cases a with
    | tick d =>
      cases hstep
      exact h.registry (Registry.Sub.refl _) (Nat.le_add_right _ _) rfl rfl rfl
    | cancel =>
      cases hstep
      exact h.registry (Registry.Sub.refl _) (Nat.le_refl _) rfl rfl rfl
    | authorize u i tg =>
      cases hstep
      rcases authorize_cases s.reg s.now u i tg with ⟨_,hsub⟩ | ⟨hiss,hnew⟩
      · exact h.registry hsub (Nat.le_refl _) rfl rfl rfl
      · refine ⟨h.account.issue (hok hiss) rfl rfl hnew,h.places.issue (hok hiss) rfl rfl rfl rfl ?_⟩
        intro v tk hv ht
        rw [hnew] at ht
        dsimp only at ht
        rw [update_of_ne hv] at ht
        exact (prune_sub s.reg s.now).tickets v tk ht
    | waitCheck =>
      cases hstep
      exact h.registry (prune_sub _ _) (Nat.le_refl _) rfl rfl rfl
    | revokeForPeer p =>
      cases hstep
      exact h.registry (revokeForPeer_sub _ _ _) (Nat.le_refl _) rfl rfl rfl
    | claim c u tr => exact claim_inv h hstep
    | build c => exact onConn_inv (fun _ hc hs => build_inv h hc hs) hstep
    | loadOrStore c => exact onConn_inv (fun _ hc hs => loadOrStore_inv h hc hs) hstep
    | pairDelete c => exact onConn_inv (fun _ hc hs => pairDelete_inv h hc hs) hstep
    | pairClose c => exact onConn_inv (fun _ hc hs => pairClose_inv h hc hs) hstep
    | doneSeen c => exact onConn_inv (fun _ hc hs => doneSeen_inv h hc hs) hstep
    | timeoutLoad c => exact onConn_inv (fun _ hc hs => timeoutLoad_inv h hc hs) hstep
    | timeoutDelete c => exact onConn_inv (fun _ hc hs => timeoutDelete_inv h hc hs) hstep
    | timeoutRelease c => exact onConn_inv (fun _ hc hs => timeoutRelease_inv h hc hs) hstep
    | timeoutClose c => exact onConn_inv (fun _ hc hs => timeoutClose_inv h hc hs) hstep
    | sweepVisit u => exact sweepVisit_inv h hstep
    | sweepCheck => exact sweepCheck_inv h hstep
    | sweepDelete => exact sweepDelete_inv h hstep
    | sweepRelease => exact sweepRelease_inv h hstep
    | sweepClose => exact sweepClose_inv h hstep

theorem Inv.pairsShareTicket (h : Inv s) : PairsShareTicket s := by
  rintro e p ⟨cp,k,hp,hph⟩
  obtain ⟨hne,ce,hce,ht⟩:=h.account.partnerOk p cp e hp (by simp [Conn.partner,hph])
  obtain ⟨i,hi,hiu⟩:=h.account.connIssued p cp hp
  obtain ⟨j,hj,hju⟩:=h.account.connIssued e ce hce
  rw [ht,hi,Option.some.injEq] at hj
  exact ⟨hne,ce,cp,i,hce,hp,ht,hi,hiu,hj ▸ hju⟩

theorem Inv.onePairPerTicket (h : Inv s) : OnePairPerTicket s := by
  rintro e p e' p' cp cp' ⟨cq,k,hq,hqh⟩ ⟨cq',k',hq',hqh'⟩ hp hp' ht
  rw [hp,Option.some.injEq] at hq
  rw [hp',Option.some.injEq] at hq'
  subst hq hq'
  have hpp : p=p' := h.account.onePair p cp p' cp' hp hp' (by simp [Conn.partner,hqh])
    (by simp [Conn.partner,hqh']) ht
  subst hpp
  rw [hp,Option.some.injEq] at hp'
  subst hp'
  rw [hqh,Phase.joined.injEq] at hqh'
  exact ⟨hqh'.1,rfl⟩

theorem pairing_keeps_authorizations (acts : List Action) (s : State) (hrun : exec State.step init acts=some s)
    (hfresh : Along State.step FreshWhenSettled init acts) : PairsShareTicket s ∧ OnePairPerTicket s := by
  have h : Inv s := exec_invariant Inv (fun _ _ _ hs hok ht => step_inv hs hok ht) init_inv hfresh hrun
  exact ⟨h.pairsShareTicket,h.onePairPerTicket⟩

def promptRun : List Action :=
  [.authorize "session" "alice" "office",.tick 5,.claim 0 "session" .tcp,.build 0,.loadOrStore 0,
    .tick 5,.claim 1 "session" .ws,.build 1,.loadOrStore 1,.pairDelete 1,.pairClose 1]

theorem prompt_run_keeps_authorizations : ∃ s, exec State.step init promptRun=some s ∧ Paired s 0 1 ∧
      PairsShareTicket s ∧ OnePairPerTicket s := by
  have hfresh : Along State.step FreshWhenSettled init promptRun := by
    refine ⟨fun _ => ⟨fun c cc hc => ?_,by decide⟩,fun t _ => along_of_forall ?_ t⟩
    · cases hc
    · simp [FreshWhenSettled]
  have hend : (exec State.step init promptRun).map (fun s => (s.conns 1).map Conn.phase) =
      some (some (.joined 0 .startMixedRelay)) := by decide
  obtain ⟨s,hs,hph⟩:=Option.map_eq_some_iff.mp hend
  obtain ⟨cc,hc,hph⟩:=Option.map_eq_some_iff.mp hph
  exact ⟨s,hs,⟨cc,_,hc,hph⟩,pairing_keeps_authorizations promptRun s hs hfresh⟩

/-- The first peer claims late and stays in the map past the expiry of its ticket. -/
def staleRun : List Action :=
  [.authorize "session" "alice" "office",.tick 10,.claim 0 "session" .tcp,.build 0,.loadOrStore 0,
    .tick 20,.authorize "session" "mallory" "office",.claim 1 "session" .tcp,.build 1,
    .loadOrStore 1,.pairDelete 1,.pairClose 1]

theorem stale_run_mixes_authorizations :
    ¬ ∀ acts s, exec State.step init acts=some s → PairsShareTicket s ∧ OnePairPerTicket s := by
  intro h
  have hend : (exec State.step init staleRun).map (fun s =>
      ((s.conns 0).map Conn.ticket,(s.conns 1).map fun cc => (cc.ticket,cc.phase))) =
      some (some 0,some (1,.joined 0 .startRelay)) := by decide
  obtain ⟨s,hs,hv⟩:=Option.map_eq_some_iff.mp hend
  rw [Prod.mk.injEq] at hv
  obtain ⟨c0,h0,ht0⟩:=Option.map_eq_some_iff.mp hv.1
  obtain ⟨c1,h1,ht1⟩:=Option.map_eq_some_iff.mp hv.2
  rw [Prod.mk.injEq] at ht1
  obtain ⟨_,ce,cp,_,he,hp,ht,_⟩:=(h staleRun s hs).1 0 1 ⟨c1,_,h1,ht1.2⟩
  rw [h0,Option.some.injEq] at he
  rw [h1,Option.some.injEq] at hp
  rw [← he,← hp,ht0,ht1.1] at ht
  cases ht

end BetterDesk.Relay
