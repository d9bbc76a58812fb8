import BetterDesk.Enrollment.Tokens
import BetterDesk.Lib.Table

/-! # Enrollments on a limited token -/

namespace BetterDesk.Enrollment
open Db Text Programs Exec Table List Bool Option Function

abbrev EnrollmentSys := Sys Store Request Op Res Reply
abbrev EnrollmentAct := Act Request ℕ

def step (env : Env) : EnrollmentSys → EnrollmentAct → Option EnrollmentSys :=
  Programs.step run (handle env) tick

abbrev EnrollmentProcess := Process Store Request Op Res Reply

def trace (p : EnrollmentProcess) : Trace := ⟨p.request,p.log⟩

def phases (s : EnrollmentSys) : List Phase := s.procs.map fun p => (trace p).phase

def holders (s : EnrollmentSys) (hash : TokenHash) : ℕ := (phases s).countP (Phase.holds hash)

def EnrolledOn (s : EnrollmentSys) (hash : TokenHash) (id : PeerID) : Prop :=
  ∃ p∈s.procs,p.request.device=id ∧ (trace p).phase.enrolledOn hash=true

def limitedFor (s : Store) (id : PeerID) (hash : TokenHash) : Option DeviceToken :=
  (s.tokens hash).filter fun t => t.limited&&t.usable s.now&&t.fits id

/-- A limited token is validated for a device without a row only while a use is
left beside those held, and not by a request whose row is already created; and
the increment of a limited token does not fail. -/
def calmOp (s : EnrollmentSys) (p : EnrollmentProcess) (fails : Bool) : Op → Bool
  | .validateToken hash =>
    fails||(limitedFor s.store p.request.device hash).all fun t =>
      match (trace p).phase with
      | .fresh => ((t.useCount+holders s hash : ℕ) : ℤ)<t.maxUses
      | .opened _ => false
      | _ => true
  | .incrementTokenUse hash => !fails||!(s.store.tokens hash).any DeviceToken.limited
  | _ => true

def calm (s : EnrollmentSys) : EnrollmentAct → Bool
  | .step i fails => match s.procs[i]? with
    | none => true
    | some p => p.prog.nextOp.all (calmOp s p fails)
  | _ => true

def tokenFree : Op → Bool
  | .validateToken _ => false
  | .incrementTokenUse _ => false
  | .upsertPeer _ _ _ => false
  | _ => true

namespace Phase

structure SameFor (hash : TokenHash) (ph ph' : Phase) : Prop where
  used : ph'.used hash=ph.used hash
  holds : ph'.holds hash=ph.holds hash
  slipped : ph'.slipped hash=ph.slipped hash

theorem SameFor.refl (hash : TokenHash) (ph : Phase) : SameFor hash ph ph := ⟨rfl,rfl,rfl⟩

variable {hash : TokenHash} {id : PeerID}

theorem next_tokenFree {ph : Phase} {op : Op} {r : Res op}
    (hop : tokenFree op=true) : SameFor hash ph (ph.next id op r) := by
  cases op with
  | validateToken | incrementTokenUse | upsertPeer => cases hop
  | getConfig key => cases key <;> cases ph <;> exact ⟨rfl,rfl,rfl⟩
  | getPeer _ =>
    cases ph with
    | deciding =>
      unfold next
      dsimp only
      split <;> exact ⟨rfl,rfl,rfl⟩
    | _ => exact .refl hash _
  | _ => cases ph <;> exact ⟨rfl,rfl,rfl⟩

theorem next_upsertPeer {d : PeerID} {ph : Phase} {uuid : Bytes}
    {origin : Origin} {r : Res (.upsertPeer d uuid origin)} (h : ph.slipped hash=false) :
    SameFor hash ph (ph.next id (.upsertPeer d uuid origin) r) := by
  cases ph with
  | fresh | counted =>
    unfold next
    dsimp only
    split <;> exact ⟨rfl,rfl,rfl⟩
  | uncounted other =>
    unfold next
    dsimp only
    split
    · exact ⟨h,rfl,h.symm⟩
    · exact .refl hash _
  | _ => exact .refl hash _

theorem next_validateToken (hash h : TokenHash) (id : PeerID) (ph : Phase) (r : Res (.validateToken h)) :
    SameFor hash ph (ph.next id (.validateToken h) r) ∨ h=hash ∧ fitting id r=true ∧
        (ph=.fresh ∧ ph.next id (.validateToken h) r=.held hash ∨ ∃ hashes, ph=.opened hashes) := by
  by_cases hfit : fitting id r=true
  · by_cases hh : h=hash
    · subst hh
      cases ph with
      | fresh => exact .inr ⟨rfl,hfit,.inl ⟨rfl,if_pos hfit⟩⟩
      | opened hashes => exact .inr ⟨rfl,hfit,.inr ⟨hashes,rfl⟩⟩
      | _ => exact .inl (.refl h _)
    · refine .inl ?_
      cases ph with
      | fresh =>
        simp only [next,hfit,if_true]
        exact ⟨rfl,decide_eq_false hh,rfl⟩
      | opened hashes =>
        simp only [next,hfit,if_true]
        exact ⟨rfl,rfl,by simp [slipped,Ne.symm hh]⟩
      | _ => exact .refl hash _
  · refine .inl ?_
    cases ph with
    | fresh | opened => simp [next,hfit,SameFor.refl]
    | _ => exact .refl hash _

theorem next_incrementTokenUse_other {h : TokenHash} {r : Res (.incrementTokenUse h)} (hne : h≠hash) :
    SameFor hash (.held h) (next id (.held h) (.incrementTokenUse h) r) := by
  have hfalse : decide (h=hash)=false := decide_eq_false hne
  unfold next
  dsimp only
  split
  · exact ⟨hfalse,hfalse.symm,rfl⟩
  · exact ⟨rfl,hfalse.symm,hfalse⟩

end Phase

structure Quota (ph : List Phase) (hash : TokenHash) (t : DeviceToken) : Prop where
  counted : ph.countP (Phase.used hash)≤t.useCount
  within : ph.countP (Phase.used hash)+ph.countP (Phase.holds hash)=0 ∨
    ((t.useCount+ph.countP (Phase.holds hash) : ℕ) : ℤ)≤t.maxUses
  slipped : ∀ x∈ph,x.slipped hash=false

namespace Quota
variable {l : List Phase} {hash : TokenHash} {t t' : DeviceToken} {i : ℕ} {x x' : Phase}

theorem none_slipped_set (hs : ∀ x∈l,x.slipped hash=false) (hx : x'.slipped hash=false) :
    ∀ y∈l.set i x', y.slipped hash=false := by
  intro y hy
  rcases mem_or_eq_of_mem_set hy with hy | rfl
  · exact hs y hy
  · exact hx

theorem same (h : Quota l hash t) (hi : l[i]?=some x) (hx : x.SameFor hash x')
    (hmax : t'.maxUses=t.maxUses) (huse : t'.useCount=t.useCount) : Quota (l.set i x') hash t' := by
  have hused:=countP_set_add (Phase.used hash) hi x'
  have hholds:=countP_set_add (Phase.holds hash) hi x'
  rw [hx.used] at hused
  rw [hx.holds] at hholds
  obtain ⟨hcounted,hwithin,hslipped⟩:=h
  refine ⟨by omega,?_,none_slipped_set hslipped ?_⟩
  · rw [hmax,huse]
    omega
  · rw [hx.slipped]
    exact hslipped x (mem_of_getElem? hi)

theorem hold (h : Quota l hash t) (hi : l[i]?=some .fresh)
    (hleft : ((t.useCount+l.countP (Phase.holds hash) : ℕ) : ℤ)<t.maxUses)
    (hmax : t'.maxUses=t.maxUses) (huse : t'.useCount=t.useCount) : Quota (l.set i (.held hash)) hash t' := by
  have hused:=countP_set_add (Phase.used hash) hi (.held hash)
  have hholds:=countP_set_add (Phase.holds hash) hi (.held hash)
  simp only [Phase.used,Phase.holds,toNat_false,decide_true,toNat_true] at hused hholds
  obtain ⟨hcounted,hwithin,hslipped⟩:=h
  refine ⟨by omega,.inr ?_,none_slipped_set hslipped rfl⟩
  rw [hmax,huse]
  omega

theorem count (h : Quota l hash t) (hi : l[i]?=some (.held hash)) (hmax : t'.maxUses=t.maxUses)
    (huse : t'.useCount=t.useCount+1) : Quota (l.set i (.counted hash)) hash t' := by
  have hused:=countP_set_add (Phase.used hash) hi (.counted hash)
  have hholds:=countP_set_add (Phase.holds hash) hi (.counted hash)
  simp only [Phase.used,Phase.holds,toNat_false,decide_true,toNat_true] at hused hholds
  obtain ⟨hcounted,hwithin,hslipped⟩:=h
  refine ⟨by omega,.inr ?_,none_slipped_set hslipped rfl⟩
  rw [hmax,huse]
  omega

end Quota

def counts (hash : TokenHash) : Op → Bool
  | .incrementTokenUse h => h=hash
  | _ => false

variable {s : EnrollmentSys} {hash : TokenHash} {p : EnrollmentProcess} {fails : Bool} {env : Env}

theorem Store.updateToken_some {s : Store} {h : TokenHash} {f : DeviceToken → DeviceToken}
    {t' : DeviceToken} (ht : (s.updateToken h f).tokens hash=some t') :
    ∃ t, s.tokens hash=some t ∧ (h=hash ∧ t'=f t ∨ h≠hash ∧ t'=t) := by
  unfold Store.updateToken Store.setToken at ht
  dsimp only at ht
  by_cases hh : hash=h
  · subst hh
    rw [update_self] at ht
    obtain ⟨t,hs,rfl⟩:=map_eq_some_iff.mp ht
    exact ⟨t,hs,.inl ⟨rfl,rfl⟩⟩
  · rw [update_of_ne hh] at ht
    exact ⟨t',ht,.inr ⟨Ne.symm hh,rfl⟩⟩

theorem run_failed (s : Store) (op : Op) : (run s op true).2.tokens=s.tokens := by
  cases op with
  | markUsed nonce now =>
    simp only [run,failure,perform,if_true]
    split <;> rfl
  | _ => rfl

theorem run_quota {s : Store} {op : Op} {t' : DeviceToken}
    (hnew : ∀ h t, op=.createDeviceToken h t → t.limited=false)
    (ht : (run s op fails).2.tokens hash=some t') (hl : t'.limited=true) :
    ∃ t, s.tokens hash=some t ∧ t'.maxUses=t.maxUses ∧
      t'.useCount=t.useCount+(counts hash op&&!fails).toNat := by
  cases fails with
  | true =>
    rw [run_failed] at ht
    exact ⟨t',ht,rfl,by simp⟩
  | false =>
    cases op with
    | validateToken | bindTokenToPeer =>
      obtain ⟨t,hs,⟨-,rfl⟩ | ⟨-,rfl⟩⟩:=Store.updateToken_some ht
      · refine ⟨t,hs,?_,?_⟩ <;> (split <;> rfl)
      · exact ⟨t',hs,rfl,rfl⟩
    | incrementTokenUse h =>
      obtain ⟨t,hs,⟨rfl,rfl⟩ | ⟨hne,rfl⟩⟩:=Store.updateToken_some ht
      · exact ⟨t,hs,rfl,by simp [counts]⟩
      · exact ⟨t',hs,rfl,by simp [counts,hne]⟩
    | createDeviceToken h token =>
      simp only [run,perform,false_eq_true,if_false] at ht
      split at ht
      · exact ⟨t',ht,rfl,rfl⟩
      · unfold Store.setToken at ht
        dsimp only at ht
        by_cases hh : hash=h
        · subst hh
          rw [update_self] at ht
          cases ht
          rw [hnew hash t' rfl] at hl
          cases hl
        · rw [update_of_ne hh] at ht
          exact ⟨t',ht,rfl,rfl⟩
    | markUsed nonce now =>
      simp only [run,perform,false_eq_true,if_false] at ht
      split at ht <;> exact ⟨t',ht,rfl,rfl⟩
    | _ => exact ⟨t',ht,rfl,rfl⟩

def WithinQuotas (s : Store) (ph : List Phase) : Prop :=
  ∀ hash t, s.tokens hash=some t → t.limited=true → Quota ph hash t

theorem calmOp_fitting
    {t : DeviceToken} (h : calmOp s p fails (.validateToken hash)=true)
    (ht : s.store.tokens hash=some t) (hl : t.limited=true)
    (hfit : fitting p.request.device (run s.store (.validateToken hash) fails).1=true) :
    (match (trace p).phase with
      | .fresh => decide (((t.useCount+holders s hash : ℕ) : ℤ)<t.maxUses)
      | .opened _ => false
      | _ => true)=true := by
  obtain ⟨t₀,hrow,hfits⟩:=(any_eq_true _ _).mp hfit
  obtain ⟨hstored,husable⟩:=run_validateToken hrow
  rw [ht] at hstored
  cases hstored
  have hfor : limitedFor s.store p.request.device hash=some t :=
    filter_eq_some_iff.mpr ⟨ht,by rw [hl,husable,hfits]; rfl⟩
  cases fails with
  | true => cases hrow
  | false =>
    simp only [calmOp,hfor,all_some,Bool.false_or] at h
    exact h

theorem WithinQuotas.advance {i : ℕ} {op : Op} (h : WithinQuotas s.store (phases s))
    (hp : s.procs[i]?=some p) (hrule : Rule env (trace p) op) (hcalm : calmOp s p fails op=true) :
    WithinQuotas (run s.store op fails).2 ((phases s).set i
      ((trace p).phase.next p.request.device op (run s.store op fails).1)) := by
  intro hash t' ht' hl
  have hi : (phases s)[i]?=some (trace p).phase := by
    rw [phases,List.getElem?_map,hp]
    rfl
  obtain ⟨t,ht,hmax,huse⟩:=run_quota (by rintro h t rfl; exact hrule.2.1) ht' hl
  have hlt : t.limited=true := by
    unfold DeviceToken.limited at hl ⊢
    rw [← hmax]
    exact hl
  have hq:=h hash t ht hlt
  have hslipped:=hq.slipped _ (mem_of_getElem? hi)
  have huncounted : counts hash op=false → t'.useCount=t.useCount := fun hc => by
    rw [huse,hc]
    rfl
  cases op with
  | validateToken h' =>
    rcases Phase.next_validateToken hash h' p.request.device (trace p).phase
      (run s.store (.validateToken h') fails).1 with hsame | ⟨rfl,hfit,hcase⟩
    · exact hq.same hi hsame hmax (huncounted rfl)
    · have hleft:=calmOp_fitting hcalm ht hlt hfit
      rcases hcase with ⟨hph,hnext⟩ | ⟨hashes,hph⟩
      · rw [hnext]
        rw [hph] at hleft hi
        exact hq.hold hi (of_decide_eq_true hleft) hmax (huncounted rfl)
      · rw [hph] at hleft
        cases hleft
  | incrementTokenUse h' =>
    have hph : (trace p).phase=.held h' := hrule
    rw [hph] at hi ⊢
    by_cases hne : h'=hash
    · subst hne
      have hfails : fails=false := by
        simpa [calmOp,ht,hlt] using hcalm
      subst hfails
      exact hq.count hi hmax (by simpa [counts] using huse)
    · exact hq.same hi (Phase.next_incrementTokenUse_other hne) hmax (huncounted (decide_eq_false hne))
  | upsertPeer d uuid origin => exact hq.same hi (Phase.next_upsertPeer hslipped) hmax (huncounted rfl)
  | _ => exact hq.same hi (Phase.next_tokenFree rfl) hmax (huncounted rfl)

theorem getElem?_trace {procs : List EnrollmentProcess} {i : ℕ} {g : Trace}
    (hp : procs[i]?=some p) (hg : (procs.map trace)[i]?=some g) : g=trace p := by
  rw [List.getElem?_map,hp] at hg
  exact (Option.some.inj hg).symm

def Lawful (env : Env) (p : EnrollmentProcess) : Prop :=
  ∀ e earlier, e::earlier <:+ p.log → Rule env ⟨p.request,earlier⟩ e.op

theorem exec_lawful {σ : Store} {as : List EnrollmentAct}
    (h : exec (step env) (initial σ) as=some s) : ∀ p∈s.procs,Lawful env p := by
  have hok : Along (step env) (fun _ _ => True) (initial σ) as :=
    along_of_forall (fun _ _ _ => trivial) _
  have hrun:=exec_tracked (m := tokenMonitor env) (Q := fun _ _ _ => True)
    (fun s gs => gs=s.procs.map trace ∧ ∀ p∈s.procs,Lawful env p)
    ?_ ?_ ?_ ⟨rfl,fun p hp => absurd hp not_mem_nil⟩ hok h
  · obtain ⟨_,-,-,hlawful⟩:=hrun
    exact hlawful
  · rintro s gs q - ⟨rfl,hlawful⟩ -
    refine ⟨⟨q,[]⟩,wp_handle env q,by rw [map_append]; rfl,fun p hp => ?_⟩
    rcases mem_append.mp hp with hp | hp
    · exact hlawful p hp
    · rw [mem_singleton.mp hp]
      intro e earlier hsuf
      exact absurd (suffix_nil.mp hsuf) (cons_ne_nil _ _)
  · rintro s gs e - ⟨rfl,hlawful⟩ -
    exact ⟨rfl,hlawful⟩
  · rintro s gs i fails p op k g - ⟨rfl,hlawful⟩ - hp hg hprog hrule -
    cases getElem?_trace hp hg
    refine ⟨_,⟨s.store,fails,rfl,rfl⟩,by rw [map_set]; rfl,fun p' hp' => ?_⟩
    rcases mem_or_eq_of_mem_set hp' with hp' | rfl
    · exact hlawful p' hp'
    · intro e earlier hsuf
      rcases suffix_cons_iff.mp hsuf with heq | hsuf
      · cases heq
        exact hrule
      · exact hlawful p (mem_of_getElem? hp) e earlier hsuf

theorem exec_withinQuotas {σ : Store} {as : List EnrollmentAct}
    (hcalm : Along (step env) (fun s a => calm s a=true) (initial σ) as)
    (h : exec (step env) (initial σ) as=some s) : WithinQuotas s.store (phases s) := by
  have hrun:=exec_tracked (m := tokenMonitor env) (Q := fun _ _ _ => True)
    (fun s gs => gs=s.procs.map trace ∧ WithinQuotas s.store (phases s)) ?_ ?_ ?_
    ⟨rfl,fun hash t _ _ => ⟨Nat.zero_le _,.inl rfl,fun x hx => absurd hx not_mem_nil⟩⟩
    hcalm h
  · obtain ⟨_,-,-,hquotas⟩:=hrun
    exact hquotas
  · rintro s gs q - ⟨rfl,hquotas⟩ -
    refine ⟨⟨q,[]⟩,wp_handle env q,by rw [map_append]; rfl,fun hash t ht hl => ?_⟩
    have hphases : phases {s with procs := s.procs++[⟨q,[],handle env q⟩]} =
        phases s++[.arriving] := map_append
    rw [hphases]
    obtain ⟨hcounted,hwithin,hslipped⟩:=hquotas hash t ht hl
    refine ⟨?_,?_,fun x hx => ?_⟩
    · rw [countP_append]
      exact hcounted
    · rw [countP_append,countP_append]
      exact hwithin
    · rcases mem_append.mp hx with hx | hx
      · exact hslipped x hx
      · rw [mem_singleton.mp hx]
        rfl
  · rintro s gs e - ⟨rfl,hquotas⟩ -
    exact ⟨rfl,hquotas⟩
  · rintro s gs i fails p op k g - ⟨rfl,hquotas⟩ hok hp hg hprog hrule -
    cases getElem?_trace hp hg
    refine ⟨_,⟨s.store,fails,rfl,rfl⟩,by rw [map_set]; rfl,?_⟩
    have hcalm : calmOp s p fails op=true := by
      simp only [calm,hp,hprog,Prog.nextOp,all_some] at hok
      exact hok
    have hset:=hquotas.advance hp hrule hcalm
    show WithinQuotas _ (List.map _ (List.set _ _ _))
    rw [map_set]
    exact hset

theorem WithinQuotas.enrolled_le {t : DeviceToken}
    {ids : List PeerID} (h : WithinQuotas s.store (phases s)) (ht : s.store.tokens hash=some t)
    (hl : t.limited=true) (hnodup : ids.Nodup) (hids : ∀ id∈ids,EnrolledOn s hash id) :
    (ids.length : ℤ)≤t.maxUses := by
  obtain ⟨hcounted,hwithin,hslipped⟩:=h hash t ht hl
  have hmax : 0<t.maxUses := of_decide_eq_true hl
  have hsub : ids ⊆ (s.procs.filter fun p => (trace p).phase.used hash).map (·.request.device) := by
    intro id hid
    obtain ⟨p,hp,rfl,hon⟩:=hids id hid
    refine mem_map.mpr ⟨p,mem_filter.mpr ⟨hp,?_⟩,rfl⟩
    have hs:=hslipped _ (mem_map_of_mem hp)
    cases hph : (trace p).phase with
    | admitted h =>
      rw [hph] at hon
      exact hon
    | opened hashes =>
      rw [hph] at hon hs
      exact absurd hon (eq_false_iff.mp hs)
    | _ =>
      rw [hph] at hon
      cases hon
  have hlen:=(subperm_of_subset hnodup hsub).length_le
  have hcount : (phases s).countP (Phase.used hash) =
      (s.procs.filter fun p => (trace p).phase.used hash).length := by
    rw [phases,countP_map,countP_eq_length_filter]
    rfl
  rw [length_map,← hcount] at hlen
  omega

end BetterDesk.Enrollment
