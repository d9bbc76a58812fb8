import BetterDesk.Billing.Segments

/-! # Sessions under overlapping calls (billing/service.go, billing/period_service.go) -/

namespace BetterDesk.Billing
open Db Programs Exec List Nat

variable {cal : Calendar}

inductive Claim
  | session (id : ℕ)
  | relay (relayUUID : String)
  | ticker

def Stage.claim : Stage → Option Claim
  | .starting id _ => some (.session id)
  | .ending h _ => some (.relay h.relayUUID)
  | .waiting => some .ticker
  | .ticking _ _ _ => some .ticker
  | .owing _ _ _ _ _ => some .ticker
  | _ => none

def Meter.listed (s : Meter) (relayUUID : String) : Option Started := (s.active.load relayUUID).map ActiveSession.held

/-- Charged from its start up to `stop`, and not ended. -/
def OpenTo (s : Meter) (x : Started) (stop : ℕ) : Prop :=
  OpenRow s.sessions[x.id]? ∧ Covers x.startedAt (s.chargedTo x.id) stop

def EndedAt (s : Meter) (x : Started) : Prop :=
  ∃ row stop, s.sessions[x.id]?=some row ∧ row.endedAt=some stop ∧ Covers x.startedAt (s.chargedTo x.id) stop

structure Ticks (cal : Calendar) (s : Meter) (month seen : ℕ) (copies : List Started) : Prop where
  here : cal.periodAt s.now=month
  seen : seen ≤ s.now
  apart : (copies.map Started.relayUUID).Nodup
  copies : ∀ h∈copies,cal.periodAt h.startedAt=month ∨ s.listed h.relayUUID=some h

def StageOk (cal : Calendar) (s : Meter) : Stage → Prop
  | .free seen => seen ≤ s.now
  | .starting id seen => seen ≤ s.now ∧ OpenRow s.sessions[id]? ∧ (∀ x∈s.started,x.id≠id) ∧ s.chargedTo id=[]
  | .closing _ => True
  | .ending h seen => seen ≤ s.now ∧ h.startedAt ≤ s.now ∧ s.listed h.relayUUID=none ∧
    ∃ x∈s.started,x.id=h.id ∧ x.relayUUID=h.relayUUID ∧ OpenTo s x h.startedAt
  | .waiting => True
  | .ticking m seen copies => Ticks cal s m seen copies
  | .owing m seen copies id boundary => Ticks cal s m seen copies ∧ boundary ≤ s.now ∧
    (∃ h, Crossed cal m copies id h) ∧ ∃ x∈s.started,x.id=id ∧ OpenTo s x boundary

def Stage.Owes (id : ℕ) : Stage → Prop
  | .owing _ _ _ id' _ => id'=id
  | _ => False

def Stage.Ends (id : ℕ) : Stage → Prop
  | .ending h _ => h.id=id
  | _ => False

structure Traced (cal : Calendar) (s : Meter) (gs : List Stage) : Prop where
  keys : (s.active.map Prod.fst).Nodup
  own : ∀ x∈s.active,x.2.relayUUID=x.1
  ids : (s.started.map Started.id).Nodup
  known : ∀ x∈s.started,x.id < s.sessions.length
  fresh : ∀ seg∈s.charges,seg.session < s.sessions.length
  entries : ∀ u h, s.listed u=some h → h.startedAt ≤ s.now ∧ ∃ x∈s.started,x.id=h.id ∧ x.relayUUID=u ∧
    (OpenTo s x h.startedAt ∨ ∃ g∈gs,g.Owes h.id)
  stages : ∀ g∈gs,StageOk cal s g
  apart : (gs.filterMap Stage.claim).Nodup
  located : ∀ x∈s.started,(∃ h, s.listed x.relayUUID=some h ∧ h.id=x.id) ∨ (∃ g∈gs,g.Ends x.id) ∨ EndedAt s x

namespace Traced
variable {s : Meter} {gs gs' rest : List Stage} {g g' : Stage}

theorem perm (h : Traced cal s gs) (hperm : gs.Perm gs') : Traced cal s gs' where
  keys := h.keys
  own := h.own
  ids := h.ids
  known := h.known
  fresh := h.fresh
  entries u x hx := by
    obtain ⟨hle,y,hy,hid,hu,hopen⟩:=h.entries u x hx
    refine ⟨hle,y,hy,hid,hu,hopen.imp_right ?_⟩
    rintro ⟨g,hg,howes⟩
    exact ⟨g,hperm.mem_iff.mp hg,howes⟩
  stages g hg := h.stages g (hperm.mem_iff.mpr hg)
  apart := (hperm.filterMap Stage.claim).nodup_iff.mp h.apart
  located x hx := by
    refine (h.located x hx).imp_right fun hloc => hloc.imp_left ?_
    rintro ⟨g,hg,hends⟩
    exact ⟨g,hperm.mem_iff.mp hg,hends⟩

theorem unique (h : Traced cal s gs) {x y : Started} (hx : x∈s.started) (hy : y∈s.started) (hid : x.id=y.id) :
    x=y := inj_on_of_nodup_map h.ids hx hy hid

theorem alone (h : Traced cal s (g::rest)) {c : Claim} (hc : g.claim=some c) {g₂ : Stage} (hg₂ : g₂∈rest) :
    g₂.claim≠some c := by
  intro hc₂
  have hnodup:=h.apart
  rw [filterMap_cons_some hc,nodup_cons] at hnodup
  exact hnodup.1 (mem_filterMap.mpr ⟨g₂,hg₂,hc₂⟩)

theorem passed {P : Stage → Prop} (hg : P g → P g') : (∃ g₂∈g::rest,P g₂) → ∃ g₂∈g'::rest,P g₂ := by
  rintro ⟨g₂,hg₂,hp⟩
  rcases mem_cons.mp hg₂ with rfl | hg₂
  · exact ⟨g',mem_cons_self,hg hp⟩
  · exact ⟨g₂,mem_cons_of_mem _ hg₂,hp⟩

theorem apart_cons (h : Traced cal s (g::rest))
    (hclaim : ∀ c, g'.claim=some c → g.claim=some c ∨ ∀ g₂∈rest,g₂.claim≠some c) :
    ((g'::rest).filterMap Stage.claim).Nodup := by
  have hrest : (rest.filterMap Stage.claim).Nodup := by
    have hnodup:=h.apart
    cases hg : g.claim with
    | none => rwa [filterMap_cons_none hg] at hnodup
    | some c =>
      rw [filterMap_cons_some hg] at hnodup
      exact (nodup_cons.mp hnodup).2
  cases hg' : g'.claim with
  | none => rwa [filterMap_cons_none hg']
  | some c =>
    rw [filterMap_cons_some hg']
    refine nodup_cons.mpr ⟨fun hmem => ?_,hrest⟩
    obtain ⟨g₂,hg₂,hc⟩:=mem_filterMap.mp hmem
    rcases hclaim c hg' with hsame | hfree
    · exact h.alone hsame hg₂ hc
    · exact hfree g₂ hg₂ hc

theorem congr {s' : Meter} (h : Traced cal s gs) (hnow : s'.now=s.now) (hsessions : s'.sessions=s.sessions)
    (hstarted : s'.started=s.started) (hcharges : s'.charges=s.charges)
    (hkeys : (s'.active.map Prod.fst).Nodup) (hown : ∀ x∈s'.active,x.2.relayUUID=x.1)
    (hlisted : ∀ u, s'.listed u=s.listed u) : Traced cal s' gs := by
  have hopen (x : Started) (stop : ℕ) (hx : OpenTo s x stop) : OpenTo s' x stop := by
    unfold OpenTo Meter.chargedTo at hx ⊢
    rw [hsessions,hcharges]
    exact hx
  have hticks {m seen : ℕ} {copies : List Started} (ht : Ticks cal s m seen copies) : Ticks cal s' m seen copies := by
    refine ⟨by rw [hnow]; exact ht.here,by rw [hnow]; exact ht.seen,ht.apart,fun x hx => ?_⟩
    rw [hlisted]
    exact ht.copies x hx
  refine ⟨hkeys,hown,by rw [hstarted]; exact h.ids,?_,?_,?_,?_,h.apart,?_⟩
  · rw [hstarted,hsessions]
    exact h.known
  · rw [hcharges,hsessions]
    exact h.fresh
  · intro u x hx
    rw [hlisted] at hx
    obtain ⟨hle,y,hy,hid,hu,hto⟩:=h.entries u x hx
    exact ⟨hnow ▸ hle,y,hstarted ▸ hy,hid,hu,hto.imp_left (hopen y _)⟩
  · intro g hg
    have hok:=h.stages g hg
    cases g with
    | free seen =>
      show seen ≤ s'.now
      rw [hnow]
      exact hok
    | starting id seen =>
      obtain ⟨hseen,hrow,hnone,hcharged⟩:=hok
      refine ⟨hnow ▸ hseen,hsessions ▸ hrow,hstarted ▸ hnone,?_⟩
      unfold Meter.chargedTo at hcharged ⊢
      rw [hcharges]
      exact hcharged
    | closing u => trivial
    | ending x seen =>
      obtain ⟨hseen,hle,hnone,y,hy,hid,hu,hto⟩:=hok
      exact ⟨hnow ▸ hseen,hnow ▸ hle,(hlisted _).trans hnone,y,hstarted ▸ hy,hid,hu,hopen y _ hto⟩
    | waiting => trivial
    | ticking m seen copies => exact hticks hok
    | owing m seen copies id boundary =>
      obtain ⟨ht,hle,hcrossed,y,hy,hid,hto⟩:=hok
      exact ⟨hticks ht,hnow ▸ hle,hcrossed,y,hstarted ▸ hy,hid,hopen y _ hto⟩
  · intro x hx
    rw [hlisted]
    refine (h.located x (hstarted ▸ hx)).imp_right fun hloc => hloc.imp_right ?_
    rintro ⟨row,stop,hrow,hstop,hcovers⟩
    refine ⟨row,stop,hsessions ▸ hrow,hstop,?_⟩
    unfold Meter.chargedTo at hcovers ⊢
    rw [hcharges]
    exact hcovers

theorem onward (h : Traced cal s (g::rest)) (hok : StageOk cal s g')
    (hclaim : ∀ c, g'.claim=some c → g.claim=some c ∨ ∀ g₂∈rest,g₂.claim≠some c)
    (hends : ∀ id, g.Ends id → g'.Ends id) (howes : ∀ id, g.Owes id → g'.Owes id) : Traced cal s (g'::rest) where
  keys := h.keys
  own := h.own
  ids := h.ids
  known := h.known
  fresh := h.fresh
  entries u x hx := by
    obtain ⟨hle,y,hy,hid,hu,hto⟩:=h.entries u x hx
    exact ⟨hle,y,hy,hid,hu,hto.imp_right (passed (howes _))⟩
  stages g₂ hg₂ := by
    rcases mem_cons.mp hg₂ with rfl | hg₂
    · exact hok
    · exact h.stages g₂ (mem_cons_of_mem _ hg₂)
  apart := h.apart_cons hclaim
  located x hx := by
    exact (h.located x hx).imp_right fun hloc => hloc.imp_left (passed (hends _))

section Charge
variable {id : ℕ} {row : BillingSession} {seg : Segment}

theorem chargedTo_self (s : Meter) (row : BillingSession) (hseg : seg.session=id) :
    (perform s (.updateBillingSession id row seg)).2.chargedTo id=s.chargedTo id++[seg] := by
  show (s.charges++[seg]).filter _=_
  rw [filter_append,filter_cons_of_pos (by simpa using hseg)]
  rfl

theorem chargedTo_of_ne (s : Meter) (row : BillingSession) (hseg : seg.session=id) {i : ℕ} (hi : i≠id) :
    (perform s (.updateBillingSession id row seg)).2.chargedTo i=s.chargedTo i := by
  show (s.charges++[seg]).filter _=_
  rw [filter_append,filter_cons_of_neg (by simpa [hseg] using hi.symm),filter_nil,append_nil]
  rfl

theorem sessions_of_ne (s : Meter) (row : BillingSession) (seg : Segment) {i : ℕ} (hi : i≠id) :
    (perform s (.updateBillingSession id row seg)).2.sessions[i]?=s.sessions[i]? :=
  List.getElem?_set_ne hi.symm

variable {x : Started} {seen : ℕ}

theorem openTo_of_ne {stop : ℕ} (hx : OpenTo s x stop) (hseg : seg.session=id) (hid : x.id≠id) :
    OpenTo (perform s (.updateBillingSession id row seg)).2 x stop := by
  unfold OpenTo
  rw [sessions_of_ne s row seg hid,chargedTo_of_ne s row hseg hid]
  exact hx

theorem covers_charged (row : BillingSession) (hx : OpenTo s x seg.start) (hseg : seg.session=id) (hid : x.id=id)
    (hle : seg.start ≤ seg.stop) :
    Covers x.startedAt ((perform s (.updateBillingSession id row seg)).2.chargedTo x.id) seg.stop := by
  rw [hid,chargedTo_self s row hseg,← hid]
  exact hx.2.append hle

theorem sessions_self (row : BillingSession) (seg : Segment) {stop : ℕ} (hx : OpenTo s x stop) (hid : x.id=id) :
    (perform s (.updateBillingSession id row seg)).2.sessions[x.id]?=some row := by
  obtain ⟨sess,hsess,-⟩:=hx.1
  rw [hid]
  exact List.getElem?_set_self (hid ▸ (List.getElem?_eq_some_iff.mp hsess).1)

theorem charge (h : Traced cal s (g::rest)) (hx : x∈s.started) (hid : x.id=id) (hseg : seg.session=id)
    (hok : StageOk cal (perform s (.updateBillingSession id row seg)).2 g')
    (hclaim : ∀ c, g'.claim=some c → g.claim=some c ∨ ∀ g₂∈rest,g₂.claim≠some c)
    (hrest : ∀ g₂∈rest,¬ g₂.Ends id ∧ ¬ g₂.Owes id) (hentry : ∀ u y, s.listed u=some y → y.id=id → g'.Owes id)
    (hplace : (∃ y, s.listed x.relayUUID=some y ∧ y.id=id) ∨ g'.Ends id ∨
      EndedAt (perform s (.updateBillingSession id row seg)).2 x)
    (hends : ∀ i, i≠id → ¬ g.Ends i) (howes : ∀ i, ¬ g.Owes i) :
    Traced cal (perform s (.updateBillingSession id row seg)).2 (g'::rest) := by
  have hlt:=h.known x hx
  have hlen : (perform s (.updateBillingSession id row seg)).2.sessions.length=s.sessions.length := length_set
  have hother {y : Started} (hy : y∈s.started) (hne : y≠x) : y.id≠id := fun heq =>
    hne (h.unique hy hx (heq.trans hid.symm))
  refine ⟨h.keys,h.own,h.ids,?_,?_,?_,?_,h.apart_cons hclaim,?_⟩
  · rw [hlen]
    exact h.known
  · rw [hlen]
    intro seg' hseg'
    rcases mem_append.mp hseg' with hseg' | hseg'
    · exact h.fresh seg' hseg'
    · rw [mem_singleton.mp hseg',hseg,← hid]
      exact hlt
  · intro u y hy
    obtain ⟨hle,z,hz,hzid,hu,hto⟩:=h.entries u y hy
    refine ⟨hle,z,hz,hzid,hu,?_⟩
    by_cases hyid : y.id=id
    · exact .inr ⟨g',mem_cons_self,hyid ▸ hentry u y hy hyid⟩
    · refine hto.imp (fun hto => openTo_of_ne hto hseg (hzid ▸ hyid)) ?_
      rintro ⟨g₂,hg₂,ho⟩
      rcases mem_cons.mp hg₂ with rfl | hg₂
      · exact absurd ho (howes _)
      · exact ⟨g₂,mem_cons_of_mem _ hg₂,ho⟩
  · intro g₂ hg₂
    rcases mem_cons.mp hg₂ with rfl | hg₂
    · exact hok
    · have hold:=h.stages g₂ (mem_cons_of_mem _ hg₂)
      obtain ⟨hnotEnds,hnotOwes⟩:=hrest g₂ hg₂
      cases g₂ with
      | free seen => exact hold
      | starting i seen =>
        obtain ⟨hseen,hrow,hnone,hcharged⟩:=hold
        have hne : i≠id := fun heq => hnone x hx (hid.trans heq.symm)
        exact ⟨hseen,by rw [sessions_of_ne s row seg hne]; exact hrow,hnone,by
          rw [chargedTo_of_ne s row hseg hne]; exact hcharged⟩
      | closing u => trivial
      | ending y seen =>
        obtain ⟨hseen,hle,hnone,z,hz,hzid,hu,hto⟩:=hold
        exact ⟨hseen,hle,hnone,z,hz,hzid,hu,openTo_of_ne hto hseg fun heq => hnotEnds (hzid.symm.trans heq)⟩
      | waiting => trivial
      | ticking m seen copies => exact ⟨hold.here,hold.seen,hold.apart,hold.copies⟩
      | owing m seen copies i boundary =>
        obtain ⟨ht,hle,hcrossed,z,hz,hzid,hto⟩:=hold
        exact ⟨⟨ht.here,ht.seen,ht.apart,ht.copies⟩,hle,hcrossed,z,hz,hzid,
          openTo_of_ne hto hseg fun heq => hnotOwes (hzid.symm.trans heq)⟩
  · intro y hy
    by_cases hyx : y=x
    · subst hyx
      rcases hplace with ⟨z,hz,hzid⟩ | he | hended
      · exact .inl ⟨z,hz,hzid.trans hid.symm⟩
      · exact .inr (.inl ⟨g',mem_cons_self,hid ▸ he⟩)
      · exact .inr (.inr hended)
    · have hne:=hother hy hyx
      rcases h.located y hy with hloc | hending | ⟨r,stop,hr,hstop,hcovers⟩
      · exact .inl hloc
      · exact .inr (.inl (passed (fun he => absurd he (hends _ hne)) hending))
      · exact .inr (.inr ⟨r,stop,by rw [sessions_of_ne s row seg hne]; exact hr,hstop,by
          rw [chargedTo_of_ne s row hseg hne]; exact hcovers⟩)

theorem crossed_listed {m : ℕ} {copies : List Started} (ht : Ticks cal s m seen copies)
    (hx : Crossed cal m copies id x) : s.listed x.relayUUID=some x :=
  (ht.copies x hx.1).resolve_left hx.2.2

theorem owes_listed (h : Traced cal s gs) (hg : g∈gs) (ho : g.Owes id) : ∃ u x, s.listed u=some x ∧ x.id=id := by
  cases g with
  | owing m seen copies i boundary =>
    obtain ⟨ht,-,⟨x,hx⟩,-⟩:=h.stages _ hg
    exact ⟨x.relayUUID,x,crossed_listed ht hx,hx.2.1.trans ho⟩
  | _ => exact ho.elim

theorem ending_alone (h : Traced cal s (.ending x seen::rest)) :
    (∀ u y, s.listed u=some y → y.id≠x.id) ∧ ∀ g₂∈rest,¬ g₂.Ends x.id ∧ ¬ g₂.Owes x.id := by
  obtain ⟨-,-,hnone,z,hz,hzid,hzu,-⟩:=h.stages _ mem_cons_self
  have hentry (u : String) (y : Started) (hy : s.listed u=some y) : y.id≠x.id := by
    intro heq
    obtain ⟨-,w,hw,hwid,hwu,-⟩:=h.entries u y hy
    obtain rfl:=h.unique hw hz (hwid.trans (heq.trans hzid.symm))
    rw [← hwu,hzu,hnone] at hy
    cases hy
  refine ⟨hentry,fun g₂ hg₂ => ⟨fun he => ?_,fun ho => ?_⟩⟩
  · cases g₂ with
    | ending y n =>
      obtain ⟨-,-,-,w,hw,hwid,hwu,-⟩:=h.stages _ (mem_cons_of_mem _ hg₂)
      obtain rfl:=h.unique hw hz (hwid.trans (Eq.trans he hzid.symm))
      exact h.alone rfl hg₂ (congrArg (fun u => some (Claim.relay u)) (hwu.symm.trans hzu))
    | _ => exact he.elim
  · obtain ⟨u,y,hy,hyid⟩:=h.owes_listed (mem_cons_of_mem _ hg₂) ho
    exact hentry u y hy hyid

theorem charge_ending (h : Traced cal s (.ending x seen::rest)) (hf : Follows x seen id seg)
    (hrow : row.endedAt=none ∨ row.endedAt=some seg.stop) :
    Traced cal (perform s (.updateBillingSession id row seg)).2
      ((if row.endedAt=none then .ending (x.upTo seg.stop) seen else .free seen)::rest) := by
  obtain ⟨hseen,hle,hnone,z,hz,hzid,hzu,hto⟩:=h.stages _ mem_cons_self
  obtain ⟨hentry,hrest⟩:=h.ending_alone
  have hid:=hf.id
  have hxid : z.id=id := hzid.trans hid
  rw [← hf.start] at hto
  rw [hid] at hentry hrest
  have hcovers:=covers_charged row hto hf.session hxid hf.le
  have hself:=sessions_self row seg hto hxid
  have hnotEntry (u : String) (y : Started) (hy : s.listed u=some y) (hyid : y.id=id) : False := hentry u y hy hyid
  have hends (i : ℕ) (hi : i≠id) : ¬ (Stage.ending x seen).Ends i := fun he => hi (Eq.trans (Eq.symm he) hid)
  by_cases hopen : row.endedAt=none
  · rw [if_pos hopen]
    refine h.charge hz hxid hf.session ?_ (fun c hc => .inl hc) hrest (fun u y hy hyid => (hnotEntry u y hy hyid).elim) ?_
      hends fun _ ho => ho
    · exact ⟨hseen,hf.stop.trans hseen,hnone,z,hz,hzid,hzu,⟨row,hself,hopen⟩,hcovers⟩
    · exact .inr (.inl hid)
  · rw [if_neg hopen]
    refine h.charge hz hxid hf.session hseen (fun c hc => nomatch hc) hrest (fun u y hy hyid => (hnotEntry u y hy hyid).elim)
      ?_ hends fun _ ho => ho
    exact .inr (.inr ⟨row,seg.stop,hself,hrow.resolve_left hopen,hcovers⟩)

theorem charge_ticking {m : ℕ} {copies : List Started} (h : Traced cal s (.ticking m seen copies::rest))
    (hx : Crossed cal m copies id x) (hf : Follows x seen id seg) (hopen : row.endedAt=none) :
    Traced cal (perform s (.updateBillingSession id row seg)).2 (.owing m seen copies id seg.stop::rest) := by
  have ht : Ticks cal s m seen copies := h.stages _ mem_cons_self
  have hlisted:=crossed_listed ht hx
  obtain ⟨-,z,hz,hzid,hzu,hto⟩:=h.entries _ x hlisted
  have hxid : z.id=id := hzid.trans hf.id
  have hnotOwes (g₂ : Stage) (hg₂ : g₂∈rest) (i : ℕ) : ¬ g₂.Owes i := by
    intro ho
    cases g₂ with
    | owing _ _ _ _ _ => exact h.alone rfl hg₂ rfl
    | _ => exact ho.elim
  have hopenTo : OpenTo s z x.startedAt := by
    refine hto.resolve_right ?_
    rintro ⟨g₂,hg₂,ho⟩
    rcases mem_cons.mp hg₂ with rfl | hg₂
    · exact ho
    · exact hnotOwes g₂ hg₂ _ ho
  rw [← hf.start] at hopenTo
  have hcovers:=covers_charged row hopenTo hf.session hxid hf.le
  have hself:=sessions_self row seg hopenTo hxid
  refine h.charge hz hxid hf.session ?_ (fun c hc => .inl hc) ?_ (fun _ _ _ _ => rfl) ?_ (fun _ _ he => he)
    fun _ ho => ho
  · refine ⟨⟨ht.here,ht.seen,ht.apart,ht.copies⟩,hf.stop.trans ht.seen,⟨x,hx⟩,z,hz,hxid,?_,hcovers⟩
    exact ⟨row,hself,hopen⟩
  · refine fun g₂ hg₂ => ⟨fun he => ?_,hnotOwes g₂ hg₂ id⟩
    cases g₂ with
    | ending y n =>
      obtain ⟨-,-,hnone,w,hw,hwid,hwu,-⟩:=h.stages _ (mem_cons_of_mem _ hg₂)
      obtain rfl:=h.unique hw hz (hwid.trans (Eq.trans he hxid.symm))
      rw [← hwu,hzu,hlisted] at hnone
      cases hnone
    | _ => exact he.elim
  · exact .inl ⟨x,hzu ▸ hlisted,hf.id⟩

end Charge

section Active
variable {a : ActiveSession}

variable {u : String}

theorem listed_load {x : Started} (h : s.listed u=some x) : ∃ a, s.active.load u=some a ∧ a.held=x :=
  Option.map_eq_some_iff.mp h

theorem listed_store_self (s : Meter) (u : String) (a : ActiveSession) :
    Meter.listed {s with active := s.active.store u a} u=some a.held := by
  unfold Meter.listed
  rw [SyncMap.load_store_self]
  rfl

theorem listed_store_of_ne (s : Meter) {u' : String} (a : ActiveSession) (h : u'≠u) :
    Meter.listed {s with active := s.active.store u a} u'=s.listed u' := by
  unfold Meter.listed
  rw [SyncMap.load_store_of_ne _ _ h]

theorem listed_delete_self (s : Meter) (u : String) : Meter.listed {s with active := s.active.delete u} u=none := by
  unfold Meter.listed
  rw [SyncMap.load_delete_self]
  rfl

theorem listed_delete_of_ne (s : Meter) {u' : String} (h : u'≠u) :
    Meter.listed {s with active := s.active.delete u} u'=s.listed u' := by
  unfold Meter.listed
  rw [SyncMap.load_delete_of_ne _ h]

theorem own_store {m : SyncMap String ActiveSession} (h : ∀ x∈m,x.2.relayUUID=x.1) (hu : a.relayUUID=u) :
    ∀ x∈m.store u a, x.2.relayUUID=x.1 := by
  intro x hx
  rcases SyncMap.mem_store hx with rfl | hx
  · exact hu
  · exact h x hx

theorem relist (h : Traced cal s gs) (hload : s.active.load u=some a) {b : ActiveSession}
    (hheld : b.held=a.held) : Traced cal {s with active := s.active.store u b} gs := by
  have hu : b.relayUUID=u := (congrArg Started.relayUUID hheld).trans (h.own _ (SyncMap.mem_of_load hload))
  refine h.congr rfl rfl rfl rfl (SyncMap.nodup_store h.keys u b) (own_store h.own hu) fun u' => ?_
  by_cases hu' : u'=u
  · subst hu'
    rw [listed_store_self,hheld,Meter.listed,hload]
    rfl
  · exact listed_store_of_ne s b hu'

theorem sync {m seen id boundary : ℕ} {copies : List Started} (h : Traced cal s (.owing m seen copies id boundary::rest))
    {x : Started} (hx : Crossed cal m copies id x) (remaining : ℕ) :
    Traced cal (perform s (.syncActive x.relayUUID boundary remaining)).2
      (.ticking m seen (moveOn copies x.relayUUID boundary)::rest) := by
  obtain ⟨ht,hboundary,-,z,hz,hzid,hto⟩:=h.stages _ mem_cons_self
  have hlisted:=crossed_listed ht hx
  obtain ⟨a,hload,rfl⟩:=listed_load hlisted
  have hperform : (perform s (.syncActive a.held.relayUUID boundary remaining)).2 =
      {s with active := s.active.store a.relayUUID (a.synced boundary remaining)} := by
    show s.updateActive a.relayUUID _=_
    unfold Meter.updateActive
    rw [show s.active.load a.relayUUID=some a from hload]
  rw [hperform]
  obtain ⟨-,w,hw,hwid,hwu,-⟩:=h.entries _ _ hlisted
  obtain rfl:=h.unique hw hz (hwid.trans (hx.2.1.trans hzid.symm))
  have hself:=listed_store_self s a.relayUUID (a.synced boundary remaining)
  have hother {u : String} (hu : u≠a.relayUUID) := listed_store_of_ne s (a.synced boundary remaining) hu
  -- no other entry is of this session
  have hone {u : String} {y : Started} (hy : s.listed u=some y) (hyid : y.id=id) : u=a.relayUUID := by
    obtain ⟨-,w',hw',hw'id,hw'u,-⟩:=h.entries u y hy
    obtain rfl:=h.unique hw' hz (hw'id.trans (hyid.trans hzid.symm))
    exact hw'u.symm.trans hwu
  have hticker {g₂ : Stage} (hg₂ : g₂∈rest) : g₂.claim≠some .ticker := h.alone rfl hg₂
  refine ⟨SyncMap.nodup_store h.keys _ _,own_store h.own rfl,h.ids,h.known,h.fresh,?_,?_,?_,?_⟩
  · intro u y hy
    by_cases hu : u=a.relayUUID
    · subst hu
      rw [hself] at hy
      obtain rfl:=Option.some.inj hy
      exact ⟨hboundary,w,hz,hzid.trans hx.2.1.symm,hwu,.inl hto⟩
    · rw [hother hu] at hy
      obtain ⟨hle,w',hw',hw'id,hw'u,hto'⟩:=h.entries u y hy
      refine ⟨hle,w',hw',hw'id,hw'u,hto'.imp_right ?_⟩
      rintro ⟨g₂,hg₂,ho⟩
      rcases mem_cons.mp hg₂ with rfl | hg₂
      · exact absurd (hone hy (Eq.symm ho)) hu
      · exact ⟨g₂,mem_cons_of_mem _ hg₂,ho⟩
  · intro g₂ hg₂
    rcases mem_cons.mp hg₂ with rfl | hg₂
    · refine ⟨ht.here,ht.seen,?_,?_⟩
      · have hsame : (moveOn copies a.relayUUID boundary).map Started.relayUUID=copies.map Started.relayUUID := by
          unfold moveOn
          rw [map_map]
          refine map_congr_left fun y _ => ?_
          dsimp only [Function.comp_apply]
          split <;> rfl
        show ((moveOn copies a.relayUUID boundary).map Started.relayUUID).Nodup
        rw [hsame]
        exact ht.apart
      · intro y hy
        obtain ⟨y₀,hy₀,rfl⟩:=mem_map.mp hy
        split
        · rename_i hu
          obtain rfl : y₀=a.held := inj_on_of_nodup_map ht.apart hy₀ hx.1 hu
          exact .inr hself
        · rename_i hu
          rw [hother hu]
          exact ht.copies y₀ hy₀
    · have hold:=h.stages g₂ (mem_cons_of_mem _ hg₂)
      cases g₂ with
      | free | starting => exact hold
      | closing u => trivial
      | ending y n =>
        obtain ⟨hn,hle,hnone,hrest⟩:=hold
        refine ⟨hn,hle,?_,hrest⟩
        rw [hother fun hu => ?_]
        · exact hnone
        · rw [hu,show s.listed a.relayUUID=some a.held from hlisted] at hnone
          cases hnone
      | waiting | ticking | owing => exact absurd rfl (hticker hg₂)
  · exact h.apart_cons fun c hc => .inl hc
  · intro y hy
    rcases h.located y hy with ⟨y',hy',hy'id⟩ | hending | hended
    · refine .inl ?_
      by_cases hu : y.relayUUID=a.relayUUID
      · rw [hu] at hy' ⊢
        obtain rfl : a.held=y' := Option.some.inj (hlisted.symm.trans hy')
        exact ⟨_,hself,hy'id⟩
      · exact ⟨y',by rw [hother hu]; exact hy',hy'id⟩
    · exact .inr (.inl (passed False.elim hending))
    · exact .inr (.inr hended)

theorem put {id seen : ℕ} (h : Traced cal s (.starting id seen::rest)) (hid : a.id=id) (hstart : a.startedAt ≤ seen)
    (hfree : s.listed a.relayUUID=none) (hnoEnd : ∀ y n, .ending y n∈rest → y.relayUUID≠a.relayUUID) :
    Traced cal (perform s (.putActive a)).2 (.free seen::rest) := by
  obtain ⟨hseen,hrow,hnew,hcharged⟩:=h.stages _ mem_cons_self
  have hlt : id < s.sessions.length := by
    obtain ⟨sess,hsess,-⟩:=hrow
    exact (List.getElem?_eq_some_iff.mp hsess).1
  have hself : (perform s (.putActive a)).2.listed a.relayUUID=some a.held := listed_store_self s a.relayUUID a
  have hother {u : String} (hu : u≠a.relayUUID) : (perform s (.putActive a)).2.listed u=s.listed u :=
    listed_store_of_ne s a hu
  have hmem : a.held∈(perform s (.putActive a)).2.started := mem_append_right _ (mem_singleton_self _)
  have hopen : OpenTo (perform s (.putActive a)).2 a.held a.startedAt := by
    refine ⟨?_,?_⟩
    · show OpenRow s.sessions[a.id]?
      rw [hid]
      exact hrow
    · show Covers a.startedAt (s.chargedTo a.id) a.startedAt
      rw [hid,hcharged]
      rfl
  refine ⟨SyncMap.nodup_store h.keys _ _,own_store h.own rfl,?_,?_,h.fresh,?_,?_,?_,?_⟩
  · show ((s.started++[a.held]).map Started.id).Nodup
    rw [map_append]
    refine nodup_append.mpr ⟨h.ids,nodup_singleton _,?_⟩
    intro i hi j hj heq
    obtain ⟨x,hx,rfl⟩:=mem_map.mp hi
    rw [mem_singleton.mp hj] at heq
    exact hnew x hx (heq.trans hid)
  · intro x hx
    rcases mem_append.mp hx with hx | hx
    · exact h.known x hx
    · rw [mem_singleton.mp hx]
      exact hid ▸ hlt
  · intro u y hy
    by_cases hu : u=a.relayUUID
    · subst hu
      rw [hself] at hy
      obtain rfl:=Option.some.inj hy
      exact ⟨hstart.trans hseen,a.held,hmem,rfl,rfl,.inl hopen⟩
    · rw [hother hu] at hy
      obtain ⟨hle,w,hw,hwid,hwu,hto⟩:=h.entries u y hy
      exact ⟨hle,w,mem_append_left _ hw,hwid,hwu,hto.imp_right (passed False.elim)⟩
  · intro g₂ hg₂
    rcases mem_cons.mp hg₂ with rfl | hg₂
    · exact hseen
    · have hold:=h.stages g₂ (mem_cons_of_mem _ hg₂)
      have hticks {m n : ℕ} {copies : List Started} (ht : Ticks cal s m n copies) :
          Ticks cal (perform s (.putActive a)).2 m n copies := by
        refine ⟨ht.here,ht.seen,ht.apart,fun y hy => ?_⟩
        refine (ht.copies y hy).imp_right fun hlisted => ?_
        rw [hother fun hu => ?_]
        · exact hlisted
        · rw [hu,hfree] at hlisted
          cases hlisted
      cases g₂ with
      | free n => exact hold
      | starting i n =>
        obtain ⟨hn,hopen',hnone,hempty⟩:=hold
        refine ⟨hn,hopen',fun x hx => ?_,hempty⟩
        rcases mem_append.mp hx with hx | hx
        · exact hnone x hx
        · rw [mem_singleton.mp hx]
          intro heq
          exact h.alone rfl hg₂ (congrArg (fun i => some (Claim.session i)) (heq.symm.trans hid))
      | closing u => trivial
      | ending y n =>
        obtain ⟨hn,hle,hnone,w,hw,hrest⟩:=hold
        exact ⟨hn,hle,(hother (hnoEnd y n hg₂)).trans hnone,w,mem_append_left _ hw,hrest⟩
      | waiting => trivial
      | ticking m n copies => exact hticks hold
      | owing m n copies i boundary =>
        obtain ⟨ht,hle,hcrossed,w,hw,hrest⟩:=hold
        exact ⟨hticks ht,hle,hcrossed,w,mem_append_left _ hw,hrest⟩
  · exact h.apart_cons fun c hc => nomatch hc
  · intro x hx
    rcases mem_append.mp hx with hx | hx
    · rcases h.located x hx with ⟨y,hy,hyid⟩ | hending | hended
      · refine .inl ⟨y,?_,hyid⟩
        rw [hother fun hu => ?_]
        · exact hy
        · rw [hu,hfree] at hy
          cases hy
      · exact .inr (.inl (passed False.elim hending))
      · exact .inr (.inr hended)
    · rw [mem_singleton.mp hx]
      exact .inl ⟨a.held,hself,rfl⟩

theorem take (h : Traced cal s (.closing u::rest)) (hload : s.active.load u=some a)
    (hcurrent : (∀ g∈rest,g.claim≠some .ticker) ∨ cal.periodAt a.startedAt=cal.periodAt s.now) :
    Traced cal {s with active := s.active.delete u} (.ending a.held 0::rest) := by
  have hu : a.relayUUID=u := h.own _ (SyncMap.mem_of_load hload)
  have hlisted : s.listed u=some a.held := by
    unfold Meter.listed
    rw [hload]
    rfl
  obtain ⟨hle,z,hz,hzid,hzu,hto⟩:=h.entries u a.held hlisted
  have hself:=listed_delete_self s u
  have hother {u' : String} (hne : u'≠u) := listed_delete_of_ne s hne
  have hback {u' : String} {y : Started} (hy : Meter.listed {s with active := s.active.delete u} u'=some y) :
      s.listed u'=some y ∧ u'≠u := by
    have hne : u'≠u := by
      rintro rfl
      rw [hself] at hy
      cases hy
    exact ⟨hother hne ▸ hy,hne⟩
  have hticks {m n : ℕ} {copies : List Started} (hg : ∃ g∈rest,g.claim=some .ticker) (ht : Ticks cal s m n copies) :
      Ticks cal {s with active := s.active.delete u} m n copies := by
    refine ⟨ht.here,ht.seen,ht.apart,fun y hy => ?_⟩
    refine (ht.copies y hy).elim .inl fun hy' => ?_
    by_cases hne : y.relayUUID=u
    · -- the copy is of the current month
      refine .inl ?_
      rw [hne,hlisted] at hy'
      obtain rfl:=Option.some.inj hy'
      refine (hcurrent.resolve_left fun hnone => ?_).trans ht.here
      obtain ⟨g,hg,hc⟩:=hg
      exact hnone g hg hc
    · exact .inr ((hother hne).trans hy')
  have hopen : OpenTo s z a.startedAt := by
    refine hto.resolve_right ?_
    rintro ⟨g₂,hg₂,ho⟩
    rcases mem_cons.mp hg₂ with rfl | hg₂'
    · exact ho
    · cases g₂ with
      | owing m n copies i boundary =>
        obtain ⟨ht,-,⟨y,hy⟩,-⟩:=h.stages _ hg₂
        have hyl:=crossed_listed ht hy
        obtain ⟨-,w,hw,hwid,hwu,-⟩:=h.entries _ y hyl
        obtain rfl:=h.unique hw hz (hwid.trans ((hy.2.1.trans ho).trans hzid.symm))
        rw [← hwu,hzu,hlisted] at hyl
        obtain rfl:=Option.some.inj hyl
        refine hy.2.2 ((hcurrent.resolve_left fun hnone => ?_).trans ht.here)
        exact hnone _ hg₂' rfl
      | _ => exact ho.elim
  have hfree (g₂ : Stage) (hg₂ : g₂∈rest) : g₂.claim≠some (.relay u) := by
    intro hc
    cases g₂ with
    | ending y n =>
      obtain ⟨-,-,hnone,-⟩:=h.stages _ (mem_cons_of_mem _ hg₂)
      have hyu : y.relayUUID=u := by simpa [Stage.claim] using hc
      rw [hyu,hlisted] at hnone
      cases hnone
    | _ => simp [Stage.claim] at hc
  refine ⟨SyncMap.nodup_delete h.keys u,fun x hx => h.own x (SyncMap.mem_delete hx),h.ids,h.known,h.fresh,?_,?_,?_,?_⟩
  · intro u' y hy
    obtain ⟨hy,hne⟩:=hback hy
    obtain ⟨hle',w,hw,hwid,hwu,hto'⟩:=h.entries u' y hy
    exact ⟨hle',w,hw,hwid,hwu,hto'.imp_right (passed False.elim)⟩
  · intro g₂ hg₂
    rcases mem_cons.mp hg₂ with rfl | hg₂
    · exact ⟨zero_le _,hle,by rw [show a.held.relayUUID=u from hu]; exact hself,z,hz,hzid,hzu.trans hu.symm,hopen⟩
    · have hold:=h.stages g₂ (mem_cons_of_mem _ hg₂)
      cases g₂ with
      | free | starting => exact hold
      | closing | waiting => trivial
      | ending y n =>
        obtain ⟨hn,hle',hnone,hrest⟩:=hold
        refine ⟨hn,hle',?_,hrest⟩
        by_cases hne : y.relayUUID=u
        · rw [hne]
          exact hself
        · exact (hother hne).trans hnone
      | ticking m n copies => exact hticks ⟨_,hg₂,rfl⟩ hold
      | owing m n copies i boundary =>
        obtain ⟨ht,hrest⟩:=hold
        exact ⟨hticks ⟨_,hg₂,rfl⟩ ht,hrest⟩
  · refine h.apart_cons fun c hc => .inr fun g₂ hg₂ => ?_
    obtain rfl : Claim.relay u=c := by simpa [Stage.claim,ActiveSession.held,hu] using hc
    exact hfree g₂ hg₂
  · intro x hx
    rcases h.located x hx with ⟨y,hy,hyid⟩ | hending | hended
    · by_cases hne : x.relayUUID=u
      · rw [hne,hlisted] at hy
        obtain rfl:=Option.some.inj hy
        exact .inr (.inl ⟨_,mem_cons_self,hyid⟩)
      · exact .inl ⟨y,(hother hne).trans hy,hyid⟩
    · exact .inr (.inl (passed False.elim hending))
    · exact .inr (.inr hended)

theorem copy (h : Traced cal s (.waiting::rest)) : (s.active.map (ActiveSession.relayUUID ∘ Prod.snd)).Nodup ∧
    Traced cal s (.ticking (cal.periodAt s.now) 0 ((s.active.map Prod.snd).map ActiveSession.held)::rest) := by
  have hsame : s.active.map (ActiveSession.relayUUID ∘ Prod.snd)=s.active.map Prod.fst :=
    map_congr_left fun x hx => h.own x hx
  have hnodup : (s.active.map (ActiveSession.relayUUID ∘ Prod.snd)).Nodup := hsame ▸ h.keys
  refine ⟨hnodup,h.onward ⟨rfl,zero_le _,?_,?_⟩ (fun c hc => .inl hc) (fun _ he => he.elim) fun _ ho => ho.elim⟩
  · rw [map_map,map_map]
    exact hnodup
  · intro y hy
    obtain ⟨a,ha,rfl⟩:=mem_map.mp hy
    obtain ⟨x,hx,rfl⟩:=mem_map.mp ha
    refine .inr ?_
    unfold Meter.listed
    rw [show x.2.held.relayUUID=x.1 from h.own x hx,SyncMap.load_of_mem h.keys hx]
    rfl

end Active

theorem create {seen : ℕ} {row : BillingSession} (h : Traced cal s (.free seen::rest)) (hopen : row.endedAt=none) :
    Traced cal {s with sessions := s.sessions++[row]} (.starting s.sessions.length seen::rest) := by
  have hold {i : ℕ} {r : BillingSession} (hr : s.sessions[i]?=some r) : (s.sessions++[row])[i]?=some r := by
    rw [List.getElem?_append_left (List.getElem?_eq_some_iff.mp hr).1]
    exact hr
  have hrow {i : ℕ} (hi : OpenRow s.sessions[i]?) : OpenRow (s.sessions++[row])[i]? := by
    obtain ⟨sess,hsess,hnone⟩:=hi
    exact ⟨sess,hold hsess,hnone⟩
  have hlen : (s.sessions++[row]).length=s.sessions.length+1 := length_append
  have hto {x : Started} {stop : ℕ} (hx : OpenTo s x stop) : OpenTo {s with sessions := s.sessions++[row]} x stop :=
    ⟨hrow hx.1,hx.2⟩
  have hempty : s.chargedTo s.sessions.length=[] := by
    refine filter_eq_nil_iff.mpr fun seg hseg => ?_
    have hlt:=h.fresh seg hseg
    simpa using hlt.ne
  refine ⟨h.keys,h.own,h.ids,?_,?_,?_,?_,?_,?_⟩
  · intro x hx
    show x.id<(s.sessions++[row]).length
    have hlt:=h.known x hx
    omega
  · intro seg hseg
    show seg.session<(s.sessions++[row]).length
    have hlt:=h.fresh seg hseg
    omega
  · intro u y hy
    obtain ⟨hle,w,hw,hwid,hwu,hopenTo⟩:=h.entries u y hy
    exact ⟨hle,w,hw,hwid,hwu,hopenTo.imp hto (passed False.elim)⟩
  · intro g₂ hg₂
    rcases mem_cons.mp hg₂ with rfl | hg₂
    · refine ⟨h.stages _ mem_cons_self,⟨row,?_,hopen⟩,fun x hx => (h.known x hx).ne,hempty⟩
      rw [List.getElem?_append_right (Nat.le_refl _),Nat.sub_self]
      rfl
    · have hg:=h.stages g₂ (mem_cons_of_mem _ hg₂)
      cases g₂ with
      | free n => exact hg
      | starting i n => exact ⟨hg.1,hrow hg.2.1,hg.2.2⟩
      | closing u => trivial
      | ending y n =>
        obtain ⟨hn,hle,hnone,w,hw,hwid,hwu,hopenTo⟩:=hg
        exact ⟨hn,hle,hnone,w,hw,hwid,hwu,hto hopenTo⟩
      | waiting => trivial
      | ticking m n copies => exact ⟨hg.here,hg.seen,hg.apart,hg.copies⟩
      | owing m n copies i boundary =>
        obtain ⟨ht,hle,hcrossed,w,hw,hwid,hopenTo⟩:=hg
        exact ⟨⟨ht.here,ht.seen,ht.apart,ht.copies⟩,hle,hcrossed,w,hw,hwid,hto hopenTo⟩
  · refine h.apart_cons fun c hc => .inr fun g₂ hg₂ => ?_
    obtain rfl : Claim.session s.sessions.length=c := by simpa [Stage.claim] using hc
    intro hc₂
    cases g₂ with
    | starting i n =>
      obtain ⟨-,⟨sess,hsess,-⟩,-⟩:=h.stages _ (mem_cons_of_mem _ hg₂)
      have hlt:=(List.getElem?_eq_some_iff.mp hsess).1
      have heq : i=s.sessions.length := by simpa [Stage.claim] using hc₂
      omega
    | _ => simp [Stage.claim] at hc₂
  · intro x hx
    rcases h.located x hx with hloc | hending | ⟨r,stop,hr,hstop,hcovers⟩
    · exact .inl hloc
    · exact .inr (.inl (passed False.elim hending))
    · exact .inr (.inr ⟨r,stop,hold hr,hstop,hcovers⟩)

end Traced

def Stage.Of : Stage → Request → Prop
  | .closing u, r => Request.ends u r=true
  | .ending h _, r => Request.ends h.relayUUID r=true
  | .waiting, r => r.ticks=true
  | .ticking _ _ _, r => r.ticks=true
  | .owing _ _ _ _ _, r => r.ticks=true
  | _, _ => True

def Fit (cal : Calendar) (s : Meter) (rest : List Stage) : Op → Prop
  | .putActive a => s.active.load a.relayUUID=none ∧ ∀ y n, .ending y n∈rest → y.relayUUID≠a.relayUUID
  | .takeActive u => (∀ g∈rest,g.claim≠some .ticker) ∨
    ∀ a∈s.active.load u, cal.periodAt a.startedAt=cal.periodAt s.now
  | _ => True

def Meter.ended (s : Meter) (id : ℕ) : ℕ := if (s.sessions[id]?.bind BillingSession.endedAt).isSome then 1 else 0

section Step
variable {s : Meter} {g g' : Stage} {rest : List Stage} {op : Op}

theorem plain_same (hop : op.Plain) : (perform s op).2.now=s.now ∧ (perform s op).2.sessions=s.sessions ∧
    (perform s op).2.started=s.started ∧ (perform s op).2.charges=s.charges ∧ (perform s op).2.active=s.active := by
  cases op with
  | updateBillingContract row drawn =>
    unfold perform
    dsimp only
    cases s.contracts row.id <;> exact ⟨rfl,rfl,rfl,rfl,rfl⟩
  | _ => first | exact hop.elim | exact ⟨rfl,rfl,rfl,rfl,rfl⟩

theorem Traced.plain (h : Traced cal s (g::rest)) (hop : op.Plain) : Traced cal (perform s op).2 (g::rest) := by
  obtain ⟨hnow,hsessions,hstarted,hcharges,hactive⟩:=plain_same hop
  refine h.congr hnow hsessions hstarted hcharges (hactive ▸ h.keys) (hactive ▸ h.own) fun u => ?_
  unfold Meter.listed
  rw [hactive]

theorem Traced.now (h : Traced cal s (g::rest)) (hg : g.Works) :
    ∃ g', Next cal g .now s.now g' ∧ Traced cal s (g'::rest) := by
  have hok:=h.stages g mem_cons_self
  cases g with
  | free seen =>
    refine ⟨.free s.now,⟨⟨hok,rfl⟩,fun _ _ _ he => nomatch he⟩,h.onward (le_refl _) ?_ (fun _ he => he) fun _ ho => ho⟩
    exact fun c hc => .inl hc
  | ending x seen =>
    refine ⟨.ending x s.now,⟨⟨hok.1,hok.2.1,rfl⟩,fun _ _ _ he => nomatch he⟩,h.onward ⟨le_refl _,hok.2⟩ ?_
      (fun _ he => he) fun _ ho => ho⟩
    exact fun c hc => .inl hc
  | ticking m seen copies =>
    refine ⟨.ticking m s.now copies,⟨⟨hok.seen,rfl⟩,?_⟩,h.onward ⟨hok.here,le_refl _,hok.apart,hok.copies⟩ ?_
      (fun _ he => he) fun _ ho => ho⟩
    · intro m' n copies' heq
      cases heq
      exact hok.here
    · exact fun c hc => .inl hc
  | _ => exact hg.elim

theorem Traced.row_open (h : Traced cal s (g::rest)) {id : ℕ} (hall : Allowed cal g (.getBillingSession id)) :
    OpenRow s.sessions[id]? := by
  have hok:=h.stages g mem_cons_self
  cases g with
  | ending x seen =>
    obtain ⟨-,-,-,z,-,hzid,-,hto⟩:=hok
    exact (hzid.trans hall) ▸ hto.1
  | ticking m seen copies =>
    obtain ⟨x,hx⟩:=hall
    obtain ⟨-,z,hz,hzid,-,hto⟩:=h.entries _ x (Traced.crossed_listed hok hx)
    rcases hto with hto | ⟨g₂,hg₂,ho⟩
    · exact (hzid.trans hx.2.1) ▸ hto.1
    · rcases mem_cons.mp hg₂ with rfl | hg₂
      · exact ho.elim
      · cases g₂ with
        | owing _ _ _ _ _ => exact absurd rfl (h.alone rfl hg₂)
        | _ => exact ho.elim
  | _ => exact hall.1.elim

theorem works_of_plain (hop : op.Plain) (h : Allowed cal g op) : g.Works := by
  cases g <;> cases op <;> first | exact hop.elim | exact h.2

theorem next_self (hop : op.Plain) (hg : g.Works) (r : Res op) : Next cal g op r g := by
  cases g <;> cases op <;> first | exact hop.elim | exact hg.elim | exact rfl

theorem Traced.step (h : Traced cal s (g::rest)) (hall : Allowed cal g op) (hfit : Fit cal s rest op) :
    ∃ g', Next cal g op (perform s op).1 g' ∧ Traced cal (perform s op).2 (g'::rest) := by
  have hplain (hop : op.Plain) : ∃ g', Next cal g op (perform s op).1 g' ∧ Traced cal (perform s op).2 (g'::rest) :=
    ⟨g,next_self hop (works_of_plain hop hall) _,h.plain hop⟩
  cases op with
  | now =>
    refine h.now ?_
    cases g <;> exact hall
  | createBillingSession row =>
    cases g with
    | free seen => exact ⟨_,⟨_,rfl,rfl⟩,h.create hall⟩
    | _ => exact hall.1.elim
  | getBillingSession id =>
    have hrow:=h.row_open hall
    cases g with
    | ending | ticking => exact ⟨_,⟨hrow,rfl⟩,h⟩
    | _ => exact hall.1.elim
  | updateBillingSession id row seg =>
    cases g with
    | ending x seen => exact ⟨_,rfl,h.charge_ending hall.1 hall.2⟩
    | ticking m seen copies =>
      obtain ⟨⟨x,hx,hf⟩,hopen⟩:=hall
      exact ⟨_,rfl,h.charge_ticking hx hf hopen⟩
    | _ => exact hall.1.elim
  | putActive a =>
    cases g with
    | starting id seen =>
      refine ⟨_,rfl,h.put hall.1 hall.2 ?_ hfit.2⟩
      unfold Meter.listed
      rw [hfit.1]
      rfl
    | _ => exact hall.1.elim
  | takeActive u =>
    cases g with
    | closing v =>
      obtain rfl : u=v := hall
      have hown:=h.own
      cases hload : s.active.load u with
      | none =>
        refine ⟨.free 0,?_,?_⟩
        · show Next cal (.closing u) (.takeActive u) (s.active.load u) _
          rw [hload]
          rfl
        have hsame : Traced cal (perform s (.takeActive u)).2 (.closing u::rest) := by
          refine h.congr rfl rfl rfl rfl (SyncMap.nodup_delete h.keys u) (fun x hx => hown x (SyncMap.mem_delete hx)) fun u' => ?_
          by_cases hu : u'=u
          · subst hu
            rw [show (perform s (.takeActive u')).2.listed u'=none from Traced.listed_delete_self s u',Meter.listed,hload]
            rfl
          · exact Traced.listed_delete_of_ne s hu
        exact hsame.onward (zero_le _) (fun c hc => nomatch hc) (fun _ he => he.elim) fun _ ho => ho.elim
      | some a =>
        refine ⟨.ending a.held 0,?_,h.take hload (hfit.imp_right fun hm => hm a hload)⟩
        show Next cal (.closing u) (.takeActive u) (s.active.load u) _
        rw [hload]
        exact ⟨hown _ (SyncMap.mem_of_load hload),rfl⟩
    | _ => exact hall.1.elim
  | snapshotActive =>
    cases g with
    | waiting =>
      obtain ⟨hnodup,hcopied⟩:=h.copy
      refine ⟨_,⟨?_,_,rfl⟩,hcopied⟩
      show ((s.active.map Prod.snd).map ActiveSession.relayUUID).Nodup
      rw [map_map]
      exact hnodup
    | _ => exact hall.1.elim
  | syncActive u startedAt remaining =>
    cases g with
    | ending x seen =>
      obtain rfl : u=x.relayUUID := hall
      obtain ⟨-,-,hnone,-⟩:=h.stages _ mem_cons_self
      refine ⟨_,rfl,?_⟩
      have hsame : (perform s (.syncActive x.relayUUID startedAt remaining)).2=s := by
        show s.updateActive x.relayUUID _=s
        unfold Meter.updateActive
        rw [Option.map_eq_none_iff.mp hnone]
      rw [hsame]
      exact h
    | owing m seen copies id boundary =>
      obtain ⟨rfl,x,hx,rfl⟩:=hall
      exact ⟨_,rfl,h.sync hx remaining⟩
    | _ => exact hall.1.elim
  | updateProgress u billedMin =>
    cases g with
    | ticking m seen copies =>
      refine ⟨_,rfl,?_⟩
      show Traced cal (s.updateActive u _) _
      unfold Meter.updateActive
      cases hload : s.active.load u with
      | none => exact h
      | some a => exact h.relist hload rfl
    | _ => exact hall.1.elim
  | sweepStalePending =>
    cases g with
    | ticking m seen copies =>
      have hok : Ticks cal s m seen copies := h.stages _ mem_cons_self
      have hfree : Traced cal s (.free seen::rest) :=
        h.onward hok.seen (fun c hc => nomatch hc) (fun _ he => he.elim) fun _ ho => ho.elim
      exact ⟨_,rfl,hfree.congr rfl rfl rfl rfl h.keys h.own fun _ => rfl⟩
    | _ => exact hall.1.elim
  | clockSynced | resolveContract | getBillingContract | getBillingPackage | updateBillingContract
    | getBillingPeriodTotal | upsertBillingPeriodTotal | addBillingPeriodUsage | putPending | takePending =>
      exact hplain trivial

theorem next_of {r : Request} {res : Res op} (hnext : Next cal g op res g') (hall : Allowed cal g op) (hof : g.Of r) : g'.Of r := by
  have hplain (hop : op.Plain) : g'.Of r := by
    obtain rfl:=next_plain hop (works_of_plain hop hall) hnext
    exact hof
  cases op with
  | now =>
    cases g with
    | free seen =>
      obtain ⟨⟨-,rfl⟩,-⟩:=hnext
      trivial
    | ending x seen =>
      obtain ⟨⟨-,-,rfl⟩,-⟩:=hnext
      exact hof
    | ticking m seen copies =>
      obtain ⟨⟨-,rfl⟩,-⟩:=hnext
      exact hof
    | _ => exact hall.elim
  | createBillingSession row =>
    cases g with
    | free seen =>
      obtain ⟨id,-,rfl⟩:=hnext
      trivial
    | _ => exact hall.1.elim
  | getBillingSession id =>
    cases g with
    | ending | ticking =>
      obtain ⟨-,rfl⟩:=hnext
      exact hof
    | _ => exact hall.1.elim
  | updateBillingSession id row seg =>
    cases g with
    | ending x seen =>
      obtain rfl : g'=_ := hnext
      split
      · exact hof
      · trivial
    | ticking m seen copies =>
      obtain rfl : g'=_ := hnext
      exact hof
    | _ => exact hall.1.elim
  | putActive a =>
    cases g with
    | starting id seen =>
      obtain rfl : g'=_ := hnext
      trivial
    | _ => exact hall.1.elim
  | takeActive u =>
    cases g with
    | closing v =>
      cases res with
      | none =>
        obtain rfl : g'=_ := hnext
        trivial
      | some a =>
        obtain ⟨hu,rfl⟩:=hnext
        show Request.ends a.relayUUID r=true
        rw [hu]
        exact hof
    | _ => exact hall.1.elim
  | snapshotActive =>
    cases g with
    | waiting =>
      obtain ⟨-,m,rfl⟩:=hnext
      exact hof
    | _ => exact hall.1.elim
  | syncActive u startedAt remaining =>
    cases g with
    | ending | owing =>
      obtain rfl : g'=_ := hnext
      exact hof
    | _ => exact hall.1.elim
  | updateProgress u billedMin =>
    cases g with
    | ticking m seen copies =>
      obtain rfl : g'=_ := hnext
      exact hof
    | _ => exact hall.1.elim
  | sweepStalePending =>
    cases g with
    | ticking m seen copies =>
      obtain rfl : g'=_ := hnext
      trivial
    | _ => exact hall.1.elim
  | clockSynced | resolveContract | getBillingContract | getBillingPackage | updateBillingContract
    | getBillingPeriodTotal | upsertBillingPeriodTotal | addBillingPeriodUsage | putPending | takePending =>
      exact hplain trivial

end Step

end BetterDesk.Billing
