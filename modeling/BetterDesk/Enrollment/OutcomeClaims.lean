import BetterDesk.Enrollment.Admission

/-! # The decision a device ends with -/

namespace BetterDesk.Enrollment
open Db Text Programs Exec List Option Bool

section Folds
variable {A B : Type} {f : B → A → B} {l : List A} {i : ℕ} {a b : A} {d : B}

theorem foldl_neutral (h : ∀ c∈l, ∀ d, f d c=d) : l.foldl f d=d := by
  induction l generalizing d with
  | nil => rfl
  | cons c l ih =>
    rw [foldl_cons,h c mem_cons_self]
    exact ih fun c' hc' => h c' (mem_cons_of_mem _ hc')

theorem foldl_set_same (ha : l[i]?=some a) (hab : ∀ d, f d b=f d a) : (l.set i b).foldl f d=l.foldl f d := by
  induction l generalizing i d with
  | nil => cases ha
  | cons c l ih =>
    cases i with
    | zero =>
      cases ha
      rw [set_cons_zero,foldl_cons,foldl_cons,hab]
    | succ n =>
      rw [set_cons_succ,foldl_cons,foldl_cons]
      exact ih ha

theorem foldl_set_last (ha : l[i]?=some a) (hneutral : ∀ d, f d a=d)
    (hlater : ∀ j c, i<j → l[j]?=some c → ∀ d, f d c=d) : (l.set i b).foldl f d=f (l.foldl f d) b := by
  induction l generalizing i d with
  | nil => cases ha
  | cons c l ih =>
    cases i with
    | zero =>
      cases ha
      have hrest : ∀ c∈l, ∀ d, f d c=d := by
        intro c hc
        obtain ⟨j,hj⟩:=mem_iff_getElem?.mp hc
        exact hlater (j+1) c (Nat.succ_pos j) hj
      rw [set_cons_zero,foldl_cons,foldl_cons,foldl_neutral hrest,hneutral,foldl_neutral hrest]
    | succ n =>
      rw [set_cons_succ,foldl_cons,foldl_cons]
      exact ih ha fun j c hj hc => hlater (j+1) c (Nat.succ_lt_succ hj) hc

end Folds

def concerns (id : PeerID) (p : DecisionProcess) : Bool :=
  match p.request with
  | .operator a => a.device=id
  | .device _ => false

variable {p : DecisionProcess} {d : Option Decision} {id : PeerID}

theorem settle_other (h : concerns id p=false) : settle id d p=d := by
  unfold settle
  unfold concerns at h
  split
  · rename_i a reply hreq hreply
    rw [hreq] at h
    rw [if_neg fun hc => of_decide_eq_false h hc.1]
  · rfl

theorem settle_unfinished (h : p.prog.reply=none) : settle id d p=d := by
  unfold settle
  rw [h]
  split
  · rename_i heq
    cases heq
  · rfl

theorem deciding_eq : deciding id p=(concerns id p&&p.prog.nextOp.isSome) := by
  unfold deciding concerns
  cases p.request <;> rfl

theorem underDecision_false {procs : List DecisionProcess} :
    underDecision id procs=false ↔ ∀ (j : ℕ) p, procs[j]?=some p → deciding id p=false := by
  unfold underDecision
  rw [List.any_eq_false]
  constructor
  · intro h j p hp
    exact eq_false_iff.mpr (h p (mem_of_getElem? hp))
  · intro h p hp
    obtain ⟨j,hj⟩:=mem_iff_getElem?.mp hp
    rw [h j p hj]
    exact false_ne_true

theorem set_cases {A : Type} {l : List A} {i j : ℕ} {b c : A} (h : (l.set i b)[j]?=some c) :
    (j=i ∧ c=b) ∨ (j≠i ∧ l[j]?=some c) := by
  rw [List.getElem?_set] at h
  split at h
  · rename_i hij
    split at h
    · exact .inl ⟨hij.symm,(Option.some.inj h).symm⟩
    · cases h
  · rename_i hij
    exact .inr ⟨fun e => hij e.symm,h⟩

theorem append_cases {A : Type} {l : List A} {j : ℕ} {b c : A} (h : (l++[b])[j]?=some c) :
    (j=l.length ∧ c=b) ∨ (j<l.length ∧ l[j]?=some c) := by
  rcases Nat.lt_or_ge j l.length with hj | hj
  · rw [List.getElem?_append_left hj] at h
    exact .inr ⟨hj,h⟩
  · rw [List.getElem?_append_right hj] at h
    obtain ⟨hlen,hc⟩:=List.getElem?_eq_some_iff.mp h
    rw [length_singleton] at hlen
    refine .inl ⟨by omega,?_⟩
    rw [getElem_singleton] at hc
    exact hc.symm

def removesOther (e : Entry Store Op Res) : Bool :=
  match e.op with
  | .hardDeletePeer id => (e.store.peers id).any fun row => row.origin ≠ .rejection
  | _ => false

def purgedOther (p : DecisionProcess) : Bool :=
  match p.request with
  | .operator a => purges a&&p.log.any removesOther
  | .device _ => false

def wroteBlind : Log → Bool
  | [] => false
  | e::earlier => ((touches e.op).isSome&&tainted earlier)||wroteBlind earlier

def admits (reply : Reply) : Bool := reply.status="approved"||reply.deviceToken.isSome

def admittedBlind (p : DecisionProcess) : Bool :=
  match p.request with
  | .device _ => wroteBlind p.log||(tainted p.log&&p.prog.reply.any admits)
  | .operator _ => false

structure OneOutcome (s : DecisionSys) : Prop where
  decided : ∀ id, underDecision id s.procs=false →
    Decided (lastDecision id s.procs) (s.store.view id)=true
  purged : ∀ p∈s.procs,purgedOther p=false
  admitted : ∀ p∈s.procs,admittedBlind p=false

/-- Tables that tell one story: no row is marked as a rejection's that is none,
and no device is rejected and let in. -/
structure Store.Consistent (s : Store) : Prop where
  own : s.Own
  prov : ∀ id, Prov (s.view id)
  safe : ∀ id, Decided none (s.view id)=true

structure Stage (s : DecisionSys) (p : DecisionProcess) (g : Actor) : Prop where
  device : ∀ q, p.request=.device q → g=.device (tainted p.log)
  operator : ∀ a, p.request=.operator a → p.prog.nextOp.isSome=true →
    g=.operator a (lastDecision a.device s.procs) (s.store.view a.device)
  written : ∀ q, p.request=.device q → wroteBlind p.log=false
  purged : purgedOther p=false

structure Orderly (s : DecisionSys) (gs : List Actor) : Prop where
  own : s.store.Own
  stage : ∀ (i : ℕ) p g, s.procs[i]?=some p → gs[i]?=some g → Stage s p g
  /-- No operator begins on a device while another is at work on it. -/
  alone : ∀ (i j : ℕ) p p', i<j → s.procs[i]?=some p → s.procs[j]?=some p' →
    ∀ id, deciding id p=true → concerns id p'=false
  settled : ∀ id, underDecision id s.procs=false →
    Decided (lastDecision id s.procs) (s.store.view id)=true ∧ Prov (s.store.view id)

theorem Stage.carry {s t : DecisionSys} {g : Actor} (h : Stage s p g) (hsame : ∀ id, deciding id p=true →
      lastDecision id t.procs=lastDecision id s.procs ∧ t.store.view id=s.store.view id) : Stage t p g := by
  refine ⟨h.device,fun a ha hnext => ?_,h.written,h.purged⟩
  have hdeciding : deciding a.device p=true := by
    simp [deciding,ha,hnext]
  obtain ⟨hlast,hview⟩:=hsame a.device hdeciding
  rw [hlast,hview]
  exact h.operator a ha hnext

theorem Decided.upsert {ρ : Rec} {uuid : Bytes} {origin : Origin} (h : Decided d ρ=true) (hmarker : ρ.marker=none) :
    Decided d {ρ with row := some (upsertRow ρ.row uuid origin)}=true := by
  have hnone : ρ.marker.isNone=true := isNone_iff_eq_none.mpr hmarker
  rcases d with _ | d
  · exact (or_eq_true _ _).mpr (.inl hnone)
  · cases d with
    | approved =>
      obtain ⟨p,hp,hlive⟩:=(any_eq_true _ _).mp ((and_eq_true _ _).mp h).2
      refine (and_eq_true _ _).mpr ⟨hnone,?_⟩
      rw [hp]
      exact hlive
    | rejected =>
      have hsome:=((and_eq_true _ _).mp h).1
      rw [hmarker] at hsome
      cases hsome
    | cleared => exact hnone

section Steps
variable {env : Env} {s : DecisionSys} {gs : List Actor}

theorem Orderly.tick {elapsed : ℕ} (h : Orderly s gs) :
    Orderly {s with store := Enrollment.tick s.store elapsed} gs :=
  ⟨h.own,fun i p g hp hg => (h.stage i p g hp hg).carry fun _ _ => ⟨rfl,rfl⟩,h.alone,h.settled⟩

theorem lastDecision_append {id : PeerID} {procs : List DecisionProcess} {p : DecisionProcess} :
    lastDecision id (procs++[p])=settle id (lastDecision id procs) p := foldl_append

theorem Orderly.begin {r : Input} {g : Actor} (h : Orderly s gs) (hlen : s.procs.length=gs.length)
    (hconcern : ∀ id, concerns id ⟨r,[],serve env r⟩=true → underDecision id s.procs=false)
    (hstage : Stage {s with procs := s.procs++[⟨r,[],serve env r⟩]} ⟨r,[],serve env r⟩ g)
    (hdone : ∀ id reply, concerns id ⟨r,[],serve env r⟩=true → (serve env r).reply=some reply →
      Decided (settle id (lastDecision id s.procs) ⟨r,[],serve env r⟩) (s.store.view id)=true) :
    Orderly {s with procs := s.procs++[⟨r,[],serve env r⟩]} (gs++[g]) := by
  have hunder : ∀ id, underDecision id (s.procs++[⟨r,[],serve env r⟩])=false →
      underDecision id s.procs=false ∧ deciding id ⟨r,[],serve env r⟩=false := by
    intro id hid
    rw [underDecision,any_append,or_eq_false_iff,any_cons,or_eq_false_iff] at hid
    exact ⟨hid.1,hid.2.1⟩
  refine ⟨h.own,fun i p g' hp hg => ?_,fun i j p p' hij hp hp' id hd => ?_,fun id hid => ?_⟩
  · rcases append_cases hp with ⟨rfl,rfl⟩ | ⟨hi,hp⟩
    · rw [hlen] at hg
      rcases append_cases hg with ⟨-,rfl⟩ | ⟨hlt,-⟩
      · exact hstage
      · omega
    · rw [List.getElem?_append_left (by omega)] at hg
      refine (h.stage i p g' hp hg).carry fun id hd => ⟨?_,rfl⟩
      rw [lastDecision_append]
      refine settle_other ?_
      by_contra hc
      have hfree:=underDecision_false.mp (hconcern id (eq_true_of_not_eq_false hc)) i p hp
      rw [hd] at hfree
      cases hfree
  · rcases append_cases hp' with ⟨rfl,rfl⟩ | ⟨hj,hp'⟩
    · rw [List.getElem?_append_left hij] at hp
      by_contra hc
      have hfree:=underDecision_false.mp (hconcern id (eq_true_of_not_eq_false hc)) i p hp
      rw [hd] at hfree
      cases hfree
    · rw [List.getElem?_append_left (by omega)] at hp
      exact h.alone i j p p' hij hp hp' id hd
  · obtain ⟨hfree,hidle⟩:=hunder id hid
    obtain ⟨hdec,hprov⟩:=h.settled id hfree
    refine ⟨?_,hprov⟩
    rw [lastDecision_append]
    cases hc : concerns id ⟨r,[],serve env r⟩ with
    | false =>
      rw [settle_other hc]
      exact hdec
    | true =>
      cases hprog : serve env r with
      | done reply =>
        have := hdone id reply hc (by rw [hprog]; rfl)
        rw [hprog] at this
        exact this
      | call op k =>
        rw [deciding_eq,hc,hprog] at hidle
        cases hidle

theorem settle_done {a : OperatorAction} {d : Option Decision} {log : Log} {reply : Reply} :
    settle a.device d ⟨.operator a,log,.done reply⟩ = if reply.code=200 then a.decide d else d := by
  simp [settle,Prog.reply]

variable {i : ℕ} {p : DecisionProcess} {op : Op} {k : Res op → Prog Reply} {fails : Bool} {g' : Actor}

theorem Orderly.advance (h : Orderly s gs) (hp : s.procs[i]?=some p) (hprog : p.prog=.call op k)
    {r : Res op} {σ : Store} {log : Log} (hown : σ.Own)
    (hstage : Stage ⟨σ,s.procs.set i ⟨p.request,log,k r⟩⟩ ⟨p.request,log,k r⟩ g')
    (hview : ∀ id, concerns id p=false → underDecision id s.procs=true →
      σ.view id=s.store.view id)
    (hfree : ∀ id, concerns id p=false → underDecision id s.procs=false →
      Decided (lastDecision id s.procs) (σ.view id)=true ∧ Prov (σ.view id))
    (hdone : ∀ id reply, concerns id p=true → k r=.done reply →
      Decided (settle id (lastDecision id s.procs) ⟨p.request,log,k r⟩) (σ.view id)=true ∧
        Prov (σ.view id)) :
    Orderly ⟨σ,s.procs.set i ⟨p.request,log,k r⟩⟩ (gs.set i g') := by
  have hsame : ∀ id, concerns id ⟨p.request,log,k r⟩=concerns id p := fun _ => rfl
  have hcalling : ∀ id, deciding id p=concerns id p := fun id => by
    rw [deciding_eq,hprog]
    exact and_true _
  have hunfinished : p.prog.reply=none := by rw [hprog]; rfl
  have hlast : ∀ id, concerns id p=false →
      lastDecision id (s.procs.set i ⟨p.request,log,k r⟩)=lastDecision id s.procs := fun id hc =>
    foldl_set_same hp fun _ =>
      (settle_other ((hsame id).trans hc)).trans (settle_other hc).symm
  have hothers : ∀ j q, j≠i → s.procs[j]?=some q → ∀ id, deciding id q=true →
      concerns id p=false := by
    intro j q hj hq id hd
    rcases Nat.lt_or_gt_of_ne hj with hlt | hgt
    · exact h.alone j i q p hlt hq hp id hd
    · have hconcern : concerns id q=true := by
        rw [deciding_eq] at hd
        exact (and_eq_true _ _).mp hd |>.1
      by_contra hc
      have := h.alone i j p q hgt hp hq id ((hcalling id).trans (eq_true_of_not_eq_false hc))
      rw [hconcern] at this
      cases this
  refine ⟨hown,fun j q g hq hg => ?_,fun j j' q q' hjj hq hq' id hd => ?_,fun id hid => ?_⟩
  · rcases set_cases hq with ⟨rfl,rfl⟩ | ⟨hj,hq⟩
    · rcases set_cases hg with ⟨-,rfl⟩ | ⟨hne,-⟩
      · exact hstage
      · exact absurd rfl hne
    · rcases set_cases hg with ⟨rfl,-⟩ | ⟨-,hg⟩
      · exact absurd rfl hj
      · refine (h.stage j q g hq hg).carry fun id hd => ?_
        have hc:=hothers j q hj hq id hd
        refine ⟨hlast id hc,hview id hc ?_⟩
        by_contra hu
        have := underDecision_false.mp (eq_false_iff.mpr hu) j q hq
        rw [hd] at this
        cases this
  · rcases set_cases hq with ⟨rfl,rfl⟩ | ⟨hj,hq⟩
    · rcases set_cases hq' with ⟨rfl,-⟩ | ⟨-,hq'⟩
      · exact absurd hjj (Nat.lt_irrefl _)
      · refine h.alone j j' p q' hjj hp hq' id ?_
        rw [hcalling]
        rw [deciding_eq,hsame] at hd
        exact ((and_eq_true _ _).mp hd).1
    · have hbefore:=hothers j q hj hq id hd
      rcases set_cases hq' with ⟨-,rfl⟩ | ⟨-,hq'⟩
      · exact hbefore
      · exact h.alone j j' q q' hjj hq hq' id hd
  · have hrest:=underDecision_false.mp hid
    cases hc : concerns id p with
    | false =>
      rw [hlast id hc]
      refine hfree id hc (underDecision_false.mpr fun j q hq => ?_)
      by_cases hj : j=i
      · subst hj
        rw [hp] at hq
        cases hq
        exact (hcalling id).trans hc
      · exact hrest j q (by rw [List.getElem?_set_ne (Ne.symm hj)]; exact hq)
    | true =>
      have hidle:=hrest i ⟨p.request,log,k r⟩
        (List.getElem?_set_self (List.getElem?_eq_some_iff.mp hp).1)
      rw [deciding_eq,hsame,hc,Bool.true_and] at hidle
      have hlater : ∀ j q, i<j → s.procs[j]?=some q → ∀ d, settle id d q=d :=
        fun j q hj hq d => settle_other (h.alone i j p q hj hp hq id ((hcalling id).trans hc))
      rw [lastDecision,foldl_set_last hp (fun d => settle_unfinished hunfinished) hlater]
      cases hk : k r with
      | done reply =>
        have := hdone id reply hc hk
        rw [hk] at this
        exact this
      | call op' k' =>
        rw [hk] at hidle
        cases hidle

theorem Orderly.device (h : Orderly s gs) (hp : s.procs[i]?=some p) (hprog : p.prog=.call op k)
    {q : Request} (hq : p.request=.device q) (hg : gs[i]?=some g) (hrule : DeviceRule op)
    (hcareful : carefulDevice s p.log fails op=true) :
    ∃ g', decisionMonitor.next g op (run s.store op fails).1 g' ∧
      Orderly ⟨(run s.store op fails).2,s.procs.set i ⟨p.request,
        ⟨s.store,op,(run s.store op fails).1⟩::p.log,k (run s.store op fails).1⟩⟩ (gs.set i g') := by
  have hstage:=h.stage i p g hp hg
  have hg':=hstage.device q hq
  have hconcern : ∀ id, concerns id p=false := fun id => by
    unfold concerns
    rw [hq]
  have hwrites : (touches op).isSome=true →
      ∃ id uuid, op=.upsertPeer id uuid .registration ∧ tainted p.log=false ∧
        (s.store.view id).marker=none ∧ underDecision id s.procs=false := by
    intro htouch
    rcases hrule.1 with hnone | ⟨id,uuid,rfl⟩
    · rw [hnone] at htouch
      cases htouch
    · simp only [carefulDevice,and_eq_true,not_eq_true',isNone_iff_eq_none] at hcareful
      exact ⟨id,uuid,rfl,hcareful.1.1,hcareful.1.2,hcareful.2⟩
  have hrowless : tainted p.log=true → Rowless op (run s.store op fails).1 := by
    intro ht
    cases op with
    | upsertPeer id uuid origin =>
      obtain ⟨_,_,-,huntainted,-⟩:=hwrites rfl
      rw [ht] at huntainted
      cases huntainted
    | getPeer id =>
      simp only [carefulDevice,ht,Bool.not_true,Bool.false_or,Bool.or_eq_true,
        isNone_iff_eq_none] at hcareful
      cases fails with
      | true => rfl
      | false => exact hcareful.resolve_left Bool.false_ne_true
    | _ => trivial
  subst hg'
  refine ⟨.device (tainted (⟨s.store,op,(run s.store op fails).1⟩::p.log)),⟨_,⟨s.store,fails,
    h.own,rfl,?_,hrowless⟩,rfl⟩,?_⟩
  · rw [tainted,any_cons,Bool.or_comm]
    rfl
  refine h.advance hp hprog (h.own.run hrule.2) ⟨fun _ _ => rfl,fun a ha => ?_,fun _ _ => ?_,?_⟩
    ?_ ?_ fun id _ hc => ?_
  · rw [hq] at ha
    cases ha
  · rw [wroteBlind,hstage.written q hq,Bool.or_false]
    by_contra hblind
    obtain ⟨htouch,htaint⟩:=(and_eq_true _ _).mp (eq_true_of_not_eq_false hblind)
    obtain ⟨_,_,-,huntainted,-⟩:=hwrites htouch
    rw [htaint] at huntainted
    cases huntainted
  · unfold purgedOther
    rw [hq]
  · intro id _ hunder
    refine view_run_other fun htouch => ?_
    obtain ⟨id',uuid,rfl,-,-,hfree⟩:=hwrites (by rw [htouch]; rfl)
    cases htouch
    rw [hunder] at hfree
    cases hfree
  · intro id _ hfree
    by_cases htouch : touches op=some id
    · obtain ⟨id',uuid,rfl,-,hmarker,-⟩:=hwrites (by rw [htouch]; rfl)
      cases htouch
      obtain ⟨hdec,hprov⟩:=h.settled id hfree
      rw [view_run rfl]
      cases fails with
      | true => exact ⟨hdec,hprov⟩
      | false => exact ⟨Decided.upsert hdec hmarker,hprov.upsert hmarker⟩
    · rw [view_run_other htouch]
      exact h.settled id hfree
  · rw [hconcern id] at hc
    cases hc

theorem Orderly.operator (h : Orderly s gs) (hp : s.procs[i]?=some p) (hprog : p.prog=.call op k)
    {a : OperatorAction} (ha : p.request=.operator a) (hg : gs[i]?=some g)
    (hallowed : decisionMonitor.allowed g op) (hwp : decisionMonitor.wp Finished p.prog g)
    (hcareful : carefulOperator s a fails op=true) :
    ∃ g', decisionMonitor.next g op (run s.store op fails).1 g' ∧
      Orderly ⟨(run s.store op fails).2,s.procs.set i ⟨p.request,
        ⟨s.store,op,(run s.store op fails).1⟩::p.log,k (run s.store op fails).1⟩⟩ (gs.set i g') := by
  have hstage:=h.stage i p g hp hg
  have hg':=hstage.operator a ha (by rw [hprog]; rfl)
  subst hg'
  obtain ⟨htouch,hpending,hdelete⟩ : OperatorRule a _ op := hallowed
  have hconcern : ∀ id, concerns id p=true → a.device=id := fun id hc => by
    unfold concerns at hc
    rw [ha] at hc
    exact of_decide_eq_true hc
  have hno : ∀ id, concerns id p=false → a.device≠id := fun id hc e => by
    unfold concerns at hc
    rw [ha] at hc
    exact of_decide_eq_false hc e
  have hview : (run s.store op fails).2.view a.device =
      if fails then s.store.view a.device else (s.store.view a.device).apply op := view_run_own htouch
  have hother : ∀ id, concerns id p=false →
      (run s.store op fails).2.view id=s.store.view id := fun id hc =>
    view_run_other fun e => by
      rcases htouch with hnone | hsome
      · rw [hnone] at e
        cases e
      · rw [hsome] at e
        exact hno id hc (Option.some.inj e)
  have hnext : OperatorNext a (s.store.view a.device) op (run s.store op fails).1
      ((run s.store op fails).2.view a.device) := by
    obtain ⟨hcrit,hreject⟩:=(and_eq_true _ _).mp hcareful
    refine ⟨s.store,fails,h.own,rfl,fun hc => ?_,?_,rfl,hview⟩
    · rw [hc] at hcrit
      simpa using hcrit
    · rintro id v rfl
      rcases htouch with hnone | hsome
      · cases hnone
      · cases hsome
        exact hreject
  have hgoes : decisionMonitor.wp Finished (k (run s.store op fails).1)
      (.operator a (lastDecision a.device s.procs) ((run s.store op fails).2.view a.device)) := by
    rw [hprog] at hwp
    exact hwp.2 _ _ ⟨_,hnext,rfl⟩
  have hown : ownEntry op := by
    cases op with
    | setConfig key value =>
      cases key with
      | pendingDevice id => exact absurd rfl (hpending id value)
      | _ => trivial
    | _ => trivial
  refine ⟨_,⟨_,hnext,rfl⟩,h.advance hp hprog (h.own.run hown)
    ⟨fun q hq => ?_,fun a' ha' hcalls => ?_,fun q hq => ?_,?_⟩
    (fun id hc _ => hother id hc) (fun id hc hfree => ?_) fun id reply hc hreply => ?_⟩
  · rw [ha] at hq
    cases hq
  · rw [ha] at ha'
    cases ha'
    have hlast : lastDecision a.device (s.procs.set i ⟨p.request,
        ⟨s.store,op,(run s.store op fails).1⟩::p.log,k (run s.store op fails).1⟩) =
        lastDecision a.device s.procs := by
      refine foldl_set_same hp fun d => ?_
      rw [settle_unfinished (p := p) (by rw [hprog]; rfl)]
      refine settle_unfinished ?_
      show (k (run s.store op fails).1).reply=none
      cases hk : k (run s.store op fails).1 with
      | done reply =>
        rw [hk] at hcalls
        cases hcalls
      | call op' k' => rfl
    rw [hlast]
  · rw [ha] at hq
    cases hq
  · have hbefore:=hstage.purged
    unfold purgedOther at hbefore ⊢
    rw [ha] at hbefore ⊢
    dsimp only at hbefore ⊢
    cases hpurge : purges a with
    | false => rfl
    | true =>
      rw [hpurge,Bool.true_and] at hbefore
      rw [Bool.true_and,any_cons,hbefore,Bool.or_false]
      by_contra hremoves
      have hremoves:=eq_true_of_not_eq_false hremoves
      unfold removesOther at hremoves
      cases op with
      | hardDeletePeer id =>
        rcases htouch with hnone | hsome
        · cases hnone
        · cases hsome
          obtain ⟨row,hrow,horigin⟩:=(any_eq_true _ _).mp hremoves
          exact of_decide_eq_true horigin (hdelete _ rfl hpurge row hrow)
      | _ => cases hremoves
  · rw [hother id hc]
    exact h.settled id hfree
  · cases hconcern id hc
    rw [hreply] at hgoes
    obtain ⟨hprov,hdec⟩ : Prov _ ∧ Decided _ _=true := hgoes
    rw [hreply,ha,settle_done]
    exact ⟨hdec,hprov⟩

end Steps

theorem Orderly.initial {σ : Store} (h : σ.Consistent) : Orderly (initial σ) [] :=
  ⟨h.own,fun i p g hp => absurd hp (by simp [Programs.initial]),
    fun i j p p' _ hp => absurd hp (by simp [Programs.initial]),fun id _ => ⟨h.safe id,h.prov id⟩⟩

/-- Along a careful run every device keeps the outcome last decided for it, a
clearing or unbanning removes only a row that a rejection created, and a device
whose lookups fail is not let in. -/
theorem enrollment_decisions {env : Env} {σ : Store} {as : List DecisionAct} {s : DecisionSys}
    (hσ : σ.Consistent) (hcareful : Along (decisionStep env) (fun s a => careful s a=true) (initial σ) as)
    (h : exec (decisionStep env) (initial σ) as=some s) : OneOutcome s := by
  have hrun:=exec_tracked (m := decisionMonitor) (Q := fun _ => Finished)
    (fun s gs => s.procs.length=gs.length ∧ Orderly s gs) ?_ ?_ ?_ ⟨rfl,.initial hσ⟩ hcareful h
  · obtain ⟨gs,htracked,hlen,horderly⟩:=hrun
    refine ⟨fun id hid => (horderly.settled id hid).1,fun p hp => ?_,fun p hp => ?_⟩
    · obtain ⟨i,hi⟩:=mem_iff_getElem?.mp hp
      obtain ⟨g,hg,-⟩:=forall₂_getElem? htracked hi
      exact (horderly.stage i p g hi hg).purged
    · obtain ⟨i,hi⟩:=mem_iff_getElem?.mp hp
      obtain ⟨g,hg,hwp⟩:=forall₂_getElem? htracked hi
      have hstage:=horderly.stage i p g hi hg
      unfold admittedBlind
      cases hreq : p.request with
      | operator a => rfl
      | device q =>
        have hg:=hstage.device q hreq
        subst hg
        dsimp only
        rw [hstage.written q hreq,Bool.false_or]
        cases hprog : p.prog with
        | call op k => exact Bool.and_false _
        | done reply =>
          rw [hprog] at hwp
          cases htaint : tainted p.log with
          | false => rfl
          | true =>
            obtain ⟨hstatus,htoken⟩:=(show Finished reply (.device (tainted p.log)) from hwp) htaint
            simp only [Prog.reply,any_some,admits,htoken,isSome_none,Bool.or_false,
              Bool.true_and,decide_eq_false_iff_not]
            exact hstatus
  · rintro s gs r htracked ⟨hlen,horderly⟩ hok
    cases r with
    | device q =>
      refine ⟨.device false,wp_device_handle,by rw [length_append,length_append,hlen]; rfl,
        horderly.begin hlen ?_ ⟨fun _ _ => rfl,?_,fun _ _ => rfl,rfl⟩ ?_⟩
      · intro id hc
        cases hc
      · intro a ha
        cases ha
      · intro id reply hc
        cases hc
    | operator a =>
      obtain ⟨hfree,hplain⟩:=(Bool.and_eq_true _ _).mp hok
      have hfree : underDecision a.device s.procs=false := by simpa using hfree
      have hplain : plain a=true := by
        cases a <;> first | rfl | exact hplain
      obtain ⟨hdec,hprov⟩:=horderly.settled a.device hfree
      have hwp:=wp_handleOperator hplain hprov hdec
      refine ⟨_,hwp,by rw [length_append,length_append,hlen]; rfl,
        horderly.begin hlen ?_ ⟨?_,?_,?_,?_⟩ ?_⟩
      · intro id hc
        cases of_decide_eq_true hc
        exact hfree
      · intro q hq
        cases hq
      · intro a' ha' hcalls
        cases ha'
        rw [lastDecision_append,settle_unfinished]
        cases hprog : serve env (.operator a) with
        | done reply =>
          rw [hprog] at hcalls
          cases hcalls
        | call op k => rfl
      · intro q hq
        cases hq
      · exact Bool.and_false _
      · intro id reply hc hreply
        cases of_decide_eq_true hc
        cases hprog : serve env (.operator a) with
        | call op k =>
          rw [hprog] at hreply
          cases hreply
        | done reply' =>
          rw [show handleOperator a=.done reply' from hprog] at hwp
          rw [settle_done]
          exact hwp.2
  · rintro s gs e htracked ⟨hlen,horderly⟩ -
    exact ⟨hlen,horderly.tick⟩
  · rintro s gs i fails p op k g htracked ⟨hlen,horderly⟩ hok hp hg hprog hallowed hwp
    have hlens : ∀ {σ : Store} {p' : DecisionProcess} {g' : Actor},
        (⟨σ,s.procs.set i p'⟩ : DecisionSys).procs.length=(gs.set i g').length := by
      intro σ p' g'
      rw [length_set,length_set]
      exact hlen
    simp only [careful,hp,hprog,Prog.nextOp,all_some] at hok
    cases hreq : p.request with
    | device q =>
      rw [hreq] at hok
      have hstage:=horderly.stage i p g hp hg
      have hrule : DeviceRule op := by
        rw [hstage.device q hreq] at hallowed
        exact hallowed
      obtain ⟨g',hnext,horderly'⟩:=horderly.device hp hprog hreq hg hrule hok
      rw [hreq] at horderly'
      exact ⟨g',hnext,hlens,horderly'⟩
    | operator a =>
      rw [hreq] at hok
      obtain ⟨g',hnext,horderly'⟩:=horderly.operator hp hprog hreq hg hallowed hwp hok
      rw [hreq] at horderly'
      exact ⟨g',hnext,hlens,horderly'⟩

def openEnv : Env where
  enrollmentMode := "open"
  hashToken _ := "h0"
  verify _ _ _ := false
  parseTime _ := none

def deskStore (row : Option Peer) (rejected : Bool) : Store where
  peers id := if id="desk-1" then row else none
  config
    | .rejectedDevice id => if id="desk-1" ∧ rejected then some ⟨false⟩ else none
    | .enrollmentDecision id => if id="desk-1" ∧ rejected then some ⟨.rejected,false⟩ else none
    | _ => none
  tokens _ := none
  nonces _ := none
  now := 0

def deskRow : Peer := ⟨[],[],false,"",false,false,.other⟩

def deskRequest : Request :=
  .register ⟨"POST","/api/devices/register",[],"","","",[],none⟩
    ⟨"desk-1",[],[],[],[],[],[],[],[],[]⟩

/-- The next `n` operations of a request, none failing. -/
def performs (i n : ℕ) : List DecisionAct := List.replicate n (.step i false)

/-- A rejection with a ban, of `n` operations, and its clearing. -/
def rejectThenClear (n : ℕ) : List DecisionAct :=
  .begin (.operator (.reject "desk-1" true))::performs 0 n ++
    .begin (.operator (.clearRejection "desk-1"))::performs 1 9

def clearedRun : List DecisionAct := rejectThenClear 7 ++ .begin (.device deskRequest)::performs 2 7

def blindRun : List DecisionAct :=
  .begin (.device deskRequest)::performs 0 2 ++ .step 0 true::performs 0 4

theorem deskStore_consistent {row : Option Peer} {rejected : Bool}
    (hrow : ∀ p, row=some p → p.banReason≠enrollmentRejectBanReason)
    (hone : row=none ∨ rejected=false) : (deskStore row rejected).Consistent := by
  refine ⟨?_,fun id => ⟨fun p hp hreason => ?_,fun hm => ?_,fun hd => ?_,fun hd => ?_⟩,
    fun id => ?_⟩
  · intro id rec hrec
    cases hrec
  · simp only [Store.view,deskStore] at hp
    split at hp
    · exact absurd hreason (hrow p hp)
    · cases hp
  · simp only [Store.view,deskStore] at hm
    split at hm <;> cases hm
  · simp only [Store.view,deskStore] at hd
    split at hd <;> cases hd
  · simp only [Store.view,deskStore] at hd ⊢
    split at hd
    · rename_i h
      rw [if_pos h]
      intro he
      cases he
    · cases hd
  · by_cases hid : id="desk-1"
    · rcases hone with rfl | rfl
      · exact (or_eq_true _ _).mpr (.inr (by simp [Store.view,deskStore,Rec.rowBanned]))
      · exact (or_eq_true _ _).mpr (.inl (by simp [Store.view,deskStore]))
    · exact (or_eq_true _ _).mpr (.inl (by simp [Store.view,deskStore,hid]))

theorem cleared_run_decisions : ∃ s,
    exec (decisionStep openEnv) (initial (deskStore none false)) clearedRun=some s ∧ OneOutcome s ∧
      lastDecision "desk-1" s.procs=some .cleared ∧
      s.procs.map (fun p => p.prog.reply.map Reply.status)=[some "",some "",some "approved"] := by
  have hrun : (exec (decisionStep openEnv) (initial (deskStore none false)) clearedRun).map (fun s =>
      (lastDecision "desk-1" s.procs,s.procs.map fun p => p.prog.reply.map Reply.status)) =
      some (some .cleared,[some "",some "",some "approved"]) := by
    decide +kernel
  have hcareful : Along (decisionStep openEnv) (fun s a => careful s a=true)
      (initial (deskStore none false)) clearedRun := by
    decide
  obtain ⟨s,hs,hfacts⟩:=map_eq_some_iff.mp hrun
  obtain ⟨hlast,hreplies⟩:=Prod.mk.inj hfacts
  exact ⟨s,hs,enrollment_decisions (deskStore_consistent (by rintro p ⟨⟩) (.inl rfl)) hcareful hs,hlast,hreplies⟩

/-- Rejecting a device that has a row and clearing the rejection removes the row. -/
theorem old_row_purged_and_rejected_admitted : (∃ s, (deskStore (some deskRow) false).Consistent ∧
      exec (decisionStep openEnv) (initial (deskStore (some deskRow) false)) (rejectThenClear 6)=some s ∧
      ¬ OneOutcome s) ∧ (∃ s, (deskStore none true).Consistent ∧
      exec (decisionStep openEnv) (initial (deskStore none true)) blindRun=some s ∧ ¬ OneOutcome s) := by
  constructor
  · have hrun : (exec (decisionStep openEnv) (initial (deskStore (some deskRow) false))
        (rejectThenClear 6)).map (fun s => s.procs.any purgedOther)=some true := by
      decide
    obtain ⟨s,hs,hpurged⟩:=map_eq_some_iff.mp hrun
    refine ⟨s,deskStore_consistent (by rintro p ⟨rfl⟩; decide) (.inr rfl),hs,fun h => ?_⟩
    obtain ⟨p,hp,hother⟩:=any_eq_true.mp hpurged
    rw [h.purged p hp] at hother
    cases hother
  · have hrun : (exec (decisionStep openEnv) (initial (deskStore none true)) blindRun).map
        (fun s => s.procs.any admittedBlind)=some true := by
      decide
    obtain ⟨s,hs,hadmitted⟩:=map_eq_some_iff.mp hrun
    refine ⟨s,deskStore_consistent (by rintro p ⟨⟩) (.inl rfl),hs,fun h => ?_⟩
    obtain ⟨p,hp,hblind⟩:=any_eq_true.mp hadmitted
    rw [h.admitted p hp] at hblind
    cases hblind

end BetterDesk.Enrollment
