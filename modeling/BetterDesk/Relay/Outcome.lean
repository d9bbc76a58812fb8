import BetterDesk.Relay.Invariant

/-! # The outcome of a pending connection -/

namespace BetterDesk.Relay
open Exec State Option Function

/-- The state with the sockets closed by a timeout, the shutdown or the sweep, and
whether a removal took the entry of another connection than it had looked up. -/
structure Watched where
  state : State
  closed : ConnID → Bool
  stolen : Bool

def watchInit : Watched := ⟨init,fun _ => false,false⟩

def closes (s : State) : Action → Option ConnID
  | .timeoutClose c => some c
  | .sweepClose => match s.sweep with
    | .closing _ pc => some pc
    | _ => none
  | _ => none

def removes (s : State) : Action → Option (UUID × ConnID)
  | .pairDelete c => (s.conns c).bind fun cc => match cc.phase with
    | .loaded existing => some (cc.uuid,existing)
    | _ => none
  | .timeoutDelete c => (s.conns c).map fun cc => (cc.uuid,c)
  | .sweepDelete => match s.sweep with
    | .stale uuid pc => some (uuid,pc)
    | _ => none
  | _ => none

def steals (s : State) (a : Action) : Bool :=
  match removes s a with
  | none => false
  | some (uuid,c) => (s.pending uuid).any fun d => d≠c

def Watched.step (w : Watched) (a : Action) : Option Watched :=
  (w.state.step a).map fun t =>
    ⟨t,fun c => w.closed c||closes w.state a=some c,w.stolen||steals w.state a⟩

def Phase.takes : Phase → Option ConnID
  | .loaded existing | .deleted existing | .joined existing _ => some existing
  | _ => none

def Sweep.takes : Sweep → Option ConnID
  | .releasing _ pc | .closing _ pc => some pc
  | _ => none

def Taken (s : State) (e : ConnID) : Prop := ∃ p cp, s.conns p=some cp ∧ cp.phase.takes=some e

/-- In every state: no `done` channel was closed twice, nobody removed the entry of
another connection, a pair shares no connection with another pair and none of it is
closed by a timeout; and a goroutine that waits no longer has left its connection to
its pair, or it is closed or about to be. -/
structure OneOutcome (w : Watched) : Prop where
  done : w.state.panicked=false
  own : w.stolen=false
  onePair : ∀ e p e' p' c, Paired w.state e p → Paired w.state e' p' → (c=e ∨ c=p) → (c=e' ∨ c=p') →
    e=e' ∧ p=p'
  notBoth : ∀ e p, Paired w.state e p → w.closed e=false ∧ w.closed p=false
  settled : ∀ c cc, w.state.conns c=some cc → cc.phase=.finished →
    Taken w.state c ∨ w.state.sweep.takes=some c ∨ w.closed c=true

/-- No arriving connection has found this one in the map and not yet removed it. -/
def NotLoaded (s : State) (e : ConnID) : Prop := ∀ p cp, s.conns p=some cp → cp.phase ≠ .loaded e

/-- An arriving connection finds an entry that nobody else is about to remove, and a
timeout finds its entry before an arriving connection does; a removal finds what was
looked up, or nothing. -/
def Exclusive (s : State) : Action → Prop
  | .loadOrStore c => ∀ cc e ce, s.conns c=some cc → s.pending cc.uuid=some e → s.conns e=some ce →
    NotLoaded s e ∧ ce.phase ≠ .timedOut
  | .timeoutLoad c => NotLoaded s c
  | .timeoutDelete c => ∀ cc d, s.conns c=some cc → s.pending cc.uuid=some d → d=c
  | .sweepDelete => ∀ u pc d, s.sweep=.stale u pc → s.pending u=some d → d=pc ∧ NotLoaded s pc
  | _ => True

def Phase.fresh (p : Phase) : Prop := p=.claimed ∨ p=.arriving

def Phase.stored (p : Phase) : Prop := p=.waiting ∨ p=.timedOut

def Phase.idle (p : Phase) : Prop := p=.waiting ∨ p=.finished

structure Tracked (w : Watched) : Prop where
  done : w.state.panicked=false
  own : w.stolen=false
  mapped : ∀ u c, w.state.pending u=some c → ∃ cc, w.state.conns c=some cc ∧ cc.uuid=u ∧
    cc.phase.stored ∧ cc.done=false
  mappedOpen : ∀ u c, w.state.pending u=some c → w.state.sweep.takes≠some c ∧ w.closed c=false
  oneTaker : ∀ p cp p' cp' e, w.state.conns p=some cp → w.state.conns p'=some cp' → cp.phase.takes=some e →
    cp'.phase.takes=some e → p=p'
  taken : ∀ p cp e, w.state.conns p=some cp → cp.phase.takes=some e →
    ∃ ce, w.state.conns e=some ce ∧ ce.phase.idle ∧ ce.uuid=cp.uuid
  takenOpen : ∀ e, Taken w.state e → w.state.sweep.takes≠some e ∧ w.closed e=false
  loadedMapped : ∀ p cp e, w.state.conns p=some cp → cp.phase=.loaded e → w.state.pending cp.uuid=some e
  takenGone : ∀ p cp e, w.state.conns p=some cp → cp.phase.takes=some e → cp.phase ≠ .loaded e →
    w.state.pending cp.uuid≠some e
  deletedUndone : ∀ p cp e ce, w.state.conns p=some cp → cp.phase=.deleted e → w.state.conns e=some ce →
    ce.done=false
  swept : ∀ c, w.state.sweep.takes=some c → ∃ cc, w.state.conns c=some cc ∧ cc.done=false ∧
    w.state.pending cc.uuid≠some c ∧ cc.phase.takes=none ∧ ¬ cc.phase.fresh
  gone : ∀ c, w.closed c=true → ∃ cc, w.state.conns c=some cc ∧ w.state.pending cc.uuid≠some c ∧
    cc.phase.takes=none ∧ ¬ cc.phase.fresh
  freshUndone : ∀ c cc, w.state.conns c=some cc → cc.phase.fresh → cc.done=false
  left : ∀ c cc, w.state.conns c=some cc → cc.phase.idle →
    w.state.pending cc.uuid=some c ∨ Taken w.state c ∨ w.state.sweep.takes=some c ∨ w.closed c=true

variable {w : Watched} {t : State} {c : ConnID} {cc : Conn}

theorem watchInit_tracked : Tracked watchInit := by
  constructor <;> simp [watchInit,init,Sweep.takes,Taken]

/-- The goroutine of `c` goes on without a pair: the map gains or loses nothing but
its own entry. -/
structure Move (w : Watched) (t : State) (closed' : ConnID → Bool) (c : ConnID) (cc cc' : Conn) : Prop where
  conns : t.conns=update w.state.conns c (some cc')
  sweep : t.sweep=w.state.sweep
  panicked : t.panicked=w.state.panicked
  uuid : cc'.uuid=cc.uuid
  done : cc'.done=cc.done
  takes : cc.phase.takes=none
  takes' : cc'.phase.takes=none
  fresh : cc'.phase.fresh → cc.phase.fresh
  closed : ∀ d, d≠c → closed' d=w.closed d
  closedUp : w.closed c=true → closed' c=true
  back : ∀ u d, t.pending u=some d → w.state.pending u=some d ∨ u=cc.uuid ∧ d=c ∧ cc.phase.fresh
  forth : ∀ u d, w.state.pending u=some d → t.pending u=some d ∨ d=c ∧ NotLoaded w.state c
  live : t.pending cc.uuid=some c → cc'.phase.stored ∧ cc.done=false ∧ closed' c=false
  hold : Taken w.state c → cc'.phase.idle ∧ closed' c=false
  gone : closed' c=true → t.pending cc.uuid≠some c ∧ ¬ cc'.phase.fresh
  left : cc'.phase.idle → t.pending cc.uuid=some c ∨ Taken w.state c ∨ w.state.sweep.takes=some c ∨ closed' c=true

variable {closed' : ConnID → Bool} {cc' : Conn} {e : ConnID}

theorem Move.taken_iff (m : Move w t closed' c cc cc')
    (hc : w.state.conns c=some cc) (e : ConnID) : Taken t e ↔ Taken w.state e := by
  have hnone:=m.takes
  have hnone':=m.takes'
  constructor
  · intro ⟨p,cp,hp,ht⟩
    rw [m.conns] at hp
    rcases conns_cases hp with ⟨-,rfl⟩ | ⟨-,hp⟩
    · rw [hnone'] at ht
      cases ht
    · exact ⟨p,cp,hp,ht⟩
  · intro ⟨p,cp,hp,ht⟩
    have hne : p≠c := by
      rintro rfl
      rw [hc] at hp
      cases hp
      rw [hnone] at ht
      cases ht
    exact ⟨p,cp,by rw [m.conns,update_of_ne hne,hp],ht⟩

theorem Move.taker (m : Move w t closed' c cc cc') {p : ConnID} {cp : Conn}
    (hp : t.conns p=some cp) (ht : cp.phase.takes=some e) : p≠c ∧ w.state.conns p=some cp := by
  have hnone:=m.takes'
  rw [m.conns] at hp
  rcases conns_cases hp with ⟨-,rfl⟩ | h
  · rw [hnone] at ht
    cases ht
  · exact h

theorem Tracked.fresh (h : Tracked w) (hc : w.state.conns c=some cc) (hfresh : cc.phase.fresh) :
    (∀ u, w.state.pending u≠some c) ∧ ¬ Taken w.state c ∧ w.state.sweep.takes≠some c ∧ w.closed c=false := by
  refine ⟨?_,?_,?_,?_⟩
  · intro u hu
    obtain ⟨cd,hd,-,hs,-⟩:=h.mapped u c hu
    rw [hc] at hd
    cases hd
    rcases hfresh with hf | hf <;> rcases hs with hs | hs <;> rw [hf] at hs <;> cases hs
  · intro ⟨p,cp,hp,ht⟩
    obtain ⟨cd,hd,hi,-⟩:=h.taken p cp c hp ht
    rw [hc] at hd
    cases hd
    rcases hfresh with hf | hf <;> rcases hi with hi | hi <;> rw [hf] at hi <;> cases hi
  · intro hs
    obtain ⟨cd,hd,-,-,-,hn⟩:=h.swept c hs
    rw [hc] at hd
    cases hd
    exact hn hfresh
  · by_contra hs
    obtain ⟨cd,hd,-,-,hn⟩:=h.gone c (by simpa using hs)
    rw [hc] at hd
    cases hd
    exact hn hfresh

theorem Tracked.move (h : Tracked w) (hc : w.state.conns c=some cc)
    (m : Move w t closed' c cc cc') : Tracked ⟨t,closed',w.stolen⟩ := by
  have hat : t.conns c=some cc' := by rw [m.conns,update_self]
  have hother {d : ConnID} (hd : d≠c) : t.conns d=w.state.conns d := by rw [m.conns,update_of_ne hd]
  have hmine {u : UUID} (hu : t.pending u=some c) : u=cc.uuid := by
    rcases m.back u c hu with hp | ⟨rfl,-⟩
    · obtain ⟨cd,hd,hcd,-⟩:=h.mapped u c hp
      rw [hc] at hd
      cases hd
      exact hcd.symm
    · rfl
  have hold {u : UUID} {d : ConnID} (hd : d≠c) (hu : t.pending u=some d) : w.state.pending u=some d := by
    rcases m.back u d hu with hp | ⟨-,hdc,-⟩
    · exact hp
    · exact absurd hdc hd
  have hswept : w.state.sweep.takes=some c → t.pending cc.uuid≠some c := by
    intro hs hp
    rcases m.back _ c hp with hp | ⟨-,-,hfresh⟩
    · exact (h.mappedOpen _ c hp).1 hs
    · exact (h.fresh hc hfresh).2.2.1 hs
  refine ⟨m.panicked.trans h.done,h.own,?_,?_,?_,?_,?_,?_,?_,?_,?_,?_,?_,?_⟩
  · intro u d hu
    by_cases hd : d=c
    · subst hd
      obtain rfl:=hmine hu
      obtain ⟨hs,hdone,-⟩:=m.live hu
      exact ⟨cc',hat,m.uuid,hs,m.done.trans hdone⟩
    · show ∃ cd, t.conns d=some cd ∧ _
      rw [hother hd]
      exact h.mapped u d (hold hd hu)
  · intro u d hu
    show t.sweep.takes≠some d ∧ closed' d=false
    rw [m.sweep]
    by_cases hd : d=c
    · subst hd
      obtain rfl:=hmine hu
      exact ⟨fun hs => hswept hs hu,(m.live hu).2.2⟩
    · rw [m.closed d hd]
      exact h.mappedOpen u d (hold hd hu)
  · intro p cp p' cp' e hp hp' ht ht'
    exact h.oneTaker p cp p' cp' e (m.taker hp ht).2 (m.taker hp' ht').2 ht ht'
  · intro p cp e hp ht
    obtain ⟨ce,he,hi,hu⟩:=h.taken p cp e (m.taker hp ht).2 ht
    by_cases hd : e=c
    · subst hd
      rw [hc] at he
      cases he
      exact ⟨cc',hat,(m.hold ⟨p,cp,(m.taker hp ht).2,ht⟩).1,m.uuid.trans hu⟩
    · exact ⟨ce,(hother hd).trans he,hi,hu⟩
  · intro e he
    have ht:=(m.taken_iff hc e).mp he
    show t.sweep.takes≠some e ∧ closed' e=false
    rw [m.sweep]
    refine ⟨(h.takenOpen e ht).1,?_⟩
    by_cases hd : e=c
    · subst hd
      exact (m.hold ht).2
    · rw [m.closed e hd]
      exact (h.takenOpen e ht).2
  · intro p cp e hp hl
    have ht : cp.phase.takes=some e := by rw [hl]; rfl
    have hp:=(m.taker hp ht).2
    rcases m.forth _ e (h.loadedMapped p cp e hp hl) with hpend | ⟨rfl,hnot⟩
    · exact hpend
    · exact absurd hl (hnot p cp hp)
  · intro p cp e hp ht hl hpend
    have hp:=(m.taker hp ht).2
    rcases m.back _ e hpend with hback | ⟨-,rfl,hfresh⟩
    · exact h.takenGone p cp e hp ht hl hback
    · exact (h.fresh hc hfresh).2.1 ⟨p,cp,hp,ht⟩
  · intro p cp e ce hp hdel he
    have hp:=(m.taker hp (by rw [hdel]; rfl)).2
    by_cases hd : e=c
    · subst hd
      rw [show t.conns e=_ from hat] at he
      cases he
      exact m.done.trans (h.deletedUndone p cp e cc hp hdel hc)
    · exact h.deletedUndone p cp e ce hp hdel ((hother hd).symm.trans he)
  · intro d hs
    have hs : w.state.sweep.takes=some d := by
      rw [← m.sweep]
      exact hs
    obtain ⟨cd,hd,hdone,hpend,htk,hfr⟩:=h.swept d hs
    by_cases hdc : d=c
    · subst hdc
      rw [hc] at hd
      cases hd
      refine ⟨cc',hat,m.done.trans hdone,?_,m.takes',fun hf => hfr (m.fresh hf)⟩
      rw [m.uuid]
      exact hswept hs
    · exact ⟨cd,(hother hdc).trans hd,hdone,fun hp => hpend (hold hdc hp),htk,hfr⟩
  · intro d hs
    by_cases hdc : d=c
    · subst hdc
      obtain ⟨hpend,hfr⟩:=m.gone hs
      refine ⟨cc',hat,?_,m.takes',hfr⟩
      rw [m.uuid]
      exact hpend
    · obtain ⟨cd,hd,hpend,htk,hfr⟩:=h.gone d (by rw [← m.closed d hdc]; exact hs)
      exact ⟨cd,(hother hdc).trans hd,fun hp => hpend (hold hdc hp),htk,hfr⟩
  · intro d cd hd hf
    by_cases hdc : d=c
    · subst hdc
      obtain rfl:=Option.some.inj (hat.symm.trans hd)
      exact m.done.trans (h.freshUndone d cc hc (m.fresh hf))
    · exact h.freshUndone d cd ((hother hdc).symm.trans hd) hf
  · intro d cd hd hi
    rw [m.taken_iff hc]
    show t.pending cd.uuid=some d ∨ _ ∨ t.sweep.takes=some d ∨ closed' d=true
    rw [m.sweep]
    by_cases hdc : d=c
    · subst hdc
      rw [show t.conns d=_ from hat] at hd
      cases hd
      rw [m.uuid]
      exact m.left hi
    · rw [m.closed d hdc]
      rcases h.left d cd ((hother hdc).symm.trans hd) hi with hp | hrest
      · rcases m.forth _ d hp with hp | ⟨rfl,-⟩
        · exact .inl hp
        · exact absurd rfl hdc
      · exact .inr hrest

theorem Tracked.same (h : Tracked w) (hconns : t.conns=w.state.conns) (hpend : t.pending=w.state.pending)
    (hsweep : t.sweep.takes=w.state.sweep.takes) (hpan : t.panicked=w.state.panicked) :
    Tracked ⟨t,w.closed,w.stolen⟩ := by
  obtain ⟨hdone,hown,hmapped,hmo,hone,htaken,hto,hlm,htg,hdu,hswept,hgone,hfu,hleft⟩:=h
  constructor <;> simp only [Taken,hconns,hpend,hsweep,hpan] at * <;> assumption

theorem Tracked.stored_of_mapped (h : Tracked w) (hc : w.state.conns c=some cc) {u : UUID}
    (hu : w.state.pending u=some c) : cc.phase.stored ∧ cc.done=false ∧ cc.uuid=u := by
  obtain ⟨cd,hd,hcd,hs,hdone⟩:=h.mapped u c hu
  rw [hc] at hd
  cases hd
  exact ⟨hs,hdone,hcd⟩

theorem Tracked.idle_of_taken (h : Tracked w) (hc : w.state.conns c=some cc) (ht : Taken w.state c) :
    cc.phase.idle := by
  obtain ⟨p,cp,hp,htk⟩:=ht
  obtain ⟨cd,hd,hi,-⟩:=h.taken p cp c hp htk
  rw [hc] at hd
  cases hd
  exact hi

theorem Tracked.not_taken (h : Tracked w) {u : UUID} (hu : w.state.pending u=some c) (hn : NotLoaded w.state c) :
    ¬ Taken w.state c := by
  intro ⟨p,cp,hp,ht⟩
  obtain ⟨cd,hd,-,hcd⟩:=h.taken p cp c hp ht
  have hkey:=(h.stored_of_mapped hd hu).2.2
  have hgone:=h.takenGone p cp c hp ht (hn p cp hp)
  rw [← hcd,hkey] at hgone
  exact hgone hu

theorem Tracked.claim {uuid : UUID} {tr : Transport} (h : Tracked w) (hstep : w.state.claim c uuid tr=some t) :
    Tracked ⟨t,w.closed,w.stolen⟩ := by
  unfold State.claim at hstep
  split at hstep
  · cases hstep
  rename_i hnone
  cases hr : (w.state.reg.claim w.state.now uuid).1 with
  | none =>
    simp only [hr] at hstep
    cases hstep
    exact h.same rfl rfl rfl rfl
  | some ticket =>
    simp only [hr] at hstep
    cases hstep
    have hother {d : ConnID} {cd : Conn} (hd : w.state.conns d=some cd) : d≠c := by
      rintro rfl
      rw [hnone] at hd
      cases hd
    -- nothing refers to a connection that is not there yet
    have hkeep {d : ConnID} {cd x : Conn} (hd : w.state.conns d=some cd) :
        update w.state.conns c (some x) d=some cd := by
      rw [update_of_ne (hother hd),hd]
    have hold {d : ConnID} {cd : Conn} (hd : update w.state.conns c
        (some ⟨uuid,tr,ticket,w.state.now,w.state.now,.claimed,false⟩) d=some cd)
        (hf : ¬ cd.phase.fresh) : w.state.conns d=some cd := by
      rcases conns_cases hd with ⟨-,rfl⟩ | ⟨-,hd⟩
      · exact absurd (.inl rfl) hf
      · exact hd
    have hfresh {cd : Conn} {e : ConnID} (ht : cd.phase.takes=some e) : ¬ cd.phase.fresh := by
      rintro (hf | hf) <;> rw [hf] at ht <;> cases ht
    have htk (e : ConnID) (ht : Taken ({w.state with reg := (w.state.reg.claim w.state.now uuid).2}.setConn c
        ⟨uuid,tr,ticket,w.state.now,w.state.now,.claimed,false⟩) e) : Taken w.state e := by
      obtain ⟨p,cp,hp,ht⟩:=ht
      exact ⟨p,cp,hold hp (hfresh ht),ht⟩
    refine ⟨h.done,h.own,?_,h.mappedOpen,?_,?_,?_,?_,?_,?_,?_,?_,?_,?_⟩
    · intro u d hu
      obtain ⟨cd,hd,hrest⟩:=h.mapped u d hu
      exact ⟨cd,hkeep hd,hrest⟩
    · intro p cp p' cp' e hp hp' ht ht'
      exact h.oneTaker p cp p' cp' e (hold hp (hfresh ht)) (hold hp' (hfresh ht')) ht ht'
    · intro p cp e hp ht
      obtain ⟨ce,he,hrest⟩:=h.taken p cp e (hold hp (hfresh ht)) ht
      exact ⟨ce,hkeep he,hrest⟩
    · intro e he
      exact h.takenOpen e (htk e he)
    · intro p cp e hp hl
      exact h.loadedMapped p cp e (hold hp (hfresh (by rw [hl]; rfl))) hl
    · intro p cp e hp ht hl
      exact h.takenGone p cp e (hold hp (hfresh ht)) ht hl
    · intro p cp e ce hp hdel he
      have hp:=hold hp (hfresh (by rw [hdel]; rfl))
      obtain ⟨cd,hd,-⟩:=h.taken p cp e hp (by rw [hdel]; rfl)
      obtain rfl:=Option.some.inj ((hkeep hd).symm.trans he)
      exact h.deletedUndone p cp e cd hp hdel hd
    · intro d hs
      obtain ⟨cd,hd,hrest⟩:=h.swept d hs
      exact ⟨cd,hkeep hd,hrest⟩
    · intro d hs
      obtain ⟨cd,hd,hrest⟩:=h.gone d hs
      exact ⟨cd,hkeep hd,hrest⟩
    · intro d cd hd hf
      rcases conns_cases hd with ⟨-,rfl⟩ | ⟨-,hd⟩
      · rfl
      · exact h.freshUndone d cd hd hf
    · intro d cd hd hi
      have hd:=hold hd (by rcases hi with hi | hi <;> rw [hi] <;> simp [Phase.fresh])
      rcases h.left d cd hd hi with hp | ⟨p,cp,hp,ht⟩ | hrest
      · exact .inl hp
      · exact .inr (.inl ⟨p,cp,hkeep hp,ht⟩)
      · exact .inr (.inr hrest)

theorem Move.apart (hout : w.state.pending cc.uuid≠some c)
    (hconns : t.conns=update w.state.conns c (some cc')) (hsweep : t.sweep=w.state.sweep)
    (hpan : t.panicked=w.state.panicked) (hpend : t.pending=w.state.pending) (huuid : cc'.uuid=cc.uuid)
    (hdone : cc'.done=cc.done) (htakes : cc.phase.takes=none) (htakes' : cc'.phase.takes=none)
    (hfresh : ¬ cc'.phase.fresh) (hclosed : ∀ d, d≠c → closed' d=w.closed d)
    (hup : w.closed c=true → closed' c=true) (hold : Taken w.state c → cc'.phase.idle ∧ closed' c=false)
    (hleft : cc'.phase.idle → Taken w.state c ∨ w.state.sweep.takes=some c ∨ closed' c=true) :
    Move w t closed' c cc cc' where
  conns := hconns
  sweep := hsweep
  panicked := hpan
  uuid := huuid
  done := hdone
  takes := htakes
  takes' := htakes'
  fresh := fun hf => absurd hf hfresh
  closed := hclosed
  closedUp := hup
  back := fun _ _ hu => .inl (hpend ▸ hu)
  forth := fun _ _ hu => .inl (hpend ▸ hu)
  live := fun hu => absurd (hpend ▸ hu) hout
  hold := hold
  gone := fun _ => ⟨fun hu => hout (hpend ▸ hu),hfresh⟩
  left := fun hi => .inr (hleft hi)

theorem Tracked.unmapped (h : Tracked w) (hc : w.state.conns c=some cc) (hphase : ¬ cc.phase.stored) :
    w.state.pending cc.uuid≠some c := fun hu => hphase (h.stored_of_mapped hc hu).1

theorem Tracked.build (h : Tracked w) (hc : w.state.conns c=some cc) (hstep : State.build w.state c cc=some t) :
    Tracked ⟨t,w.closed,w.stolen⟩ := by
  unfold State.build at hstep
  split at hstep
  · rename_i hphase
    cases hstep
    have hfresh : cc.phase.fresh := .inl hphase
    obtain ⟨hpend,htaken,-,hopen⟩:=h.fresh hc hfresh
    have hclosed : w.closed c≠true := by rw [hopen]; simp
    exact h.move hc {
      conns := rfl,sweep := rfl,panicked := rfl,uuid := rfl,done := rfl
      takes := by rw [hphase]; rfl
      takes' := rfl
      fresh := fun _ => hfresh
      closed := fun _ _ => rfl
      closedUp := id
      back := fun _ _ hu => .inl hu
      forth := fun _ _ hu => .inl hu
      live := fun hu => absurd hu (hpend _)
      hold := fun ht => absurd ht htaken
      gone := fun hg => absurd hg hclosed
      left := by simp [Phase.idle]}
  · cases hstep

theorem Tracked.doneSeen (h : Tracked w) (hc : w.state.conns c=some cc)
    (hstep : State.doneSeen w.state c cc=some t) : Tracked ⟨t,w.closed,w.stolen⟩ := by
  unfold State.doneSeen at hstep
  split at hstep
  · rename_i hphase
    cases hstep
    have hunmapped : w.state.pending cc.uuid≠some c := by
      intro hu
      have hdone:=(h.stored_of_mapped hc hu).2.1
      rw [hphase.2] at hdone
      cases hdone
    refine h.move hc (.apart hunmapped rfl rfl rfl rfl rfl rfl (by rw [hphase.1]; rfl) rfl (by simp [Phase.fresh])
      (fun _ _ => rfl) id ?_ ?_)
    · exact fun ht => ⟨.inr rfl,(h.takenOpen c ht).2⟩
    · exact fun _ => (h.left c cc hc (.inl hphase.1)).resolve_left hunmapped
  · cases hstep

theorem Tracked.timeoutLoad (h : Tracked w) (hc : w.state.conns c=some cc) (hex : NotLoaded w.state c)
    (hstep : State.timeoutLoad w.state c cc=some t) : Tracked ⟨t,w.closed,w.stolen⟩ := by
  unfold State.timeoutLoad at hstep
  split at hstep
  · rename_i hphase
    split at hstep
    · rename_i hmapped
      cases hstep
      have hopen:=(h.mappedOpen _ c hmapped).2
      exact h.move hc {
        conns := rfl,sweep := rfl,panicked := rfl,uuid := rfl,done := rfl
        takes := by rw [hphase.1]; rfl
        takes' := rfl
        fresh := by simp [Phase.fresh]
        closed := fun _ _ => rfl
        closedUp := id
        back := fun _ _ hu => .inl hu
        forth := fun _ _ hu => .inl hu
        live := fun hu => ⟨.inr rfl,(h.stored_of_mapped hc hu).2.1,hopen⟩
        hold := fun ht => absurd ht (h.not_taken hmapped hex)
        gone := fun hg => by rw [hopen] at hg; cases hg
        left := by simp [Phase.idle]}
    · rename_i hmapped
      cases hstep
      refine h.move hc (.apart hmapped rfl rfl rfl rfl rfl rfl (by rw [hphase.1]; rfl) rfl (by simp [Phase.fresh])
        (fun _ _ => rfl) id ?_ ?_)
      · exact fun ht => ⟨.inr rfl,(h.takenOpen c ht).2⟩
      · exact fun _ => (h.left c cc hc (.inl hphase.1)).resolve_left hmapped
  · cases hstep

theorem Tracked.past_timeout (h : Tracked w) (hc : w.state.conns c=some cc) (hphase : ¬ cc.phase.idle) :
    NotLoaded w.state c ∧ ¬ Taken w.state c := by
  have htaken : ¬ Taken w.state c := fun ht => hphase (h.idle_of_taken hc ht)
  refine ⟨?_,htaken⟩
  intro p cp hp hl
  exact htaken ⟨p,cp,hp,by rw [hl]; rfl⟩

theorem Tracked.timeoutDelete (h : Tracked w) (hc : w.state.conns c=some cc)
    (hex : ∀ d, w.state.pending cc.uuid=some d → d=c) (hstep : State.timeoutDelete w.state c cc=some t) :
    Tracked ⟨t,w.closed,w.stolen⟩ := by
  unfold State.timeoutDelete at hstep
  split at hstep
  · rename_i hphase
    cases hstep
    obtain ⟨hnot,htaken⟩:=h.past_timeout hc (by rw [hphase]; simp [Phase.idle])
    exact h.move hc {
      conns := rfl,sweep := rfl,panicked := rfl,uuid := rfl,done := rfl
      takes := by rw [hphase]; rfl
      takes' := rfl
      fresh := by simp [Phase.fresh]
      closed := fun _ _ => rfl
      closedUp := id
      back := fun u d hu => by
        rcases setPending_cases hu with ⟨-,hv⟩ | ⟨-,hu⟩
        · cases hv
        · exact .inl hu
      forth := fun u d hu => by
        by_cases hkey : u=cc.uuid
        · subst hkey
          exact .inr ⟨hex d hu,hnot⟩
        · exact .inl (by simpa [setPending,setConn,update_of_ne hkey] using hu)
      live := fun hu => by simp [setPending] at hu
      hold := fun ht => absurd ht htaken
      gone := fun _ => ⟨by simp [setPending],by simp [Phase.fresh]⟩
      left := by simp [Phase.idle]}
  · cases hstep

theorem Tracked.timeoutRelease (h : Tracked w) (hc : w.state.conns c=some cc)
    (hstep : State.timeoutRelease w.state c cc=some t) : Tracked ⟨t,w.closed,w.stolen⟩ := by
  unfold State.timeoutRelease at hstep
  split at hstep
  · rename_i hphase
    cases hstep
    obtain ⟨-,htaken⟩:=h.past_timeout hc (by rw [hphase]; simp [Phase.idle])
    have hunmapped:=h.unmapped hc (by rw [hphase]; simp [Phase.stored])
    exact h.move hc (.apart hunmapped rfl rfl rfl rfl rfl rfl (by rw [hphase]; rfl) rfl (by simp [Phase.fresh])
      (fun _ _ => rfl) id (fun ht => absurd ht htaken) (by simp [Phase.idle]))
  · cases hstep

theorem Tracked.timeoutClose (h : Tracked w) (hc : w.state.conns c=some cc)
    (hstep : State.timeoutClose w.state c cc=some t) : Tracked ⟨t,fun d => w.closed d||some c=some d,w.stolen⟩ := by
  unfold State.timeoutClose at hstep
  split at hstep
  · rename_i hphase
    cases hstep
    obtain ⟨-,htaken⟩:=h.past_timeout hc (by rw [hphase]; simp [Phase.idle])
    have hunmapped:=h.unmapped hc (by rw [hphase]; simp [Phase.stored])
    exact h.move hc (.apart hunmapped rfl rfl rfl rfl rfl rfl (by rw [hphase]; rfl) rfl (by simp [Phase.fresh])
      (fun d hd => by simp [Ne.symm hd]) (by simp) (fun ht => absurd ht htaken) (by simp))
  · cases hstep

theorem Tracked.loadOrStore (h : Tracked w) (hc : w.state.conns c=some cc)
    (hex : ∀ e ce, w.state.pending cc.uuid=some e → w.state.conns e=some ce →
      NotLoaded w.state e ∧ ce.phase ≠ .timedOut)
    (hstep : State.loadOrStore w.state c cc=some t) : Tracked ⟨t,w.closed,w.stolen⟩ := by
  unfold State.loadOrStore at hstep
  split at hstep
  · rename_i hphase
    have hfresh : cc.phase.fresh := .inr hphase
    have htakes : cc.phase.takes=none := by rw [hphase]; rfl
    obtain ⟨hunmapped,htaken,hsweep,hopen⟩:=h.fresh hc hfresh
    have hclosed : w.closed c≠true := by rw [hopen]; simp
    split at hstep
    · rename_i e he
      cases hstep
      obtain ⟨ce,hce,hcu,hstored,hdone⟩:=h.mapped _ e he
      obtain ⟨hnot,hnt⟩:=hex e ce he hce
      have hfree : ¬ Taken w.state e := h.not_taken he hnot
      have hne : e≠c := by
        rintro rfl
        exact hunmapped _ he
      have hwaits : ce.phase.idle := by
        rcases hstored with hw | hw
        · exact .inl hw
        · exact absurd hw hnt
      have hother {d : ConnID} (hd : d≠c) : (w.state.setConn c {cc with phase := .loaded e}).conns d=w.state.conns d :=
        update_of_ne hd _ _
      -- a connection that is taken is taken as before, or it is the one just found
      have hback {p x : ConnID} {cp : Conn} (hp : (w.state.setConn c {cc with phase := .loaded e}).conns p=some cp)
          (ht : cp.phase.takes=some x) : (p=c ∧ x=e ∧ cp={cc with phase := .loaded e}) ∨
            p≠c ∧ w.state.conns p=some cp := by
        rcases setConn_cases hp with ⟨rfl,rfl⟩ | hp
        · cases ht
          exact .inl ⟨rfl,rfl,rfl⟩
        · exact .inr hp
      refine ⟨h.done,h.own,?_,h.mappedOpen,?_,?_,?_,?_,?_,?_,?_,?_,?_,?_⟩
      · intro u d hu
        obtain ⟨cd,hd,hrest⟩:=h.mapped u d hu
        have hdc : d≠c := by
          rintro rfl
          exact hunmapped u hu
        exact ⟨cd,(hother hdc).trans hd,hrest⟩
      · intro p cp p' cp' x hp hp' ht ht'
        rcases hback hp ht with ⟨rfl,rfl,-⟩ | ⟨-,hq⟩ <;> rcases hback hp' ht' with ⟨rfl,hx,-⟩ | ⟨-,hq'⟩
        · rfl
        · exact absurd ⟨p',cp',hq',ht'⟩ hfree
        · subst hx
          exact absurd ⟨p,cp,hq,ht⟩ hfree
        · exact h.oneTaker p cp p' cp' x hq hq' ht ht'
      · intro p cp x hp ht
        rcases hback hp ht with ⟨rfl,rfl,rfl⟩ | ⟨-,hp⟩
        · exact ⟨ce,(hother hne).trans hce,hwaits,hcu⟩
        · obtain ⟨cx,hx,hrest⟩:=h.taken p cp x hp ht
          have hxc : x≠c := fun hx => htaken ⟨p,cp,hp,hx ▸ ht⟩
          exact ⟨cx,(hother hxc).trans hx,hrest⟩
      · intro x ⟨p,cp,hp,ht⟩
        rcases hback hp ht with ⟨-,rfl,-⟩ | ⟨-,hp⟩
        · exact h.mappedOpen _ x he
        · exact h.takenOpen x ⟨p,cp,hp,ht⟩
      · intro p cp x hp hl
        rcases hback hp (by rw [hl]; rfl) with ⟨-,rfl,rfl⟩ | ⟨-,hp⟩
        · exact he
        · exact h.loadedMapped p cp x hp hl
      · intro p cp x hp ht hl
        rcases hback hp ht with ⟨-,rfl,rfl⟩ | ⟨-,hp⟩
        · exact absurd rfl hl
        · exact h.takenGone p cp x hp ht hl
      · intro p cp x cx hp hdel hx
        rcases hback hp (by rw [hdel]; rfl) with ⟨-,-,rfl⟩ | ⟨-,hp⟩
        · cases hdel
        · have hxc : x≠c := fun hx => htaken ⟨p,cp,hp,by rw [hdel,hx]; rfl⟩
          exact h.deletedUndone p cp x cx hp hdel ((hother hxc).symm.trans hx)
      · intro d hs
        obtain ⟨cd,hd,hrest⟩:=h.swept d hs
        have hdc : d≠c := by
          rintro rfl
          exact hsweep hs
        exact ⟨cd,(hother hdc).trans hd,hrest⟩
      · intro d hs
        obtain ⟨cd,hd,hrest⟩:=h.gone d hs
        have hdc : d≠c := by
          rintro rfl
          exact hclosed hs
        exact ⟨cd,(hother hdc).trans hd,hrest⟩
      · intro d cd hd hf
        rcases setConn_cases hd with ⟨-,rfl⟩ | ⟨-,hd⟩
        · simp [Phase.fresh] at hf
        · exact h.freshUndone d cd hd hf
      · intro d cd hd hi
        rcases setConn_cases hd with ⟨-,rfl⟩ | ⟨hdc,hd⟩
        · simp [Phase.idle] at hi
        · rcases h.left d cd hd hi with hp | ⟨p,cp,hp,ht⟩ | hrest
          · exact .inl hp
          · have hpc : p≠c := by
              rintro rfl
              rw [hc] at hp
              cases hp
              rw [htakes] at ht
              cases ht
            exact .inr (.inl ⟨p,cp,(hother hpc).trans hp,ht⟩)
          · exact .inr (.inr hrest)
    · rename_i hfree
      cases hstep
      exact h.move hc {
        conns := rfl,sweep := rfl,panicked := rfl,uuid := rfl
        done := rfl
        takes := htakes
        takes' := rfl
        fresh := fun _ => hfresh
        closed := fun _ _ => rfl
        closedUp := id
        back := fun u d hu => by
          rcases setPending_cases hu with ⟨rfl,hv⟩ | ⟨-,hu⟩
          · cases hv
            exact .inr ⟨rfl,rfl,hfresh⟩
          · exact .inl hu
        forth := fun u d hu => by
          have hkey : u≠cc.uuid := by
            rintro rfl
            rw [hfree] at hu
            cases hu
          exact .inl (by simpa [setPending,setConn,update_of_ne hkey] using hu)
        live := fun _ => ⟨.inl rfl,h.freshUndone c cc hc hfresh,hopen⟩
        hold := fun ht => absurd ht htaken
        gone := fun hg => absurd hg hclosed
        left := fun _ => .inl (by simp [setPending])}
  · cases hstep

theorem Tracked.advance (h : Tracked w) (hc : w.state.conns c=some cc)
    (htakes : cc.phase.takes=some e) (hconns : t.conns=update w.state.conns c (some cc'))
    (hsweep : t.sweep=w.state.sweep) (hpan : t.panicked=w.state.panicked) (huuid : cc'.uuid=cc.uuid)
    (htakes' : cc'.phase.takes=some e) (hnext : cc'.phase ≠ .loaded e)
    (hdeleted : ∀ ce, cc'.phase=.deleted e → w.state.conns e=some ce → ce.done=false)
    (hback : ∀ u d, t.pending u=some d → w.state.pending u=some d)
    (hforth : ∀ u d, w.state.pending u=some d → t.pending u=some d ∨ u=cc.uuid ∧ d=e)
    (hremoved : t.pending cc.uuid≠some e) : Tracked ⟨t,w.closed,w.stolen⟩ := by
  have hnotIdle {p : Phase} {x : ConnID} (hp : p.takes=some x) : ¬ p.idle ∧ ¬ p.stored ∧ ¬ p.fresh := by
    cases p <;> simp [Phase.takes,Phase.idle,Phase.stored,Phase.fresh] at hp ⊢
  have hat : t.conns c=some cc' := by rw [hconns,update_self]
  have hother {d : ConnID} (hd : d≠c) : t.conns d=w.state.conns d := by rw [hconns,update_of_ne hd]
  have hcases {p : ConnID} {cp : Conn} (hp : t.conns p=some cp) : (p=c ∧ cp=cc') ∨ p≠c ∧ w.state.conns p=some cp := by
    rw [hconns] at hp
    exact conns_cases hp
  -- a taker in `t` was one of the same connection before
  have htaker {p x : ConnID} {cp : Conn} (hp : t.conns p=some cp) (ht : cp.phase.takes=some x) :
      ∃ cq, w.state.conns p=some cq ∧ cq.phase.takes=some x ∧ cq.uuid=cp.uuid := by
    rcases hcases hp with ⟨rfl,rfl⟩ | ⟨-,hq⟩
    · rw [htakes'] at ht
      cases ht
      exact ⟨cc,hc,htakes,huuid.symm⟩
    · exact ⟨cp,hq,ht,rfl⟩
  have hidle {x : ConnID} (ht : Taken w.state x) : x≠c := by
    rintro rfl
    exact (hnotIdle htakes).1 (h.idle_of_taken hc ht)
  refine ⟨hpan.trans h.done,h.own,?_,?_,?_,?_,?_,?_,?_,?_,?_,?_,?_,?_⟩
  · intro u d hu
    obtain ⟨cd,hd,hcd,hs,hdone⟩:=h.mapped u d (hback u d hu)
    have hdc : d≠c := by
      rintro rfl
      rw [hc] at hd
      cases hd
      exact (hnotIdle htakes).2.1 hs
    exact ⟨cd,(hother hdc).trans hd,hcd,hs,hdone⟩
  · intro u d hu
    show t.sweep.takes≠some d ∧ w.closed d=false
    rw [hsweep]
    exact h.mappedOpen u d (hback u d hu)
  · intro p cp p' cp' x hp hp' ht ht'
    obtain ⟨cq,hq,hqt,-⟩:=htaker hp ht
    obtain ⟨cq',hq',hqt',-⟩:=htaker hp' ht'
    exact h.oneTaker p cq p' cq' x hq hq' hqt hqt'
  · intro p cp x hp ht
    obtain ⟨cq,hq,hqt,hqu⟩:=htaker hp ht
    obtain ⟨cx,hx,hi,hu⟩:=h.taken p cq x hq hqt
    exact ⟨cx,(hother (hidle ⟨p,cq,hq,hqt⟩)).trans hx,hi,hu.trans hqu⟩
  · intro x ⟨p,cp,hp,ht⟩
    obtain ⟨cq,hq,hqt,-⟩:=htaker hp ht
    show t.sweep.takes≠some x ∧ w.closed x=false
    rw [hsweep]
    exact h.takenOpen x ⟨p,cq,hq,hqt⟩
  · intro p cp x hp hl
    have ht : cp.phase.takes=some x := by rw [hl]; rfl
    rcases hcases hp with ⟨rfl,rfl⟩ | ⟨hpc,hq⟩
    · rw [htakes'] at ht
      cases ht
      exact absurd hl hnext
    · rcases hforth _ x (h.loadedMapped p cp x hq hl) with hx | ⟨-,rfl⟩
      · exact hx
      · exact absurd (h.oneTaker p cp c cc x hq hc ht htakes) hpc
  · intro p cp x hp ht hl hx
    rcases hcases hp with ⟨rfl,rfl⟩ | ⟨-,hq⟩
    · rw [htakes'] at ht
      cases ht
      exact hremoved (huuid ▸ hx)
    · exact h.takenGone p cp x hq ht hl (hback _ x hx)
  · intro p cp x cx hp hdel hx
    have ht : cp.phase.takes=some x := by rw [hdel]; rfl
    obtain ⟨cq,hq,hqt,-⟩:=htaker hp ht
    have hx:=(hother (hidle ⟨p,cq,hq,hqt⟩)).symm.trans hx
    rcases hcases hp with ⟨rfl,rfl⟩ | ⟨-,hq⟩
    · rw [htakes'] at ht
      cases ht
      exact hdeleted cx hdel hx
    · exact h.deletedUndone p cp x cx hq hdel hx
  · intro d hs
    obtain ⟨cd,hd,hdone,hun,htk,hfr⟩:=h.swept d (by rw [← hsweep]; exact hs)
    have hdc : d≠c := by
      rintro rfl
      rw [hc] at hd
      cases hd
      rw [htakes] at htk
      cases htk
    exact ⟨cd,(hother hdc).trans hd,hdone,fun hu => hun (hback _ d hu),htk,hfr⟩
  · intro d hs
    obtain ⟨cd,hd,hun,htk,hfr⟩:=h.gone d hs
    have hdc : d≠c := by
      rintro rfl
      rw [hc] at hd
      cases hd
      rw [htakes] at htk
      cases htk
    exact ⟨cd,(hother hdc).trans hd,fun hu => hun (hback _ d hu),htk,hfr⟩
  · intro d cd hd hf
    rcases hcases hd with ⟨-,rfl⟩ | ⟨-,hd⟩
    · exact absurd hf (hnotIdle htakes').2.2
    · exact h.freshUndone d cd hd hf
  · intro d cd hd hi
    show t.pending cd.uuid=some d ∨ _ ∨ t.sweep.takes=some d ∨ _
    rw [hsweep]
    rcases hcases hd with ⟨-,rfl⟩ | ⟨-,hd⟩
    · exact absurd hi (hnotIdle htakes').1
    · rcases h.left d cd hd hi with hu | ⟨p,cp,hp,ht⟩ | hrest
      · rcases hforth _ d hu with hu | ⟨-,rfl⟩
        · exact .inl hu
        · exact .inr (.inl ⟨c,cc',hat,htakes'⟩)
      · by_cases hpc : p=c
        · subst hpc
          rw [hc] at hp
          cases hp
          rw [htakes] at ht
          cases ht
          exact .inr (.inl ⟨p,cc',hat,htakes'⟩)
        · exact .inr (.inl ⟨p,cp,(hother hpc).trans hp,ht⟩)
      · exact .inr (.inr hrest)

theorem Tracked.pairDelete (h : Tracked w) (hc : w.state.conns c=some cc)
    (hstep : State.pairDelete w.state c cc=some t) : Tracked ⟨t,w.closed,w.stolen⟩ := by
  unfold State.pairDelete at hstep
  split at hstep
  · rename_i e hphase
    cases hstep
    have he : w.state.pending cc.uuid=some e := h.loadedMapped c cc e hc hphase
    refine h.advance hc (by rw [hphase]; rfl) rfl rfl rfl rfl rfl (by simp) ?_ ?_ ?_ ?_
    · intro ce _ hce
      exact (h.stored_of_mapped hce he).2.1
    · intro u d hu
      rcases setPending_cases hu with ⟨-,hv⟩ | ⟨-,hu⟩
      · cases hv
      · exact hu
    · intro u d hu
      by_cases hkey : u=cc.uuid
      · subst hkey
        rw [he] at hu
        cases hu
        exact .inr ⟨rfl,rfl⟩
      · exact .inl (by simpa [setPending,setConn,update_of_ne hkey] using hu)
    · simp [setPending]
  · cases hstep

theorem Tracked.closeDone {ce : Conn} (h : Tracked w)
    (he : w.state.conns e=some ce) (hconns : t.conns=update w.state.conns e (some {ce with done := true}))
    (hpend : t.pending=w.state.pending) (hpan : t.panicked=w.state.panicked)
    (hunmapped : ∀ u, w.state.pending u≠some e) (hfresh : ¬ ce.phase.fresh)
    (hdeleted : ∀ p cp, w.state.conns p=some cp → cp.phase ≠ .deleted e)
    (hsweep : ∀ d, t.sweep.takes=some d → w.state.sweep.takes=some d ∧ d≠e)
    (hclosed : ∀ d, closed' d=true → w.closed d=true ∨ w.state.sweep.takes=some d)
    (hend : ∀ d, w.closed d=true ∨ w.state.sweep.takes=some d → closed' d=true ∨ t.sweep.takes=some d) :
    Tracked ⟨t,closed',w.stolen⟩ := by
  have hother {d : ConnID} (hd : d≠e) : t.conns d=w.state.conns d := by rw [hconns,update_of_ne hd]
  have hat : t.conns e=some {ce with done := true} := by rw [hconns,update_self]
  -- the other fields of every connection are as before
  have hback {d : ConnID} {cd : Conn} (hd : t.conns d=some cd) :
      ∃ cb, w.state.conns d=some cb ∧ cd.uuid=cb.uuid ∧ cd.phase=cb.phase ∧ (d≠e → cd=cb) := by
    rw [hconns] at hd
    rcases conns_cases hd with ⟨rfl,rfl⟩ | ⟨hde,hd⟩
    · exact ⟨ce,he,rfl,rfl,fun hne => absurd rfl hne⟩
    · exact ⟨cd,hd,rfl,rfl,fun _ => rfl⟩
  have hforth {d : ConnID} {cb : Conn} (hd : w.state.conns d=some cb) :
      ∃ cd, t.conns d=some cd ∧ cd.uuid=cb.uuid ∧ cd.phase=cb.phase ∧ (d≠e → cd=cb) := by
    by_cases hde : d=e
    · subst hde
      obtain rfl:=Option.some.inj (he.symm.trans hd)
      exact ⟨_,hat,rfl,rfl,fun hne => absurd rfl hne⟩
    · exact ⟨cb,(hother hde).trans hd,rfl,rfl,fun _ => rfl⟩
  have htaken (x : ConnID) (ht : Taken t x) : Taken w.state x := by
    obtain ⟨p,cp,hp,ht⟩:=ht
    obtain ⟨cb,hb,-,hphase,-⟩:=hback hp
    exact ⟨p,cb,hb,hphase ▸ ht⟩
  have hopen {d : ConnID} (hs : w.state.sweep.takes≠some d) (hcl : w.closed d=false) :
      t.sweep.takes≠some d ∧ closed' d=false := by
    refine ⟨fun ht => hs (hsweep d ht).1,?_⟩
    by_contra hne
    rcases hclosed d (by simpa using hne) with hold | hold
    · rw [hcl] at hold
      cases hold
    · exact hs hold
  refine ⟨hpan.trans h.done,h.own,?_,?_,?_,?_,?_,?_,?_,?_,?_,?_,?_,?_⟩
  · intro u d hu
    have hu : w.state.pending u=some d := hpend ▸ hu
    obtain ⟨cd,hd,hrest⟩:=h.mapped u d hu
    have hde : d≠e := by
      rintro rfl
      exact hunmapped u hu
    exact ⟨cd,(hother hde).trans hd,hrest⟩
  · intro u d hu
    obtain ⟨hs,hcl⟩:=h.mappedOpen u d (hpend ▸ hu)
    exact hopen hs hcl
  · intro p cp p' cp' x hp hp' ht ht'
    obtain ⟨cb,hb,-,hphase,-⟩:=hback hp
    obtain ⟨cb',hb',-,hphase',-⟩:=hback hp'
    exact h.oneTaker p cb p' cb' x hb hb' (hphase ▸ ht) (hphase' ▸ ht')
  · intro p cp x hp ht
    obtain ⟨cb,hb,huuid,hphase,-⟩:=hback hp
    obtain ⟨cx,hx,hi,hu⟩:=h.taken p cb x hb (hphase ▸ ht)
    obtain ⟨cx',hx',huuid',hphase',-⟩:=hforth hx
    exact ⟨cx',hx',hphase' ▸ hi,by rw [huuid',hu,huuid]⟩
  · intro x hx
    obtain ⟨hs,hcl⟩:=h.takenOpen x (htaken x hx)
    exact hopen hs hcl
  · intro p cp x hp hl
    obtain ⟨cb,hb,huuid,hphase,-⟩:=hback hp
    show t.pending cp.uuid=some x
    rw [hpend,huuid]
    exact h.loadedMapped p cb x hb (hphase ▸ hl)
  · intro p cp x hp ht hl
    obtain ⟨cb,hb,huuid,hphase,-⟩:=hback hp
    show t.pending cp.uuid≠some x
    rw [hpend,huuid]
    exact h.takenGone p cb x hb (hphase ▸ ht) (hphase ▸ hl)
  · intro p cp x cx hp hdel hx
    obtain ⟨cb,hb,-,hphase,-⟩:=hback hp
    obtain ⟨cy,hy,-,-,hsame⟩:=hback hx
    have hxe : x≠e := by
      rintro rfl
      exact hdeleted p cb hb (hphase ▸ hdel)
    rw [hsame hxe]
    exact h.deletedUndone p cb x cy hb (hphase ▸ hdel) hy
  · intro d hs
    obtain ⟨hold,hde⟩:=hsweep d hs
    obtain ⟨cd,hd,hrest⟩:=h.swept d hold
    refine ⟨cd,(hother hde).trans hd,?_⟩
    show cd.done=false ∧ t.pending cd.uuid≠some d ∧ _
    rw [hpend]
    exact hrest
  · intro d hs
    have hold : ∃ cd, w.state.conns d=some cd ∧ w.state.pending cd.uuid≠some d ∧ cd.phase.takes=none ∧
        ¬ cd.phase.fresh := by
      rcases hclosed d hs with hold | hold
      · exact h.gone d hold
      · obtain ⟨cd,hd,-,hrest⟩:=h.swept d hold
        exact ⟨cd,hd,hrest⟩
    obtain ⟨cd,hd,hun,htk,hfr⟩:=hold
    obtain ⟨cx,hx,huuid,hphase,-⟩:=hforth hd
    refine ⟨cx,hx,?_,hphase ▸ htk,hphase ▸ hfr⟩
    show t.pending cx.uuid≠some d
    rw [hpend,huuid]
    exact hun
  · intro d cd hd hf
    obtain ⟨cb,hb,-,hphase,hsame⟩:=hback hd
    have hde : d≠e := by
      rintro rfl
      obtain rfl:=Option.some.inj (he.symm.trans hb)
      exact hfresh (hphase ▸ hf)
    rw [hsame hde]
    exact h.freshUndone d cb hb (hphase ▸ hf)
  · intro d cd hd hi
    obtain ⟨cb,hb,huuid,hphase,-⟩:=hback hd
    show t.pending cd.uuid=some d ∨ Taken t d ∨ t.sweep.takes=some d ∨ closed' d=true
    rw [hpend,huuid]
    rcases h.left d cb hb (hphase ▸ hi) with hu | ⟨p,cp,hp,ht⟩ | hs | hcl
    · exact .inl hu
    · obtain ⟨cx,hx,-,hphase,-⟩:=hforth hp
      exact .inr (.inl ⟨p,cx,hx,hphase ▸ ht⟩)
    · exact .inr (.inr (hend d (.inr hs)).symm)
    · exact .inr (.inr (hend d (.inl hcl)).symm)

theorem Tracked.pairClose (h : Tracked w) (hc : w.state.conns c=some cc)
    (hstep : State.pairClose w.state c cc=some t) : Tracked ⟨t,w.closed,w.stolen⟩ := by
  unfold State.pairClose at hstep
  split at hstep
  · rename_i e hphase
    split at hstep
    · rename_i ex hex
      have htakes : cc.phase.takes=some e := by rw [hphase]; rfl
      obtain ⟨ce,hce,hi,hcu⟩:=h.taken c cc e hc htakes
      obtain rfl:=Option.some.inj (hex.symm.trans hce)
      have hne : e≠c := by
        rintro rfl
        rw [hc] at hce
        cases hce
        rw [hphase] at hi
        simp [Phase.idle] at hi
      have hdone:=h.deletedUndone c cc e ex hc hphase hex
      have hgone:=h.takenGone c cc e hc htakes (by rw [hphase]; simp)
      have hjoined : Tracked ⟨w.state.setConn c {cc with phase := .joined e (relayKind ex.transport cc.transport)},
          w.closed,w.stolen⟩ :=
        h.advance hc htakes rfl rfl rfl rfl rfl (by simp) (by simp) (fun _ _ hu => hu) (fun _ _ hu => .inl hu) hgone
      have he : (w.state.setConn c {cc with phase := .joined e (relayKind ex.transport cc.transport)}).conns e=some ex :=
        (update_of_ne hne _ _).trans hex
      simp only [State.closeDone,he,hdone,Bool.false_eq_true,if_false] at hstep
      cases hstep
      refine hjoined.closeDone he rfl rfl rfl ?_ ?_ ?_ ?_ ?_ ?_
      · intro u hu
        obtain rfl:=(h.stored_of_mapped hex hu).2.2
        rw [hcu] at hu
        exact hgone hu
      · rcases hi with hi | hi <;> rw [hi] <;> simp [Phase.fresh]
      · intro p cp hp hdel
        rcases setConn_cases hp with ⟨-,rfl⟩ | ⟨hpc,hp⟩
        · cases hdel
        · exact hpc (h.oneTaker p cp c cc e hp hc (by rw [hdel]; rfl) htakes)
      · intro d hs
        refine ⟨hs,?_⟩
        rintro rfl
        exact (h.takenOpen d ⟨c,cc,hc,htakes⟩).1 hs
      · exact fun d hd => .inl hd
      · exact fun d hd => hd
    · cases hstep
  · cases hstep

theorem Tracked.sweepDelete (h : Tracked w) (hex : ∀ u pc d, w.state.sweep=.stale u pc → w.state.pending u=some d →
    d=pc ∧ NotLoaded w.state pc) (hstep : State.sweepDelete w.state=some t) : Tracked ⟨t,w.closed,w.stolen⟩ := by
  unfold State.sweepDelete at hstep
  split at hstep
  · rename_i u pc hsweep
    have hidle : w.state.sweep.takes=none := by rw [hsweep]; rfl
    split at hstep
    · rename_i d hd
      cases hstep
      obtain ⟨rfl,hnot⟩:=hex u pc d hsweep hd
      obtain ⟨cd,hcd,hcu,hs,hdone⟩:=h.mapped u d hd
      obtain ⟨-,hopen⟩:=h.mappedOpen u d hd
      have hfree:=h.not_taken hd hnot
      have hpend {v : UUID} {x : ConnID} (hv : (w.state.setPending u none).pending v=some x) :
          v≠u ∧ w.state.pending v=some x := by
        rcases setPending_cases hv with ⟨-,hv⟩ | hv
        · cases hv
        · exact hv
      have hother {v : UUID} {x : ConnID} (hv : w.state.pending v=some x) (hx : x≠d) :
          (w.state.setPending u none).pending v=some x := by
        have hkey : v≠u := by
          rintro rfl
          exact hx (Option.some.inj (hv.symm.trans hd))
        exact (update_of_ne hkey _ _).trans hv
      have hphase : cd.phase.takes=none ∧ ¬ cd.phase.fresh := by
        rcases hs with hs | hs <;> simp [hs,Phase.takes,Phase.fresh]
      refine ⟨h.done,h.own,?_,?_,h.oneTaker,h.taken,?_,?_,?_,h.deletedUndone,?_,?_,h.freshUndone,?_⟩
      · intro v x hv
        exact h.mapped v x (hpend hv).2
      · intro v x hv
        obtain ⟨hkey,hold⟩:=hpend hv
        have hx : x≠d := fun hx => hkey ((h.stored_of_mapped hcd (hx ▸ hold)).2.2.symm.trans hcu)
        exact ⟨fun ht => hx (Option.some.inj ht).symm,(h.mappedOpen v x hold).2⟩
      · intro x hx
        have hxd : x≠d := by
          rintro rfl
          exact hfree hx
        exact ⟨fun ht => hxd (Option.some.inj ht).symm,(h.takenOpen x hx).2⟩
      · intro p cp x hp hl
        have hxd : x≠d := by
          rintro rfl
          exact hnot p cp hp hl
        exact hother (h.loadedMapped p cp x hp hl) hxd
      · intro p cp x hp ht hl hv
        exact h.takenGone p cp x hp ht hl (hpend hv).2
      · intro x hx
        obtain rfl:=Option.some.inj hx
        refine ⟨cd,hcd,hdone,?_,hphase⟩
        rw [hcu]
        simp [setPending]
      · intro x hx
        obtain ⟨cx,hcx,hun,hrest⟩:=h.gone x hx
        exact ⟨cx,hcx,fun hv => hun (hpend hv).2,hrest⟩
      · intro x cx hcx hi
        by_cases hxd : x=d
        · exact .inr (.inr (.inl (by rw [hxd]; rfl)))
        · rcases h.left x cx hcx hi with hv | ht | hs | hcl
          · exact .inl (hother hv hxd)
          · exact .inr (.inl ht)
          · rw [hidle] at hs
            cases hs
          · exact .inr (.inr (.inr hcl))
    · cases hstep
      exact h.same rfl rfl hidle.symm rfl
  · cases hstep

theorem Tracked.sweepClose (h : Tracked w) (hstep : State.sweepClose w.state=some t) :
    Tracked ⟨t,fun d => w.closed d||closes w.state .sweepClose=some d,w.stolen⟩ := by
  unfold State.sweepClose at hstep
  split at hstep
  · rename_i u e hsweep
    cases hstep
    have htakes : w.state.sweep.takes=some e := by rw [hsweep]; rfl
    have hcloses : closes w.state .sweepClose=some e := by simp only [closes,hsweep]
    obtain ⟨ce,he,hdone,hun,-,hfr⟩:=h.swept e htakes
    have hfree : ¬ Taken w.state e := fun ht => (h.takenOpen e ht).1 htakes
    have hstate : w.state.closeDone e=w.state.setConn e {ce with done := true} := by
      simp [State.closeDone,he,hdone]
    rw [hcloses,hstate]
    refine h.closeDone he rfl rfl rfl ?_ hfr ?_ (fun d hs => by cases hs) ?_ ?_
    · intro v hv
      exact hun ((h.stored_of_mapped he hv).2.2 ▸ hv)
    · intro p cp hp hdel
      exact hfree ⟨p,cp,hp,by rw [hdel]; rfl⟩
    · intro d hd
      rw [htakes]
      simpa using hd
    · intro d hd
      rw [htakes] at hd
      exact .inl (by simpa using hd)
  · cases hstep

theorem onConn_some {s : State} {f : State → ConnID → Conn → Option State} (h : s.onConn c f=some t) :
    ∃ cc, s.conns c=some cc ∧ f s c cc=some t := bind_eq_some_iff.mp h

theorem Tracked.not_steals (h : Tracked w) {a : Action} (hex : Exclusive w.state a)
    (hstep : w.state.step a=some t) : steals w.state a=false := by
  unfold steals
  split
  · rfl
  · rename_i u c hrem
    cases hp : w.state.pending u with
    | none => rfl
    | some d =>
      have hd : d=c := by
        cases a <;> simp only [removes,reduceCtorEq] at hrem
        case pairDelete b =>
          obtain ⟨cc,hc,hr⟩:=bind_eq_some_iff.mp hrem
          split at hr
          · rename_i e hl
            cases hr
            exact Option.some.inj (hp.symm.trans (h.loadedMapped b cc c hc hl))
          · cases hr
        case timeoutDelete b =>
          obtain ⟨cc,hc,hr⟩:=map_eq_some_iff.mp hrem
          cases hr
          exact hex cc d hc hp
        case sweepDelete =>
          split at hrem
          · rename_i hs
            cases hrem
            exact (hex u c d hs hp).1
          · cases hrem
      simp [hd]

theorem Tracked.step {a : Action} {w' : Watched} (h : Tracked w) (hex : Exclusive w.state a) (hstep : w.step a=some w') :
    Tracked w' := by
  obtain ⟨t,ht,rfl⟩:=map_eq_some_iff.mp hstep
  rw [h.not_steals hex ht,Bool.or_false]
  have hopen (hcl : closes w.state a=none) (hkeep : Tracked ⟨t,w.closed,w.stolen⟩) :
      Tracked ⟨t,fun d => w.closed d||closes w.state a=some d,w.stolen⟩ := by
    simpa [hcl] using hkeep
  unfold State.step at ht
  rw [h.done,if_neg Bool.false_ne_true] at ht
  cases a with
  | tick _ | cancel | authorize _ _ _ | waitCheck | revokeForPeer _ =>
    cases ht
    exact hopen rfl (h.same rfl rfl rfl h.done.symm)
  | claim c u tr => exact hopen rfl (h.claim ht)
  | build c =>
    obtain ⟨cc,hc,ht⟩:=onConn_some ht
    exact hopen rfl (h.build hc ht)
  | loadOrStore c =>
    obtain ⟨cc,hc,ht⟩:=onConn_some ht
    exact hopen rfl (h.loadOrStore hc (fun e ce => hex cc e ce hc) ht)
  | pairDelete c =>
    obtain ⟨cc,hc,ht⟩:=onConn_some ht
    exact hopen rfl (h.pairDelete hc ht)
  | pairClose c =>
    obtain ⟨cc,hc,ht⟩:=onConn_some ht
    exact hopen rfl (h.pairClose hc ht)
  | doneSeen c =>
    obtain ⟨cc,hc,ht⟩:=onConn_some ht
    exact hopen rfl (h.doneSeen hc ht)
  | timeoutLoad c =>
    obtain ⟨cc,hc,ht⟩:=onConn_some ht
    exact hopen rfl (h.timeoutLoad hc hex ht)
  | timeoutDelete c =>
    obtain ⟨cc,hc,ht⟩:=onConn_some ht
    exact hopen rfl (h.timeoutDelete hc (fun d => hex cc d hc) ht)
  | timeoutRelease c =>
    obtain ⟨cc,hc,ht⟩:=onConn_some ht
    exact hopen rfl (h.timeoutRelease hc ht)
  | timeoutClose c =>
    obtain ⟨cc,hc,ht⟩:=onConn_some ht
    exact h.timeoutClose hc ht
  | sweepVisit u =>
    simp only [State.sweepVisit] at ht
    split at ht
    · rename_i hs _
      cases ht
      exact hopen rfl (h.same rfl rfl (by rw [hs]; rfl) rfl)
    · cases ht
  | sweepCheck =>
    simp only [State.sweepCheck] at ht
    split at ht
    · rename_i u pc hs
      split at ht
      · cases ht
        refine hopen rfl (h.same rfl rfl ?_ rfl)
        rw [hs]
        show (if _ then Sweep.stale u pc else .idle).takes=none
        split <;> rfl
      · cases ht
    · cases ht
  | sweepDelete => exact hopen rfl (h.sweepDelete hex ht)
  | sweepRelease =>
    simp only [State.sweepRelease] at ht
    split at ht
    · rename_i hs
      cases ht
      exact hopen rfl (h.same rfl rfl (by rw [hs]; rfl) rfl)
    · cases ht
  | sweepClose => exact h.sweepClose ht

theorem Tracked.outcome (h : Tracked w) : OneOutcome w := by
  have hjoined {e p : ConnID} (hp : Paired w.state e p) : ∃ cp, w.state.conns p=some cp ∧ cp.phase.takes=some e ∧
      ¬ cp.phase.idle := by
    obtain ⟨cp,k,hcp,hphase⟩:=hp
    exact ⟨cp,hcp,by rw [hphase]; rfl,by rw [hphase]; simp [Phase.idle]⟩
  -- the incoming connection of a pair is never taken itself
  have hcross {a b : ConnID} {cb : Conn} (hb : w.state.conns b=some cb) (hi : ¬ cb.phase.idle)
      (ha : Taken w.state b) : False := hi (h.idle_of_taken hb ha)
  refine ⟨h.done,h.own,?_,?_,?_⟩
  · intro e p e' p' c hp hp' hc hc'
    obtain ⟨cp,hcp,ht,hi⟩:=hjoined hp
    obtain ⟨cp',hcp',ht',hi'⟩:=hjoined hp'
    rcases hc with rfl | rfl
    · rcases hc' with rfl | rfl
      · exact ⟨rfl,h.oneTaker p cp p' cp' c hcp hcp' ht ht'⟩
      · exact absurd (h.idle_of_taken hcp' ⟨p,cp,hcp,ht⟩) hi'
    · rcases hc' with rfl | rfl
      · exact absurd (h.idle_of_taken hcp ⟨p',cp',hcp',ht'⟩) hi
      · rw [hcp] at hcp'
        cases hcp'
        rw [ht] at ht'
        cases ht'
        exact ⟨rfl,rfl⟩
  · intro e p hp
    obtain ⟨cp,hcp,ht,-⟩:=hjoined hp
    refine ⟨(h.takenOpen e ⟨p,cp,hcp,ht⟩).2,?_⟩
    by_contra hcl
    obtain ⟨cq,hq,-,hnone,-⟩:=h.gone p (by simpa using hcl)
    rw [hcp] at hq
    cases hq
    rw [ht] at hnone
    cases hnone
  · intro c cc hc hphase
    rcases h.left c cc hc (.inr hphase) with hu | hrest
    · have hs:=(h.stored_of_mapped hc hu).1
      rw [hphase] at hs
      simp [Phase.stored] at hs
    · exact hrest

/-- Between a look into `pending` and the removal that follows from it nobody else
removes that entry: then every connection has one outcome. -/
theorem one_outcome_when_exclusive (as : List Action) (w : Watched)
    (hok : Along Watched.step (fun w a => Exclusive w.state a) watchInit as)
    (hrun : exec Watched.step watchInit as=some w) : OneOutcome w :=
  (exec_invariant Tracked (fun _ _ _ h hex hs => h.step hex hs) watchInit_tracked hok hrun).outcome

def pairRun : List Action :=
  [.authorize "session" "alice" "office",.claim 1 "session" .tcp,.build 1,.loadOrStore 1,
    .claim 2 "session" .ws,.build 2,.loadOrStore 2,.pairDelete 2,.pairClose 2,.doneSeen 1]

theorem pairRun_one_outcome : ∃ w, exec Watched.step watchInit pairRun=some w ∧ Paired w.state 1 2 ∧ OneOutcome w := by
  have hend : (exec Watched.step watchInit pairRun).map (fun w => (w.state.conns 2).map Conn.phase) =
      some (some (.joined 1 .startMixedRelay)) := by decide
  have hok : Along Watched.step (fun w a => Exclusive w.state a) watchInit pairRun := by
    refine ⟨trivial,fun t ht => ?_⟩
    cases ht
    refine ⟨trivial,fun t ht => ?_⟩
    cases ht
    refine ⟨trivial,fun t ht => ?_⟩
    cases ht
    refine ⟨fun _ _ _ _ he => (by cases he),fun t ht => ?_⟩
    cases ht
    refine ⟨trivial,fun t ht => ?_⟩
    cases ht
    refine ⟨trivial,fun t ht => ?_⟩
    cases ht
    refine ⟨fun cc e ce hc he hce => ?_,fun t ht => along_of_forall (by simp [Exclusive]) t⟩
    cases hc
    cases he
    cases hce
    refine ⟨fun p cp hp hl => ?_,(by decide)⟩
    -- the five updates that made the map of connections
    rcases conns_cases hp with ⟨rfl,rfl⟩ | ⟨-,hp⟩
    · cases hl
    rcases conns_cases hp with ⟨rfl,rfl⟩ | ⟨-,hp⟩
    · cases hl
    rcases conns_cases hp with ⟨rfl,rfl⟩ | ⟨-,hp⟩
    · cases hl
    rcases conns_cases hp with ⟨rfl,rfl⟩ | ⟨-,hp⟩
    · cases hl
    rcases conns_cases hp with ⟨rfl,rfl⟩ | ⟨-,hp⟩
    · cases hl
    cases hp
  obtain ⟨w,hw,hph⟩:=map_eq_some_iff.mp hend
  obtain ⟨cc,hc,hph⟩:=map_eq_some_iff.mp hph
  exact ⟨w,hw,⟨cc,_,hc,hph⟩,one_outcome_when_exclusive pairRun w hok hw⟩

/-- The timer of connection 1 fires while connection 2 is about to look into the map:
each of the two removes the entry, and the second removal takes that of connection 3. -/
def crossedRun : List Action :=
  [.authorize "session" "alice" "office",.tick 5,.claim 1 "session" .tcp,.build 1,.loadOrStore 1,
    .claim 2 "session" .tcp,.build 2,.tick 30,.timeoutLoad 1,.loadOrStore 2,.pairDelete 2,
    .authorize "session" "alice" "office",.claim 3 "session" .tcp,.build 3,.loadOrStore 3,
    .timeoutDelete 1,.timeoutRelease 1,.timeoutClose 1,.pairClose 2]

theorem crossed_run_two_outcomes : ∃ w, exec Watched.step watchInit crossedRun=some w ∧ Paired w.state 1 2 ∧
    w.closed 1=true ∧ w.stolen=true ∧ ¬ OneOutcome w := by
  have hend : (exec Watched.step watchInit crossedRun).map (fun w => ((w.state.conns 2).map Conn.phase,w.closed 1,
      w.stolen))=some (some (.joined 1 .startRelay),true,true) := by decide
  obtain ⟨w,hw,hv⟩:=map_eq_some_iff.mp hend
  simp only [Prod.mk.injEq] at hv
  obtain ⟨hph,hclosed,hstolen⟩:=hv
  obtain ⟨cc,hc,hph⟩:=map_eq_some_iff.mp hph
  refine ⟨w,hw,⟨cc,_,hc,hph⟩,hclosed,hstolen,fun h => ?_⟩
  have hopen:=(h.notBoth 1 2 ⟨cc,_,hc,hph⟩).1
  rw [hclosed] at hopen
  cases hopen

end BetterDesk.Relay
