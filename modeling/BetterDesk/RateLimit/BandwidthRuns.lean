import BetterDesk.RateLimit.Bandwidth

/-! # What the relay forwards over a run (ratelimit/bandwidth.go) -/

namespace BetterDesk.RateLimit.Bandwidth
open Exec List

namespace Bucket
variable (b : Bucket)

def InRange : Prop := 0≤b.tokens ∧ b.tokens≤b.limit

def Fits (now : ℤ) : Prop := 0<now-b.lastFill →
  0≤refill b.limit (now-b.lastFill) ∧ b.tokens+refill b.limit (now-b.lastFill)<2^63

instance (now : ℤ) : Decidable (b.Fits now) := inferInstanceAs (Decidable (_ → _))

def earned (limit elapsed : ℤ) : ℚ := limit*elapsed/10^9

def room (now : ℤ) : ℚ := min (b.limit : ℚ) (b.tokens+earned b.limit (now-b.lastFill))

def NotAhead (now : ℤ) : Prop := 0<now-b.lastFill →
  ((min b.limit (b.tokens+refill b.limit (now-b.lastFill)) : ℤ) : ℚ)≤b.room now

instance (now : ℤ) : Decidable (b.NotAhead now) := inferInstanceAs (Decidable (_ → _))

variable {b}

variable {now : ℤ}

theorem fill_tokens (h : b.InRange) (hfit : b.Fits now) : (b.fill now).tokens =
    if 0<now-b.lastFill then min b.limit (b.tokens+refill b.limit (now-b.lastFill)) else b.tokens := by
  unfold fill
  split
  · rename_i hlater
    obtain ⟨hpos,hmax⟩:=hfit hlater
    have hlow:=h.1
    dsimp only
    rw [Int.bmod_eq_of_le (by omega) (by omega)]
  · rfl

theorem fill_limit (now : ℤ) : (b.fill now).limit=b.limit := by
  unfold fill
  split
  · rfl
  · rfl

theorem fill_lastFill (h : b.lastFill≤now) : (b.fill now).lastFill=now := by
  unfold fill
  split
  · rfl
  · omega

theorem InRange.fill (h : b.InRange) (hfit : b.Fits now) : (b.fill now).InRange := by
  unfold InRange at h ⊢
  rw [fill_tokens h hfit,fill_limit]
  split
  · rename_i hlater
    have hpos:=(hfit hlater).1
    omega
  · exact h

theorem InRange.take {n : ℤ} (h : b.InRange) (h0 : 0≤n) (hn : n≤b.tokens) : (b.take n).InRange := by
  unfold InRange Bucket.take at *
  dsimp only
  omega

theorem earned_nonneg {limit elapsed : ℤ} (hl : 0≤limit) (he : 0≤elapsed) : 0≤earned limit elapsed := by
  unfold earned
  have hl' : (0 : ℚ)≤limit := by exact_mod_cast hl
  have he' : (0 : ℚ)≤elapsed := by exact_mod_cast he
  positivity

theorem earned_add (limit a c : ℤ) : earned limit (a+c)=earned limit a+earned limit c := by
  unfold earned
  push_cast
  ring

theorem room_le (now : ℤ) : b.room now≤b.limit := min_le_left _ _

theorem room_nonneg (h : b.InRange) (hlast : b.lastFill≤now) : 0≤b.room now := by
  have hlow : (0 : ℚ)≤b.tokens := by exact_mod_cast h.1
  have hlimit : 0≤b.limit := h.1.trans h.2
  have hearned:=earned_nonneg hlimit (by omega : 0≤now-b.lastFill)
  unfold room
  rw [le_min_iff]
  constructor
  · exact_mod_cast hlimit
  · linarith

theorem room_later {later : ℤ} (hl : 0≤b.limit) (h : now≤later) :
    b.room later≤b.room now+earned b.limit (later-now) := by
  have hmore:=earned_nonneg hl (by omega : 0≤later-now)
  have hsplit : earned b.limit (later-b.lastFill) =
      earned b.limit (now-b.lastFill)+earned b.limit (later-now) := by
    rw [← earned_add]
    congr 1
    ring
  unfold room
  rw [hsplit]
  rcases min_choice (b.limit : ℚ) (b.tokens+earned b.limit (now-b.lastFill)) with hmin | hmin
  · rw [hmin]
    exact (min_le_left _ _).trans (by linarith)
  · rw [hmin]
    exact (min_le_right _ _).trans (by linarith)

theorem fill_le_room (h : b.InRange) (hfit : b.Fits now) (hahead : b.NotAhead now)
    (hlast : b.lastFill≤now) : ((b.fill now).tokens : ℚ)≤b.room now := by
  rw [fill_tokens h hfit]
  split
  · rename_i hlater
    exact hahead hlater
  · rename_i hsame
    have heq : now-b.lastFill=0 := by omega
    have htop : (b.tokens : ℚ)≤b.limit := by exact_mod_cast h.2
    unfold room earned
    rw [heq,le_min_iff]
    constructor
    · exact htop
    · simp

theorem room_of_filled (h : b.InRange) (hlast : b.lastFill=now) : b.room now=b.tokens := by
  have htop : (b.tokens : ℚ)≤b.limit := by exact_mod_cast h.2
  unfold room earned
  rw [hlast]
  simp [htop]

end Bucket

open Bucket

def Asks (own : Bucket) (now n : ℤ) : Prop := 0 < min n (own.fill now).tokens

instance (own : Bucket) (now n : ℤ) : Decidable (Asks own now n) := inferInstanceAs (Decidable (_<_))

/-- What `r` is when `allow` returns it. -/
structure Allowed (own global : Bucket) (now now' n : ℤ) (r : ℤ × Bucket × Bucket) : Prop where
  nonneg : 0≤r.1
  le : r.1≤n
  ownRange : r.2.1.InRange
  ownLimit : r.2.1.limit=own.limit
  limit : r.2.2.limit=global.limit
  range : r.2.2.InRange
  quiet : ¬ Asks own now n → r.1=0 ∧ r.2.2=global
  asked : Asks own now n → r.2.2.lastFill=now' ∧ r.2.2.tokens+r.1=(global.fill now').tokens

variable {global own : Bucket} {now now' n : ℤ}

theorem consumeGlobal_spec (h : global.InRange) (hfit : global.Fits now) (hn : 0≤n) :
    let r:=consumeGlobal global now n
    0≤r.1 ∧ r.1≤n ∧ r.2.limit=global.limit ∧ r.2.InRange ∧ r.2.lastFill=(global.fill now).lastFill ∧
      r.2.tokens+r.1=(global.fill now).tokens := by
  have hrange:=h.fill hfit
  unfold consumeGlobal
  dsimp only
  split
  · split
    · exact ⟨le_rfl,hn,fill_limit now,hrange,rfl,Int.add_zero _⟩
    · rename_i hless hsome
      refine ⟨by omega,by omega,fill_limit now,hrange.take (by omega) le_rfl,rfl,?_⟩
      unfold Bucket.take
      dsimp only
      omega
  · rename_i hmore
    refine ⟨hn,le_rfl,fill_limit now,hrange.take hn (by omega),rfl,?_⟩
    unfold Bucket.take
    dsimp only
    omega

theorem allow_allowed (hown : own.InRange) (hofit : own.Fits now)
    (h : global.InRange) (hfit : global.Fits now') (hlast : global.lastFill≤now') (hn : 0≤n) :
    Allowed own global now now' n (allow own global now now' n) := by
  have hrange:=hown.fill hofit
  unfold allow
  dsimp only
  split
  · rename_i hnone
    exact {
      nonneg := le_rfl
      le := hn
      ownRange := hrange
      ownLimit := fill_limit now
      limit := rfl
      range := h
      quiet := fun _ => ⟨rfl,rfl⟩
      asked := fun hasks => absurd hasks (not_lt.mpr hnone)}
  · rename_i hsome
    have hasks : Asks own now n := not_le.mp hsome
    obtain ⟨hpos,hle,hlimit,hglobal,hfilled,hsum⟩ :=
      consumeGlobal_spec h hfit (by omega : 0 ≤ min n (own.fill now).tokens)
    split
    · rename_i hzero
      exact {
        nonneg := le_rfl
        le := hn
        ownRange := hrange
        ownLimit := fill_limit now
        limit := hlimit
        range := hglobal
        quiet := fun hno => absurd hasks hno
        asked := fun _ => ⟨hfilled.trans (fill_lastFill hlast),by dsimp only; omega⟩}
    · exact {
        nonneg := hpos
        le := hle.trans (min_le_left _ _)
        ownRange := hrange.take hpos (hle.trans (min_le_right _ _))
        ownLimit := fill_limit now
        limit := hlimit
        range := hglobal
        quiet := fun hno => absurd hasks hno
        asked := fun _ => ⟨hfilled.trans (fill_lastFill hlast),hsum⟩}

theorem Allowed.room {r : ℤ × Bucket × Bucket}
    (hr : Allowed own global now now' n r) (h : global.InRange) (hfit : global.Fits now')
    (hahead : global.NotAhead now') (hlast : global.lastFill≤now') : r.2.2.room now'+r.1≤global.room now' := by
  by_cases hasks : Asks own now n
  · obtain ⟨hfilled,hsum⟩:=hr.asked hasks
    rw [room_of_filled hr.range hfilled]
    calc (r.2.2.tokens : ℚ)+r.1=((global.fill now').tokens : ℚ) := by exact_mod_cast hsum
      _≤global.room now' := fill_le_room h hfit hahead hlast
  · obtain ⟨hzero,hsame⟩:=hr.quiet hasks
    rw [hzero,hsame]
    simp

theorem Allowed.lastFill_le {r : ℤ × Bucket × Bucket}
    (hr : Allowed own global now now' n r) (hlast : global.lastFill≤now') : r.2.2.lastFill≤now' := by
  by_cases hasks : Asks own now n
  · exact (hr.asked hasks).1.le
  · rw [(hr.quiet hasks).2]
    exact hlast

namespace Relay
variable (s : Relay)

/-- The bucket that an event uses besides the shared one, its clock readings, and the bytes asked for. -/
def call : Event → Option (Bucket × ℤ × ℤ × ℤ)
  | .read d delay delay' _ => s.directions[d]?.bind fun dir =>
      if dir.transport=.tcp then some (dir.reader,s.clock+delay,s.clock+delay+delay',copyBuffer) else none
  | .charge d delay delay' => s.directions[d]?.map fun dir =>
      (dir.writer,s.clock+delay,s.clock+delay+delay',(dir.waiting.length : ℤ))
  | _ => none

def Fits (e : Event) : Prop := match s.call e with
  | some (own,now,now',_) => own.Fits now ∧ s.global.Fits now' ∧ s.global.NotAhead now'
  | none => True

instance (e : Event) : Decidable (s.Fits e) := by
  unfold Fits
  split
  · infer_instance
  · infer_instance

def IsOwn (b : Bucket) : Prop := b.InRange ∧ b.limit=s.sessionLimit

structure Valid (total session : ℤ) : Prop where
  limit : s.global.limit=total
  range : s.global.InRange
  lastFill : s.global.lastFill ≤ s.clock
  sessionLimit : s.sessionLimit=session
  session_nonneg : 0 ≤ session
  own : ∀ dir∈s.directions,s.IsOwn dir.reader ∧ s.IsOwn dir.writer

variable {s} {t : Relay} {total session : ℤ}

theorem valid_start {total sessionLimit : ℤ} (h : 0≤total) (hs : 0 ≤ sessionLimit) :
    (start total sessionLimit).Valid total sessionLimit where
  limit := rfl
  range := ⟨h,le_rfl⟩
  lastFill := le_rfl
  sessionLimit := rfl
  session_nonneg := hs
  own := by simp [start]

def bytes (s : Relay) (part : Direction → List ℕ) : ℤ := (s.directions.map fun dir => ((part dir).length : ℤ)).sum

def held (s : Relay) : ℤ := s.bytes Direction.ready

def forwarded (s : Relay) : ℤ := s.bytes Direction.relayed

variable {dir : Direction} {es : List Event} {d : ℕ} {e : Event} {now' now : ℤ}

theorem sum_set (f : Direction → ℤ) {l : List Direction} (h : l[d]?=some dir)
    (dir' : Direction) : ((l.set d dir').map f).sum=(l.map f).sum-f dir+f dir' := by
  induction l generalizing d with
  | nil => cases h
  | cons x l ih =>
    cases d with
    | zero =>
      cases h
      simp only [set_cons_zero,map_cons,sum_cons]
      ring
    | succ d =>
      have hrest:=ih (by simpa using h)
      simp only [set_cons_succ,map_cons,sum_cons,hrest]
      ring

theorem through_set {dir' : Direction} {more : ℤ} (h : s.directions[d]?=some dir)
    (ht : t.directions=s.directions.set d dir')
    (hbytes : (dir'.ready.length+dir'.relayed.length : ℤ)≤dir.ready.length+dir.relayed.length+more) :
    t.held+t.forwarded ≤ s.held+s.forwarded+more := by
  unfold held forwarded bytes
  rw [ht,sum_set _ h,sum_set _ h]
  omega

theorem through_none {dir' : Direction} (h : s.directions[d]?=some dir) (ht : t.directions=s.directions.set d dir')
    (hbytes : (dir'.ready.length+dir'.relayed.length : ℤ)≤dir.ready.length+dir.relayed.length) :
    t.held+t.forwarded ≤ s.held+s.forwarded := by
  have hzero:=through_set h ht (hbytes.trans_eq (Int.add_zero _).symm)
  rwa [Int.add_zero] at hzero

inductive Change (s : Relay) (e : Event) (t : Relay) : Prop
  | call (own : Bucket) (now now' n : ℤ) (r : ℤ × Bucket × Bucket) (called : s.call e=some (own,now,now',n))
      (later : s.clock≤now') (allowed : Allowed own s.global now now' n r) (global : t.global=r.2.2)
      (clock : t.clock=now') (credited : t.credited=s.credited+(r.2.2.tokens+r.1-s.global.tokens))
      (through : t.held+t.forwarded ≤ s.held+s.forwarded+r.1)
  | quiet (called : s.call e=none) (later : s.clock≤t.clock) (global : t.global=s.global)
      (credited : t.credited=s.credited) (through : t.held+t.forwarded ≤ s.held+s.forwarded)

theorem readStep_some {n : ℕ} (h : s.readStep d dir now now' n=some t) :
    dir.waiting=[] ∧ dir.ready=[] ∧
    (dir.transport=.tcp ∧
      (let r:=allow dir.reader s.global now now' copyBuffer
       t=s.after r.1 r.2.2 now' d {dir with reader := r.2.1,waiting := List.replicate n 1}) ∨
      dir.transport ≠ .tcp ∧ t={s with
        clock := now',directions := s.directions.set d {dir with waiting := List.replicate n 0}}) := by
  unfold readStep at h
  split at h
  · cases h
  · rename_i hidle
    simp only [not_or,not_not] at hidle
    refine ⟨hidle.2.1,hidle.2.2,?_⟩
    split at h
    · rename_i htcp
      dsimp only at h
      split at h
      · cases h
        exact .inl ⟨htcp,rfl⟩
      · cases h
    · rename_i hother
      cases h
      exact .inr ⟨hother,rfl⟩

theorem chargeStep_some (h : s.chargeStep d dir now now'=some t) :
    (dir.transport=.tcp → dir.ready=[]) ∧
    let r:=allow dir.writer s.global now now' dir.waiting.length
    t=s.after r.1 r.2.2 now' d {dir with
      writer := r.2.1
      waiting := dir.waiting.drop r.1.toNat
      ready := dir.ready++(dir.waiting.take r.1.toNat).map (·+1)} := by
  unfold chargeStep at h
  split at h
  · cases h
  · rename_i hturn
    simp only [not_or,not_and,not_not] at hturn
    cases h
    exact ⟨hturn.2.2,rfl⟩

theorem writeStep_some {n : ℕ} (h : s.writeStep d dir n=some t) :
    n≤dir.ready.length ∧ t={s with
      directions := s.directions.set d {dir with
        ready := [],relayed := dir.relayed++dir.ready.take n,ended := n<dir.ready.length}} := by
  unfold writeStep at h
  split at h
  · cases h
  · rename_i hwrite
    simp only [not_or,not_lt] at hwrite
    cases h
    exact ⟨hwrite.2.2.1,rfl⟩

theorem forall_set {P : Direction → Prop} {l : List Direction} (h : ∀ x∈l,P x) (hd : P dir) :
    ∀ x∈l.set d dir, P x := by
  intro x hx
  rcases mem_or_eq_of_mem_set hx with hx | rfl
  · exact h x hx
  · exact hd

theorem valid_after {own : Bucket} {n : ℤ} {r : ℤ × Bucket × Bucket} (hv : s.Valid total session)
    (hr : Allowed own s.global now now' n r) (hlast : s.global.lastFill≤now')
    (hdir : s.IsOwn dir.reader ∧ s.IsOwn dir.writer) : (s.after r.1 r.2.2 now' d dir).Valid total session where
  limit := hr.limit.trans hv.limit
  range := hr.range
  lastFill := hr.lastFill_le hlast
  sessionLimit := hv.sessionLimit
  session_nonneg := hv.session_nonneg
  own := forall_set hv.own hdir

theorem step_change (hv : s.Valid total session) (hfit : s.Fits e) (h : s.step e=some t) :
    t.Valid total session ∧ Change s e t := by
  cases e with
  | openSession tr =>
    cases h
    have hnew : s.IsOwn (Bucket.new s.sessionLimit s.clock) := ⟨⟨hv.sessionLimit.symm ▸ hv.session_nonneg,le_rfl⟩,rfl⟩
    have hown : ∀ dir∈s.directions++[s.newDirection tr,s.newDirection tr], s.IsOwn dir.reader ∧ s.IsOwn dir.writer := by
      intro dir hdir
      rcases mem_append.mp hdir with hdir | hdir
      · exact hv.own dir hdir
      · simp only [mem_cons,not_mem_nil,or_false,or_self] at hdir
        rw [hdir]
        exact ⟨hnew,hnew⟩
    have hthrough : held {s with directions := s.directions++[s.newDirection tr,s.newDirection tr]} +
        forwarded {s with directions := s.directions++[s.newDirection tr,s.newDirection tr]} ≤
        s.held+s.forwarded := by simp [held,forwarded,bytes,newDirection]
    exact ⟨⟨hv.limit,hv.range,hv.lastFill,hv.sessionLimit,hv.session_nonneg,hown⟩,.quiet rfl le_rfl rfl rfl hthrough⟩
  | tick ns =>
    cases h
    have hlast:=hv.lastFill
    refine ⟨⟨hv.limit,hv.range,?_,hv.sessionLimit,hv.session_nonneg,hv.own⟩,.quiet rfl ?_ rfl rfl le_rfl⟩
    · dsimp only
      omega
    · dsimp only
      omega
  | read d delay delay' n =>
    obtain ⟨dir,hdir,h⟩:=Option.bind_eq_some_iff.mp h
    have hmem:=mem_of_getElem? hdir
    have hlast : s.global.lastFill ≤ s.clock+delay+delay' := by
      have := hv.lastFill
      omega
    obtain ⟨hwaiting,hready,⟨htcp,rfl⟩ | ⟨hother,rfl⟩⟩:=readStep_some h
    · have hcall : s.call (.read d delay delay' n) =
          some (dir.reader,s.clock+delay,s.clock+delay+delay',(copyBuffer : ℤ)) := by simp [call,hdir,htcp]
      simp only [Fits,hcall] at hfit
      have hr:=allow_allowed (hv.own dir hmem).1.1 hfit.1 hv.range hfit.2.1 hlast (Int.natCast_nonneg copyBuffer)
      have hpos:=hr.nonneg
      exact ⟨valid_after hv hr hlast ⟨⟨hr.ownRange,hr.ownLimit.trans (hv.own dir hmem).1.2⟩,(hv.own dir hmem).2⟩,
        .call _ _ _ _ _ hcall (by omega) hr rfl rfl rfl (through_set hdir rfl (by dsimp only; omega))⟩
    · have hcall : s.call (.read d delay delay' n)=none := by simp [call,hdir,hother]
      exact ⟨⟨hv.limit,hv.range,hlast,hv.sessionLimit,hv.session_nonneg,forall_set hv.own (hv.own dir hmem)⟩,
        .quiet hcall (by dsimp only; omega) rfl rfl (through_none hdir rfl le_rfl)⟩
  | charge d delay delay' =>
    obtain ⟨dir,hdir,h⟩:=Option.bind_eq_some_iff.mp h
    have hmem:=mem_of_getElem? hdir
    have hlast : s.global.lastFill ≤ s.clock+delay+delay' := by
      have := hv.lastFill
      omega
    obtain ⟨-,rfl⟩:=chargeStep_some h
    have hcall : s.call (.charge d delay delay') =
        some (dir.writer,s.clock+delay,s.clock+delay+delay',(dir.waiting.length : ℤ)) := by simp [call,hdir]
    simp only [Fits,hcall] at hfit
    have hr:=allow_allowed (hv.own dir hmem).2.1 hfit.1 hv.range hfit.2.1 hlast (Int.natCast_nonneg dir.waiting.length)
    have hpos:=hr.nonneg
    exact ⟨valid_after hv hr hlast ⟨(hv.own dir hmem).1,hr.ownRange,hr.ownLimit.trans (hv.own dir hmem).2.2⟩,
      .call _ _ _ _ _ hcall (by omega) hr rfl rfl rfl (through_set hdir rfl (by
        simp only [length_append,length_map,length_take]
        omega))⟩
  | write d n =>
    obtain ⟨dir,hdir,h⟩:=Option.bind_eq_some_iff.mp h
    obtain ⟨hn,rfl⟩:=writeStep_some h
    refine ⟨⟨hv.limit,hv.range,hv.lastFill,hv.sessionLimit,hv.session_nonneg,forall_set hv.own (hv.own dir (mem_of_getElem? hdir))⟩,
      .quiet rfl le_rfl rfl rfl (through_none hdir rfl ?_)⟩
    simp only [length_append,length_take,length_nil]
    omega

theorem step_room (hv : s.Valid total session) (hfit : s.Fits e) (h : s.step e=some t) :
    t.global.room t.clock+(t.held+t.forwarded : ℤ) ≤
      s.global.room s.clock+(s.held+s.forwarded : ℤ)+earned total (t.clock-s.clock) := by
  obtain ⟨hv',hchange⟩:=step_change hv hfit h
  have hlimit : 0 ≤ s.global.limit := hv.range.1.trans hv.range.2
  have hlater (later : ℤ) (hl : s.clock≤later) :
      s.global.room later ≤ s.global.room s.clock+earned total (later-s.clock) := by
    rw [← hv.limit]
    exact room_later hlimit hl
  cases hchange with
  | call own now now' n r called later allowed global clock credited through =>
    simp only [Fits,called] at hfit
    have hroom:=allowed.room hv.range hfit.2.1 hfit.2.2 (hv.lastFill.trans later)
    have htime:=hlater now' later
    have hbytes : ((t.held+t.forwarded : ℤ) : ℚ)≤(s.held+s.forwarded : ℤ)+r.1 := by exact_mod_cast through
    rw [global,clock]
    linarith
  | quiet called later global credited through =>
    have htime:=hlater t.clock later
    have hbytes : ((t.held+t.forwarded : ℤ) : ℚ)≤(s.held+s.forwarded : ℤ) := by exact_mod_cast through
    rw [global]
    linarith

theorem run_valid (hv : s.Valid total session) (hfit : Along step Fits s es) (h : exec step s es=some t) :
    t.Valid total session :=
  exec_invariant (Valid · total session) (fun _ _ _ hv hfit h => (step_change hv hfit h).1) hv hfit h

theorem run_room (hv : s.Valid total session) (hfit : Along step Fits s es) (h : exec step s es=some t) :
    t.global.room t.clock+(t.held+t.forwarded : ℤ) ≤
      s.global.room s.clock+(s.held+s.forwarded : ℤ)+earned total (t.clock-s.clock) := by
  induction es generalizing s with
  | nil =>
    cases h
    simp [earned]
  | cons e es ih =>
    obtain ⟨u,hu,ht⟩:=exec_cons_some h
    have hstep:=step_room hv hfit.1 hu
    have hrest:=ih (step_change hv hfit.1 hu).1 (hfit.2 u hu) ht
    have htime : earned total (t.clock-s.clock)=earned total (u.clock-s.clock)+earned total (t.clock-u.clock) := by
      rw [← earned_add]
      congr 1
      ring
    rw [htime]
    linarith

theorem run_forwarded (hv : s.Valid total session) (hfit : Along step Fits s es) (h : exec step s es=some t) :
    ((t.forwarded-s.forwarded : ℤ) : ℚ) ≤ s.held+total+earned total (t.clock-s.clock) := by
  have hrun:=run_room hv hfit h
  have hv':=run_valid hv hfit h
  have hroom:=room_nonneg hv'.range hv'.lastFill
  have htop : s.global.room s.clock≤total := by
    rw [← hv.limit]
    exact room_le _
  have hheld : (0 : ℚ)≤t.held := by
    have hint : 0≤t.held := sum_nonneg fun x hx => by
      obtain ⟨dir,-,rfl⟩:=mem_map.mp hx
      exact Int.natCast_nonneg _
    exact_mod_cast hint
  push_cast at hrun ⊢
  linarith

def fillsAt (s : Relay) (e : Event) : Option ℤ := (s.call e).bind fun (own,now,now',n) =>
  if Asks own now n ∧ 0<now'-s.global.lastFill then some now' else none

def NotFull (s : Relay) (e : Event) : Prop := ∀ now'∈s.fillsAt e,
  s.global.tokens+refill s.global.limit (now'-s.global.lastFill) ≤ s.global.limit

instance (s : Relay) (e : Event) : Decidable (s.NotFull e) := inferInstanceAs (Decidable (∀ now'∈s.fillsAt e, _))

def cutOff (s : Relay) (e : Event) : ℚ := match s.fillsAt e with
  | some now' => earned s.global.limit (now'-s.global.lastFill)-refill s.global.limit (now'-s.global.lastFill)
  | none => 0

def cutOffs : Relay → List Event → ℚ
  | _, [] => 0
  | s, e::es => s.cutOff e+((s.step e).map fun t => cutOffs t es).getD 0

theorem step_credited (hv : s.Valid total session) (hfit : s.Fits e) (hfull : s.NotFull e) (h : s.step e=some t) :
    ((t.credited-s.credited : ℤ) : ℚ)=earned total (t.global.lastFill-s.global.lastFill)-s.cutOff e := by
  obtain ⟨-,hchange⟩:=step_change hv hfit h
  cases hchange with
  | call own now now' n r called later allowed global clock credited through =>
    simp only [Fits,called] at hfit
    have hlast:=hv.lastFill.trans later
    rw [credited,global]
    by_cases hasks : Asks own now n
    · obtain ⟨hfilled,hsum⟩:=allowed.asked hasks
      rw [hsum,hfilled,fill_tokens hv.range hfit.2.1]
      by_cases hlater : 0<now'-s.global.lastFill
      · have hfills : s.fillsAt e=some now' := by
          simp only [fillsAt,called,Option.bind_some,if_pos (And.intro hasks hlater)]
        have hroom:=hfull now' hfills
        rw [if_pos hlater,min_eq_right hroom,cutOff,hfills,← hv.limit]
        push_cast
        ring
      · have hfills : s.fillsAt e=none := by
          simp only [fillsAt,called,Option.bind_some,if_neg fun hboth : _ ∧ _ => hlater hboth.2]
        have hzero : now'-s.global.lastFill=0 := by omega
        rw [if_neg hlater,cutOff,hfills,hzero]
        simp [earned]
    · obtain ⟨hzero,hsame⟩:=allowed.quiet hasks
      have hfills : s.fillsAt e=none := by simp [fillsAt,called,hasks]
      rw [hzero,hsame,cutOff,hfills]
      simp [earned]
  | quiet called later global credited through =>
    have hfills : s.fillsAt e=none := by simp [fillsAt,called]
    rw [credited,global,cutOff,hfills]
    simp [earned]

theorem run_credited (hv : s.Valid total session) (hfit : Along step Fits s es) (hfull : Along step NotFull s es)
    (h : exec step s es=some t) :
    ((t.credited-s.credited : ℤ) : ℚ)=earned total (t.global.lastFill-s.global.lastFill)-s.cutOffs es := by
  induction es generalizing s with
  | nil =>
    cases h
    simp [earned,cutOffs]
  | cons e es ih =>
    obtain ⟨u,hu,ht⟩:=exec_cons_some h
    have hstep:=step_credited hv hfit.1 hfull.1 hu
    have hrest:=ih (step_change hv hfit.1 hu).1 (hfit.2 u hu) (hfull.2 u hu) ht
    have htime : earned total (t.global.lastFill-s.global.lastFill) =
        earned total (u.global.lastFill-s.global.lastFill)+earned total (t.global.lastFill-u.global.lastFill) := by
      rw [← earned_add]
      congr 1
      ring
    have hcut : s.cutOffs (e::es)=s.cutOff e+u.cutOffs es := by simp [cutOffs,hu]
    rw [htime,hcut]
    push_cast at hstep hrest ⊢
    linarith

def ChargedOnce (s : Relay) : Prop := ∀ dir∈s.directions, ∀ c∈dir.relayed,c=1

instance (s : Relay) : Decidable s.ChargedOnce := inferInstanceAs (Decidable (∀ dir∈s.directions, ∀ c∈dir.relayed,c=1))

def readCharges : Transport → ℕ
  | .tcp => 1
  | _ => 0

structure Counted (dir : Direction) : Prop where
  waiting : ∀ c∈dir.waiting,c=readCharges dir.transport
  ready : ∀ c∈dir.ready,c=readCharges dir.transport+1
  relayed : ∀ c∈dir.relayed,c=readCharges dir.transport+1

theorem counted_step (hc : ∀ dir∈s.directions,Counted dir) (h : s.step e=some t) :
    ∀ dir∈t.directions,Counted dir := by
  cases e with
  | openSession tr =>
    cases h
    intro dir hdir
    rcases mem_append.mp hdir with hdir | hdir
    · exact hc dir hdir
    · simp only [mem_cons,not_mem_nil,or_false,or_self] at hdir
      rw [hdir]
      exact ⟨by simp [newDirection],by simp [newDirection],by simp [newDirection]⟩
  | tick ns =>
    cases h
    exact hc
  | read d delay delay' n =>
    obtain ⟨dir,hdir,h⟩:=Option.bind_eq_some_iff.mp h
    have hold:=hc dir (mem_of_getElem? hdir)
    obtain ⟨-,-,⟨htcp,rfl⟩ | ⟨hother,rfl⟩⟩:=readStep_some h
    · apply forall_set hc
      refine ⟨fun c hmem => ?_,hold.ready,hold.relayed⟩
      rw [eq_of_mem_replicate hmem]
      dsimp only
      rw [htcp]
      rfl
    · apply forall_set hc
      refine ⟨fun c hmem => ?_,hold.ready,hold.relayed⟩
      rw [eq_of_mem_replicate hmem]
      dsimp only
      cases htr : dir.transport with
      | tcp => exact absurd htr hother
      | ws => rfl
      | mixed => rfl
  | charge d delay delay' =>
    obtain ⟨dir,hdir,h⟩:=Option.bind_eq_some_iff.mp h
    have hold:=hc dir (mem_of_getElem? hdir)
    obtain ⟨-,rfl⟩:=chargeStep_some h
    apply forall_set hc
    refine ⟨fun c hmem => hold.waiting c (mem_of_mem_drop hmem),fun c hmem => ?_,hold.relayed⟩
    rcases mem_append.mp hmem with hmem | hmem
    · exact hold.ready c hmem
    · obtain ⟨c',hc',rfl⟩:=mem_map.mp hmem
      rw [hold.waiting c' (mem_of_mem_take hc')]
  | write d n =>
    obtain ⟨dir,hdir,h⟩:=Option.bind_eq_some_iff.mp h
    have hold:=hc dir (mem_of_getElem? hdir)
    obtain ⟨-,rfl⟩:=writeStep_some h
    apply forall_set hc
    refine ⟨hold.waiting,by simp,fun c hmem => ?_⟩
    rcases mem_append.mp hmem with hmem | hmem
    · exact hold.relayed c hmem
    · exact hold.ready c (mem_of_mem_take hmem)

def NativeWrite (s : Relay) : Event → Prop
  | .write d n => 0<n ∧ (s.step (.write d n)).isSome ∧ ∃ dir∈s.directions[d]?, dir.transport=.tcp
  | _ => False

instance (s : Relay) : (e : Event) → Decidable (s.NativeWrite e)
  | .write _ _ => inferInstanceAs (Decidable (_ ∧ _ ∧ ∃ dir∈_,_))
  | .openSession _ | .tick _ | .read .. | .charge .. => isFalse id

theorem chargedOnce_step (hc : ∀ dir∈s.directions,Counted dir) (hs : s.ChargedOnce) :
    (∀ t, s.step e=some t → t.ChargedOnce) ↔ ¬ s.NativeWrite e := by
  cases e with
  | openSession tr =>
    refine iff_of_true (fun t h => ?_) id
    cases h
    intro dir hdir
    rcases mem_append.mp hdir with hdir | hdir
    · exact hs dir hdir
    · simp only [mem_cons,not_mem_nil,or_false,or_self] at hdir
      rw [hdir]
      simp [newDirection]
  | tick ns =>
    refine iff_of_true (fun t h => ?_) id
    cases h
    exact hs
  | read d delay delay' n =>
    refine iff_of_true (fun t h => ?_) id
    obtain ⟨dir,hdir,h⟩:=Option.bind_eq_some_iff.mp h
    have hold:=hs dir (mem_of_getElem? hdir)
    obtain ⟨-,-,⟨-,rfl⟩ | ⟨-,rfl⟩⟩:=readStep_some h
    · exact forall_set hs hold
    · exact forall_set hs hold
  | charge d delay delay' =>
    refine iff_of_true (fun t h => ?_) id
    obtain ⟨dir,hdir,h⟩:=Option.bind_eq_some_iff.mp h
    obtain ⟨-,rfl⟩:=chargeStep_some h
    exact forall_set hs (hs dir (mem_of_getElem? hdir))
  | write d n =>
    constructor
    · rintro hall ⟨hpos,hsome,dir,hdir,htcp⟩
      obtain ⟨t,ht⟩:=Option.isSome_iff_exists.mp hsome
      have honce:=hall t ht
      obtain ⟨dir',hdir',h⟩:=Option.bind_eq_some_iff.mp ht
      have hsame : dir'=dir := Option.some.inj (hdir'.symm.trans hdir)
      rw [hsame] at h
      obtain ⟨hn,rfl⟩:=writeStep_some h
      obtain ⟨c,hcmem⟩ : ∃ c, c∈dir.ready.take n := by
        apply exists_mem_of_length_pos
        rw [length_take]
        omega
      have hlt : d < s.directions.length := (List.getElem?_eq_some_iff.mp hdir).1
      have hone:=honce _ (mem_set hlt _) c (mem_append_right _ hcmem)
      have htwo:=(hc dir (mem_of_getElem? hdir)).ready c (mem_of_mem_take hcmem)
      rw [htcp,hone] at htwo
      cases htwo
    · intro hno t ht
      have hsome : (s.step (.write d n)).isSome := by rw [ht]; rfl
      obtain ⟨dir,hdir,h⟩:=Option.bind_eq_some_iff.mp ht
      obtain ⟨-,rfl⟩:=writeStep_some h
      have hcount:=hc dir (mem_of_getElem? hdir)
      apply forall_set hs
      intro c hmem
      rcases mem_append.mp hmem with hmem | hmem
      · exact hs dir (mem_of_getElem? hdir) c hmem
      · have hready:=hcount.ready c (mem_of_mem_take hmem)
        cases htr : dir.transport with
        | tcp =>
          have hzero : n=0 := by
            by_contra hne
            exact hno ⟨Nat.pos_of_ne_zero hne,hsome,dir,hdir,htr⟩
          rw [hzero] at hmem
          cases hmem
        | ws | mixed =>
          rw [hready,htr]
          rfl

theorem chargedOnce_iff (total sessionLimit : ℤ) (es : List Event) :
    (∀ pre, pre <+: es → ∀ t, exec step (start total sessionLimit) pre=some t → t.ChargedOnce) ↔
      Along step (fun s e => ¬ s.NativeWrite e) (start total sessionLimit) es := by
  have h0 : (start total sessionLimit).ChargedOnce := by simp [ChargedOnce,start]
  have hc0 : ∀ dir∈(start total sessionLimit).directions, Counted dir := by simp [start]
  rw [along_reached_iff h0]
  exact along_iff_of_keep (fun s => (∀ dir∈s.directions,Counted dir) ∧ s.ChargedOnce)
    (fun s e t hi hok ht => ⟨counted_step hi.1 ht,hok t ht⟩) (fun s e hi => chargedOnce_step hi.1 hi.2) ⟨hc0,h0⟩

/-- In every run without an overflow or a rounding up: each relayed byte was charged once exactly when
no native relay wrote any; the buckets stay in range; the bytes written in an interval are those let
through before it, a bucket and what was earned in it at most; and while the bucket has room, the
credit falls behind by a token at most exactly when the parts cut off add up to no more. -/
theorem accounting {total sessionLimit : ℤ} (h : 0≤total) (hs : 0 ≤ sessionLimit) (es : List Event)
    (hfit : Along step Fits (start total sessionLimit) es) :
    ((∀ pre, pre <+: es → ∀ t, exec step (start total sessionLimit) pre=some t → t.ChargedOnce) ↔
      Along step (fun s e => ¬ s.NativeWrite e) (start total sessionLimit) es) ∧
    ∀ pre seg s t, pre++seg <+: es → exec step (start total sessionLimit) pre=some s → exec step s seg=some t →
      (t.global.InRange ∧ t.global.limit=total ∧ ∀ dir∈t.directions,dir.reader.InRange ∧ dir.writer.InRange) ∧
      ((t.forwarded-s.forwarded : ℤ) : ℚ) ≤ s.held+(total+earned total (t.clock-s.clock)) ∧
      (Along step NotFull s seg →
        (earned total (t.global.lastFill-s.global.lastFill)-1≤((t.credited-s.credited : ℤ) : ℚ) ↔
          s.cutOffs seg≤1)) := by
  refine ⟨chargedOnce_iff total sessionLimit es,fun pre seg s t hpre hs' ht => ?_⟩
  obtain ⟨rest,rfl⟩:=hpre
  have hv0:=valid_start h hs
  have hboth:=hfit.before
  have hv:=run_valid hv0 hboth.before hs'
  have hseg:=hboth.after hs'
  have hvt:=run_valid hv hseg ht
  refine ⟨⟨hvt.range,hvt.limit,fun dir hdir => ?_⟩,?_,fun hfull => ?_⟩
  · exact ⟨(hvt.own dir hdir).1.1,(hvt.own dir hdir).2.1⟩
  · have hbytes:=run_forwarded hv hseg ht
    linarith
  · have hcredit:=run_credited hv hseg hfull ht
    constructor
    · intro hless
      linarith
    · intro hcut
      linarith

end Relay

end BetterDesk.RateLimit.Bandwidth
