import BetterDesk.Lib.CivilTime

/-! # Month boundaries in a location (billing/period.go, billing/period_service.go) -/

namespace BetterDesk.Billing.MonthCrossing
open CivilTime

variable (loc : Location)

def periodYMAt (t : ℤ) : ℤ := monthShown (loc.clock t)

/-- `time.Time.AddDate(0, months, 0)`. -/
def addDate (t months : ℤ) : ℤ := loc.date (addMonths (loc.clock t) months)

/-- The first instant of a month and that of the next one; a year before 1970 is an error. -/
def monthBounds (period : ℤ) : Option (ℤ × ℤ) :=
  if period/12<1970 then none
  else
    let start:=loc.date (midnight period)
    some (start,addDate loc start 1)

def crossesMonthBoundary (start stop : ℤ) : Bool := periodYMAt loc start≠periodYMAt loc stop

def splitAtMonthBoundary (start stop : ℤ) : Option ℤ :=
  if !crossesMonthBoundary loc start stop then none
  else match monthBounds loc (periodYMAt loc start) with
    | none => none
    | some (_,boundary) => if ¬ boundary < stop then none else some boundary

/-- The loop of `settleCrossingMonth`, as far as it decides about its next round: where the segment
that is left starts. -/
def settleCrossingMonth (now : ℤ) : ℕ → ℤ → Option ℤ
  | 0, _ => none
  | fuel+1, startedAt => match splitAtMonthBoundary loc startedAt now with
    | none => some startedAt
    | some boundary => settleCrossingMonth now fuel boundary

inductive Reaches (now start : ℤ) : ℤ → Prop
  | start : Reaches now start start
  | next {s boundary : ℤ} : Reaches now start s → splitAtMonthBoundary loc s now=some boundary → Reaches now start boundary

/-- The loop ends, and every boundary is after the segment's start and in the next period. -/
structure Progresses (start now : ℤ) : Prop where
  ends : ∃ fuel, (settleCrossingMonth loc now fuel start).isSome=true
  advances : ∀ s boundary, Reaches loc now start s → splitAtMonthBoundary loc s now=some boundary →
    s<boundary ∧ periodYMAt loc boundary=periodYMAt loc s+1

def monthEnd (period : ℤ) : ℤ := addDate loc (loc.date (midnight period)) 1

/-- A month that a session at `start` is split after. -/
def Splits (period now : ℤ) : Prop := period≠periodYMAt loc now ∧ 1970≤period/12 ∧ monthEnd loc period<now

/-- One month after the wall clock time that is found for the first midnight of the month (that
midnight, unless a gap swallows it), the wall clock is found in the next month. -/
def Opens (period : ℤ) : Prop :=
  midnight (period+1)≤loc.resolved (addMonths (loc.resolved (midnight period)) 1)

variable {loc} {start now s : ℤ}

variable {period boundary : ℤ}

theorem splitAtMonthBoundary_eq_some_iff : splitAtMonthBoundary loc s now=some boundary ↔
      Splits loc (periodYMAt loc s) now ∧ boundary=monthEnd loc (periodYMAt loc s) := by
  unfold splitAtMonthBoundary crossesMonthBoundary monthBounds Splits monthEnd
  by_cases hsame : periodYMAt loc s=periodYMAt loc now
  · simp [hsame]
  · by_cases hyear : periodYMAt loc s/12<1970
    · simp [hyear]
    · simp only [hsame,hyear,ne_eq,not_false_eq_true,decide_true,Bool.not_true,Bool.false_eq_true,if_false,
        not_lt,true_and]
      constructor
      · intro h
        split at h
        · cases h
        · cases h
          exact ⟨⟨by omega,by omega⟩,rfl⟩
      · rintro ⟨⟨-,hlt⟩,rfl⟩
        rw [if_neg (by omega)]

theorem clock_monthEnd (period : ℤ) : midnight period≤loc.clock (monthEnd loc period) ∧
      loc.clock (monthEnd loc period) ≤ midnight (period+1)+6*nsPerDay := by
  obtain ⟨x,hx⟩ : ∃ x, x=loc.resolved (midnight period) := ⟨_,rfl⟩
  have hnear:=loc.resolved_near (midnight period)
  have hresolved:=loc.resolved_near (addMonths x 1)
  have hend : loc.clock (monthEnd loc period)=loc.resolved (addMonths x 1) := by
    rw [hx]
    rfl
  have hnext:=midnight_next period
  have hprev:=midnight_next (period-1)
  rw [show period-1+1=period by omega] at hprev
  rw [← hx] at hnear
  rw [hend]
  unfold addMonths at hresolved ⊢
  by_cases hback : x < midnight period
  · -- the first midnight is found the evening before it
    have hmonth : monthShown x=period-1 := by
      rw [monthShown_eq_iff,show period-1+1=period by omega]
      unfold nsPerDay nsPerHour at *
      omega
    rw [hmonth,show period-1+1=period by omega] at hresolved ⊢
    unfold nsPerDay nsPerHour at *
    omega
  · have hmonth : monthShown x=period := by
      rw [monthShown_eq_iff]
      unfold nsPerDay nsPerHour at *
      omega
    rw [hmonth] at hresolved ⊢
    unfold nsPerDay nsPerHour at *
    omega

instance (period : ℤ) : Decidable (Opens loc period) := inferInstanceAs (Decidable (_≤_))

theorem periodYMAt_monthEnd (period : ℤ) :
    periodYMAt loc (monthEnd loc period) = if Opens loc period then period+1 else period := by
  have hclock := @clock_monthEnd loc period
  have hopens : Opens loc period ↔ midnight (period+1)≤loc.clock (monthEnd loc period) := Iff.rfl
  have hnext:=midnight_next (period+1)
  unfold periodYMAt
  split
  · rename_i h
    rw [monthShown_eq_iff]
    rw [hopens] at h
    unfold nsPerDay nsPerHour at *
    omega
  · rename_i h
    rw [monthShown_eq_iff]
    rw [hopens] at h
    omega

theorem monthEnd_lt_next (h : Opens loc (period+1)) : monthEnd loc period < monthEnd loc (period+1) := by
  have hclock := @clock_monthEnd loc period
  have hopens : midnight (period+1+1)≤loc.clock (monthEnd loc (period+1)) := h
  have hnext:=midnight_next (period+1)
  apply loc.lt_of_clock_lt
  unfold nsPerDay nsPerHour at *
  omega

/-- A month that the loop splits after: so were all the months from the session's first one on. -/
def Crossed (loc : Location) (start now period : ℤ) : Prop :=
  periodYMAt loc start≤period ∧ ∀ k, periodYMAt loc start≤k → k≤period → Splits loc k now

theorem crossed_first (h : Splits loc (periodYMAt loc start) now) : Crossed loc start now (periodYMAt loc start) :=
  ⟨Int.le_refl _,fun k hlo hhi => by rwa [show k=periodYMAt loc start by omega]⟩

theorem crossed_next (h : Crossed loc start now period) (hnext : Splits loc (period+1) now) :
    Crossed loc start now (period+1) := by
  have hfirst:=h.1
  refine ⟨by omega,fun k hlo hhi => ?_⟩
  by_cases hk : k≤period
  · exact h.2 k hlo hk
  · rwa [show k=period+1 by omega]

structure CrossesWell (loc : Location) (start now : ℤ) : Prop where
  opens : ∀ period, Crossed loc start now period → Opens loc period
  early : Splits loc (periodYMAt loc start) now → start < monthEnd loc (periodYMAt loc start)

inductive At (loc : Location) (start now : ℤ) : ℤ → Prop
  | start : At loc start now start
  | boundary {period : ℤ} : Crossed loc start now period → At loc start now (monthEnd loc period)

theorem reaches_crossed (hp : Progresses loc start now) (n : ℕ) (h : Crossed loc start now (periodYMAt loc start+n)) :
    ∃ s, Reaches loc now start s ∧ periodYMAt loc s=periodYMAt loc start+n := by
  induction n with
  | zero => exact ⟨start,.start,by simp⟩
  | succ n ih =>
    have hprev : Crossed loc start now (periodYMAt loc start+n) :=
      ⟨by omega,fun k hlo hhi => h.2 k hlo (by push_cast; omega)⟩
    obtain ⟨s,hs,hperiod⟩:=ih hprev
    have hsplit : splitAtMonthBoundary loc s now=some (monthEnd loc (periodYMAt loc s)) := by
      rw [splitAtMonthBoundary_eq_some_iff,hperiod]
      exact ⟨hprev.2 _ hprev.1 (Int.le_refl _),rfl⟩
    refine ⟨_,.next hs hsplit,?_⟩
    rw [(hp.advances s _ hs hsplit).2,hperiod]
    push_cast
    omega

theorem opens_of_progresses (hp : Progresses loc start now) (h : Crossed loc start now period) : Opens loc period := by
  obtain ⟨n,rfl⟩ : ∃ n : ℕ, period=periodYMAt loc start+n := ⟨(period-periodYMAt loc start).toNat,by have := h.1; omega⟩
  obtain ⟨s,hs,hperiod⟩:=reaches_crossed hp n h
  have hsplit : splitAtMonthBoundary loc s now=some (monthEnd loc (periodYMAt loc s)) := by
    rw [splitAtMonthBoundary_eq_some_iff,hperiod]
    exact ⟨h.2 _ h.1 (Int.le_refl _),rfl⟩
  have hnext:=(hp.advances s _ hs hsplit).2
  rw [periodYMAt_monthEnd,hperiod] at hnext
  by_contra hno
  rw [if_neg hno] at hnext
  omega

theorem at_of_reaches (hw : CrossesWell loc start now) (h : Reaches loc now start s) : At loc start now s := by
  induction h with
  | start => exact .start
  | next hs hsplit ih =>
    obtain ⟨hsplits,rfl⟩:=splitAtMonthBoundary_eq_some_iff.mp hsplit
    refine .boundary ?_
    cases ih with
    | start => exact crossed_first hsplits
    | @boundary period hcrossed =>
      rw [periodYMAt_monthEnd,if_pos (hw.opens period hcrossed)] at hsplits ⊢
      exact crossed_next hcrossed hsplits

theorem advances_of_crossesWell (hw : CrossesWell loc start now) (h : Reaches loc now start s)
    (hsplit : splitAtMonthBoundary loc s now=some boundary) :
    s<boundary ∧ periodYMAt loc boundary=periodYMAt loc s+1 := by
  have hat:=at_of_reaches hw h
  obtain ⟨hsplits,rfl⟩:=splitAtMonthBoundary_eq_some_iff.mp hsplit
  cases hat with
  | start =>
    refine ⟨hw.early hsplits,?_⟩
    rw [periodYMAt_monthEnd,if_pos (hw.opens _ (crossed_first hsplits))]
  | @boundary period hcrossed =>
    have hperiod : periodYMAt loc (monthEnd loc period)=period+1 := by
      rw [periodYMAt_monthEnd,if_pos (hw.opens period hcrossed)]
    rw [hperiod] at hsplits ⊢
    have hopens:=hw.opens _ (crossed_next hcrossed hsplits)
    refine ⟨monthEnd_lt_next hopens,?_⟩
    rw [periodYMAt_monthEnd,if_pos hopens]

theorem settleCrossingMonth_succ (fuel : ℕ) :
    settleCrossingMonth loc now (fuel+1) s = match splitAtMonthBoundary loc s now with
      | none => some s
      | some boundary => settleCrossingMonth loc now fuel boundary := by
  rfl

theorem settleCrossingMonth_none (fuel : ℕ) (h : splitAtMonthBoundary loc s now=none) :
    settleCrossingMonth loc now (fuel+1) s=some s := by
  rw [settleCrossingMonth_succ,h]

theorem settleCrossingMonth_some (fuel : ℕ) (h : splitAtMonthBoundary loc s now=some boundary) :
    settleCrossingMonth loc now (fuel+1) s=settleCrossingMonth loc now fuel boundary := by
  rw [settleCrossingMonth_succ,h]

theorem ends_of_crossesWell (hw : CrossesWell loc start now) (n : ℕ) (h : Reaches loc now start s) (hn : now-s<n) :
    (settleCrossingMonth loc now (n+1) s).isSome=true := by
  induction n generalizing s with
  | zero =>
    cases hsplit : splitAtMonthBoundary loc s now with
    | none =>
      rw [settleCrossingMonth_none 0 hsplit]
      rfl
    | some boundary =>
      have hadvance:=(advances_of_crossesWell hw h hsplit).1
      obtain ⟨hsplits,rfl⟩:=splitAtMonthBoundary_eq_some_iff.mp hsplit
      have hbefore:=hsplits.2.2
      omega
  | succ n ih =>
    cases hsplit : splitAtMonthBoundary loc s now with
    | none =>
      rw [settleCrossingMonth_none _ hsplit]
      rfl
    | some boundary =>
      have hadvance:=(advances_of_crossesWell hw h hsplit).1
      rw [settleCrossingMonth_some _ hsplit]
      exact ih (.next h hsplit) (by push_cast at hn; omega)

/-- Settling makes progress exactly when no month that is crossed fails to open the next one. -/
theorem settling_progresses_iff (loc : Location) (start now : ℤ) : Progresses loc start now ↔ CrossesWell loc start now := by
  constructor
  · intro hp
    refine ⟨fun period hcrossed => opens_of_progresses hp hcrossed,fun hsplits => ?_⟩
    exact (hp.advances start _ .start (splitAtMonthBoundary_eq_some_iff.mpr ⟨hsplits,rfl⟩)).1
  · intro hw
    refine ⟨⟨(now-start).toNat+1+1,ends_of_crossesWell hw _ .start (by omega)⟩,fun s boundary h hsplit => ?_⟩
    exact advances_of_crossesWell hw h hsplit

theorem never_ends (hsplits : Splits loc (periodYMAt loc s) now) (hno : ¬ Opens loc (periodYMAt loc s)) (fuel : ℕ) :
    settleCrossingMonth loc now fuel s=none := by
  induction fuel generalizing s with
  | zero => rfl
  | succ fuel ih =>
    have hperiod : periodYMAt loc (monthEnd loc (periodYMAt loc s))=periodYMAt loc s := by
      rw [periodYMAt_monthEnd,if_neg hno]
    rw [settleCrossingMonth_some _ (splitAtMonthBoundary_eq_some_iff.mpr ⟨hsplits,rfl⟩)]
    exact ih (hperiod.symm ▸ hsplits) (hperiod.symm ▸ hno)

def asuncion : Location :=
  .ofTransition (-(4*nsPerHour)) (-(3*nsPerHour)) (midnight (12*2023+9)+4*nsPerHour) (by decide) (by decide)

/-- Clocks go back an hour at one minute past the first midnight of November 2009, from UTC-2:30. -/
def stJohns : Location :=
  .ofTransition (-(5*nsPerHour/2)) (-(7*nsPerHour/2)) (midnight (12*2009+10)+nsPerHour/60+5*nsPerHour/2)
    (by decide) (by decide)

/-- A session over the swallowed midnight is settled for ever. -/
theorem swallowed_midnight_never_ends : (¬ ∀ (loc : Location) (start now : ℤ), Progresses loc start now) ∧
    (∀ fuel, settleCrossingMonth asuncion (midnight (12*2023+9)+28*nsPerHour) fuel
      (midnight (12*2023+9)-6*nsPerHour)=none) ∧
    ∃ boundary, splitAtMonthBoundary stJohns (midnight (12*2009+10)+3*nsPerHour)
        (midnight (12*2009+10)+36*nsPerHour)=some boundary ∧ boundary < midnight (12*2009+10)+3*nsPerHour := by
  have hloop (fuel : ℕ) : settleCrossingMonth asuncion (midnight (12*2023+9)+28*nsPerHour) fuel
      (midnight (12*2023+9)-6*nsPerHour)=none :=
    never_ends ⟨by decide,by decide,by decide⟩ (by decide) fuel
  refine ⟨fun h => ?_,hloop,midnight (12*2009+10)+5*nsPerHour/2,by decide,by decide⟩
  obtain ⟨fuel,hends⟩:=(h asuncion (midnight (12*2023+9)-6*nsPerHour) (midnight (12*2023+9)+28*nsPerHour)).ends
  rw [hloop fuel] at hends
  cases hends

end BetterDesk.Billing.MonthCrossing
