import Mathlib.Algebra.Order.Ring.Int
import Mathlib.Tactic.Ring

/-! # Calendar months and wall clocks -/

namespace BetterDesk.CivilTime

def firstDay (month : ℤ) : ℤ :=
  let year:=(month-2)/12
  365*year+year/4-year/100+year/400+(153*((month-2)%12)+2)/5-719468

def monthOf (day : ℤ) : ℤ :=
  let guess:=(day+719468)*4800/146097+2
  if day<firstDay guess then guess-1 else if firstDay (guess+1)≤day then guess+1 else guess

theorem firstDay_eq {month year m : ℤ} (h : month-2=12*year+m) (hm : 0 ≤ m ∧ m<12) :
    firstDay month=365*year+year/4-year/100+year/400+(153*m+2)/5-719468 := by
  have hy : (month-2)/12=year := by omega
  have hr : (month-2)%12=m := by omega
  unfold firstDay
  rw [hy,hr]

theorem exists_year (month : ℤ) : ∃ year m, month-2=12*year+m ∧ 0 ≤ m ∧ m<12 :=
  ⟨(month-2)/12,(month-2)%12,by omega,by omega,by omega⟩

theorem firstDay_next (month : ℤ) : firstDay month+28≤firstDay (month+1) ∧ firstDay (month+1)≤firstDay month+31 := by
  obtain ⟨year,m,h,hm0,hm⟩:=exists_year month
  rw [firstDay_eq h ⟨hm0,hm⟩]
  by_cases hlast : m=11
  · -- February, the last month of its year
    rw [firstDay_eq (show month+1-2=12*(year+1)+0 by omega) ⟨by omega,by omega⟩]
    omega
  · rw [firstDay_eq (show month+1-2=12*year+(m+1) by omega) ⟨by omega,by omega⟩]
    omega

theorem firstDay_near (month : ℤ) : 4800*(firstDay month+719468)≤146097*(month-2)+146097 ∧
      146097*(month-2)-146097≤4800*(firstDay month+719468) := by
  obtain ⟨year,m,h,hm0,hm⟩:=exists_year month
  rw [firstDay_eq h ⟨hm0,hm⟩,h]
  omega

theorem firstDay_mono {a b : ℤ} (h : a≤b) : firstDay a≤firstDay b := by
  obtain ⟨n,rfl⟩ : ∃ n : ℕ, b=a+n := ⟨(b-a).toNat,by omega⟩
  induction n with
  | zero => simp
  | succ n ih =>
    have hnext:=firstDay_next (a+n)
    have hprev:=ih (by omega)
    push_cast
    rw [← add_assoc]
    omega

theorem monthOf_bounds (day : ℤ) : firstDay (monthOf day)≤day ∧ day<firstDay (monthOf day+1) := by
  obtain ⟨g,hg⟩ : ∃ g, g=(day+719468)*4800/146097+2 := ⟨_,rfl⟩
  have hbelow:=firstDay_near (g-1)
  have habove:=firstDay_near (g+2)
  unfold monthOf
  dsimp only
  rw [← hg]
  split
  · rename_i hlt
    have hsame : g-1+1=g := by omega
    rw [hsame]
    omega
  · split
    · have hsame : g+1+1=g+2 := by omega
      rw [hsame]
      omega
    · omega

theorem monthOf_eq_iff (day month : ℤ) : monthOf day=month ↔ firstDay month≤day ∧ day<firstDay (month+1) := by
  constructor
  · rintro rfl
    exact monthOf_bounds day
  · rintro ⟨hlo,hhi⟩
    have hb:=monthOf_bounds day
    by_contra hne
    rcases Int.lt_or_gt_of_ne hne with hlt | hgt
    · have hmono:=firstDay_mono (show monthOf day+1 ≤ month by omega)
      omega
    · have hmono:=firstDay_mono (show month+1 ≤ monthOf day by omega)
      omega

-- 2024-02-29 and the day after it
example : monthOf 19782=12*2024+1 ∧ monthOf 19783=12*2024+2 ∧ firstDay (12*1970)=0 := by decide

def nsPerHour : ℤ := 3600*10^9

def nsPerDay : ℤ := 24*nsPerHour

def midnight (month : ℤ) : ℤ := firstDay month*nsPerDay

def monthShown (clock : ℤ) : ℤ := monthOf (clock/nsPerDay)

theorem monthShown_eq_iff (clock month : ℤ) : monthShown clock=month ↔ midnight month≤clock ∧ clock < midnight (month+1) := by
  rw [monthShown,monthOf_eq_iff]
  unfold midnight nsPerDay nsPerHour
  omega

theorem midnight_next (month : ℤ) :
    midnight month+28*nsPerDay ≤ midnight (month+1) ∧ midnight (month+1) ≤ midnight month+31*nsPerDay := by
  have hnext:=firstDay_next month
  unfold midnight nsPerDay nsPerHour
  omega

/-- The same day of the month and time of day some months later. -/
def addMonths (clock n : ℤ) : ℤ := clock+(midnight (monthShown clock+n)-midnight (monthShown clock))

/-- The offset in force at an instant, and the instant for a wall clock time. -/
structure Location where
  offset : ℤ → ℤ
  date : ℤ → ℤ
  offset_bounded : ∀ t, -(26*nsPerHour)≤offset t ∧ offset t≤26*nsPerHour
  date_offset : ∀ clock, ∃ t, date clock=clock-offset t
  date_shown : ∀ clock, (∃ t, t+offset t=clock) → date clock+offset (date clock)=clock

namespace Location
variable (loc : Location)

def clock (t : ℤ) : ℤ := t+loc.offset t

def resolved (c : ℤ) : ℤ := loc.clock (loc.date c)

theorem resolved_near (c : ℤ) : c-52*nsPerHour≤loc.resolved c ∧ loc.resolved c≤c+52*nsPerHour := by
  obtain ⟨t,ht⟩:=loc.date_offset c
  have hread:=loc.offset_bounded t
  have hshown:=loc.offset_bounded (loc.date c)
  unfold resolved clock
  omega

theorem lt_of_clock_lt {t u : ℤ} (h : loc.clock t+52*nsPerHour<loc.clock u) : t<u := by
  have ht:=loc.offset_bounded t
  have hu:=loc.offset_bounded u
  unfold clock at h
  omega

end Location

def switch (before after instant t : ℤ) : ℤ := if t < instant then before else after

theorem switch_bounded {before after b : ℤ} (instant t : ℤ) (hb : -b≤before ∧ before≤b) (ha : -b≤after ∧ after≤b) :
    -b ≤ switch before after instant t ∧ switch before after instant t≤b := by
  unfold switch
  split
  · exact hb
  · exact ha

/-- The two lookups of `time.Date`: the wall clock time is read as if it was an instant, and again
with the offset found there. -/
def lookedUpTwice (offset : ℤ → ℤ) (c : ℤ) : ℤ := c-offset (c-offset c)

theorem lookedUpTwice_shown (before after instant t : ℤ) :
    let offset:=switch before after instant
    let c:=t+offset t
    lookedUpTwice offset c+offset (lookedUpTwice offset c)=c := by
  dsimp only [lookedUpTwice,switch]
  split_ifs <;> omega

def Location.ofTransition (before after instant : ℤ) (hb : -(26*nsPerHour)≤before ∧ before≤26*nsPerHour)
    (ha : -(26*nsPerHour)≤after ∧ after≤26*nsPerHour) : Location where
  offset := switch before after instant
  date := lookedUpTwice (switch before after instant)
  offset_bounded t := switch_bounded instant t hb ha
  date_offset c := ⟨_,rfl⟩
  date_shown := by
    rintro c ⟨t,rfl⟩
    exact lookedUpTwice_shown before after instant t

end BetterDesk.CivilTime
