import Mathlib.Order.Monotone.Basic

/-! # Billing months (billing/period.go, billing/service.go) -/

namespace BetterDesk.Billing

def second : ℕ := 1000000000

/-- The months of a location: one follows the other, and `start` is the first instant. -/
structure Calendar where
  periodAt : ℕ → ℕ
  start : ℕ → ℕ
  increasing : ∀ m, start m < start (m+1)
  periodAt_iff : ∀ t m, periodAt t=m ↔ start m≤t ∧ t < start (m+1)

namespace Calendar
variable (cal : Calendar)

/-- `MonthBounds`. -/
def monthEnd (m : ℕ) : ℕ := cal.start (m+1)

/-- The next month start after `start`, if `stop` is after it. -/
def splitAtMonthBoundary (start stop : ℕ) : Option ℕ :=
  if cal.periodAt start=cal.periodAt stop then none
  else
    let boundary:=cal.monthEnd (cal.periodAt start)
    if boundary < stop then some boundary else none

theorem start_le (t : ℕ) : cal.start (cal.periodAt t)≤t := ((cal.periodAt_iff t _).mp rfl).1

theorem lt_monthEnd (t : ℕ) : t<cal.monthEnd (cal.periodAt t) := ((cal.periodAt_iff t _).mp rfl).2

@[simp] theorem periodAt_start (m : ℕ) : cal.periodAt (cal.start m)=m :=
  (cal.periodAt_iff _ m).mpr ⟨Nat.le_refl _,cal.increasing m⟩

@[simp] theorem periodAt_monthEnd (m : ℕ) : cal.periodAt (cal.monthEnd m)=m+1 := cal.periodAt_start (m+1)

theorem start_mono {m m' : ℕ} (h : m ≤ m') : cal.start m≤cal.start m' :=
  (strictMono_nat_of_lt_succ cal.increasing).monotone h

theorem periodAt_mono {t t' : ℕ} (h : t≤t') : cal.periodAt t≤cal.periodAt t' := by
  by_contra hlt
  have hnext : cal.start (cal.periodAt t'+1)≤cal.start (cal.periodAt t) := cal.start_mono (by omega)
  have hend : t'<cal.start (cal.periodAt t'+1) := cal.lt_monthEnd t'
  have hstart:=cal.start_le t
  omega

theorem split_some {start stop boundary : ℕ} (h : cal.splitAtMonthBoundary start stop=some boundary) :
    boundary=cal.monthEnd (cal.periodAt start) ∧ cal.periodAt start≠cal.periodAt stop ∧ boundary < stop := by
  unfold splitAtMonthBoundary at h
  split at h
  · cases h
  · rename_i hne
    dsimp only at h
    split at h
    · cases h
      exact ⟨rfl,hne,‹_›⟩
    · cases h

theorem split_none {start stop : ℕ} (h : cal.splitAtMonthBoundary start stop=none) :
    cal.periodAt start=cal.periodAt stop ∨ stop≤cal.monthEnd (cal.periodAt start) := by
  unfold splitAtMonthBoundary at h
  split at h
  · exact .inl ‹_›
  · dsimp only at h
    split at h
    · cases h
    · exact .inr (not_lt.mp ‹_›)

end Calendar

/-- `int(to.Sub(from).Seconds())`, with what is negative set to zero. -/
def rawSeconds (start stop : ℕ) : ℕ := (stop-start)/second

/-- Up to the next multiple of `roundMin` minutes. -/
def roundUpMinutes (seconds roundMin : ℕ) : ℕ :=
  let step := if roundMin=0 then 1 else roundMin
  (seconds+60*step-1)/(60*step)*step

theorem roundUpMinutes_zero (roundMin : ℕ) : roundUpMinutes 0 roundMin=0 := by
  unfold roundUpMinutes
  have hlt : 0+60*(if roundMin=0 then 1 else roundMin)-1<60*(if roundMin=0 then 1 else roundMin) := by
    split <;> omega
  dsimp only
  rw [Nat.div_eq_of_lt hlt,Nat.zero_mul]

-- 61 seconds in steps of 1 and of 15 minutes
example : roundUpMinutes 61 1=2 ∧ roundUpMinutes 61 15=15 ∧ roundUpMinutes 0 15=0 := by decide

end BetterDesk.Billing
