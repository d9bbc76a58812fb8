import Mathlib.Algebra.Order.Ring.Int

/-! # Times of 64 bits -/

namespace BetterDesk.Time64

def wrap (n : ℤ) : ℤ := (n+2^63)%2^64-2^63

structure Fits (n : ℤ) : Prop where
  lower : -2^63≤n
  upper : n<2^63

theorem wrap_fits (n : ℤ) : Fits (wrap n) := by
  constructor <;> unfold wrap <;> omega

def unixToInternal : ℤ := 62135596800

/-- `time.Unix(sec, 0)`. -/
def ofUnix (sec : ℤ) : ℤ := wrap (sec+unixToInternal)

theorem ofUnix_near {sec : ℤ} (h : Fits sec) (hnear : sec+unixToInternal<2^63) : ofUnix sec=sec+unixToInternal := by
  have hlower:=h.lower
  unfold ofUnix wrap unixToInternal at *
  omega

def addSec (t d : ℤ) : ℤ :=
  if t<wrap (t+d) ↔ 0<d then wrap (t+d)
  else if 0<d then 2^63-1
  else -(2^63-1)

/-- `t.Sub(u)` for times on a whole second: the product is kept when adding it to `u`
gives `t` back. -/
def sub (t u : ℤ) : ℤ :=
  let d:=wrap (wrap (t-u)*10^9)
  if d%10^9=0 ∧ addSec u (d/10^9)=t then d
  else if t<u then -2^63
  else 2^63-1

theorem addSec_exact {t d : ℤ} (h : Fits (t+d)) : addSec t d=t+d := by
  have hwrap : wrap (t+d)=t+d := by
    have hlower:=h.lower
    have hupper:=h.upper
    unfold wrap
    omega
  unfold addSec
  rw [hwrap,if_pos (by omega)]

theorem addSec_dist {t u d : ℤ} (ht : Fits t) (hu : Fits u) (hd : -(10^10)≤d ∧ d≤10^10) (h : addSec u d=t) :
    t-u=d ∨ 0≤t-u ∧ t-u<d ∨ d<t-u ∧ t-u≤1 := by
  have h1:=ht.lower
  have h2:=ht.upper
  have h3:=hu.lower
  have h4:=hu.upper
  obtain ⟨h5,h6⟩:=hd
  unfold addSec at h
  split at h
  · rename_i hsign
    unfold wrap at h hsign
    by_cases hpos : 0<d
    · have := hsign.mpr hpos
      omega
    · have : ¬ u<(u+d+2^63)%2^64-2^63 := fun hlt => hpos (hsign.mp hlt)
      omega
  · rename_i hsign
    unfold wrap at hsign
    split at h
    · rename_i hpos
      have : ¬ u<(u+d+2^63)%2^64-2^63 := fun hlt => hsign ⟨fun _ => hpos,fun _ => hlt⟩
      omega
    · rename_i hpos
      have : u<(u+d+2^63)%2^64-2^63 := by
        by_contra hlt
        exact hsign ⟨fun h => absurd h hlt,fun h => absurd h hpos⟩
      omega

theorem sub_eq {t u : ℤ} (ht : Fits t) (hu : Fits u) :
    sub t u = if 2^63≤(t-u)*10^9 then 2^63-1 else if (t-u)*10^9 < -2^63 then -2^63
      else (t-u)*10^9 := by
  have h1:=ht.lower
  have h2:=ht.upper
  have h3:=hu.lower
  have h4:=hu.upper
  unfold sub
  dsimp only
  by_cases hfits : Fits ((t-u)*10^9)
  · have h5:=hfits.lower
    have h6:=hfits.upper
    have hd : wrap (wrap (t-u)*10^9)=(t-u)*10^9 := by
      unfold wrap
      omega
    have hdiv : (t-u)*10^9/10^9=t-u := by omega
    have hback : u+(t-u)=t := by omega
    rw [hd,hdiv,addSec_exact (hback.symm ▸ ht),hback,if_pos ⟨by omega,rfl⟩,if_neg (by omega),if_neg (by omega)]
  · have hout : 2^63≤(t-u)*10^9 ∨ (t-u)*10^9 < -2^63 := by
      by_contra hin
      exact hfits ⟨by omega,by omega⟩
    have hne : ¬ (wrap (wrap (t-u)*10^9)%10^9=0 ∧ addSec u (wrap (wrap (t-u)*10^9)/10^9)=t) := by
      rintro ⟨hwhole,hback⟩
      have hd:=wrap_fits (wrap (t-u)*10^9)
      have h5:=hd.lower
      have h6:=hd.upper
      have hdist:=addSec_dist ht hu ⟨by omega,by omega⟩ hback
      omega
    rw [if_neg hne]
    split_ifs <;> omega

theorem lt_sub_iff {t u : ℤ} (ht : Fits t) (hu : Fits u) {n : ℤ} (hn : 0≤n) (hmax : n<9223372036) :
    n*10^9 < sub t u ↔ u+n<t := by
  rw [sub_eq ht hu]
  split_ifs <;> omega

def saturate (d : ℤ) : ℤ := if 2^63≤d then 2^63-1 else if d < -2^63 then -2^63 else d

/-- `if d < 0 { d = -d }`, where the smallest value is its own negative. -/
def flip (d : ℤ) : ℤ := if d<0 then wrap (-d) else d

/-- The differences that pass a bound on their size: the small ones, and those so far
below zero that nothing is left of them. -/
theorem flip_saturate_le_iff {d n : ℤ} (hn : 0≤n) (hmax : n<2^63-1) :
    flip (saturate d)≤n ↔ -n≤d ∧ d≤n ∨ d ≤ -2^63 := by
  unfold flip saturate wrap
  split_ifs <;> omega

end BetterDesk.Time64
