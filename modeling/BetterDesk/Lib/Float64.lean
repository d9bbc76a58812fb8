import Mathlib.Data.Int.Log
import Mathlib.Data.Rat.Floor
import Mathlib.Tactic.Positivity

/-! # Binary floating point with 53 bits -/

namespace BetterDesk.Float64

def roundEven (x : ℚ) : ℤ :=
  if x - ⌊x⌋ < 1/2 then ⌊x⌋
  else if 1/2<x - ⌊x⌋ then ⌊x⌋ + 1
  else if ⌊x⌋ % 2=0 then ⌊x⌋ else ⌊x⌋ + 1

def ulp (q : ℚ) : ℚ := 2^(Int.log 2 |q| - 52)

def round (q : ℚ) : ℚ := roundEven (q/ulp q)*ulp q

theorem roundEven_near (x : ℚ) : |(roundEven x : ℚ)-x| ≤ 1/2 := by
  have hlow:=Int.floor_le x
  have hhigh:=Int.lt_floor_add_one x
  unfold roundEven
  rw [abs_le]
  split
  · constructor
    · linarith
    · linarith
  · split
    · push_cast
      constructor
      · linarith
      · linarith
    · have hhalf : x - ⌊x⌋ = 1/2 := by linarith
      split
      · constructor
        · linarith
        · linarith
      · push_cast
        constructor
        · linarith
        · linarith

theorem le_roundEven {n : ℤ} {x : ℚ} (h : n≤x) : n≤roundEven x := by
  have hfloor : n ≤ ⌊x⌋ := Int.le_floor.mpr h
  unfold roundEven
  split
  · exact hfloor
  · split
    · omega
    · split
      · exact hfloor
      · omega

theorem ulp_pos (q : ℚ) : 0<ulp q := zpow_pos (by norm_num) _

theorem div_ulp_mul (q : ℚ) : q/ulp q*ulp q=q := div_mul_cancel₀ q (ulp_pos q).ne'

theorem ulp_le {q : ℚ} (h : 0<q) : ulp q*2^52≤q := by
  have hlog:=Int.zpow_log_le_self (b := 2) (by norm_num) h
  have hsplit : ulp q*2^52=2^Int.log 2 q := by
    rw [ulp,abs_of_pos h,← zpow_natCast,← zpow_add₀ (by norm_num)]
    norm_num
  rw [hsplit]
  exact_mod_cast hlog

theorem round_zero : round 0=0 := by decide +kernel

theorem round_near {q : ℚ} (h : 0≤q) : |round q-q| ≤ q/2^53 := by
  rcases h.eq_or_lt with rfl | hpos
  · rw [round_zero]
    norm_num
  · have hnear:=roundEven_near (q/ulp q)
    have hulp:=ulp_le hpos
    have hfactor : round q-q=(roundEven (q/ulp q)-q/ulp q)*ulp q := by
      rw [sub_mul,div_ulp_mul]
      rfl
    rw [hfactor,abs_mul,abs_of_pos (ulp_pos q)]
    calc |(roundEven (q/ulp q) : ℚ)-q/ulp q| * ulp q≤1/2*ulp q :=
          mul_le_mul_of_nonneg_right hnear (ulp_pos q).le
      _≤q/2^53 := by linarith

theorem round_nonneg {q : ℚ} (h : 0≤q) : 0≤round q := by
  have hint : (0 : ℤ)≤roundEven (q/ulp q) := le_roundEven (by exact_mod_cast div_nonneg h (ulp_pos q).le)
  exact mul_nonneg (by exact_mod_cast hint) (ulp_pos q).le

end BetterDesk.Float64
