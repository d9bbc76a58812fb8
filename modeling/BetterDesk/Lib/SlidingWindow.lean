import Mathlib.Data.List.Basic
import Mathlib.Order.Basic
import Mathlib.Tactic.Linarith

/-! # Sliding windows -/

namespace BetterDesk.SlidingWindow
open List

def recent (cutoff : ℤ) (l : List ℤ) : List ℤ := l.filter fun t => cutoff<t

@[simp] theorem recent_nil (c : ℤ) : recent c []=[] := rfl

theorem recent_append (c : ℤ) (l m : List ℤ) : recent c (l++m)=recent c l++recent c m := filter_append ..

theorem recent_recent {c c' : ℤ} (h : c≤c') (l : List ℤ) : recent c' (recent c l)=recent c' l := by
  rw [recent,recent,filter_filter]
  refine filter_congr fun t _ => ?_
  by_cases ht : c'<t
  · simp [ht,lt_of_le_of_lt h ht]
  · simp [ht]

/-- The times in the window that starts after `a`. -/
def within (window a : ℤ) (l : List ℤ) : List ℤ := l.filter fun t => a<t ∧ t≤a+window

theorem within_le_recent {window a now : ℤ} (h : now≤a+window) (l : List ℤ) :
    (within window a l).length≤(recent (now-window) l).length := by
  refine (monotone_filter_right l fun t ht => ?_).length_le
  simp only [decide_eq_true_eq] at ht ⊢
  omega

/-- Each time was admitted with less than `limit` before it in its window. -/
inductive Admitted (limit : ℕ) (window : ℤ) : List ℤ → Prop where
  | nil : Admitted limit window []
  | snoc {l : List ℤ} {now : ℤ} : Admitted limit window l → (recent (now-window) l).length<limit →
      Admitted limit window (l++[now])

theorem Admitted.window_le {limit : ℕ} {window : ℤ} {l : List ℤ} (h : Admitted limit window l) (a : ℤ) :
    (within window a l).length≤limit := by
  induction h with
  | nil => exact Nat.zero_le _
  | @snoc l now _ hfew ih =>
    rw [within,filter_append]
    by_cases hin : a<now ∧ now≤a+window
    · -- all of the window that was there before is in the window of `now`
      have hle:=within_le_recent hin.2 l
      rw [within] at hle
      simp only [hin,and_self,decide_true,filter_cons_of_pos,filter_nil,length_append,
        length_singleton]
      omega
    · rw [filter_cons_of_neg (by simpa using hin),filter_nil,append_nil]
      exact ih

end BetterDesk.SlidingWindow
