import Mathlib.Data.List.Count

/-! # Values that are used once -/

namespace BetterDesk.OneTime
open Function

variable {κ α β : Type*}

def present (m : κ → Option α) (k : κ) : ℕ := if (m k).isSome then 1 else 0

variable {m : κ → Option α} {k k' : κ} {v : α}

theorem present_le (m : κ → Option α) (k : κ) : present m k≤1 := by
  unfold present
  split <;> simp

theorem present_some (h : m k=some v) : present m k=1 := by
  simp [present,h]

theorem present_filter (m : κ → Option α) (p : α → Bool) (k : κ) : present (fun k => (m k).filter p) k≤present m k := by
  cases hm : m k with
  | none => simp [present,hm]
  | some v => simpa [present_some hm] using present_le (fun k => (m k).filter p) k

section
variable [DecidableEq κ]

theorem present_put (m : κ → Option α) (k : κ) (v : α) (k' : κ) :
    present (update m k (some v)) k'≤present m k' + if k=k' then 1 else 0 := by
  by_cases hk : k=k'
  · subst hk
    simp [present]
  · simp [present,update_of_ne (Ne.symm hk),hk]

theorem present_replace (h : m k=some v) (v' : α) (k' : κ) :
    present (update m k (some v')) k'=present m k' := by
  by_cases hk : k'=k
  · subst hk
    simp [present,h]
  · simp [present,update_of_ne hk]

theorem present_take (h : m k=some v) (k' : κ) :
    present (update m k none) k'+(if k=k' then 1 else 0)=present m k' := by
  by_cases hk : k=k'
  · subst hk
    simp [present,h]
  · simp [present,update_of_ne (Ne.symm hk),hk]

theorem present_remove (m : κ → Option α) (k k' : κ) : present (update m k none) k'≤present m k' := by
  by_cases hk : k'=k
  · subst hk
    simp [present]
  · simp [present,update_of_ne hk]

end

theorem countP_erase_add [BEq β] [LawfulBEq β] {l : List β} {x : β} (hx : x∈l) (p : β → Bool) :
    (l.erase x).countP p+(if p x then 1 else 0)=l.countP p := by
  rw [(List.perm_cons_erase hx).countP_eq p,List.countP_cons]

end BetterDesk.OneTime
