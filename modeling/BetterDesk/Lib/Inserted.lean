import Mathlib.Data.List.Basic

/-! # Lists with one more entry -/

namespace BetterDesk
open List
variable {α : Type*} {a : α} {l l' : List α}

def Inserted (a : α) (l l' : List α) : Prop := ∃ l₁ l₂, l=l₁++l₂ ∧ l'=l₁++a::l₂

theorem Inserted.mem (h : Inserted a l l') {b : α} : b∈l' ↔ b=a ∨ b∈l := by
  obtain ⟨l₁,l₂,rfl,rfl⟩:=h
  simp
  tauto

theorem Inserted.map {β : Type*} (f : α → β) (h : Inserted a l l') : Inserted (f a) (l.map f) (l'.map f) := by
  obtain ⟨l₁,l₂,rfl,rfl⟩:=h
  exact ⟨l₁.map f,l₂.map f,map_append,by simp⟩

theorem Inserted.filter {p : α → Bool} (hp : p a=true) (h : Inserted a l l') :
    Inserted a (l.filter p) (l'.filter p) := by
  obtain ⟨l₁,l₂,rfl,rfl⟩:=h
  exact ⟨l₁.filter p,l₂.filter p,filter_append l₁ l₂,by simp [hp]⟩

/-- An entry that the first `n` hold stays among them when it is given once more. -/
theorem Inserted.mem_take_eraseDups [DecidableEq α] {n : ℕ} (h : Inserted a l l')
    (ha : a∈l.eraseDups.take n) : a∈l'.eraseDups.take n := by
  obtain ⟨x,y,rfl,rfl⟩:=h
  rw [eraseDups_append,take_append,mem_append] at ha ⊢
  by_cases hx : a∈x
  · cases ha with
    | inl ha => exact Or.inl ha
    | inr ha =>
      have hy:=mem_eraseDups.mp (mem_of_mem_take ha)
      simp [List.removeAll,hx] at hy
  · cases ha with
    | inl ha => exact absurd (mem_eraseDups.mp (mem_of_mem_take ha)) hx
    | inr ha =>
      have hroom : n-x.eraseDups.length≠0 := by
        intro h0
        rw [h0,take_zero] at ha
        cases ha
      obtain ⟨k,hk⟩:=Nat.exists_eq_succ_of_ne_zero hroom
      have hhead : (a::y).removeAll x=a::y.removeAll x := by simp [List.removeAll,hx]
      rw [hhead,eraseDups_cons,hk,take_succ_cons]
      exact Or.inr mem_cons_self

end BetterDesk
