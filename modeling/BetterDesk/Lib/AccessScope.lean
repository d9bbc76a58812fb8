import Mathlib.Data.Set.Basic

/-! # Scopes made of access lists -/

namespace BetterDesk

structure AccessScope (ι α : Type*) where
  rules : Set ι
  admits : ι → Prop
  covers : ι → Set α
  grants : Set α
  restricted : Prop

namespace AccessScope
variable {ι κ α : Type*}

def allowed (s : AccessScope ι α) : Set α :=
  {x | x∈s.grants ∨ ∃ i∈s.rules, s.admits i ∧ x∈s.covers i}

def heldBack (s : AccessScope ι α) : Set α := {x | ∃ i∈s.rules,¬ s.admits i ∧ x∈s.covers i}

def visible (s : AccessScope ι α) : Set α := {x | x∈s.allowed ∨ ¬ s.restricted ∧ x∉s.heldBack}

section One
variable {s : AccessScope ι α} {x : α}

theorem mem_allowed : x∈s.allowed ↔ x∈s.grants ∨ ∃ i∈s.rules, s.admits i ∧ x∈s.covers i :=
  Iff.rfl

theorem mem_heldBack : x∈s.heldBack ↔ ∃ i∈s.rules,¬ s.admits i ∧ x∈s.covers i := Iff.rfl

theorem mem_visible : x∈s.visible ↔ x∈s.allowed ∨ ¬ s.restricted ∧ x∉s.heldBack := Iff.rfl

theorem mem_visible_of_restricted (h : s.restricted) : x∈s.visible ↔ x∈s.allowed := by
  simp [mem_visible,h]

theorem mem_visible_of_empty (hrules : ∀ i, i∉s.rules) (hgrants : x∉s.grants) : x∈s.visible ↔ ¬ s.restricted := by
  have ha : x∉s.allowed := by
    intro h
    cases h with
    | inl h => exact hgrants h
    | inr h =>
      obtain ⟨i,hi,_⟩:=h
      exact hrules i hi
  have hh : x∉s.heldBack := by
    intro h
    obtain ⟨i,hi,_⟩:=h
    exact hrules i hi
  simp [mem_visible,ha,hh]

end One

section Matching
variable {s : AccessScope ι α} {t : AccessScope κ α} {x : α}

/-- Two rules that say the same of `x`. -/
def Matched (s : AccessScope ι α) (t : AccessScope κ α) (x : α) (i : ι) (j : κ) : Prop :=
  (s.admits i ↔ t.admits j) ∧ (x∈s.covers i ↔ x∈t.covers j)

theorem mem_allowed_of_matched (hgrants : x∈s.grants → x∈t.grants)
    (h : ∀ i∈s.rules, ∃ j∈t.rules,Matched s t x i j) (hx : x∈s.allowed) : x∈t.allowed := by
  cases hx with
  | inl hx => exact Or.inl (hgrants hx)
  | inr hx =>
    obtain ⟨i,hi,ha,hc⟩:=hx
    obtain ⟨j,hj,hadmits,hcovers⟩:=h i hi
    exact Or.inr ⟨j,hj,hadmits.mp ha,hcovers.mp hc⟩

theorem mem_heldBack_of_matched (h : ∀ i∈s.rules, ∃ j∈t.rules,Matched s t x i j)
    (hx : x∈s.heldBack) : x∈t.heldBack := by
  obtain ⟨i,hi,ha,hc⟩:=hx
  obtain ⟨j,hj,hadmits,hcovers⟩:=h i hi
  exact ⟨j,hj,fun hb => ha (hadmits.mpr hb),hcovers.mp hc⟩

theorem Matched.symm {i : ι} {j : κ} (h : Matched s t x i j) : Matched t s x j i := ⟨h.1.symm,h.2.symm⟩

theorem visible_congr (hmode : s.restricted ↔ t.restricted) (hgrants : x∈s.grants ↔ x∈t.grants)
    (hst : ∀ i∈s.rules, ∃ j∈t.rules,Matched s t x i j)
    (hts : ∀ j∈t.rules, ∃ i∈s.rules,Matched s t x i j) : x∈s.visible ↔ x∈t.visible := by
  have hback : ∀ j∈t.rules, ∃ i∈s.rules,Matched t s x j i := by
    intro j hj
    obtain ⟨i,hi,hm⟩:=hts j hj
    exact ⟨i,hi,hm.symm⟩
  have hallowed : x∈s.allowed ↔ x∈t.allowed :=
    ⟨mem_allowed_of_matched hgrants.mp hst,mem_allowed_of_matched hgrants.mpr hback⟩
  have hheld : x∈s.heldBack ↔ x∈t.heldBack :=
    ⟨mem_heldBack_of_matched hst,mem_heldBack_of_matched hback⟩
  rw [mem_visible,mem_visible,hmode,hallowed,hheld]

end Matching

section Two
variable {s t : AccessScope ι α}

theorem allowed_mono (hgrants : s.grants ⊆ t.grants)
    (h : ∀ i∈s.rules, s.admits i → i∈t.rules ∧ t.admits i ∧ s.covers i ⊆ t.covers i) : s.allowed ⊆ t.allowed := by
  intro x hx
  cases hx with
  | inl hx => exact Or.inl (hgrants hx)
  | inr hx =>
    obtain ⟨i,hi,ha,hc⟩:=hx
    obtain ⟨hi',ha',hcov⟩:=h i hi ha
    exact Or.inr ⟨i,hi',ha',hcov hc⟩

theorem heldBack_anti (h : ∀ i∈t.rules,¬ t.admits i → i∈s.rules ∧ ¬ s.admits i ∧ t.covers i ⊆ s.covers i) :
    t.heldBack ⊆ s.heldBack := by
  intro x hx
  obtain ⟨i,hi,ha,hc⟩:=hx
  obtain ⟨hi',ha',hcov⟩:=h i hi ha
  exact ⟨i,hi',ha',hcov hc⟩

/-- A scope that is at least as restricted, allows no more and, where it is open, holds back as
much shows no more. -/
theorem visible_subset (hmode : t.restricted → s.restricted) (hallowed : s.allowed ⊆ t.allowed)
    (hheld : ¬ s.restricted → t.heldBack ⊆ s.heldBack) : s.visible ⊆ t.visible := by
  intro x hx
  cases hx with
  | inl hx => exact Or.inl (hallowed hx)
  | inr hx => exact Or.inr ⟨fun h => hx.1 (hmode h),fun h => hx.2 (hheld hx.1 h)⟩

end Two

end AccessScope
end BetterDesk
