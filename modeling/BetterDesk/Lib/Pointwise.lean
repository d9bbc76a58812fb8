import Mathlib.Data.List.Forall2

/-! # Lists that are related element by element -/

namespace BetterDesk.Pointwise
open List

variable {α β γ : Type*} {R : α → β → Prop} {l : List α} {l' : List β}

theorem map_eq (h : List.Forall₂ R l l') {f : α → γ} {g : β → γ} (hfg : ∀ a b, R a b → f a=g b) : l.map f=l'.map g := by
  induction h with
  | nil => rfl
  | cons hab _ ih => rw [map_cons,map_cons,hfg _ _ hab,ih]

theorem filterMap_eq (h : List.Forall₂ R l l') {f : α → Option γ} {g : β → Option γ} (hfg : ∀ a b, R a b → f a=g b) :
    l.filterMap f=l'.filterMap g := by
  induction h with
  | nil => rfl
  | cons hab _ ih => rw [filterMap_cons,filterMap_cons,hfg _ _ hab,ih]

theorem countP_eq (h : List.Forall₂ R l l') {p : α → Bool} {q : β → Bool} (hpq : ∀ a b, R a b → p a=q b) :
    l.countP p=l'.countP q := by
  induction h with
  | nil => rfl
  | cons hab _ ih => rw [countP_cons,countP_cons,hpq _ _ hab,ih]

theorem filter (h : List.Forall₂ R l l') {p : α → Bool} {q : β → Bool} (hpq : ∀ a b, R a b → p a=q b) :
    List.Forall₂ R (l.filter p) (l'.filter q) := by
  refine rel_filter (fun a b hab => ?_) h
  exact iff_of_eq (congrArg (·=true) (hpq a b hab))

theorem map {S : γ → γ → Prop} (h : List.Forall₂ R l l') {f : α → γ} {g : β → γ} (hfg : ∀ a b, R a b → S (f a) (g b)) :
    List.Forall₂ S (l.map f) (l'.map g) := by
  induction h with
  | nil => exact .nil
  | cons hab _ ih => exact .cons (hfg _ _ hab) ih

theorem append {k : List α} {k' : List β} (h : List.Forall₂ R l l') (hk : List.Forall₂ R k k') :
    List.Forall₂ R (l++k) (l'++k') := by
  induction h with
  | nil => exact hk
  | cons hab _ ih => exact .cons hab ih

theorem eraseIdx (h : List.Forall₂ R l l') (i : ℕ) : List.Forall₂ R (l.eraseIdx i) (l'.eraseIdx i) := by
  induction h generalizing i with
  | nil => exact .nil
  | cons hab hl ih =>
    cases i with
    | zero => exact hl
    | succ i => exact .cons hab (ih i)

theorem getElem? (h : List.Forall₂ R l l') (i : ℕ) : Option.Rel R (l[i]?) (l'[i]?) := by
  induction h generalizing i with
  | nil => exact .none
  | cons hab _ ih =>
    cases i with
    | zero => exact .some hab
    | succ i => exact ih i

theorem find? (h : List.Forall₂ R l l') {p : α → Bool} {q : β → Bool} (hpq : ∀ a b, R a b → p a=q b) :
    Option.Rel R (l.find? p) (l'.find? q) := by
  induction h with
  | nil => exact .none
  | @cons a b l l' hab _ ih =>
    rw [List.find?_cons,List.find?_cons,← hpq a b hab]
    cases p a with
    | true => exact .some hab
    | false => exact ih

theorem option_cases {o : Option α} {o' : Option β} (h : Option.Rel R o o') :
    (o=none ∧ o'=none) ∨ ∃ a b, o=some a ∧ o'=some b ∧ R a b := by
  cases h with
  | none => exact Or.inl ⟨rfl,rfl⟩
  | some hab => exact Or.inr ⟨_,_,rfl,rfl,hab⟩

end BetterDesk.Pointwise
