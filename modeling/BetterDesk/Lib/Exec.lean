import Mathlib.Data.List.Basic
import Mathlib.Data.Option.Basic

/-! # Runs of a partial step function -/

namespace BetterDesk.Exec
open List Option

variable {S A : Type*} {step : S → A → Option S}

def exec (step : S → A → Option S) (s : S) (as : List A) : Option S := as.foldlM step s

@[simp] theorem exec_nil (s : S) : exec step s []=some s := rfl

@[simp] theorem exec_cons (s : S) (a : A) (as : List A) :
    exec step s (a::as)=(step s a).bind fun t => exec step t as := rfl

theorem exec_append (s : S) (as bs : List A) : exec step s (as++bs)=(exec step s as).bind fun t => exec step t bs := by
  simp only [exec,foldlM_append]
  rfl

theorem exec_cons_some {s u : S} {a : A} {as : List A} (h : exec step s (a::as)=some u) :
    ∃ t, step s a=some t ∧ exec step t as=some u := bind_eq_some_iff.mp h

/-- Every step of the run meets `ok` in the state it is taken in. -/
def Along (step : S → A → Option S) (ok : S → A → Prop) : S → List A → Prop
  | _, [] => True
  | s, a::as => ok s a ∧ ∀ t, step s a=some t → Along step ok t as

theorem Along.cons {ok : S → A → Prop} {s t : S} {a : A} {as : List A} (hok : ok s a) (ht : step s a=some t)
    (h : Along step ok t as) : Along step ok s (a::as) :=
  ⟨hok,fun _ hu => Option.some.inj (ht.symm.trans hu) ▸ h⟩

theorem along_of_forall {ok : S → A → Prop} {as : List A} (h : ∀ a∈as, ∀ s, ok s a) (s : S) : Along step ok s as := by
  induction as generalizing s with
  | nil => trivial
  | cons a as ih =>
    exact ⟨h a mem_cons_self s,fun t _ => ih (fun b hb => h b (mem_cons_of_mem a hb)) t⟩

instance decidableAlong {ok : S → A → Prop} [∀ s a, Decidable (ok s a)] :
    (s : S) → (as : List A) → Decidable (Along step ok s as)
  | _, [] => isTrue trivial
  | s, a::as =>
    match h : step s a with
    | none => decidable_of_iff (ok s a)
        ⟨fun hok => ⟨hok,fun t ht => by rw [h] at ht; cases ht⟩,And.left⟩
    | some t =>
      have : Decidable (Along step ok t as) := decidableAlong t as
      decidable_of_iff (ok s a ∧ Along step ok t as)
        ⟨fun hok => ⟨hok.1,fun u hu => by rw [h] at hu; cases hu; exact hok.2⟩,
          fun hok => ⟨hok.1,hok.2 t h⟩⟩

theorem Along.mono {ok ok' : S → A → Prop} (himp : ∀ s a, ok s a → ok' s a)
    {s : S} {as : List A} (h : Along step ok s as) : Along step ok' s as := by
  induction as generalizing s with
  | nil => trivial
  | cons a as ih => exact ⟨himp s a h.1,fun t ht => ih (h.2 t ht)⟩

theorem Along.and {ok ok' : S → A → Prop} {s : S} {as : List A} (h : Along step ok s as)
    (h' : Along step ok' s as) : Along step (fun s a => ok s a ∧ ok' s a) s as := by
  induction as generalizing s with
  | nil => trivial
  | cons a as ih => exact ⟨⟨h.1,h'.1⟩,fun t ht => ih (h.2 t ht) (h'.2 t ht)⟩

theorem Along.after {ok : S → A → Prop} {s t : S} {as bs : List A} (h : Along step ok s (as++bs))
    (hs : exec step s as=some t) : Along step ok t bs := by
  induction as generalizing s with
  | nil =>
    simp only [exec_nil,some.injEq] at hs
    exact hs ▸ h
  | cons a as ih =>
    obtain ⟨u,hu,ht⟩:=exec_cons_some hs
    exact ih (h.2 u hu) ht

theorem Along.before {ok : S → A → Prop} {s : S} {as bs : List A} (h : Along step ok s (as++bs)) :
    Along step ok s as := by
  induction as generalizing s with
  | nil => trivial
  | cons a as ih => exact ⟨h.1,fun t ht => ih (h.2 t ht)⟩

theorem Along.of_invariant {ok ok' : S → A → Prop} (I : S → Prop)
    (keep : ∀ s a t, I s → ok s a → step s a=some t → I t) (himp : ∀ s a, I s → ok s a → ok' s a)
    {s : S} {as : List A} (h0 : I s) (h : Along step ok s as) : Along step ok' s as := by
  induction as generalizing s with
  | nil => trivial
  | cons a as ih => exact ⟨himp s a h0 h.1,fun t ht => ih (keep s a t h0 h.1 ht) (h.2 t ht)⟩

/-- An invariant kept by every step that meets `ok` holds after every run
whose steps all meet `ok`. -/
theorem exec_invariant {ok : S → A → Prop} (I : S → Prop) (keep : ∀ s a t, I s → ok s a → step s a=some t → I t)
    {s u : S} {as : List A} (h0 : I s) (hok : Along step ok s as) (h : exec step s as=some u) : I u := by
  induction as generalizing s with
  | nil =>
    simp only [exec_nil,some.injEq] at h
    exact h ▸ h0
  | cons a as ih =>
    obtain ⟨t,ht,hu⟩:=exec_cons_some h
    exact ih (keep s a t h0 hok.1 ht) (hok.2 t ht) hu

theorem exec_invariant_all (I : S → Prop) (keep : ∀ s a t, I s → step s a=some t → I t)
    {s u : S} {as : List A} (h0 : I s) (h : exec step s as=some u) : I u :=
  exec_invariant I (fun s a t hs _ ht => keep s a t hs ht) h0
    (along_of_forall (fun _ _ _ => trivial) s : Along step (fun _ _ => True) s as) h

/-- A condition that no step restores: it holds at the end when it held at the start and
every step met `ok`. -/
theorem exec_iff_along {ok : S → A → Prop} (P : S → Prop) (hstep : ∀ s a t, step s a=some t → (P t ↔ P s ∧ ok s a))
    {s u : S} {as : List A} (h : exec step s as=some u) : P u ↔ P s ∧ Along step ok s as := by
  induction as generalizing s with
  | nil =>
    simp only [exec_nil,some.injEq] at h
    exact h ▸ ⟨fun hP => ⟨hP,trivial⟩,And.left⟩
  | cons a as ih =>
    obtain ⟨t,ht,hu⟩:=exec_cons_some h
    rw [ih hu,hstep s a t ht,and_assoc]
    refine and_congr_right fun _ => and_congr_right fun _ => ⟨fun hrest t' ht' => ?_,fun hrest => hrest t ht⟩
    rw [ht] at ht'
    cases ht'
    exact hrest

theorem along_iff {ok ok' : S → A → Prop} (I : S → Prop) (keep : ∀ s a t, I s → step s a=some t → I t)
    (hiff : ∀ s a t, I s → step s a=some t → (ok s a ↔ ok' s a)) {s u : S} {as : List A} (h0 : I s)
    (h : exec step s as=some u) : Along step ok s as ↔ Along step ok' s as := by
  induction as generalizing s with
  | nil => exact Iff.rfl
  | cons a as ih =>
    obtain ⟨t,ht,hu⟩:=exec_cons_some h
    have hrest:=ih (keep s a t h0 ht) hu
    refine and_congr (hiff s a t h0 ht) ⟨fun hall t' ht' => ?_,fun hall t' ht' => ?_⟩
    · rw [ht] at ht'
      cases ht'
      exact hrest.mp (hall t ht)
    · rw [ht] at ht'
      cases ht'
      exact hrest.mpr (hall t ht)

theorem along_iff_of_keep {ok ok' : S → A → Prop} (I : S → Prop)
    (keep : ∀ s a t, I s → ok s a → step s a=some t → I t) (hiff : ∀ s a, I s → (ok s a ↔ ok' s a))
    {s : S} {as : List A} (h0 : I s) : Along step ok s as ↔ Along step ok' s as := by
  induction as generalizing s with
  | nil => exact Iff.rfl
  | cons a as ih =>
    constructor
    · rintro ⟨hok,hrest⟩
      exact ⟨(hiff s a h0).mp hok,fun t ht => (ih (keep s a t h0 hok ht)).mp (hrest t ht)⟩
    · rintro ⟨hok',hrest⟩
      have hok:=(hiff s a h0).mpr hok'
      exact ⟨hok,fun t ht => (ih (keep s a t h0 hok ht)).mpr (hrest t ht)⟩

theorem along_reached_iff {P : S → Prop} {s : S} {as : List A} (h0 : P s) :
    (∀ pre, pre <+: as → ∀ t, exec step s pre=some t → P t) ↔
      Along step (fun s a => ∀ t, step s a=some t → P t) s as := by
  induction as generalizing s with
  | nil =>
    refine iff_of_true (fun pre hpre t ht => ?_) trivial
    rw [prefix_nil.mp hpre] at ht
    cases ht
    exact h0
  | cons a as ih =>
    constructor
    · intro h
      have hnext (t : S) (ht : step s a=some t) : P t := by
        refine h [a] (prefix_append [a] as) t ?_
        rw [exec_cons,ht]
        rfl
      refine ⟨hnext,fun t ht => (ih (hnext t ht)).mp fun pre hpre u hu => ?_⟩
      refine h (a::pre) ((prefix_cons_inj a).mpr hpre) u ?_
      rw [exec_cons,ht]
      exact hu
    · rintro ⟨hnext,hrest⟩ pre hpre u hu
      cases pre with
      | nil =>
        cases hu
        exact h0
      | cons b pre =>
        obtain ⟨hb,htail⟩:=cons_prefix_cons.mp hpre
        subst hb
        obtain ⟨t,ht,hu⟩:=exec_cons_some hu
        exact (ih (hnext t ht)).mpr (hrest t ht) pre htail u hu

theorem bind_ok {ε α β : Type} {x : Except ε α} {f : α → Except ε β} {b : β}
    (h : x >>= f=.ok b) : ∃ a, x=.ok a ∧ f a=.ok b := by
  cases x with
  | error e => cases h
  | ok a => exact ⟨a,rfl,h⟩

end BetterDesk.Exec
