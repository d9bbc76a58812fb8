import Mathlib.Data.List.Nodup

/-! # Tables -/

namespace BetterDesk.Table
open List

variable {α β : Type*}

def Changed (l l' : List α) (x : α) : Prop := x∈l ∧ x∉l' ∨ x∉l ∧ x∈l'

theorem not_changed_self {l : List α} {x : α} : ¬ Changed l l x := by
  rintro (⟨hin,hout⟩ | ⟨hout,hin⟩)
  · exact hout hin
  · exact hout hin

theorem changed_append {l m : List α} {x : α} (h : Changed l (l++m) x) : x∈m := by
  rcases h with ⟨hin,hout⟩ | ⟨hout,hin⟩
  · exact absurd (mem_append_left m hin) hout
  · exact (mem_append.mp hin).resolve_left hout

theorem changed_filter {l : List α} {p : α → Bool} {x : α} (h : Changed l (l.filter p) x) : x∈l ∧ p x=false := by
  rcases h with ⟨hin,hout⟩ | ⟨hout,hin⟩
  · refine ⟨hin,?_⟩
    rw [mem_filter,not_and] at hout
    simpa using hout hin
  · exact absurd (mem_of_mem_filter hin) hout

theorem changed_map {l : List α} {f : α → α} {x : α} (h : Changed l (l.map f) x) : ∃ y∈l,f y≠y ∧ (x=y ∨ x=f y) := by
  rcases h with ⟨hin,hout⟩ | ⟨hout,hin⟩
  · exact ⟨x,hin,fun he => hout (mem_map.mpr ⟨x,hin,he⟩),Or.inl rfl⟩
  · obtain ⟨y,hy,rfl⟩:=mem_map.mp hin
    exact ⟨y,hy,fun he => hout (by rw [he]; exact hy),Or.inr rfl⟩

theorem Changed.of_map {l l' : List α} {f : α → β} {y : β} (h : Changed (l.map f) (l'.map f) y) :
    ∃ x, Changed l l' x ∧ f x=y := by
  rcases h with ⟨hin,hout⟩ | ⟨hout,hin⟩
  · obtain ⟨x,hx,rfl⟩:=mem_map.mp hin
    exact ⟨x,Or.inl ⟨hx,fun hx' => hout (mem_map_of_mem hx')⟩,rfl⟩
  · obtain ⟨x,hx,rfl⟩:=mem_map.mp hin
    exact ⟨x,Or.inr ⟨fun hx' => hout (mem_map_of_mem hx'),hx⟩,rfl⟩

theorem eq_of_key {l : List α} {key : α → β} (h : (l.map key).Nodup) {x y : α} (hx : x∈l) (hy : y∈l)
    (hk : key x=key y) : x=y := inj_on_of_nodup_map h hx hy hk

theorem find?_of_key [DecidableEq β] {l : List α} {key : α → β} (h : (l.map key).Nodup) {x : α} (hx : x∈l) :
    (l.find? fun y => key y==key x)=some x := by
  cases hf : l.find? fun y => key y==key x with
  | none =>
    have hno:=List.find?_eq_none.mp hf x hx
    simp at hno
  | some y =>
    have hy:=List.find?_some hf
    rw [eq_of_key h (mem_of_find?_eq_some hf) hx (beq_iff_eq.mp hy)]

theorem exists_other_key {l : List α} {key : α → β} (h : (l.map key).Nodup) {p : α → Bool}
    (hcount : 1<(l.filter p).length) (k : β) : ∃ x∈l,p x=true ∧ key x≠k := by
  obtain ⟨x,y,rest,hl⟩ : ∃ x y rest, l.filter p=x::y::rest := by
    match hl : l.filter p, hcount with
    | x::y::rest, _ => exact ⟨x,y,rest,rfl⟩
  have hx:=mem_filter.mp (hl ▸ mem_cons_self : x∈l.filter p)
  have hy:=mem_filter.mp (hl ▸ mem_cons_of_mem _ mem_cons_self : y∈l.filter p)
  by_cases hk : key x=k
  · refine ⟨y,hy.1,hy.2,fun hky => ?_⟩
    have hnodup:=h.of_map.sublist (filter_sublist (p := p))
    rw [hl] at hnodup
    exact (nodup_cons.mp hnodup).1 (eq_of_key h hx.1 hy.1 (hk.trans hky.symm) ▸ mem_cons_self)
  · exact ⟨x,hx.1,hx.2,hk⟩

theorem nodup_append_key {l : List α} {key : α → β} (h : (l.map key).Nodup) {a : α}
    (ha : ∀ x∈l,key x≠key a) : ((l++[a]).map key).Nodup := by
  rw [map_append,map_singleton]
  refine List.Nodup.append h (nodup_singleton _) ?_
  intro k hk hk'
  obtain ⟨x,hx,rfl⟩:=mem_map.mp hk
  exact ha x hx (mem_singleton.mp hk')

theorem nodup_filter_key {l : List α} {key : α → β} (h : (l.map key).Nodup) (p : α → Bool) :
    ((l.filter p).map key).Nodup := h.sublist (filter_sublist.map key)

theorem map_key {l : List α} {key : α → β} {f : α → α} (hf : ∀ x∈l,key (f x)=key x) :
    (l.map f).map key=l.map key := by
  rw [map_map]
  exact map_congr_left hf

theorem countP_set_add (p : α → Bool) {l : List α} {i : ℕ} {x : α} (h : l[i]?=some x) (a : α) :
    (l.set i a).countP p+(p x).toNat=l.countP p+(p a).toNat := by
  induction l generalizing i with
  | nil => cases h
  | cons y l ih =>
    cases i with
    | zero =>
      cases h
      simp only [set_cons_zero,countP_cons]
      cases p a <;> cases p x <;> simp
    | succ n =>
      have := ih h
      simp only [set_cons_succ,countP_cons]
      omega

theorem countP_eraseP {p : α → Bool} {l : List α} {x : α} (hx : x∈l) (hp : p x=true) :
    (l.eraseP p).countP p+1=l.countP p := by
  obtain ⟨y,before,after,-,hy,hsplit,herase⟩:=exists_of_eraseP hx hp
  rw [herase,hsplit,countP_append,countP_append,countP_cons_of_pos hy]
  omega

theorem countP_le_of_forall₂ {p : α → Bool} {q : β → Bool} {l : List α} {l' : List β}
    (h : List.Forall₂ (fun x y => p x → q y) l l') : l.countP p≤l'.countP q := by
  induction h with
  | nil => exact Nat.le_refl _
  | @cons x y l l' hxy _ ih =>
    rw [countP_cons,countP_cons]
    by_cases hx : p x
    · rw [if_pos hx,if_pos (hxy hx)]
      omega
    · rw [if_neg hx]
      omega

theorem eq_of_filterMap_key {l : List α} {key : α → Option β} (h : (l.filterMap key).Nodup) {x y : α} {k : β}
    (hx : x∈l) (hy : y∈l) (hkx : key x=some k) (hky : key y=some k) : x=y := by
  induction l with
  | nil => cases hx
  | cons z rest ih =>
    have hmem (w : α) (hw : w∈rest) (hkw : key w=some k) : k∈rest.filterMap key :=
      mem_filterMap.mpr ⟨w,hw,hkw⟩
    have htail : (rest.filterMap key).Nodup := h.sublist ((sublist_cons_self z rest).filterMap key)
    have hhead (hkz : key z=some k) : k∉rest.filterMap key := by
      rw [filterMap_cons_some hkz] at h
      exact (nodup_cons.mp h).1
    rcases mem_cons.mp hx with hxz | hx <;> rcases mem_cons.mp hy with hyz | hy
    · rw [hxz,hyz]
    · exact absurd (hmem y hy hky) (hhead (hxz ▸ hkx))
    · exact absurd (hmem x hx hkx) (hhead (hyz ▸ hky))
    · exact ih htail hx hy

theorem filterMap_set_sublist {l : List α} {key : α → Option β} {i : ℕ} {x y : α} (h : l[i]?=some x)
    (hkey : key y=key x ∨ key y=none) : ((l.set i y).filterMap key).Sublist (l.filterMap key) := by
  induction l generalizing i with
  | nil => cases h
  | cons z rest ih =>
    cases i with
    | zero =>
      cases h
      rw [set_cons_zero,filterMap_cons,filterMap_cons]
      rcases hkey with hkey | hkey
      · rw [hkey]
      · rw [hkey]
        cases key x with
        | none => exact List.Sublist.refl _
        | some k => exact sublist_cons_self _ _
    | succ n =>
      have hrest:=ih h
      rw [set_cons_succ,filterMap_cons,filterMap_cons]
      cases key z with
      | none => exact hrest
      | some k => exact hrest.cons_cons k

theorem mem_set_of_ne {l : List α} {i : ℕ} {x y z : α} (h : l[i]?=some x) (hz : z∈l) (hne : z≠x) : z∈l.set i y := by
  obtain ⟨j,hj⟩:=mem_iff_getElem?.mp hz
  refine mem_iff_getElem?.mpr ⟨j,?_⟩
  have hij : i≠j := by
    rintro rfl
    rw [h] at hj
    exact hne (Option.some.inj hj).symm
  rw [List.getElem?_set_ne hij]
  exact hj

end BetterDesk.Table
