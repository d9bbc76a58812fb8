import Mathlib.Data.List.Basic

/-! # Maps without an order -/

namespace BetterDesk
open List Option

abbrev SyncMap (κ α : Type*) := List (κ × α)

namespace SyncMap
variable {κ α : Type*} [DecidableEq κ]

def load (m : SyncMap κ α) (k : κ) : Option α := (m.find? fun x => x.1=k).map Prod.snd

def delete (m : SyncMap κ α) (k : κ) : SyncMap κ α := m.filter fun x => x.1≠k

def store (m : SyncMap κ α) (k : κ) (v : α) : SyncMap κ α := (k,v)::m.delete k

theorem mem_of_load {m : SyncMap κ α} {k : κ} {v : α} (h : m.load k=some v) : (k,v)∈m := by
  obtain ⟨⟨k',v'⟩,hf,rfl⟩:=map_eq_some_iff.mp h
  have hk : k'=k := by simpa using List.find?_some hf
  rw [← hk]
  exact mem_of_find?_eq_some hf

theorem mem_delete {m : SyncMap κ α} {k : κ} {x : κ × α} (h : x∈m.delete k) : x∈m :=
  mem_of_mem_filter h

theorem mem_store {m : SyncMap κ α} {k : κ} {v : α} {x : κ × α} (h : x∈m.store k v) : x=(k,v) ∨ x∈m :=
  (mem_cons.mp h).imp_right mem_delete

@[simp] theorem load_store_self (m : SyncMap κ α) (k : κ) (v : α) : (m.store k v).load k=some v := by
  simp [load,store]

theorem of_mem_delete {m : SyncMap κ α} {k : κ} {x : κ × α} (h : x∈m.delete k) : x∈m ∧ x.1≠k := by
  obtain ⟨hx,hk⟩:=mem_filter.mp h
  exact ⟨hx,by simpa using hk⟩

theorem of_mem_store {m : SyncMap κ α} {k : κ} {v : α} {x : κ × α} (h : x∈m.store k v) : x=(k,v) ∨ x∈m ∧ x.1≠k :=
  (mem_cons.mp h).imp_right of_mem_delete

@[simp] theorem load_delete_self (m : SyncMap κ α) (k : κ) : (m.delete k).load k=none := by
  cases hl : (m.delete k).load k with
  | none => rfl
  | some v => exact absurd rfl (of_mem_delete (mem_of_load hl)).2

theorem load_delete_of_ne (m : SyncMap κ α) {k k' : κ} (h : k'≠k) : (m.delete k).load k'=m.load k' := by
  unfold load delete
  rw [List.find?_filter]
  congr 2
  funext x
  by_cases hx : x.1=k'
  · simp [hx,h]
  · simp [hx]

theorem delete_eq_self {m : SyncMap κ α} {k : κ} (h : m.load k=none) : m.delete k=m := by
  refine filter_eq_self.mpr fun x hx => ?_
  have hno:=List.find?_eq_none.mp (map_eq_none_iff.mp h) x hx
  simpa using hno

theorem load_store_of_ne (m : SyncMap κ α) {k k' : κ} (v : α) (h : k'≠k) : (m.store k v).load k'=m.load k' := by
  have htail:=load_delete_of_ne m h
  unfold load at htail ⊢
  rw [← htail,store,List.find?_cons_of_neg (by simpa using h.symm)]

theorem of_load_store {m : SyncMap κ α} {k k' : κ} {v w : α} (h : (m.store k v).load k'=some w) :
    k'=k ∧ w=v ∨ k'≠k ∧ m.load k'=some w := by
  by_cases hk : k'=k
  · subst hk
    rw [load_store_self] at h
    exact .inl ⟨rfl,(Option.some.inj h).symm⟩
  · rw [load_store_of_ne _ _ hk] at h
    exact .inr ⟨hk,h⟩

theorem nodup_delete {m : SyncMap κ α} (h : (m.map Prod.fst).Nodup) (k : κ) : ((m.delete k).map Prod.fst).Nodup :=
  (List.Sublist.map Prod.fst filter_sublist).nodup h

theorem nodup_store {m : SyncMap κ α} (h : (m.map Prod.fst).Nodup) (k : κ) (v : α) : ((m.store k v).map Prod.fst).Nodup := by
  refine nodup_cons.mpr ⟨fun hmem => ?_,nodup_delete h k⟩
  obtain ⟨x,hx,hk⟩:=mem_map.mp hmem
  exact (of_mem_delete hx).2 hk

theorem load_of_mem {m : SyncMap κ α} (h : (m.map Prod.fst).Nodup) {k : κ} {v : α} (hmem : (k,v)∈m) :
    m.load k=some v := by
  induction m with
  | nil => cases hmem
  | cons x rest ih =>
    obtain ⟨hnew,hrest⟩:=nodup_cons.mp h
    unfold load
    rcases mem_cons.mp hmem with rfl | hmem
    · rw [List.find?_cons_of_pos (by simp)]
      rfl
    · have hne : x.1≠k := fun heq => hnew (heq ▸ mem_map_of_mem hmem)
      rw [List.find?_cons_of_neg (by simpa using hne)]
      exact ih hrest hmem

omit [DecidableEq κ] in
theorem nodup_filter {m : SyncMap κ α} (h : (m.map Prod.fst).Nodup) (p : κ × α → Bool) :
    (List.map Prod.fst (m.filter p)).Nodup := (List.Sublist.map Prod.fst filter_sublist).nodup h

theorem load_filter {m : SyncMap κ α} (h : (m.map Prod.fst).Nodup) (p : α → Bool) (k : κ) :
    load (m.filter fun x => p x.2) k=(m.load k).filter p := by
  cases hl : m.load k with
  | none =>
    cases hf : load (m.filter fun x => p x.2) k with
    | none => rfl
    | some v =>
      have hmem:=load_of_mem h (mem_of_mem_filter (mem_of_load hf))
      rw [hl] at hmem
      cases hmem
  | some v =>
    by_cases hp : p v=true
    · rw [filter_some,if_pos hp]
      exact load_of_mem (nodup_filter h _) (mem_filter.mpr ⟨mem_of_load hl,hp⟩)
    · rw [filter_some,if_neg hp]
      cases hf : load (m.filter fun x => p x.2) k with
      | none => rfl
      | some w =>
        obtain ⟨hmem,hw⟩:=mem_filter.mp (mem_of_load hf)
        rw [load_of_mem h hmem] at hl
        exact absurd (Option.some.inj hl ▸ hw) hp

end SyncMap

end BetterDesk
