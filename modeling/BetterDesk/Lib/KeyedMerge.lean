import Mathlib.Data.List.Count
import Mathlib.Data.List.Induction
import Mathlib.Data.List.Nodup

/-! # Lists that are merged by key -/

namespace BetterDesk
open List

section EraseDups
variable {α : Type*} [DecidableEq α]

theorem nodup_eraseDups (l : List α) : l.eraseDups.Nodup := by
  induction l using List.reverseRecOn with
  | nil => exact nodup_nil
  | append_singleton l a ih =>
    rw [eraseDups_append]
    by_cases ha : a∈l
    · have hnil : [a].removeAll l=[] := by simp [List.removeAll,ha]
      rw [hnil,eraseDups_nil,append_nil]
      exact ih
    · have hself : [a].removeAll l=[a] := by simp [List.removeAll,ha]
      rw [hself,eraseDups_cons,filter_nil,eraseDups_nil,← concat_eq_append]
      apply ih.concat
      intro hmem
      exact ha (mem_eraseDups.mp hmem)

theorem eraseDups_append_of_subset {l m : List α} (hl : l.Nodup) (hm : m ⊆ l) : (l++m).eraseDups=l := by
  have hnil : m.removeAll l=[] := by
    apply filter_eq_nil_iff.mpr
    intro a ha
    simpa using hm ha
  have hself : l.eraseDups=l := by
    clear hm hnil
    induction l with
    | nil => rfl
    | cons a rest ih =>
      rw [nodup_cons] at hl
      have hrest : rest.filter (fun b => !b==a)=rest := by
        apply filter_eq_self.mpr
        intro b hb
        have hne : b≠a := fun h => hl.1 (h ▸ hb)
        simpa using hne
      rw [eraseDups_cons,hrest,ih hl.2]
  rw [eraseDups_append,hnil,hself,eraseDups_nil,append_nil]

end EraseDups

namespace KeyedMerge
variable {α κ : Type*} [DecidableEq κ] (key : α → κ) (join : α → α → α)

def intoLast (a : α) : List α → Option (List α)
  | [] => none
  | b::rest => match intoLast a rest with
    | some rest' => some (b::rest')
    | none => if key b=key a then some (join b a::rest) else none

def upsert (l : List α) (a : α) : List α := (intoLast key join a l).getD (l++[a])

def lastOf (k : κ) (l : List α) : Option α := (l.filter fun a => key a=k).getLast?

def combine : List α → Option α
  | [] => none
  | a::rest => some (rest.foldl join a)

/-- What `a` is joined to keeps its key. -/
def KeepsKey (a : α) : Prop := ∀ q, key q=key a → key (join q a)=key a

variable {key join} {k : κ} {a q : α} {l as : List α}

theorem combine_append (l r : List α) : combine join ((combine join l).toList++r)=combine join (l++r) := by
  cases l with
  | nil => rfl
  | cons a rest => exact congrArg some (foldl_append).symm

theorem combine_toList (o : Option α) : combine join o.toList=o := by
  cases o <;> rfl

theorem intoLast_cases (key : α → κ) (join : α → α → α) (a : α) (l : List α) :
    (key a∉l.map key ∧ intoLast key join a l=none) ∨ ∃ x q y, l=x++q::y ∧ key q=key a ∧ key a∉y.map key ∧
      intoLast key join a l=some (x++join q a::y) := by
  induction l with
  | nil => exact Or.inl ⟨not_mem_nil,rfl⟩
  | cons b rest ih =>
    rw [intoLast]
    cases ih with
    | inl hnone =>
      obtain ⟨hmem,hnone⟩:=hnone
      rw [hnone]
      dsimp only
      by_cases hb : key b=key a
      · exact Or.inr ⟨[],b,rest,rfl,hb,hmem,if_pos hb⟩
      · refine Or.inl ⟨?_,if_neg hb⟩
        rw [map_cons,mem_cons,not_or]
        exact ⟨Ne.symm hb,hmem⟩
    | inr hsome =>
      obtain ⟨x,q,y,rfl,hq,hy,hsome⟩:=hsome
      rw [hsome]
      exact Or.inr ⟨b::x,q,y,rfl,hq,hy,rfl⟩

theorem upsert_cases (key : α → κ) (join : α → α → α) (a : α) (l : List α) :
    (key a∉l.map key ∧ upsert key join l a=l++[a]) ∨
    ∃ x q y, l=x++q::y ∧ key q=key a ∧ key a∉y.map key ∧ upsert key join l a=x++join q a::y := by
  unfold upsert
  cases intoLast_cases key join a l with
  | inl h => exact Or.inl ⟨h.1,by rw [h.2]; rfl⟩
  | inr h =>
    obtain ⟨x,q,y,hl,hq,hy,h⟩:=h
    exact Or.inr ⟨x,q,y,hl,hq,hy,by rw [h]; rfl⟩

theorem filter_eq_nil_of_not_mem (h : k∉l.map key) : l.filter (fun a => key a=k)=[] := by
  apply filter_eq_nil_iff.mpr
  intro a ha hk
  exact h (mem_map.mpr ⟨a,ha,of_decide_eq_true hk⟩)

theorem lastOf_of_not_mem (h : k∉l.map key) : lastOf key k l=none := by
  rw [lastOf,filter_eq_nil_of_not_mem h,List.getLast?_nil]

theorem lastOf_split {x y : List α} (hq : key q=k) (hy : k∉y.map key) : lastOf key k (x++q::y)=some q := by
  rw [lastOf,filter_append,filter_cons_of_pos (by simpa using hq),filter_eq_nil_of_not_mem hy,
    List.getLast?_concat]

theorem lastOf_eq_some_of_filter (h : l.filter (fun a => key a=k)=[a]) : lastOf key k l=some a := by
  rw [lastOf,h]
  rfl

theorem lastOf_isSome_iff : (lastOf key k l).isSome ↔ k∈l.map key := by
  by_cases h : k∈l.map key
  · obtain ⟨a,ha,hk⟩:=mem_map.mp h
    have hne : l.filter (fun a => key a=k)≠[] :=
      ne_nil_of_mem (mem_filter.mpr ⟨ha,decide_eq_true hk⟩)
    rw [lastOf,List.getLast?_eq_some_getLast hne]
    simp only [h,Option.isSome_some]
  · simp [lastOf_of_not_mem h,h]

theorem lastOf_upsert (ha : KeepsKey key join a) :
    lastOf key k (upsert key join l a) =
      if key a=k then combine join ((lastOf key k l).toList++[a]) else lastOf key k l := by
  cases upsert_cases key join a l with
  | inl h =>
    obtain ⟨hmem,h⟩:=h
    rw [h]
    split
    · rename_i hk
      subst hk
      rw [lastOf_of_not_mem hmem,lastOf_split rfl not_mem_nil]
      rfl
    · rename_i hk
      rw [lastOf,lastOf,filter_append,filter_cons_of_neg (by simpa using hk),filter_nil,append_nil]
  | inr h =>
    obtain ⟨x,q,y,rfl,hq,hy,h⟩:=h
    rw [h]
    split
    · rename_i hk
      subst hk
      rw [lastOf_split hq hy,lastOf_split (ha q hq) hy]
      rfl
    · rename_i hk
      have hjoin : ¬ key (join q a)=k := by rw [ha q hq]; exact hk
      have hq' : ¬ key q=k := by rw [hq]; exact hk
      rw [lastOf,lastOf,filter_append,filter_append,filter_cons_of_neg (by simpa using hjoin),
        filter_cons_of_neg (by simpa using hq')]

/-- The last item of a key after a merge is what was there with the new items of that
key, in their order. -/
theorem lastOf_foldl (k : κ) (l : List α) (has : ∀ a∈as,KeepsKey key join a) :
    lastOf key k (as.foldl (upsert key join) l) =
      combine join ((lastOf key k l).toList++as.filter fun a => key a=k) := by
  induction as generalizing l with
  | nil => rw [foldl_nil,filter_nil,append_nil,combine_toList]
  | cons a rest ih =>
    rw [foldl_cons,ih _ fun b hb => has b (mem_cons_of_mem a hb),lastOf_upsert (has a mem_cons_self)]
    split
    · rename_i hk
      rw [filter_cons_of_pos (by simpa using hk),combine_append,append_assoc,singleton_append]
    · rename_i hk
      rw [filter_cons_of_neg (by simpa using hk)]

theorem upsert_eq_self (hq : lastOf key (key a) l=some q) (hjoin : join q a=q) : upsert key join l a=l := by
  cases upsert_cases key join a l with
  | inl h =>
    rw [lastOf_of_not_mem h.1] at hq
    cases hq
  | inr h =>
    obtain ⟨x,q',y,rfl,hq',hy,h⟩:=h
    rw [lastOf_split hq' hy] at hq
    cases hq
    rw [h,hjoin]

theorem foldl_eq_self (h : ∀ a∈as, ∃ q, lastOf key (key a) l=some q ∧ join q a=q) :
    as.foldl (upsert key join) l=l := by
  induction as with
  | nil => rfl
  | cons a rest ih =>
    obtain ⟨q,hq,hjoin⟩:=h a mem_cons_self
    rw [foldl_cons,upsert_eq_self hq hjoin]
    exact ih fun b hb => h b (mem_cons_of_mem a hb)

theorem count_upsert (ha : KeepsKey key join a) :
    ((upsert key join l a).map key).count k=max ((l.map key).count k) (if key a=k then 1 else 0) := by
  cases upsert_cases key join a l with
  | inl h =>
    obtain ⟨hmem,h⟩:=h
    rw [h,map_append,count_append,map_singleton,count_singleton']
    split
    · rename_i hk
      rw [count_eq_zero_of_not_mem (hk ▸ hmem)]
      rfl
    · simp
  | inr h =>
    obtain ⟨x,q,y,rfl,hq,hy,h⟩:=h
    have hmem : key a∈(x++q::y).map key := mem_map.mpr ⟨q,mem_append_right x mem_cons_self,hq⟩
    have hkeys : (x++join q a::y).map key=(x++q::y).map key := by
      rw [map_append,map_append,map_cons,map_cons,ha q hq,hq]
    rw [h,hkeys]
    split
    · rename_i hk
      have hpos:=count_pos_iff.mpr (hk ▸ hmem)
      omega
    · omega

theorem count_foldl (k : κ) (l : List α) (has : ∀ a∈as,KeepsKey key join a) :
    ((as.foldl (upsert key join) l).map key).count k =
      max ((l.map key).count k) (if k∈as.map key then 1 else 0) := by
  induction as generalizing l with
  | nil => simp
  | cons a rest ih =>
    rw [foldl_cons,ih _ fun b hb => has b (mem_cons_of_mem a hb),count_upsert (has a mem_cons_self),
      Nat.max_assoc]
    congr 1
    by_cases hk : key a=k
    · rw [if_pos hk,if_pos (mem_map.mpr ⟨a,mem_cons_self,hk⟩)]
      split <;> rfl
    · rw [if_neg hk]
      simp [Ne.symm hk]

end KeyedMerge

end BetterDesk
