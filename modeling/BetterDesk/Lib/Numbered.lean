import Mathlib.Data.List.Nodup
import Mathlib.Data.Int.Notation

/-! # Numbered tables -/

namespace BetterDesk.Numbered
open List

structure Keyed (ρ : Type*) where
  id : ℤ
  row : ρ
  deriving DecidableEq

/-- `last` is the greatest key that was ever handed out or given. -/
structure Table (ρ κ : Type*) (name : ρ → κ) where
  rows : List (Keyed ρ)
  last : ℤ
  sorted : rows.Pairwise fun a b => a.id<b.id
  bounded : ∀ e∈rows,e.id≤last
  unique : ∀ a∈rows, ∀ b∈rows,name a.row=name b.row → a=b

variable {ρ κ γ : Type*} {name : ρ → κ}

namespace Table

abbrev Holds (t : Table ρ κ name) (id : ℤ) : Prop := ∃ e∈t.rows,e.id=id

abbrev Names (t : Table ρ κ name) (k : κ) : Prop := ∃ e∈t.rows,name e.row=k

theorem eq_of_id (t : Table ρ κ name) {a b : Keyed ρ} (ha : a∈t.rows) (hb : b∈t.rows) (h : a.id=b.id) : a=b := by
  have hne : (t.rows.map Keyed.id).Nodup := pairwise_map.mpr (t.sorted.imp fun hlt => by omega)
  exact inj_on_of_nodup_map hne ha hb h

def placed (rows : List (Keyed ρ)) (e : Keyed ρ) : List (Keyed ρ) :=
  rows.filter (fun a => a.id<e.id)++e::rows.filter (fun a => e.id<a.id)

theorem mem_placed {rows : List (Keyed ρ)} {e a : Keyed ρ} (h : ∀ b∈rows,b.id≠e.id) :
    a∈placed rows e ↔ a=e ∨ a∈rows := by
  simp only [placed,mem_append,mem_cons,mem_filter,decide_eq_true_eq]
  constructor
  · rintro (⟨ha,-⟩ | ha | ⟨ha,-⟩)
    · exact .inr ha
    · exact .inl ha
    · exact .inr ha
  · rintro (ha | ha)
    · exact .inr (.inl ha)
    · have hne:=h a ha
      rcases Int.lt_or_gt_of_ne hne with hlt | hgt
      · exact .inl ⟨ha,hlt⟩
      · exact .inr (.inr ⟨ha,hgt⟩)

theorem placed_sorted {rows : List (Keyed ρ)} (h : rows.Pairwise fun a b => a.id<b.id) (e : Keyed ρ) :
    (placed rows e).Pairwise fun a b => a.id<b.id := by
  rw [placed,pairwise_append,pairwise_cons]
  refine ⟨h.filter _,⟨fun a ha => ?_,h.filter _⟩,fun a ha b hb => ?_⟩
  · simpa using (mem_filter.mp ha).2
  · have halt : a.id<e.id := by simpa using (mem_filter.mp ha).2
    rcases mem_cons.mp hb with hb | hb
    · rw [hb]
      exact halt
    · have hbgt : e.id<b.id := by simpa using (mem_filter.mp hb).2
      omega

def place (t : Table ρ κ name) (e : Keyed ρ) (hid : ¬ t.Holds e.id) (hname : ¬ t.Names (name e.row)) :
    Table ρ κ name where
  rows := placed t.rows e
  last := max t.last e.id
  sorted := placed_sorted t.sorted e
  bounded := by
    intro a ha
    rcases (mem_placed fun b hb h => hid ⟨b,hb,h⟩).mp ha with ha | ha
    · rw [ha]
      omega
    · have := t.bounded a ha
      omega
  unique := by
    intro a ha b hb h
    have hmem {c : Keyed ρ} := (mem_placed (a := c) fun b hb h => hid ⟨b,hb,h⟩).mp
    rcases hmem ha with ha | ha <;> rcases hmem hb with hb | hb
    · rw [ha,hb]
    · exact absurd ⟨b,hb,by rw [← h,ha]⟩ hname
    · exact absurd ⟨a,ha,by rw [h,hb]⟩ hname
    · exact t.unique a ha b hb h

theorem not_holds_next (t : Table ρ κ name) : ¬ t.Holds (max t.last 0+1) := by
  rintro ⟨e,he,h⟩
  have := t.bounded e he
  omega

section Insert
variable [DecidableEq κ]

/-- `INSERT` with a key; `none` is a violated `UNIQUE` constraint. -/
def insertAt (t : Table ρ κ name) (id : ℤ) (r : ρ) : Option (Table ρ κ name) :=
  if hid : t.Holds id then none
  else if hname : t.Names (name r) then none
  else some (t.place ⟨id,r⟩ hid hname)

/-- `INSERT` without a key. -/
def insert (t : Table ρ κ name) (r : ρ) : Option (Table ρ κ name) := t.insertAt (max t.last 0+1) r

theorem insertAt_eq_none_iff {t : Table ρ κ name} {id : ℤ} {r : ρ} :
    t.insertAt id r=none ↔ t.Holds id ∨ t.Names (name r) := by
  unfold insertAt
  by_cases hid : t.Holds id
  · simp [hid]
  · by_cases hname : t.Names (name r) <;> simp [hid,hname]

theorem insert_eq_none_iff {t : Table ρ κ name} {r : ρ} : t.insert r=none ↔ t.Names (name r) := by
  rw [insert,insertAt_eq_none_iff]
  exact or_iff_right t.not_holds_next

theorem insertAt_spec {t t' : Table ρ κ name} {id : ℤ} {r : ρ} (h : t.insertAt id r=some t') :
    (∀ a, a∈t'.rows ↔ a=⟨id,r⟩ ∨ a∈t.rows) ∧ t'.last=max t.last id := by
  unfold insertAt at h
  split at h
  · cases h
  · rename_i hid
    split at h
    · cases h
    · cases h
      exact ⟨fun a => mem_placed fun b hb h => hid ⟨b,hb,h⟩,rfl⟩

theorem insert_spec {t t' : Table ρ κ name} {r : ρ} (h : t.insert r=some t') :
    (∀ a, a∈t'.rows ↔ a=⟨max t.last 0+1,r⟩ ∨ a∈t.rows) ∧ t'.last=max t.last 0+1 := by
  obtain ⟨hrows,hlast⟩:=insertAt_spec h
  refine ⟨hrows,?_⟩
  omega

end Insert

def modify (t : Table ρ κ name) (id : ℤ) (f : ρ → ρ) (hf : ∀ r, name (f r)=name r) : Table ρ κ name where
  rows := t.rows.map fun e => if e.id=id then ⟨e.id,f e.row⟩ else e
  last := t.last
  sorted := by
    rw [pairwise_map]
    refine t.sorted.imp fun {a b} hlt => ?_
    split <;> split <;> exact hlt
  bounded := by
    intro e he
    obtain ⟨a,ha,rfl⟩:=mem_map.mp he
    split <;> exact t.bounded a ha
  unique := by
    intro a' ha' b' hb' h
    obtain ⟨a,ha,rfl⟩:=mem_map.mp ha'
    obtain ⟨b,hb,rfl⟩:=mem_map.mp hb'
    have hkeep (e : Keyed ρ) : name (if e.id=id then ⟨e.id,f e.row⟩ else e : Keyed ρ).row=name e.row := by
      split
      · exact hf e.row
      · rfl
    rw [hkeep,hkeep] at h
    rw [t.unique a ha b hb h]

def erase (t : Table ρ κ name) (id : ℤ) : Table ρ κ name where
  rows := t.rows.filter fun e => e.id≠id
  last := t.last
  sorted := t.sorted.filter _
  bounded e he := t.bounded e (mem_of_mem_filter he)
  unique a ha b hb h := t.unique a (mem_of_mem_filter ha) b (mem_of_mem_filter hb) h

theorem mem_erase {t : Table ρ κ name} {id : ℤ} {e : Keyed ρ} : e∈(t.erase id).rows ↔ e∈t.rows ∧ e.id≠id := by
  simp [erase]

theorem rows_foldl {step : Table ρ κ name → γ → Table ρ κ name} {g : γ → Keyed ρ → ρ}
    (h : ∀ t c, (step t c).rows=t.rows.map fun e => ⟨e.id,g c e⟩) (cs : List γ) (t : Table ρ κ name) :
    (cs.foldl step t).rows=t.rows.map fun e => ⟨e.id,cs.foldl (fun r c => g c ⟨e.id,r⟩) e.row⟩ := by
  induction cs generalizing t with
  | nil => simp
  | cons c cs ih =>
    rw [foldl_cons,ih,h,map_map]
    rfl

end Table

end BetterDesk.Numbered
