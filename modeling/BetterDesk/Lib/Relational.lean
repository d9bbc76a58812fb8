import Mathlib.Data.List.Basic
import Mathlib.Data.Int.Notation

/-! # Rows that refer to a key -/

namespace BetterDesk.Relational
open List Function

inductive Value
  | null
  | integer (n : ℤ)
  | real (bits : UInt64)
  | text (s : String)
  | blob (bytes : List UInt8)
  deriving DecidableEq

abbrev Column := String

abbrev Row := Column → Value

/-- `start` precedes the key in the column; `kind` is a column and the text it must have. -/
structure Reference where
  column : Column
  start : String
  kind : Option (Column × String)
  deriving DecidableEq

def Reference.plain (column : Column) : Reference := ⟨column,"",none⟩

namespace Reference
variable (r : Reference)

def Names (key : String) (row : Row) : Prop :=
  row r.column=.text (r.start++key) ∧ ∀ k∈r.kind,row k.1=.text k.2

instance (key : String) (row : Row) : Decidable (r.Names key row) :=
  inferInstanceAs (Decidable (_ ∧ ∀ k∈r.kind,_))

/-- `UPDATE … SET column = new WHERE column = old`, on one row. -/
def rename (old new : String) (row : Row) : Row :=
  if r.Names old row then update row r.column (.text (r.start++new)) else row

end Reference

def renameAll (refs : List Reference) (old new : String) (row : Row) : Row := fun c =>
  match refs.find? fun r => decide (r.column=c)&&decide (r.Names old row) with
  | some r => .text (r.start++new)
  | none => row c

/-- No column can be read as two references at once, and none says of which kind its row is. -/
structure Apart (refs : List Reference) : Prop where
  starts : ∀ r∈refs, ∀ r'∈refs,r.column=r'.column → r≠r' → ¬ r.start.toList <+: r'.start.toList
  kinds : ∀ r∈refs, ∀ k∈r.kind, ∀ r'∈refs,r'.column≠k.1

variable {refs : List Reference} {r r' : Reference} {old new key : String} {row : Row}

theorem start_append_inj {s s' : String} (h : s++key=s'++key) : s.toList=s'.toList := by
  have hlist:=congrArg String.toList h
  rw [String.toList_append,String.toList_append] at hlist
  exact append_cancel_right hlist

theorem key_append_inj {s : String} (h : s++old=s++new) : old=new := by
  have hlist:=congrArg String.toList h
  rw [String.toList_append,String.toList_append] at hlist
  exact String.toList_inj.mp (append_cancel_left hlist)

theorem comparable_starts {s s' : String} (h : s++old=s'++new) : s.toList <+: s'.toList ∨ s'.toList <+: s.toList := by
  have hlist:=congrArg String.toList h
  rw [String.toList_append,String.toList_append] at hlist
  exact prefix_or_prefix_of_prefix ⟨_,rfl⟩ ⟨_,hlist.symm⟩

theorem Apart.unique (h : Apart refs) (hr : r∈refs) (hr' : r'∈refs) (hc : r.column=r'.column)
    (hn : r.Names key row) (hn' : r'.Names key row) : r=r' := by
  by_contra hne
  have hsame:=hn.1
  rw [hc,hn'.1] at hsame
  have hstart:=start_append_inj (Value.text.inj hsame)
  exact h.starts r hr r' hr' hc hne (hstart ▸ prefix_refl _)

theorem renameAll_of_names (h : Apart refs) (hr : r∈refs) (hn : r.Names old row) :
    renameAll refs old new row r.column=.text (r.start++new) := by
  unfold renameAll
  cases hf : refs.find? fun r' => decide (r'.column=r.column)&&decide (r'.Names old row) with
  | none =>
    have hno:=List.find?_eq_none.mp hf r hr
    simp [hn] at hno
  | some r' =>
    have hr':=List.find?_some hf
    simp only [Bool.and_eq_true,decide_eq_true_eq] at hr'
    rw [h.unique (mem_of_find?_eq_some hf) hr hr'.1 hr'.2 hn]

theorem renameAll_of_not_names {c : Column} (h : ∀ r∈refs,r.column=c → ¬ r.Names old row) :
    renameAll refs old new row c=row c := by
  unfold renameAll
  cases hf : refs.find? fun r' => decide (r'.column=c)&&decide (r'.Names old row) with
  | none => rfl
  | some r' =>
    have hr':=List.find?_some hf
    simp only [Bool.and_eq_true,decide_eq_true_eq] at hr'
    exact absurd hr'.2 (h r' (mem_of_find?_eq_some hf) hr'.1)

theorem not_names_renameAll (h : Apart refs) (hne : old≠new) (hr : r∈refs) :
    ¬ r.Names old (renameAll refs old new row) := by
  rintro ⟨hcol,hkind⟩
  by_cases hex : ∃ r'∈refs,r'.column=r.column ∧ r'.Names old row
  · obtain ⟨r',hr',hc,hn⟩:=hex
    rw [← hc,renameAll_of_names h hr' hn] at hcol
    have htext:=Value.text.inj hcol
    by_cases heq : r'=r
    · rw [heq] at htext
      exact hne (key_append_inj htext).symm
    · rcases comparable_starts htext with hp | hp
      · exact h.starts r' hr' r hr hc heq hp
      · exact h.starts r hr r' hr' hc.symm (fun he => heq he.symm) hp
  · have hsame (c : Column) (hc : ∀ r'∈refs,r'.column=c → ¬ r'.Names old row) :
        renameAll refs old new row c=row c := renameAll_of_not_names hc
    refine hex ⟨r,hr,rfl,?_,fun k hk => ?_⟩
    · rw [← hcol,hsame r.column fun r' hr' hc hn => hex ⟨r',hr',hc,hn⟩]
    · rw [← hkind k hk,hsame k.1 fun r' hr' hc => absurd hc (h.kinds r hr k hk r' hr')]

def renameOne (done : Option Reference) (old new : String) (row : Row) : Row := match done with
  | some r => r.rename old new row
  | none => row

theorem renameOne_eq_renameAll_iff {done : Option Reference} (h : Apart refs) (hne : old≠new) (hdone : ∀ r∈done,r∈refs) :
    renameOne done old new row=renameAll refs old new row ↔ ∀ r∈refs,some r≠done → ¬ r.Names old row := by
  constructor
  · intro heq r hr hother hn
    have hcol:=congrFun heq r.column
    rw [renameAll_of_names h hr hn] at hcol
    -- the column of the forgotten reference is as it was
    have hkept : renameOne done old new row r.column=row r.column := by
      cases done with
      | none => rfl
      | some r' =>
        show r'.rename old new row r.column=row r.column
        unfold Reference.rename
        split
        · rename_i hn'
          refine update_of_ne (fun hc => hother ?_) _ _
          rw [h.unique hr (hdone r' rfl) hc hn hn']
        · rfl
    rw [hkept,hn.1] at hcol
    exact hne (key_append_inj (Value.text.inj hcol))
  · intro hall
    funext c
    cases done with
    | none =>
      refine (renameAll_of_not_names fun r hr _ => hall r hr (by simp)).symm
    | some r' =>
      show r'.rename old new row c=_
      unfold Reference.rename
      by_cases hn' : r'.Names old row
      · rw [if_pos hn']
        by_cases hc : c=r'.column
        · rw [hc,update_self,renameAll_of_names h (hdone r' rfl) hn']
        · rw [update_of_ne hc]
          refine (renameAll_of_not_names fun r hr hrc => hall r hr fun he => ?_).symm
          cases he
          exact hc hrc.symm
      · rw [if_neg hn']
        refine (renameAll_of_not_names fun r hr _ hn => ?_).symm
        by_cases he : r=r'
        · exact hn' (he ▸ hn)
        · exact hall r hr (fun h => he (Option.some.inj h)) hn

end BetterDesk.Relational
