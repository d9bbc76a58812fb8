import Mathlib.Data.List.Basic

/-! # JSON values -/

namespace BetterDesk

inductive Json
  | null
  | bool (value : Bool)
  | num (digits : String)
  | str (value : String)
  | arr (items : List Json)
  | obj (members : List (String × Json))

namespace Json

abbrev Members := List (String × Json)

def asString : Json → Option String
  | str s => some s
  | _ => none

def asObject : Json → Option Members
  | obj m => some m
  | _ => none

def get (m : Members) (key : String) : Option Json := (m.find? fun e => e.1=key).map Prod.snd

def set : Members → String → Json → Members
  | [], key, v => [(key,v)]
  | (k,w)::rest, key, v => if k=key then (key,v)::rest else (k,w)::set rest key v

def strings : Option Json → List String
  | some (arr items) => items.filterMap asString
  | _ => []

def objects : Option Json → List Members
  | some (arr items) => items.filterMap asObject
  | _ => []

variable {m : Members} {key : String} {v : Json}

@[simp] theorem get_nil (key : String) : get [] key=none := rfl

theorem get_cons (k : String) (w : Json) (rest : Members) (key : String) :
    get ((k,w)::rest) key = if k=key then some w else get rest key := by
  unfold get
  by_cases h : k=key
  · rw [List.find?_cons_of_pos (by simpa using h),if_pos h]
    rfl
  · rw [List.find?_cons_of_neg (by simpa using h),if_neg h]

@[simp] theorem get_set_self (m : Members) (key : String) (v : Json) : get (set m key v) key=some v := by
  induction m with
  | nil => rw [set,get_cons,if_pos rfl]
  | cons e rest ih =>
    obtain ⟨k,w⟩:=e
    rw [set]
    split
    · rw [get_cons,if_pos rfl]
    · rename_i h
      rw [get_cons,if_neg h,ih]

theorem get_set_of_ne (m : Members) (v : Json) {key other : String} (hne : other≠key) :
    get (set m key v) other=get m other := by
  induction m with
  | nil => rw [set,get_cons,if_neg (Ne.symm hne),get_nil]
  | cons e rest ih =>
    obtain ⟨k,w⟩:=e
    rw [set]
    split
    · rename_i h
      rw [get_cons,get_cons,if_neg (Ne.symm hne),if_neg (h ▸ Ne.symm hne)]
    · rw [get_cons,get_cons,ih]

@[simp] theorem objects_arr (l : List Members) : objects (some (arr (l.map obj)))=l := by
  induction l with
  | nil => rfl
  | cons p l ih => exact congrArg (p::·) ih

end Json

end BetterDesk
