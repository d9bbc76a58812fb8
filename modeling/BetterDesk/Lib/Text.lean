import Mathlib.Data.List.DropRight
import Mathlib.Data.Fintype.EquivFin

/-! # Byte strings -/

namespace BetterDesk.Text
open List

abbrev Bytes := List UInt8

def lit (s : String) : Bytes := s.toUTF8.data.toList

def hasPrefix (s pre : String) : Bool := (lit pre).isPrefixOf (lit s)

def asciiLower (b : UInt8) : UInt8 := if 65≤b ∧ b≤90 then b+32 else b

def equalFold (a b : Bytes) : Bool := a.map asciiLower==b.map asciiLower

/-- What stands before and after the first `sep`. -/
def cut (sep : UInt8) : Bytes → Option (Bytes × Bytes)
  | [] => none
  | b::rest => if b=sep then some ([],rest) else (cut sep rest).map fun p => (b::p.1,p.2)

theorem cut_eq {sep : UInt8} {t a b : Bytes} (h : cut sep t=some (a,b)) : t=a++sep::b ∧ sep∉a := by
  induction t generalizing a with
  | nil => cases h
  | cons x rest ih =>
    unfold cut at h
    split at h
    · rename_i hx
      cases h
      exact ⟨by rw [hx]; rfl,not_mem_nil⟩
    · rename_i hx
      obtain ⟨⟨a',b'⟩,hc,he⟩:=Option.map_eq_some_iff.mp h
      cases he
      obtain ⟨rfl,hn⟩:=ih hc
      refine ⟨rfl,fun hm => ?_⟩
      rcases mem_cons.mp hm with hm | hm
      · exact hx hm.symm
      · exact hn hm

def spaceRunes : List Bytes :=
  [[9],[10],[11],[12],[13],[32],[0xC2,0x85],[0xC2,0xA0],[0xE1,0x9A,0x80],
    [0xE2,0x80,0x80],[0xE2,0x80,0x81],[0xE2,0x80,0x82],[0xE2,0x80,0x83],
    [0xE2,0x80,0x84],[0xE2,0x80,0x85],[0xE2,0x80,0x86],[0xE2,0x80,0x87],
    [0xE2,0x80,0x88],[0xE2,0x80,0x89],[0xE2,0x80,0x8A],[0xE2,0x80,0xA8],
    [0xE2,0x80,0xA9],[0xE2,0x80,0xAF],[0xE2,0x81,0x9F],[0xE3,0x80,0x80]]

/-- Drop the words of `rs` from the front, `fuel` of them at most. -/
def dropWords (rs : List Bytes) : ℕ → Bytes → Bytes
  | 0, t => t
  | fuel+1, t => match rs.find? fun r => r.isPrefixOf t with
    | some r => dropWords rs fuel (t.drop r.length)
    | none => t

def trimLeft (t : Bytes) : Bytes := dropWords spaceRunes t.length t

def trimRight (t : Bytes) : Bytes :=
  (dropWords (spaceRunes.map List.reverse) t.length t.reverse).reverse

def trimSpace (t : Bytes) : Bytes := trimRight (trimLeft t)

theorem dropWords_eq_self {rs : List Bytes} {fuel : ℕ} {t : Bytes}
    (h : ∀ r∈rs,¬ r <+: t) : dropWords rs fuel t=t := by
  cases fuel with
  | zero => rfl
  | succ n =>
    have hnone : rs.find? (fun r => r.isPrefixOf t)=none := by
      rw [List.find?_eq_none]
      intro r hr
      rw [ isPrefixOf_iff_prefix]
      exact h r hr
    rw [dropWords,hnone]

theorem trimSpace_ne {t : Bytes} (h : trimSpace t≠t) : (∃ r∈spaceRunes,r <+: t) ∨ ∃ r∈spaceRunes,r <:+ t := by
  by_contra hn
  simp only [not_or,not_exists,not_and] at hn
  obtain ⟨hl,hr⟩:=hn
  have hleft : trimLeft t=t := dropWords_eq_self hl
  refine h ?_
  rw [trimSpace,hleft,trimRight,dropWords_eq_self,reverse_reverse]
  intro r hr' hp
  obtain ⟨q,hq,rfl⟩:=mem_map.mp hr'
  exact hr q hq ( reverse_prefix.mp hp)

theorem dropWords_suffix (rs : List Bytes) (fuel : ℕ) (t : Bytes) : dropWords rs fuel t <:+ t := by
  induction fuel generalizing t with
  | zero => exact suffix_rfl
  | succ fuel ih =>
    unfold dropWords
    split
    · exact (ih _).trans (drop_suffix _ _)
    · exact suffix_rfl

theorem dropWords_clean (rs : List Bytes) (hne : ∀ r∈rs,r≠[]) (fuel : ℕ) (t : Bytes)
    (hf : t.length≤fuel) : ∀ r∈rs,¬ r <+: dropWords rs fuel t := by
  induction fuel generalizing t with
  | zero =>
    intro r hr hp
    have hnil : t=[] := length_eq_zero_iff.mp (Nat.le_zero.mp hf)
    rw [dropWords,hnil,prefix_nil] at hp
    exact hne r hr hp
  | succ fuel ih =>
    unfold dropWords
    split
    · rename_i w hw
      have hpos : 0<w.length := length_pos_iff.mpr (hne w (mem_of_find?_eq_some hw))
      refine ih _ ?_
      rw [length_drop]
      omega
    · rename_i hnone
      intro r hr hp
      have hno:=List.find?_eq_none.mp hnone r hr
      rw [ isPrefixOf_iff_prefix] at hno
      exact hno hp

theorem trimSpace_trimSpace (t : Bytes) : trimSpace (trimSpace t)=trimSpace t := by
  by_contra hne
  rcases trimSpace_ne hne with ⟨r,hr,hp⟩ | ⟨r,hr,hs⟩
  · have hleft : trimSpace t <+: trimLeft t :=
      reverse_suffix.mp (by rw [trimSpace,trimRight,reverse_reverse]; exact dropWords_suffix ..)
    exact dropWords_clean spaceRunes (by decide) _ _ le_rfl r hr (hp.trans hleft)
  · refine dropWords_clean (spaceRunes.map List.reverse) (by decide) (trimLeft t).length
      (trimLeft t).reverse (by rw [length_reverse]) r.reverse (mem_map_of_mem hr) ?_
    exact reverse_suffix.mp (by rw [reverse_reverse]; exact hs)

section Fields
variable {α β : Type*}

theorem splitOnP_map (f : α → β) (p : β → Bool) (l : List α) :
    (l.map f).splitOnP p=(l.splitOnP fun a => p (f a)).map (List.map f) := by
  induction l with
  | nil => rfl
  | cons a l ih =>
    rw [map_cons,splitOnP_cons_eq_if_modifyHead,splitOnP_cons_eq_if_modifyHead,ih]
    split
    · rfl
    · cases l.splitOnP fun a => p (f a) <;> rfl

theorem splitOnP_or (p q : α → Bool) (l : List α) :
    (l.splitOnP fun a => p a||q a)=(l.splitOnP p).flatMap (List.splitOnP q) := by
  induction l with
  | nil => rfl
  | cons a l ih =>
    rw [splitOnP_cons_eq_if_modifyHead,splitOnP_cons_eq_if_modifyHead,ih]
    obtain ⟨first,rest,hl⟩:=exists_cons_of_ne_nil (splitOnP_ne_nil p l)
    by_cases hp : p a=true
    · simp [hp]
    · by_cases hq : q a=true
      · simp [hp,hq,hl,splitOnP_cons_eq_if_modifyHead]
      · obtain ⟨piece,pieces,hf⟩:=exists_cons_of_ne_nil (splitOnP_ne_nil q first)
        simp [hp,hq,hl,hf,splitOnP_cons_eq_if_modifyHead]

end Fields

def isSpace (c : Char) : Bool :=
  c.toNat∈[9,10,11,12,13,32,0x85,0xA0,0x1680,0x2028,0x2029,0x202F,0x205F,0x3000] ||
    (0x2000≤c.toNat&&c.toNat≤0x200A)

def trimString (s : String) : String :=
  String.ofList ((s.toList.dropWhile isSpace).reverse.dropWhile isSpace).reverse

theorem trimString_eq (s : String) :
    trimString s=String.ofList ((s.toList.dropWhile isSpace).rdropWhile isSpace) := rfl

theorem trim_trim (p : Char → Bool) (l : List Char) :
    (((l.dropWhile p).rdropWhile p).dropWhile p).rdropWhile p=(l.dropWhile p).rdropWhile p := by
  have hhead : ((l.dropWhile p).rdropWhile p).dropWhile p=(l.dropWhile p).rdropWhile p := by
    rw [dropWhile_eq_self_iff]
    intro hl
    have hpre := rdropWhile_prefix p (l.dropWhile p)
    rw [hpre.getElem hl]
    exact dropWhile_get_zero_not p l (lt_of_lt_of_le hl hpre.length_le)
  rw [hhead,rdropWhile_idempotent]

theorem trimString_trimString (s : String) : trimString (trimString s)=trimString s := by
  rw [trimString_eq,trimString_eq,String.toList_ofList,trim_trim]

theorem trimString_eq_self {s : String} (h : ∀ c∈s.toList,isSpace c=false) : trimString s=s := by
  have hfront : s.toList.dropWhile isSpace=s.toList := by
    rw [dropWhile_eq_self_iff]
    intro hl hp
    rw [h _ (getElem_mem hl)] at hp
    cases hp
  have hback : s.toList.rdropWhile isSpace=s.toList := by
    rw [rdropWhile_eq_self_iff]
    intro hne hp
    rw [h _ (getLast_mem hne)] at hp
    cases hp
  rw [trimString_eq,hfront,hback,String.ofList_toList]

theorem trimString_map {f : Char → Char} (h : ∀ c, isSpace (f c)=isSpace c) (s : String) :
    trimString (String.ofList (s.toList.map f))=String.ofList ((trimString s).toList.map f) := by
  have hcomp : isSpace ∘ f=isSpace := funext h
  rw [trimString_eq,trimString_eq,String.toList_ofList,String.toList_ofList]
  simp only [List.rdropWhile,dropWhile_map,← map_reverse,hcomp]

def trimPrefix (s pre : String) : String :=
  if hasPrefix s pre then String.ofList (s.toList.drop pre.length) else s

/-- Lower case as far as a comparison with ASCII text can tell: two letters
outside ASCII have an ASCII lower case. -/
def lowerChar (c : Char) : Char :=
  if c.toNat=0x212A then 'k' else if c.toNat=0x130 then 'i' else c.toLower

def lowerString (s : String) : String := String.ofList (s.toList.map lowerChar)

theorem toLower_cases (c : Char) : c.toLower=c ∨ c∈(List.range' 65 26).map Char.ofNat := by
  by_cases h : 65≤c.toNat ∧ c.toNat≤90
  · right
    refine mem_map.mpr ⟨c.toNat,?_,Char.ofNat_toNat c⟩
    simp only [mem_range'_1]
    omega
  · left
    exact dif_neg h

theorem lowerString_toList (s : String) : (lowerString s).toList=s.toList.map lowerChar :=
  String.toList_ofList

theorem lowerChar_cases (c : Char) : lowerChar c=c ∨
    c∈Char.ofNat 0x212A::Char.ofNat 0x130::(List.range' 65 26).map Char.ofNat := by
  by_cases hkelvin : c.toNat=0x212A
  · exact .inr (by rw [← hkelvin,Char.ofNat_toNat]; exact mem_cons_self)
  · by_cases hdotted : c.toNat=0x130
    · exact .inr (mem_cons_of_mem _ (by rw [← hdotted,Char.ofNat_toNat]; exact mem_cons_self))
    · rw [lowerChar,if_neg hkelvin,if_neg hdotted]
      rcases toLower_cases c with h | h
      · exact .inl h
      · exact .inr (mem_cons_of_mem _ (mem_cons_of_mem _ h))

theorem not_space_of_lowerString {s : String} (h : ∀ c∈(lowerString s).toList, isSpace c=false) :
    ∀ c∈s.toList,isSpace c=false := by
  intro c hc
  have hlower : isSpace (lowerChar c)=false :=
    h _ (by rw [lowerString_toList]; exact mem_map_of_mem hc)
  rcases lowerChar_cases c with he | hletter
  · rwa [he] at hlower
  · have hnone : ((Char.ofNat 0x212A::Char.ofNat 0x130::(List.range' 65 26).map Char.ofNat).all
        fun c => isSpace c=false)=true := by decide
    exact decide_eq_true_eq.mp (all_eq_true.mp hnone c hletter)

/-- `strings.EqualFold` with a text of small Latin letters and separators: two
letters outside ASCII fold into it. -/
def equalFoldString (s lower : String) : Bool :=
  s.toList.map (fun c => if c.toNat=0x212A then 'k' else if c.toNat=0x17F then 's' else c.toLower) =
    lower.toList

def lowerBytes : Bytes → Bytes
  | 0xE2::0x84::0xAA::t => 107::lowerBytes t
  | 0xC4::0xB0::t => 105::lowerBytes t
  | b::t => asciiLower b::lowerBytes t
  | [] => []

def hexValue (b : UInt8) : Option UInt8 :=
  if 48≤b ∧ b≤57 then some (b-48)
  else if 97≤b ∧ b≤102 then some (b-87)
  else if 65≤b ∧ b≤70 then some (b-55)
  else none

def hexDecode : Bytes → Option Bytes
  | [] => some []
  | [_] => none
  | a::b::rest => do
    let x ← hexValue a
    let y ← hexValue b
    let bytes ← hexDecode rest
    pure ((x*16+y)::bytes)

def hexDigit (n : UInt8) : UInt8 := if n<10 then n+48 else n+87

def hexEncode (t : Bytes) : Bytes := t.flatMap fun b => [hexDigit (b/16),hexDigit (b%16)]

theorem infinite_string : Infinite String :=
  Infinite.of_injective (fun n => String.ofList (List.replicate n 'a')) fun m n h => by
    have hl:=congrArg (fun s : String => s.toList.length) h
    simpa using hl

theorem exists_not_mem (l : List String) : ∃ s, s∉l := by
  have := infinite_string
  obtain ⟨s,hs⟩:=Infinite.exists_notMem_finset l.toFinset
  exact ⟨s,fun h => hs (mem_toFinset.mpr h)⟩

end BetterDesk.Text
