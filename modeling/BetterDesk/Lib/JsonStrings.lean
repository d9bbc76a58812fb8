import BetterDesk.Lib.Text
import Mathlib.Algebra.Order.Ring.Nat

/-! # Lists of strings in JSON (encoding/json) -/

namespace BetterDesk.JsonStrings
open Text List Nat

def quote : Char := Char.ofNat 34
def backslash : Char := Char.ofNat 92

def hexChar (n : ℕ) : Char := Char.ofNat (if n<10 then 48+n else 87+n)

def escapes : List (Char × Char) :=
  [(quote,quote),(backslash,backslash),(Char.ofNat 8, 'b'),(Char.ofNat 12, 'f'),(Char.ofNat 10, 'n'),
    (Char.ofNat 13, 'r'),(Char.ofNat 9, 't')]

/-- Control characters, those of HTML, and the separators of lines and paragraphs. -/
def escaped (n : ℕ) : Bool := n<32||n=38||n=60||n=62||n=0x2028||n=0x2029

def escape (c : Char) : List Char :=
  match escapes.find? fun e => e.1=c with
  | some e => [backslash,e.2]
  | none =>
    if escaped c.toNat then
      [backslash, 'u',hexChar (c.toNat/4096),hexChar (c.toNat/256%16),hexChar (c.toNat/16%16),
        hexChar (c.toNat%16)]
    else [c]

def writeString (s : String) : List Char := quote::s.toList.flatMap escape++[quote]

def writeElements : List String → List Char
  | [] => []
  | [s] => writeString s
  | s::l => writeString s ++ ',' :: writeElements l

def marshal (l : List String) : String := String.ofList ('[' :: writeElements l++[']'])

def hexDigitOf (c : Char) : Option ℕ :=
  if 48≤c.toNat&&c.toNat≤57 then some (c.toNat-48)
  else if 97≤c.toNat&&c.toNat≤102 then some (c.toNat-87)
  else if 65≤c.toNat&&c.toNat≤70 then some (c.toNat-55)
  else none

def getu4 (a b c d : Char) : Option ℕ :=
  match hexDigitOf a, hexDigitOf b, hexDigitOf c, hexDigitOf d with
  | some a, some b, some c, some d => some (a*4096+b*256+c*16+d)
  | _, _, _, _ => none

def isSurrogate (n : ℕ) : Bool := 0xD800≤n&&n<0xE000

def replacement : Char := Char.ofNat 0xFFFD

/-- `utf16.DecodeRune`, for two surrogates in their order. -/
def decodeRune (high low : ℕ) : Option Char :=
  if 0xD800≤high&&high<0xDC00&&0xDC00≤low&&low<0xE000 then
    some (Char.ofNat ((high-0xD800)*0x400+(low-0xDC00)+0x10000))
  else none

def unescape (e : Char) : Option Char := ((('/', '/')::escapes).find? fun p => p.2=e).map Prod.fst

def readString : List Char → Option (List Char × List Char)
  | [] => none
  | c::rest =>
    if c=quote then some ([],rest)
    else if c=backslash then
      match rest with
      | [] => none
      | e::rest =>
        if e = 'u' then
          match rest with
          | a::b::c::d::rest =>
            match getu4 a b c d with
            | none => none
            | some n =>
              if isSurrogate n then
                match rest with
                | x::y::a::b::c::d::after =>
                  match if x=backslash ∧ y = 'u' then (getu4 a b c d).bind (decodeRune n) else none with
                  | some r => (readString after).map fun t => (r::t.1,t.2)
                  | none => (readString (x::y::a::b::c::d::after)).map fun t => (replacement::t.1,t.2)
                | rest => (readString rest).map fun t => (replacement::t.1,t.2)
              else (readString rest).map fun t => (Char.ofNat n::t.1,t.2)
          | _ => none
        else match unescape e with
          | some r => (readString rest).map fun t => (r::t.1,t.2)
          | none => none
    else if c.toNat<32 then none
    else (readString rest).map fun t => (c::t.1,t.2)

def jsonSpace (c : Char) : Bool := c.toNat=32||c.toNat=9||c.toNat=10||c.toNat=13

def skipSpace (t : List Char) : List Char := t.dropWhile jsonSpace

def readNull : List Char → Option (List Char)
  | 'n' :: 'u' :: 'l' :: 'l' :: rest => some rest
  | _ => none

def readElement (t : List Char) : Option (String × List Char) :=
  match t with
  | [] => none
  | c::rest =>
    if c=quote then (readString rest).map fun t => (String.ofList t.1,t.2)
    else (readNull t).map fun rest => ("",rest)

/-- The elements up to the bracket. Each is longer than nothing, so `fuel` can be the length. -/
def readElements : ℕ → List Char → Option (List String × List Char)
  | 0, _ => none
  | fuel+1, t => match readElement (skipSpace t) with
    | none => none
    | some (s,rest) => match skipSpace rest with
      | ',' :: rest => (readElements fuel rest).map fun r => (s::r.1,r.2)
      | ']' :: rest => some ([s],rest)
      | _ => none

def readArray (t : List Char) : Option (List String × List Char) :=
  match skipSpace t with
  | ']' :: rest => some ([],rest)
  | _ => readElements t.length t

def readValue (t : List Char) : Option (List String × List Char) :=
  match t with
  | '[' :: rest => readArray rest
  | _ => (readNull t).map fun rest => ([],rest)

def unmarshal (text : String) : Option (List String) :=
  match readValue (skipSpace text.toList) with
  | some (l,rest) => if skipSpace rest=[] then some l else none
  | none => none

theorem hexDigitOf_hexChar : ∀ n, n<16 → hexDigitOf (hexChar n)=some n := by
  decide

theorem getu4_hexChar {n : ℕ} (h : n<65536) :
    getu4 (hexChar (n/4096)) (hexChar (n/256%16)) (hexChar (n/16%16)) (hexChar (n%16))=some n := by
  unfold getu4
  rw [hexDigitOf_hexChar _ (by omega),hexDigitOf_hexChar _ (by omega),hexDigitOf_hexChar _ (by omega),
    hexDigitOf_hexChar _ (by omega)]
  refine congrArg some ?_
  omega

theorem escapes_read : escapes.all (fun e => e.2 ≠ 'u'&&unescape e.2=some e.1)=true := by
  decide

theorem backslash_ne_quote : backslash≠quote := by
  decide

theorem readString_quote (rest : List Char) : readString (quote::rest)=some ([],rest) := by
  unfold readString
  rw [if_pos rfl]

theorem readString_escape (c : Char) (rest : List Char) :
    readString (escape c++rest)=(readString rest).map fun t => (c::t.1,t.2) := by
  unfold escape
  split
  · rename_i e he
    obtain ⟨hu,hread⟩ : e.2 ≠ 'u' ∧ unescape e.2=some e.1 := by
      simpa using all_eq_true.mp escapes_read e (mem_of_find?_eq_some he)
    have hc : e.1=c := by simpa using List.find?_some he
    show readString (backslash::e.2::rest)=_
    conv_lhs => unfold readString
    rw [if_neg backslash_ne_quote,if_pos rfl]
    dsimp only
    rw [if_neg hu,hread,hc]
  · rename_i hno
    have hplain (e : Char × Char) (he : e∈escapes) : c≠e.1 := by
      intro h
      have hne:=List.find?_eq_none.mp hno e he
      simp [h] at hne
    split
    · rename_i hesc
      have hsmall : c.toNat<65536 ∧ ¬ (0xD800≤c.toNat ∧ c.toNat<0xE000) := by
        simp only [escaped,Bool.or_eq_true,decide_eq_true_eq] at hesc
        omega
      have hsurrogate : isSurrogate c.toNat=false := by
        simpa [isSurrogate] using hsmall.2
      show readString (backslash :: 'u' :: hexChar (c.toNat/4096)::hexChar (c.toNat/256%16) ::
        hexChar (c.toNat/16%16)::hexChar (c.toNat%16)::rest)=_
      conv_lhs => unfold readString
      rw [if_neg backslash_ne_quote,if_pos rfl]
      dsimp only
      rw [if_pos rfl]
      rw [getu4_hexChar hsmall.1]
      dsimp only
      rw [hsurrogate,if_neg Bool.false_ne_true,Char.ofNat_toNat]
    · rename_i hesc
      have hcontrol : ¬ c.toNat<32 := by
        intro h
        simp [escaped,h] at hesc
      show readString (c::rest)=_
      conv_lhs => unfold readString
      rw [if_neg (hplain (quote,quote) (by decide)),if_neg (hplain (backslash,backslash) (by decide)),
        if_neg hcontrol]

theorem readString_flatMap (l rest : List Char) : readString (l.flatMap escape++quote::rest)=some (l,rest) := by
  induction l with
  | nil => exact readString_quote rest
  | cons c l ih =>
    rw [flatMap_cons,append_assoc,readString_escape,ih]
    rfl

theorem skipSpace_cons {c : Char} (rest : List Char) (h : jsonSpace c=false) : skipSpace (c::rest)=c::rest := by
  unfold skipSpace
  rw [dropWhile_cons_of_neg (by simp [h])]

theorem readElement_writeString (s : String) (rest : List Char) :
    readElement (skipSpace (writeString s++rest))=some (s,rest) := by
  unfold writeString
  rw [cons_append,cons_append,skipSpace_cons _ (by decide)]
  unfold readElement
  dsimp only
  rw [if_pos rfl,append_assoc,singleton_append,readString_flatMap,Option.map_some,String.ofList_toList]

theorem readElements_write (s : String) (l : List String) (rest : List Char) {fuel : ℕ} (h : l.length<fuel) :
    readElements fuel (writeElements (s::l) ++ ']' :: rest)=some (s::l,rest) := by
  induction l generalizing s fuel with
  | nil =>
    obtain ⟨fuel,rfl⟩:=exists_eq_succ_of_ne_zero (ne_of_gt h)
    show readElements (fuel+1) (writeString s ++ ']' :: rest)=_
    unfold readElements
    rw [readElement_writeString]
    dsimp only
    rw [skipSpace_cons _ (by decide)]
    rfl
  | cons s' l ih =>
    obtain ⟨fuel,rfl⟩:=exists_eq_succ_of_ne_zero (ne_of_gt (lt_of_le_of_lt (zero_le _) h))
    show readElements (fuel+1) ((writeString s ++ ',' :: writeElements (s'::l)) ++ ']' :: rest)=_
    rw [append_assoc,cons_append]
    unfold readElements
    rw [readElement_writeString]
    dsimp only
    rw [skipSpace_cons _ (by decide)]
    show (readElements fuel (writeElements (s'::l) ++ ']' :: rest)).map _=_
    rw [ih s' (lt_of_succ_lt_succ h)]
    rfl

theorem length_le_writeElements (l : List String) : l.length≤(writeElements l).length := by
  induction l with
  | nil => exact le_refl _
  | cons s l ih =>
    cases l with
    | nil => simp [writeElements,writeString]
    | cons s' l =>
      simp only [writeElements,length_append,length_cons] at ih ⊢
      omega

theorem unmarshal_marshal (l : List String) : unmarshal (marshal l)=some l := by
  have hread : readArray (writeElements l++[']'])=some (l,[]) := by
    cases l with
    | nil => rfl
    | cons s l =>
      have hhead : ∃ t, writeElements (s::l)=quote::t := by
        cases l with
        | nil | cons => exact ⟨_,rfl⟩
      have hlength:=length_le_writeElements (s::l)
      have hfuel : l.length<(writeElements (s::l)++[']']).length := by
        rw [length_append]
        simp only [length_cons] at hlength ⊢
        omega
      have helems:=readElements_write s l [] hfuel
      obtain ⟨t,ht⟩:=hhead
      unfold readArray
      rw [ht,cons_append,skipSpace_cons _ (by decide)]
      rw [ht,cons_append] at helems
      exact helems
  unfold unmarshal marshal
  rw [String.toList_ofList,cons_append,skipSpace_cons _ (by decide)]
  show (match readArray (writeElements l++[']']) with
    | some (l,rest) => if skipSpace rest=[] then some l else none
    | none => none)=_
  rw [hread]
  rfl

theorem trimString_marshal (l : List String) : trimString (marshal l)=marshal l := by
  unfold marshal
  rw [trimString_eq,String.toList_ofList,cons_append,dropWhile_cons_of_neg (by decide),
    ← cons_append,rdropWhile_concat_neg _ _ _ (by decide)]

end BetterDesk.JsonStrings
