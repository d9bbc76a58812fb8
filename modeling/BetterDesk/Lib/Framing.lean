import BetterDesk.Lib.Text

/-! # Length-prefixed records -/

namespace BetterDesk.Framing
open Text List Nat

structure Units where
  split : ℕ → Bytes → Option (Bytes × Bytes)
  fits : ℕ → Bool
  split_append : ∀ {n t a r}, split n t=some (a,r) → ∀ q, split n (t++q)=some (a,r++q)
  split_length : ∀ {n t a r}, split n t=some (a,r) → r.length≤t.length

inductive Parsed (α : Type)
  | done (value : α) (rest : Bytes)
  | more
  | bad

def isDigit (b : UInt8) : Bool := 48≤b&&b≤57

def decimal (n : ℕ) : Bytes := (Nat.toDigits 10 n).map fun c => UInt8.ofNat c.toNat

def decimalValue (ds : Bytes) : ℕ := Nat.ofDigitChars 10 (ds.map fun b => Char.ofNat b.toNat) 0

theorem digit_byte {c : Char} (h : c.isDigit=true) :
    isDigit (UInt8.ofNat c.toNat)=true ∧ Char.ofNat (UInt8.ofNat c.toNat).toNat=c := by
  have hc : 48≤c.toNat ∧ c.toNat≤57 := by
    simp only [Char.isDigit,Bool.and_eq_true,decide_eq_true_eq] at h
    exact h
  have hn : (UInt8.ofNat c.toNat).toNat=c.toNat := by
    simp only [UInt8.toNat_ofNat']
    omega
  refine ⟨?_,by rw [hn,Char.ofNat_toNat]⟩
  simp only [isDigit,Bool.and_eq_true,decide_eq_true_eq,UInt8.le_iff_toNat_le,hn]
  exact hc

theorem decimal_digits (n : ℕ) : ∀ b∈decimal n, isDigit b=true := by
  intro b hb
  obtain ⟨c,hc,rfl⟩:=mem_map.mp hb
  exact (digit_byte (isDigit_of_mem_toDigits (by decide) (by decide) hc)).1

theorem decimal_ne_nil (n : ℕ) : decimal n≠[] := by
  simp [decimal,toDigits_ne_nil]

theorem decimalValue_decimal (n : ℕ) : decimalValue (decimal n)=n := by
  have hback : ((Nat.toDigits 10 n).map fun c => UInt8.ofNat c.toNat).map (fun b => Char.ofNat b.toNat) =
      Nat.toDigits 10 n := by
    rw [map_map]
    conv_rhs => rw [← map_id (Nat.toDigits 10 n)]
    refine map_congr_left fun c hc => ?_
    exact (digit_byte (isDigit_of_mem_toDigits (by decide) (by decide) hc)).2
  rw [decimalValue,decimal,hback,ofDigitChars_ten_toDigits]

def dot : UInt8 := 46
def comma : UInt8 := 44
def semicolon : UInt8 := 59

def separator (value : Bytes) : Bytes → Parsed (Bytes × Bool)
  | [] => .more
  | c::rest =>
    if c=comma then .done (value,true) rest
    else if c=semicolon then .done (value,false) rest
    else .bad

def content (u : Units) (length : ℕ) : Bytes → Parsed (Bytes × Bool)
  | [] => .more
  | c::rest =>
    if c≠dot then .bad
    else if u.fits length=false then .bad
    else match u.split length rest with
      | none => .more
      | some (value,rest) => separator value rest

def field (u : Units) (t : Bytes) : Parsed (Bytes × Bool) :=
  if t=[] then .more
  else if t.takeWhile isDigit=[] then .bad
  else content u (decimalValue (t.takeWhile isDigit)) (t.dropWhile isDigit)

/-- The fields up to the end of the record, `fuel` of them at most. -/
def fields (u : Units) : ℕ → Bytes → Parsed (List Bytes)
  | 0, _ => .more
  | fuel+1, t => match field u t with
    | .more => .more
    | .bad => .bad
    | .done (value,false) rest => .done [value] rest
    | .done (value,true) rest => match fields u fuel rest with
      | .done values rest => .done (value::values) rest
      | .more => .more
      | .bad => .bad

def record (u : Units) (t : Bytes) : Parsed (List Bytes) := fields u t.length t

def recordsFuel (u : Units) : ℕ → Bytes → List (List Bytes)
  | 0, _ => []
  | fuel+1, t => match record u t with
    | .done values rest => values::recordsFuel u fuel rest
    | _ => []

def records (u : Units) (t : Bytes) : List (List Bytes) := recordsFuel u t.length t

variable {u : Units}

variable {t rest value : Bytes} {values : List Bytes} {len : Bytes → ℕ} {x : Bytes × Bool}

theorem separator_append (h : separator value t=.done x rest)
    (q : Bytes) : separator value (t++q)=.done x (rest++q) ∧ rest.length<t.length := by
  cases t with
  | nil => cases h
  | cons c t =>
    rw [cons_append]
    unfold separator at h ⊢
    dsimp only at h ⊢
    by_cases hcomma : c=comma
    · rw [if_pos hcomma] at h ⊢
      cases h
      exact ⟨rfl,lt_succ_self _⟩
    · rw [if_neg hcomma] at h ⊢
      by_cases hsemi : c=semicolon
      · rw [if_pos hsemi] at h ⊢
        cases h
        exact ⟨rfl,lt_succ_self _⟩
      · rw [if_neg hsemi] at h
        cases h

theorem content_append {length : ℕ} (h : content u length t=.done x rest) (q : Bytes) :
    content u length (t++q)=.done x (rest++q) ∧ rest.length<t.length := by
  cases t with
  | nil => cases h
  | cons c t =>
    rw [cons_append]
    unfold content at h ⊢
    dsimp only at h ⊢
    by_cases hdot : c≠dot
    · rw [if_pos hdot] at h
      cases h
    · rw [if_neg hdot] at h ⊢
      by_cases hfits : u.fits length=false
      · rw [if_pos hfits] at h
        cases h
      · rw [if_neg hfits] at h ⊢
        cases hs : u.split length t with
        | none =>
          rw [hs] at h
          cases h
        | some p =>
          rw [hs] at h
          obtain ⟨value,rest'⟩:=p
          obtain ⟨hsep,hlt⟩:=separator_append h q
          have hle:=u.split_length hs
          rw [u.split_append hs q]
          exact ⟨hsep,by rw [length_cons]; omega⟩

theorem takeWhile_append_stop {p : UInt8 → Bool} (h : t.dropWhile p≠[]) (q : Bytes) :
    (t++q).takeWhile p=t.takeWhile p ∧ (t++q).dropWhile p=t.dropWhile p++q := by
  have hlen : (t.takeWhile p).length≠t.length := by
    intro hl
    refine h ?_
    have happ:=congrArg List.length (takeWhile_append_dropWhile (p := p) (l := t))
    rw [length_append] at happ
    exact length_eq_zero_iff.mp (by omega)
  refine ⟨?_,?_⟩
  · rw [takeWhile_append,if_neg hlen]
  · rw [dropWhile_append,if_neg (by simpa using h)]

theorem field_append (h : field u t=.done x rest) (q : Bytes) :
    field u (t++q)=.done x (rest++q) ∧ rest.length<t.length := by
  unfold field at h
  split at h
  · cases h
  · rename_i hne
    split at h
    · cases h
    · rename_i hds
      -- the digits end inside `t`, since a dot has been read after them
      have hdrop : t.dropWhile isDigit≠[] := by
        intro hnil
        rw [hnil] at h
        cases h
      have hlen : (t.dropWhile isDigit).length≤t.length := (dropWhile_sublist _).length_le
      obtain ⟨hc,hlt⟩:=content_append h q
      obtain ⟨htake,hdropq⟩:=takeWhile_append_stop hdrop q
      refine ⟨?_,by omega⟩
      rw [field,if_neg (by simp [hne]),htake,if_neg hds,hdropq]
      exact hc

theorem fields_append {fuel : ℕ} (h : fields u fuel t=.done values rest) (q : Bytes) {fuel' : ℕ} (hf : fuel≤fuel') :
    fields u fuel' (t++q)=.done values (rest++q) ∧ rest.length<t.length := by
  induction fuel generalizing t values fuel' with
  | zero => cases h
  | succ fuel ih =>
    obtain ⟨fuel',rfl⟩ : ∃ n, fuel'=n+1 := ⟨fuel'-1,by omega⟩
    unfold fields at h ⊢
    cases hx : field u t with
    | more | bad =>
      rw [hx] at h
      cases h
    | done x rest₁ =>
      obtain ⟨value,following⟩:=x
      obtain ⟨hx',hlt⟩:=field_append hx q
      rw [hx] at h
      rw [hx']
      cases following with
      | false =>
        cases h
        exact ⟨rfl,hlt⟩
      | true =>
        dsimp only at h ⊢
        cases hrec : fields u fuel rest₁ with
        | more | bad =>
          rw [hrec] at h
          cases h
        | done values₁ rest₂ =>
          rw [hrec] at h
          cases h
          obtain ⟨hrec',hlt'⟩ := @ih _ _ hrec fuel' (by omega)
          rw [hrec']
          exact ⟨rfl,by omega⟩

theorem record_append (h : record u t=.done values rest) (q : Bytes) : record u (t++q)=.done values (rest++q) :=
  (fields_append h q (by rw [length_append]; omega)).1

theorem record_length (h : record u t=.done values rest) : rest.length<t.length :=
  (fields_append h [] (le_refl _)).2

theorem recordsFuel_eq {fuel : ℕ} (h : t.length≤fuel) : recordsFuel u fuel t=records u t := by
  suffices hboth : ∀ n m, t.length≤n → t.length ≤ m → recordsFuel u n t=recordsFuel u m t from
    hboth fuel t.length h (le_refl _)
  intro n m
  induction n generalizing m t with
  | zero =>
    intro hn _
    have hnil : t=[] := length_eq_zero_iff.mp (by omega)
    subst hnil
    cases m <;> rfl
  | succ n ih =>
    intro hn hm
    cases m with
    | zero =>
      have hnil : t=[] := length_eq_zero_iff.mp (by omega)
      subst hnil
      rfl
    | succ m =>
      unfold recordsFuel
      cases hr : record u t with
      | more => rfl
      | bad => rfl
      | done values rest =>
        have hlt:=record_length hr
        dsimp only
        rw [ih (t := rest) (by omega) m (by omega) (by omega)]

theorem records_done (h : record u t=.done values rest) : records u t=values::records u rest := by
  have hlt:=record_length h
  obtain ⟨n,hn⟩ : ∃ n, t.length=n+1 := ⟨t.length-1,by omega⟩
  rw [records,hn,recordsFuel,h]
  dsimp only
  rw [recordsFuel_eq (by omega)]

theorem records_stop (h : ∀ values rest, record u t ≠ .done values rest) : records u t=[] := by
  unfold records
  cases hn : t.length with
  | zero => rfl
  | succ n =>
    unfold recordsFuel
    cases hr : record u t with
    | done values rest => exact absurd hr (h values rest)
    | more => rfl
    | bad => rfl

theorem records_append (p q : Bytes) : records u p <+: records u (p++q) := by
  induction hn : p.length using Nat.strong_induction_on generalizing p with
  | _ n ih =>
    by_cases hdone : ∃ values rest, record u p=.done values rest
    · obtain ⟨values,rest,hr⟩:=hdone
      rw [records_done hr,records_done (record_append hr q)]
      exact prefix_cons_inj values |>.mpr (ih rest.length (hn ▸ record_length hr) rest rfl)
    · have hstop : records u p=[] := records_stop fun values rest hr => hdone ⟨values,rest,hr⟩
      rw [hstop]
      exact nil_prefix

/-- `len` is what the writer takes for the length of a value. -/
def encodeField (len : Bytes → ℕ) (value : Bytes) : Bytes := decimal (len value)++dot::value

def encode (len : Bytes → ℕ) : List Bytes → Bytes
  | [] => [semicolon]
  | [value] => encodeField len value++[semicolon]
  | value::values => encodeField len value++comma::encode len values

/-- The reader takes `value` for as long as the writer wrote it. -/
def Agrees (u : Units) (len : Bytes → ℕ) (value : Bytes) : Prop :=
  u.fits (len value)=true ∧ ∀ q, u.split (len value) (value++q)=some (value,q)

theorem field_encodeField (h : Agrees u len value) (q : Bytes) :
    field u (encodeField len value++q)=separator value q := by
  have htake : (encodeField len value++q).takeWhile isDigit=decimal (len value) ∧
      (encodeField len value++q).dropWhile isDigit=dot::(value++q) := by
    rw [encodeField,append_assoc,cons_append,
      takeWhile_append_of_pos (decimal_digits _),dropWhile_append_of_pos (decimal_digits _)]
    have hdot : isDigit dot=false := by decide
    rw [takeWhile_cons_of_neg (by simp [hdot]),dropWhile_cons_of_neg (by simp [hdot]),append_nil]
    exact ⟨rfl,rfl⟩
  have hne : encodeField len value++q≠[] := by simp [encodeField]
  rw [field,if_neg hne,htake.1,htake.2,if_neg (decimal_ne_nil _),decimalValue_decimal]
  simp [content,h.1,h.2 q]

theorem encode_length (len : Bytes → ℕ) (values : List Bytes) : values.length≤(encode len values).length := by
  induction values with
  | nil => exact zero_le _
  | cons value values ih =>
    cases values with
    | nil => simp [encode]
    | cons v vs =>
      simp only [encode,length_append,length_cons] at ih ⊢
      omega

theorem record_encode (h : ∀ v∈value::values, Agrees u len v) (q : Bytes) :
    record u (encode len (value::values)++q)=.done (value::values) q := by
  suffices hfuel : ∀ fuel, (value::values).length≤fuel →
      fields u fuel (encode len (value::values)++q)=.done (value::values) q by
    refine hfuel _ (le_trans (encode_length len _) ?_)
    rw [length_append]
    omega
  intro fuel
  induction values generalizing value fuel with
  | nil =>
    intro hf
    obtain ⟨n,rfl⟩ : ∃ n, fuel=n+1 := ⟨fuel-1,by simp at hf; omega⟩
    rw [encode,append_assoc,fields,field_encodeField (h value mem_cons_self)]
    rfl
  | cons v vs ih =>
    intro hf
    obtain ⟨n,rfl⟩ : ∃ n, fuel=n+1 := ⟨fuel-1,by simp at hf; omega⟩
    have hsep : separator value (comma::(encode len (v::vs)++q)) =
        .done (value,true) (encode len (v::vs)++q) := rfl
    have hrest := @ih v (fun w hw => h w (mem_cons_of_mem _ hw)) n
      (by simp only [length_cons] at hf ⊢; omega)
    rw [encode,append_assoc,cons_append,fields,field_encodeField (h value mem_cons_self),hsep]
    dsimp only
    rw [hrest]
    simp

theorem records_encode {rs : List (List Bytes)}
    (h : ∀ r∈rs,r≠[] ∧ ∀ v∈r,Agrees u len v) : records u (rs.flatMap (encode len))=rs := by
  induction rs with
  | nil => rfl
  | cons r rs ih =>
    obtain ⟨hne,hv⟩:=h r mem_cons_self
    obtain ⟨value,values,rfl⟩:=exists_cons_of_ne_nil hne
    rw [flatMap_cons,records_done (record_encode hv _),
      ih fun r' hr' => h r' (mem_cons_of_mem _ hr')]

/-- Lengths are counts of bytes, up to `limit`. -/
def byteUnits (limit : ℕ) : Units where
  split n t := if n≤t.length then some (t.take n,t.drop n) else none
  fits n := decide (n≤limit)
  split_append := by
    intro n t a r h q
    split at h
    · rename_i hle
      cases h
      rw [if_pos (by rw [length_append]; omega),take_append_of_le_length hle,
        drop_append_of_le_length hle]
    · cases h
  split_length := by
    intro n t a r h
    split at h
    · cases h
      rw [length_drop]
      omega
    · cases h

/-- The bytes of the code point that starts with this byte; a byte that starts
none stands for itself. -/
def runeLength (b : UInt8) : ℕ :=
  if 0xC0≤b ∧ b<0xE0 then 2 else if 0xE0≤b ∧ b<0xF0 then 3 else if 0xF0≤b ∧ b<0xF8 then 4 else 1

def splitRunes : ℕ → Bytes → Option (Bytes × Bytes)
  | 0, t => some ([],t)
  | _+1, [] => none
  | n+1, b::t =>
    if runeLength b≤t.length+1 then
      (splitRunes n ((b::t).drop (runeLength b))).map fun p => ((b::t).take (runeLength b)++p.1,p.2)
    else none

theorem splitRunes_append {n : ℕ} {a r : Bytes} (h : splitRunes n t=some (a,r)) (q : Bytes) :
    splitRunes n (t++q)=some (a,r++q) := by
  induction n generalizing t a with
  | zero =>
    cases h
    rfl
  | succ n ih =>
    cases t with
    | nil => cases h
    | cons b t =>
      unfold splitRunes at h
      split at h
      · rename_i hle
        obtain ⟨⟨a',r'⟩,hs,he⟩:=Option.map_eq_some_iff.mp h
        cases he
        have hle' : runeLength b≤(b::t).length := hle
        rw [cons_append,splitRunes,if_pos (by rw [length_append]; omega),← cons_append,
          drop_append_of_le_length hle',take_append_of_le_length hle',ih hs]
        rfl
      · cases h

theorem splitRunes_length {n : ℕ} {a r : Bytes} (h : splitRunes n t=some (a,r)) : r.length≤t.length := by
  induction n generalizing t a with
  | zero =>
    cases h
    exact le_refl _
  | succ n ih =>
    cases t with
    | nil => cases h
    | cons b t =>
      unfold splitRunes at h
      split at h
      · obtain ⟨⟨a',r'⟩,hs,he⟩:=Option.map_eq_some_iff.mp h
        cases he
        have hlt:=ih hs
        rw [length_drop] at hlt
        omega
      · cases h

def runeUnits : Units where
  split := splitRunes
  fits _ := true
  split_append := splitRunes_append
  split_length := splitRunes_length

def isAscii (t : Bytes) : Bool := t.all (·<128)

theorem agrees_ascii (h : isAscii value=true) : Agrees runeUnits List.length value := by
  refine ⟨rfl,fun q => ?_⟩
  show splitRunes value.length (value++q)=some (value,q)
  induction value with
  | nil => rfl
  | cons b value ih =>
    simp only [isAscii,all_cons,Bool.and_eq_true,decide_eq_true_eq] at h
    have hone : runeLength b=1 := by
      have hb : b.toNat<128 := by simpa [UInt8.lt_iff_toNat_lt] using h.1
      simp only [runeLength,UInt8.le_iff_toNat_le,UInt8.lt_iff_toNat_lt,UInt8.reduceToNat]
      rw [if_neg (by omega),if_neg (by omega),if_neg (by omega)]
    rw [length_cons,cons_append,splitRunes,if_pos (by rw [hone]; omega),hone]
    simp [ih (by simpa [isAscii] using h.2)]

end BetterDesk.Framing
