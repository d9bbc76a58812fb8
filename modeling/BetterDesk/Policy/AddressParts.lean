import BetterDesk.Policy.AddressText

/-! # What addresses and hosts are made of (package net) -/

namespace BetterDesk.Policy
open Text Signal List Option

def isAddressChar (b : UInt8) : Bool := isHex b||b=46||b=58

variable {t : Bytes} {b : UInt8} {ip : IP} {n : ℕ}

theorem isHex_of_isDigit (h : isDigit b) : isHex b := by
  have hdigit : 48≤b ∧ b≤57 := by simpa [isDigit] using h
  simp [isHex,hexValue,hdigit]

theorem mem_splitOn {sep : UInt8} (h : b∈t) : b=sep ∨ ∃ p∈t.splitOn sep, b∈p := by
  by_contra hno
  simp only [not_or,not_exists,not_and] at hno
  have hjoin : [sep].intercalate (t.splitOn sep)=t := intercalate_splitOn sep
  rw [← hjoin,List.intercalate,mem_flatten] at h
  obtain ⟨piece,hpiece,hb⟩:=h
  have hcases : piece∈t.splitOn sep ∨ piece=[sep] := by
    clear hb hjoin hno
    generalize t.splitOn sep=pieces at hpiece
    induction pieces with
    | nil => simp at hpiece
    | cons p rest ih =>
      cases rest with
      | nil => simp_all
      | cons q rest =>
        simp only [intersperse_cons_cons,mem_cons] at hpiece ih ⊢
        tauto
  rcases hcases with hmem | rfl
  · exact hno.2 piece hmem hb
  · exact hno.1 (mem_singleton.mp hb)

theorem octet_digits (h : octet t=some n) : ∀ b∈t,isDigit b := by
  unfold octet at h
  split at h
  · rename_i hok
    exact all_eq_true.mp hok.2.1
  · cases h

theorem mem_of_mapM {α β : Type} {f : α → Option β} {l : List α} {r : List β} (h : l.mapM f=some r) :
    ∀ a∈l, ∃ y, f a=some y := by
  induction l generalizing r with
  | nil => simp
  | cons a l ih =>
    rw [mapM_cons] at h
    obtain ⟨y,hy,h⟩:=bind_eq_some_iff.mp h
    obtain ⟨rest,hrest,-⟩:=bind_eq_some_iff.mp h
    intro x hx
    rcases mem_cons.mp hx with rfl | hx
    · exact ⟨y,hy⟩
    · exact ih hrest x hx

theorem parseIPv4Fields_chars (h : parseIPv4Fields t=some n) : ∀ b∈t,b=46 ∨ isDigit b := by
  unfold parseIPv4Fields at h
  split at h
  · rename_i hfields
    intro b hb
    rcases @mem_splitOn _ _ 46 hb with hdot | ⟨piece,hpiece,hb⟩
    · exact .inl hdot
    · obtain ⟨y,hy⟩:=mem_of_mapM hfields piece hpiece
      exact .inr (octet_digits hy b hb)
  · cases h

theorem hex_ne_colon (h : isHex b) : b≠58 := by
  rintro rfl
  revert h
  decide

theorem count_digits {s : Bytes} : (s.takeWhile isHex).count 58=0 :=
  count_eq_zero_of_not_mem fun h => hex_ne_colon (mem_takeWhile_imp h) rfl

theorem ipv4_no_colon (h : parseIPv4Fields t=some n) : 58∉t := by
  intro hmem
  rcases parseIPv4Fields_chars h 58 hmem with h | h
  · exact absurd h (by decide)
  · exact absurd h (by decide)

structure GroupsRead (s : Bytes) (groups : List ℕ) (ellipsis : Option ℕ) (r : List ℕ × Option ℕ) : Prop where
  chars : ∀ b∈s,isAddressChar b
  length_le : r.1.length≤groups.length+s.count 58+2
  colons : r.2.isSome → ellipsis.isSome ∨ 2 ≤ s.count 58

theorem colons_chars (n : ℕ) : ∀ b∈List.replicate n (58 : UInt8), isAddressChar b := by
  intro b hb
  rw [eq_of_mem_replicate hb]
  decide

theorem address_of_hex (h : isHex b) : isAddressChar b := by
  simp [isAddressChar,h]

theorem parseGroups_read {fuel : ℕ} {s : Bytes} {groups : List ℕ} {ellipsis : Option ℕ} {r : List ℕ × Option ℕ}
    (h : parseGroups fuel s groups ellipsis=some r) : GroupsRead s groups ellipsis r := by
  induction fuel generalizing s groups ellipsis with
  | zero => cases h
  | succ fuel ih =>
    have hparts : s=s.takeWhile isHex++s.dropWhile isHex := (takeWhile_append_dropWhile ..).symm
    have hdigits : ∀ b∈s.takeWhile isHex, isAddressChar b := fun b hb => address_of_hex (mem_takeWhile_imp hb)
    have hcount : s.count 58=(s.dropWhile isHex).count 58 := by
      conv_lhs => rw [hparts,count_append,count_digits,Nat.zero_add]
    have hchars : (∀ b∈s.dropWhile isHex, isAddressChar b) → ∀ b∈s,isAddressChar b := by
      intro hrest b hb
      rw [hparts] at hb
      exact (mem_append.mp hb).elim (hdigits b) (hrest b)
    unfold parseGroups at h
    dsimp only at h
    split at h
    · cases h
    · split at h
      · rename_i hrest
        cases h
        rw [hrest] at hchars hcount
        refine ⟨hchars (by simp),?_,fun hsome => .inl hsome⟩
        simp only [length_append,length_singleton]
        omega
      · -- a dotted address at the end
        rename_i hrest
        split at h
        · cases h
        · split at h
          · cases h
          · obtain ⟨v,hv,rfl⟩:=map_eq_some_iff.mp h
            have hall : ∀ b∈s,isAddressChar b := by
              intro b hb
              rcases parseIPv4Fields_chars hv b hb with rfl | hd
              · decide
              · exact address_of_hex (isHex_of_isDigit hd)
            exact ⟨hall,by simp,fun hsome => .inl hsome⟩
      · cases h
      · rename_i more hrest
        rw [hrest] at hchars hcount
        have htwo : s.count 58=more.count 58+2 := by rw [hcount]; simp
        split at h
        · cases h
        · split at h
          · rename_i hnil
            cases h
            rw [hnil] at hchars
            refine ⟨hchars (colons_chars 2),?_,fun _ => .inr (by omega)⟩
            simp only [length_append,length_singleton]
            omega
          · have hread:=ih h
            have hmore : ∀ b∈58::58::more, isAddressChar b := by
              simp only [mem_cons,forall_eq_or_imp]
              exact ⟨by decide,by decide,hread.chars⟩
            have hlen:=hread.length_le
            simp only [length_append,length_singleton] at hlen
            exact ⟨hchars hmore,by omega,fun _ => .inr (by omega)⟩
      · rename_i more _ _ hrest
        rw [hrest] at hchars hcount
        have hone : s.count 58=more.count 58+1 := by rw [hcount]; simp
        have hread:=ih h
        have hmore : ∀ b∈58::more, isAddressChar b := by
          simp only [mem_cons,forall_eq_or_imp]
          exact ⟨by decide,hread.chars⟩
        have hlen:=hread.length_le
        simp only [length_append,length_singleton] at hlen
        exact ⟨hchars hmore,by omega,fun hsome => (hread.colons hsome).imp id fun h2 => by omega⟩
      · cases h

theorem parseIPv6_read (h : parseIPv6 t=some ip) : (∀ b∈t,isAddressChar b) ∧ 2≤t.count 58 := by
  unfold parseIPv6 at h
  obtain ⟨p,hp,hend⟩:=bind_eq_some_iff.mp h
  split at hp
  · exact ⟨colons_chars 2,by decide⟩
  · rename_i s _
    have hread:=parseGroups_read hp
    constructor
    · simp only [mem_cons,forall_eq_or_imp]
      exact ⟨by decide,by decide,hread.chars⟩
    · simp
  · have hread:=parseGroups_read hp
    refine ⟨hread.chars,?_⟩
    have hlen:=hread.length_le
    split at hend
    · split at hend
      · simp only [length_nil] at hlen
        omega
      · cases hend
    · rename_i k hk
      rcases hread.colons (by simp [hk]) with hnone | htwo
      · cases hnone
      · exact htwo

theorem parseIP_chars (h : parseIP t=some ip) : ∀ b∈t,isAddressChar b := by
  unfold parseIP at h
  split at h
  · cases h
  · split at h
    · obtain ⟨v,hv,-⟩:=map_eq_some_iff.mp h
      intro b hb
      rcases parseIPv4Fields_chars hv b hb with rfl | hd
      · decide
      · exact address_of_hex (isHex_of_isDigit hd)
    · exact (parseIPv6_read h).1
    · cases h

theorem parseIP_eq_none (hb : b∈t) (hchar : isAddressChar b=false) : parseIP t=none := by
  cases h : parseIP t with
  | none => rfl
  | some ip => exact absurd (parseIP_chars h b hb) (by simp [hchar])

theorem parseIP_colons (h : parseIP t=some ip) : 58∉t ∨ 2≤t.count 58 := by
  unfold parseIP at h
  split at h
  · cases h
  · split at h
    · obtain ⟨v,hv,-⟩:=map_eq_some_iff.mp h
      exact .inl (ipv4_no_colon hv)
    · exact .inr (parseIPv6_read h).2
    · cases h

theorem before_lastColon {a port : Bytes} (h : 58∉port) :
    (((a++58::port).reverse.dropWhile (·≠58)).drop 1).reverse=a := by
  have hrev : (a++58::port).reverse=port.reverse++58::a.reverse := by simp
  have hport : ∀ x∈port.reverse,decide (x≠58)=true := by
    intro x hx
    simp only [decide_eq_true_eq]
    rintro rfl
    exact h (mem_reverse.mp hx)
  rw [hrev,dropWhile_append_of_pos hport,dropWhile_cons_of_neg (by simp)]
  simp

theorem exists_lastColon (h : 58∈t) : ∃ a port, t=a++58::port ∧ 58∉port := by
  obtain ⟨after,before,hsplit,hno⟩:=eq_append_cons_of_mem (mem_reverse.mpr h)
  refine ⟨before.reverse,after.reverse,?_,fun hmem => hno (mem_reverse.mp hmem)⟩
  rw [← reverse_reverse t,hsplit]
  simp

inductive HostPort (t host port : Bytes) : Prop
  | plain (form : t=host++58::port) (colons : 58∉host) (opening : 91∉t) (closing : 93∉t)
  | brackets (form : t=91::host++93::58::port) (opening : 91∉host++port) (closing : 93∉host++port)

theorem splitHost_form {host : Bytes} (h : Relay.splitHost t=some host) : ∃ port, 58∉port ∧ HostPort t host port := by
  unfold Relay.splitHost at h
  dsimp only at h
  split at h
  · cases h
  · rename_i hcolon
    obtain ⟨a,port,hform,hport⟩:=exists_lastColon (not_not.mp hcolon)
    have hbefore:=before_lastColon (a := a) hport
    rw [← hform] at hbefore
    rw [hbefore] at h
    refine ⟨port,hport,?_⟩
    split at h
    · rename_i inner
      split at h
      · cases h
      · split at h
        · cases h
        · rename_i hhost
          split at h
          · cases h
          · rename_i hmore
            cases h
            simp only [not_or] at hmore
            set host:=inner.takeWhile (·≠93) with hdef
            have ha : a=91::(host++[93]) := (not_not.mp hhost).symm
            have hinner : inner=host++93::58::port := by
              rw [ha] at hform
              simpa using hform
            have hclosed : 93∉host := fun hmem => by
              simpa using mem_takeWhile_imp hmem
            have hrest : (91::inner).drop (host.length+2)=58::port := by
              rw [hinner]
              simp [drop_append]
            rw [hrest] at hmore
            rw [hinner] at hmore ⊢
            simp only [mem_append,mem_cons,not_or] at hmore
            apply HostPort.brackets rfl
            · simp [hmore]
            · simp [hclosed,hmore]
    · split at h
      · cases h
      · rename_i hplain
        cases h
        simp only [not_or] at hplain
        exact .plain hform hplain.1 hplain.2.1 hplain.2.2

theorem splitHost_brackets {host : Bytes} (hopen : 91∉host) (hclose : 93∉host) :
    Relay.splitHost (91::host++[93,58])=some host := by
  have hlast : (((91::host++[93,58]).reverse.dropWhile (·≠58)).drop 1).reverse=91::host++[93] := by
    have h:=before_lastColon (a := 91::host++[93]) (not_mem_nil (a := (58 : UInt8)))
    rw [append_assoc] at h
    exact h
  have hhost : (host++[93,58]).takeWhile (·≠93)=host := by
    rw [takeWhile_append_of_pos,takeWhile_cons_of_neg (by simp),append_nil]
    intro x hx
    simp only [decide_eq_true_eq]
    rintro rfl
    exact hclose hx
  have hform : 91::host++[93,58]=91::(host++[93,58]) := rfl
  unfold Relay.splitHost
  rw [hlast,hform,if_neg (by simp)]
  simp only [hhost]
  have hdrop : 93∉host.drop (host.length+1) := fun hmem => hclose (mem_of_mem_drop hmem)
  rw [if_neg (by simp),if_neg (by simp),if_neg]
  simp [hopen,hdrop,drop_append]

end BetterDesk.Policy
