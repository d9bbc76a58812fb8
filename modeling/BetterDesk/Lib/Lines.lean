import BetterDesk.Lib.Text

/-! # Lines of a text -/

namespace BetterDesk.Text
open List

theorem splitOn_lines {sep : UInt8} {lines : List Bytes} (h : ∀ line∈lines,sep∉line) :
    (lines.flatMap fun line => line++[sep]).splitOn sep=lines++[[]] := by
  induction lines with
  | nil => rfl
  | cons line lines ih =>
    have hline : sep∉line := h line mem_cons_self
    have hrest:=ih fun l hl => h l (mem_cons_of_mem _ hl)
    rw [flatMap_cons,append_assoc,singleton_append,splitOn_append_cons_self_of_not_mem hline,hrest]
    rfl

theorem cut_none {sep : UInt8} {a : Bytes} (h : sep∉a) : cut sep a=none := by
  induction a with
  | nil => rfl
  | cons b rest ih =>
    simp only [mem_cons,not_or] at h
    simp [cut,Ne.symm h.1,ih h.2]

theorem cut_first {sep : UInt8} {a t : Bytes} (h : sep∉a) : cut sep (a++sep::t)=some (a,t) := by
  induction a with
  | nil => simp [cut]
  | cons b rest ih =>
    simp only [mem_cons,not_or] at h
    simp [cut,Ne.symm h.1,ih h.2]

section Words
variable {rs : List Bytes}

theorem exists_dropped (rs : List Bytes) (fuel : ℕ) (t : Bytes) :
    ∃ ws : List Bytes, (∀ w∈ws,w∈rs) ∧ t=ws.flatten++dropWords rs fuel t := by
  induction fuel generalizing t with
  | zero => exact ⟨[],by simp,rfl⟩
  | succ fuel ih =>
    unfold dropWords
    split
    · rename_i r hr
      obtain ⟨ws,hws,ht⟩:=ih (t.drop r.length)
      obtain ⟨rest,rfl⟩ : r <+: t := isPrefixOf_iff_prefix.mp (by simpa using List.find?_some hr)
      rw [drop_left] at ht ⊢
      refine ⟨r::ws,?_,?_⟩
      · intro w hw
        rcases mem_cons.mp hw with rfl | hw
        · exact mem_of_find?_eq_some hr
        · exact hws w hw
      · rw [flatten_cons,append_assoc,← ht]
    · exact ⟨[],by simp,rfl⟩

theorem dropWords_enough (hne : ∀ r∈rs,r≠[]) {f g : ℕ} {t : Bytes} (hf : t.length≤f) (hg : t.length≤g) :
    dropWords rs f t=dropWords rs g t := by
  induction f generalizing g t with
  | zero =>
    have hnil : t=[] := length_eq_zero_iff.mp (Nat.le_zero.mp hf)
    subst hnil
    exact (dropWords_eq_self fun r hr hp => hne r hr (prefix_nil.mp hp)).symm
  | succ f ih =>
    cases g with
    | zero =>
      have hnil : t=[] := length_eq_zero_iff.mp (Nat.le_zero.mp hg)
      subst hnil
      exact dropWords_eq_self fun r hr hp => hne r hr (prefix_nil.mp hp)
    | succ g =>
      unfold dropWords
      split
      · rename_i r hr
        have hpos : 0<r.length := length_pos_iff.mpr (hne r (mem_of_find?_eq_some hr))
        apply ih
        · rw [length_drop]
          omega
        · rw [length_drop]
          omega
      · rfl

theorem find_word_congr {s t : Bytes} (h : ∀ r∈rs,r <+: s ↔ r <+: t) :
    rs.find? (fun r => r.isPrefixOf s)=rs.find? fun r => r.isPrefixOf t := by
  induction rs with
  | nil => rfl
  | cons r rs ih =>
    have hr : r.isPrefixOf s=r.isPrefixOf t := by
      rw [Bool.eq_iff_iff, isPrefixOf_iff_prefix, isPrefixOf_iff_prefix]
      exact h r mem_cons_self
    rw [List.find?_cons,List.find?_cons,hr,ih fun w hw => h w (mem_cons_of_mem _ hw)]

theorem prefix_before {r x y : Bytes} {s : UInt8} (hs : s∉r) : r <+: x++s::y ↔ r <+: x := by
  constructor
  · intro hp
    rcases prefix_or_prefix_of_prefix hp (prefix_append x (s::y)) with h | h
    · exact h
    · obtain ⟨z,rfl⟩:=h
      cases z with
      | nil => simp
      | cons c z =>
        rw [prefix_append_right_inj] at hp
        obtain ⟨_,heq⟩:=hp
        simp only [cons_append,cons.injEq] at heq
        rw [heq.1] at hs
        simp at hs
  · exact fun h => h.trans (prefix_append _ _)

theorem dropWords_before {s : UInt8} (hs : ∀ r∈rs,s∉r) (fuel : ℕ) (x y : Bytes) :
    dropWords rs fuel (x++s::y)=dropWords rs fuel x++s::y := by
  induction fuel generalizing x with
  | zero => rfl
  | succ fuel ih =>
    unfold dropWords
    rw [find_word_congr fun r hr => prefix_before (hs r hr)]
    split
    · rename_i r hr
      have hp : r <+: x := isPrefixOf_iff_prefix.mp (by simpa using List.find?_some hr)
      rw [drop_append_of_le_length hp.length_le,ih]
    · rfl

end Words

theorem spaceRunes_ne : ∀ r∈spaceRunes,r≠[] := by decide

variable (t : Bytes)

theorem trimLeft_clean : ∀ r∈spaceRunes,¬ r <+: trimLeft t :=
  dropWords_clean spaceRunes spaceRunes_ne _ _ le_rfl

theorem trimLeft_trimLeft : trimLeft (trimLeft t)=trimLeft t := dropWords_eq_self (trimLeft_clean t)

theorem trimSpace_trimLeft : trimSpace (trimLeft t)=trimSpace t := by
  rw [trimSpace,trimLeft_trimLeft,trimSpace]

theorem trimRight_prefix : trimRight t <+: t :=
  reverse_suffix.mp (by rw [trimRight,reverse_reverse]; exact dropWords_suffix ..)

theorem trimSpace_prefix : trimSpace t <+: trimLeft t := trimRight_prefix _

theorem mem_of_mem_trimSpace {b : UInt8} {t : Bytes} (h : b∈trimSpace t) : b∈t :=
  (dropWords_suffix _ _ _).subset (( trimSpace_prefix t).subset h)

theorem trimSpace_eq_nil {t : Bytes} (h : trimSpace t=[]) : trimLeft t=[] := by
  obtain ⟨ws,hws,hsplit⟩:=exists_dropped (spaceRunes.map List.reverse) (trimLeft t).length (trimLeft t).reverse
  have hnil : dropWords (spaceRunes.map List.reverse) (trimLeft t).length (trimLeft t).reverse=[] :=
    reverse_eq_nil_iff.mp h
  rw [hnil,append_nil] at hsplit
  have hwords : trimLeft t=(ws.map List.reverse).reverse.flatten := by
    rw [← reverse_flatten,← hsplit,reverse_reverse]
  have hclean:=trimLeft_clean t
  cases hr : (ws.map List.reverse).reverse with
  | nil => rw [hwords,hr,flatten_nil]
  | cons w rest =>
    exfalso
    have hmem : w∈ws.map List.reverse := by
      rw [← mem_reverse,hr]
      exact mem_cons_self
    obtain ⟨u,hu,rfl⟩:=mem_map.mp hmem
    obtain ⟨v,hv,rfl⟩:=mem_map.mp (hws u hu)
    apply hclean v hv
    rw [hwords,hr,flatten_cons,reverse_reverse]
    exact prefix_append _ _

theorem trimSpace_at {a c : Bytes} {s : UInt8} (hs : ∀ r∈spaceRunes,s∉r) :
    ∃ c', trimSpace (a++s::c)=trimLeft a++s::c' := by
  have hleft : trimLeft (a++s::c)=trimLeft a++s::c := by
    rw [trimLeft,dropWords_before hs,trimLeft]
    congr 1
    apply dropWords_enough spaceRunes_ne
    · simp
    · exact le_rfl
  have hrev : (trimLeft a++s::c).reverse=c.reverse++s::(trimLeft a).reverse := by simp
  have hs' : ∀ r∈spaceRunes.map List.reverse, s∉r := by
    intro r hr hmem
    obtain ⟨w,hw,rfl⟩:=mem_map.mp hr
    exact hs w hw (mem_reverse.mp hmem)
  refine ⟨(dropWords (spaceRunes.map List.reverse) (trimLeft a++s::c).length c.reverse).reverse,?_⟩
  rw [trimSpace,hleft,trimRight,hrev,dropWords_before hs']
  simp

theorem trimRight_return : trimRight (t++[13])=trimRight t := by
  have hstep : ∀ fuel, dropWords (spaceRunes.map List.reverse) (fuel+1) (13::t.reverse) =
      dropWords (spaceRunes.map List.reverse) fuel t.reverse := by
    intro fuel
    have hfind : (spaceRunes.map List.reverse).find? (fun r => r.isPrefixOf (13::t.reverse))=some [13] := by
      simp [spaceRunes]
    rw [dropWords,hfind]
    rfl
  rw [trimRight,trimRight,length_append,length_singleton,reverse_append,
    reverse_singleton,singleton_append,hstep]

theorem trimLeft_return : trimLeft (t++[13]) = if trimLeft t=[] then [] else trimLeft t++[13] := by
  have hstep : ∀ (fuel : ℕ) (t : Bytes), t.length≤fuel → dropWords spaceRunes (fuel+1) (t++[13]) =
      if dropWords spaceRunes fuel t=[] then [] else dropWords spaceRunes fuel t++[13] := by
    intro fuel
    induction fuel with
    | zero =>
      intro t ht
      have hnil : t=[] := length_eq_zero_iff.mp (Nat.le_zero.mp ht)
      subst hnil
      rfl
    | succ fuel ih =>
      intro t ht
      cases ht' : t with
      | nil =>
        have hone : dropWords spaceRunes (fuel+1) []=[] :=
          dropWords_eq_self fun r hr hp => spaceRunes_ne r hr (prefix_nil.mp hp)
        rw [hone,if_pos rfl,dropWords]
        exact hone
      | cons c s =>
        rw [← ht']
        have hword : ∀ r∈spaceRunes,r <+: t++[13] ↔ r <+: t := by
          intro r hr
          constructor
          · intro hp
            rcases prefix_concat_iff.mp hp with rfl | hp
            · have hreturn : ∀ r∈spaceRunes,13∈r → r=[13] := by decide
              have hlen:=congrArg List.length (hreturn _ hr (by simp))
              simp [ht'] at hlen
            · exact hp
          · exact fun hp => hp.trans (prefix_append _ _)
        cases hfind : spaceRunes.find? fun r => r.isPrefixOf t with
        | none =>
          have hlong : dropWords spaceRunes (fuel+1+1) (t++[13])=t++[13] := by
            rw [dropWords,find_word_congr hword,hfind]
          have hshort : dropWords spaceRunes (fuel+1) t=t := by rw [dropWords,hfind]
          rw [hlong,hshort,if_neg (by simp [ht'])]
        | some r =>
          have hp : r <+: t := isPrefixOf_iff_prefix.mp (by simpa using List.find?_some hfind)
          have hpos : 0<r.length := length_pos_iff.mpr (spaceRunes_ne r (mem_of_find?_eq_some hfind))
          have hlong : dropWords spaceRunes (fuel+1+1) (t++[13]) =
              dropWords spaceRunes (fuel+1) (t.drop r.length++[13]) := by
            rw [dropWords,find_word_congr hword,hfind]
            dsimp only
            rw [drop_append_of_le_length hp.length_le]
          have hshort : dropWords spaceRunes (fuel+1) t=dropWords spaceRunes fuel (t.drop r.length) := by
            rw [dropWords,hfind]
          rw [hlong,hshort]
          apply ih
          rw [length_drop]
          omega
  rw [trimLeft,length_append,length_singleton,hstep _ _ le_rfl,trimLeft]

theorem trimSpace_return : trimSpace (t++[13])=trimSpace t := by
  rw [trimSpace,trimLeft_return,trimSpace]
  split
  · rename_i hnil
    rw [hnil]
  · exact trimRight_return _

end BetterDesk.Text
