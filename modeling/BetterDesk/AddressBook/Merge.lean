import BetterDesk.AddressBook.RoundTrip
import BetterDesk.Lib.KeyedMerge

/-! # Merged entries -/

namespace BetterDesk.AddressBook
open Text Db Json KeyedMerge List

def Keyed (p : Members) : Prop := (p.map Prod.fst).Nodup

section Members
variable {m : Members} {key : String} {v : Json}

theorem set_of_get (h : get m key=some v) : set m key v=m := by
  induction m with
  | nil => cases h
  | cons e rest ih =>
    obtain ⟨k,w⟩:=e
    rw [get_cons] at h
    rw [Json.set]
    split
    · rename_i hk
      rw [if_pos hk] at h
      cases h
      rw [hk]
    · rename_i hk
      rw [if_neg hk] at h
      rw [ih h]

theorem get_of_mem (hkeyed : Keyed m) (h : (key,v)∈m) : get m key=some v := by
  induction m with
  | nil => cases h
  | cons e rest ih =>
    obtain ⟨k,w⟩:=e
    obtain ⟨hk,hrest⟩:=nodup_cons.mp hkeyed
    rw [get_cons]
    cases mem_cons.mp h with
    | inl h =>
      cases h
      exact if_pos rfl
    | inr h =>
      have hne : ¬ k=key := fun heq => hk (mem_map.mpr ⟨(key,v),h,heq.symm⟩)
      rw [if_neg hne,ih hrest h]

@[simp] theorem strings_arr (l : List String) : strings (some (.arr (l.map .str)))=l := by
  induction l with
  | nil => rfl
  | cons s l ih => exact congrArg (s::·) ih

end Members

def tagsIn (v : Option Json) : List String := (toStringSlice v).filter fun tag => tag≠""

structure United (l : List String) : Prop where
  nodup : l.Nodup
  trimmed : ∀ tag∈l,trimString tag=tag
  nonblank : ∀ tag∈l,tag≠""

section Tags
variable {a b v : Option Json} {l : List String} {tag : String}

theorem mem_tagsIn : tag∈tagsIn v ↔ (∃ s∈strings v, trimString s=tag) ∧ tag≠"" := by
  rw [tagsIn,toStringSlice,mem_filter,mem_map,decide_eq_true_iff]

theorem trimString_of_mem_tagsIn (h : tag∈tagsIn v) : trimString tag=tag := by
  obtain ⟨⟨s,-,rfl⟩,-⟩:=mem_tagsIn.mp h
  exact trimString_trimString s

def unitedTags (a b : Option Json) : List String := (tagsIn a++tagsIn b).eraseDups

theorem unionTags_pair (a b : Option Json) : unionTags [a,b]=.arr ((unitedTags a b).map .str) := by
  rw [unionTags,unitedTags,tagsIn,tagsIn,flatMap_cons,flatMap_cons,flatMap_nil,append_nil,
    filter_append]

theorem mem_unitedTags : tag∈unitedTags a b ↔ tag∈tagsIn a ∨ tag∈tagsIn b := by
  rw [unitedTags,mem_eraseDups,mem_append]

theorem united_unitedTags (a b : Option Json) : United (unitedTags a b) := by
  refine ⟨nodup_eraseDups _,?_,?_⟩
  · intro tag h
    cases mem_unitedTags.mp h with
    | inl h | inr h => exact trimString_of_mem_tagsIn h
  · intro tag h
    cases mem_unitedTags.mp h with
    | inl h | inr h => exact (mem_tagsIn.mp h).2

theorem tagsIn_of_united (h : United l) : tagsIn (some (.arr (l.map .str)))=l := by
  have htrim : l.map trimString=l := (map_congr_left h.trimmed).trans (map_id l)
  rw [tagsIn,toStringSlice,strings_arr,htrim]
  apply filter_eq_self.mpr
  intro tag htag
  exact decide_eq_true (h.nonblank tag htag)

theorem unionTags_of_subset (h : United l) (hsub : tagsIn v ⊆ l) :
    unionTags [some (.arr (l.map .str)),v]=.arr (l.map .str) := by
  rw [unionTags_pair,unitedTags,tagsIn_of_united h,eraseDups_append_of_subset h.nodup hsub]

end Tags

section Entries
variable {p q r base overlay : Members} {rest : List Members} {key : String}

theorem mergePeerMaps_cons (base : Members) (e : String × Json) (rest : Members) :
    mergePeerMaps base (e::rest)=mergePeerMaps (mergePeerMaps base [e]) rest := rfl

theorem get_mergePeerMaps_single (base : Members) (e : String × Json) (hne : key≠e.1) :
    get (mergePeerMaps base [e]) key=get base key := by
  change get (ite _ _ _) key=_
  split
  · rename_i htags
    exact get_set_of_ne _ _ (htags ▸ hne)
  · split
    · exact get_set_of_ne _ _ hne
    · rfl

theorem get_mergePeerMaps_of_not_mem (h : key∉overlay.map Prod.fst) :
    get (mergePeerMaps base overlay) key=get base key := by
  induction overlay generalizing base with
  | nil => rfl
  | cons e rest ih =>
    rw [map_cons,mem_cons,not_or] at h
    rw [mergePeerMaps_cons,ih h.2,get_mergePeerMaps_single base e h.1]

theorem get_mergePeerMaps (hkeyed : Keyed overlay) (hkey : key≠"tags") :
    get (mergePeerMaps base overlay) key =
      if isEmptyABValue (get base key)&&!isEmptyABValue (get overlay key) then get overlay key
      else get base key := by
  induction overlay generalizing base with
  | nil => cases hb : isEmptyABValue (get base key) <;> simp [isEmptyABValue,mergePeerMaps]
  | cons e rest ih =>
    obtain ⟨k,w⟩:=e
    obtain ⟨hk,hrest⟩:=nodup_cons.mp hkeyed
    rw [mergePeerMaps_cons,get_cons]
    by_cases heq : k=key
    · subst heq
      rw [get_mergePeerMaps_of_not_mem hk,if_pos rfl]
      change get (ite _ _ _) k=_
      rw [if_neg hkey]
      split
      · exact get_set_self _ _ _
      · rfl
    · rw [ih hrest,get_mergePeerMaps_single base _ (Ne.symm heq),if_neg heq]

theorem get_mergePeerMaps_tags (hkeyed : Keyed overlay) (base : Members) :
    get (mergePeerMaps base overlay) "tags" =
      match get overlay "tags" with
      | some t => some (unionTags [get base "tags",some t])
      | none => get base "tags" := by
  induction overlay generalizing base with
  | nil => rfl
  | cons e rest ih =>
    obtain ⟨k,w⟩:=e
    obtain ⟨hk,hrest⟩:=nodup_cons.mp hkeyed
    rw [mergePeerMaps_cons,get_cons]
    by_cases heq : k="tags"
    · subst heq
      rw [get_mergePeerMaps_of_not_mem hk,if_pos rfl]
      exact get_set_self _ _ _
    · rw [ih hrest,get_mergePeerMaps_single base _ (Ne.symm heq),if_neg heq]

theorem idOf_eq_of_get (h : get p "id" = get q "id") : idOf p=idOf q := by
  rw [idOf,idOf,h]

theorem keepsKey_of_keyed (hkeyed : Keyed p) (hid : idOf p≠"") : KeepsKey idOf mergePeerMaps p := by
  intro q hq
  have hp:=(idOf_eq_iff hid).mp rfl
  have hq':=(idOf_eq_iff hid).mp hq
  have hget : get (mergePeerMaps q p) "id" = get p "id" := by
    rw [get_mergePeerMaps hkeyed (by decide)]
    split
    · rfl
    · rw [hp,hq']
  exact idOf_eq_of_get hget

/-- `q` holds what `p` would bring into it. -/
structure Absorbs (q p : Members) : Prop where
  fields : ∀ key, key≠"tags" → isEmptyABValue (get q key)=true → isEmptyABValue (get p key)=true
  tags : ∀ t, get p "tags" = some t → ∃ l, get q "tags" = some (.arr (l.map .str)) ∧ United l ∧ tagsIn (some t) ⊆ l

theorem Absorbs.mergePeerMaps_eq (hkeyed : Keyed p) (h : Absorbs q p) : mergePeerMaps q p=q := by
  have hstep (e : String × Json) (he : e∈p) : mergePeerMaps q [e]=q := by
    have hget:=get_of_mem hkeyed he
    change ite _ _ _=_
    split
    · rename_i htags
      obtain ⟨l,hq,hl,hsub⟩:=h.tags e.2 (htags ▸ hget)
      rw [hq,unionTags_of_subset hl hsub]
      exact set_of_get hq
    · rename_i htags
      split
      · rename_i hempty
        rw [Bool.and_eq_true] at hempty
        rw [← hget,h.fields e.1 htags hempty.1] at hempty
        exact absurd hempty.2 Bool.false_ne_true
      · rfl
  clear hkeyed h
  induction p with
  | nil => rfl
  | cons e rest ih =>
    rw [mergePeerMaps_cons,hstep e mem_cons_self]
    exact ih fun e' he' => hstep e' (mem_cons_of_mem e he')

theorem isEmptyABValue_mergePeerMaps (hkeyed : Keyed p) (hkey : key≠"tags")
    (h : isEmptyABValue (get (mergePeerMaps q p) key)=true) :
    isEmptyABValue (get q key)=true ∧ isEmptyABValue (get p key)=true := by
  rw [get_mergePeerMaps hkeyed hkey] at h
  split at h
  · rename_i hand
    rw [h] at hand
    simp at hand
  · rename_i hand
    rw [h] at hand
    simpa [h] using hand

theorem absorbs_mergePeerMaps (hkeyed : Keyed p) (q : Members) : Absorbs (mergePeerMaps q p) p := by
  constructor
  · intro key hkey hempty
    exact (isEmptyABValue_mergePeerMaps hkeyed hkey hempty).2
  · intro t ht
    refine ⟨unitedTags (get q "tags") (some t),?_,united_unitedTags _ _,?_⟩
    · rw [get_mergePeerMaps_tags hkeyed,ht]
      exact congrArg some (unionTags_pair _ _)
    · intro tag htag
      exact mem_unitedTags.mpr (Or.inr htag)

theorem Absorbs.merge (hkeyed : Keyed r) (h : Absorbs q p) : Absorbs (mergePeerMaps q r) p := by
  constructor
  · intro key hkey hempty
    exact h.fields key hkey (isEmptyABValue_mergePeerMaps hkeyed hkey hempty).1
  · intro t ht
    obtain ⟨l,hq,hl,hsub⟩:=h.tags t ht
    rw [get_mergePeerMaps_tags hkeyed]
    split
    · rename_i t' ht'
      refine ⟨unitedTags (get q "tags") (some t'),congrArg some (unionTags_pair _ _),united_unitedTags _ _,?_⟩
      intro tag htag
      refine mem_unitedTags.mpr (Or.inl ?_)
      rw [hq,tagsIn_of_united hl]
      exact hsub htag
    · exact ⟨l,hq,hl,hsub⟩

theorem Absorbs.foldl (hkeyed : ∀ r∈rest,Keyed r) (h : Absorbs q p) : Absorbs (rest.foldl mergePeerMaps q) p := by
  induction rest generalizing q with
  | nil => exact h
  | cons r rest ih =>
    apply ih
    · intro r' hr'
      exact hkeyed r' (mem_cons_of_mem r hr')
    · exact h.merge (hkeyed r mem_cons_self)

theorem absorbs_of_mem (hkeyed : ∀ r∈rest,Keyed r) (hp : p∈rest) (q : Members) :
    Absorbs (rest.foldl mergePeerMaps q) p := by
  induction rest generalizing q with
  | nil => cases hp
  | cons r rest ih =>
    have hrest : ∀ r'∈rest,Keyed r' := fun r' hr' => hkeyed r' (mem_cons_of_mem r hr')
    rw [foldl_cons]
    cases mem_cons.mp hp with
    | inl hpr =>
      rw [hpr]
      exact (absorbs_mergePeerMaps (hkeyed r mem_cons_self) q).foldl hrest
    | inr hmem => exact ih hrest hmem _

theorem isEmptyABValue_foldl (hkeyed : ∀ r∈rest,Keyed r) (hkey : key≠"tags")
    (h : isEmptyABValue (get q key)=false) : get (rest.foldl mergePeerMaps q) key=get q key := by
  induction rest generalizing q with
  | nil => rfl
  | cons r rest ih =>
    have hget : get (mergePeerMaps q r) key=get q key := by
      rw [get_mergePeerMaps (hkeyed r mem_cons_self) hkey,h]
      rfl
    rw [foldl_cons,ih (fun r' hr' => hkeyed r' (mem_cons_of_mem r hr')) (hget ▸ h),hget]

def taggedBy (rest : List Members) : Prop := ∃ r∈rest,(get r "tags").isSome

theorem get_tags_foldl_of_not_tagged (hkeyed : ∀ r∈rest,Keyed r) (h : ¬ taggedBy rest) (q : Members) :
    get (rest.foldl mergePeerMaps q) "tags" = get q "tags" := by
  induction rest generalizing q with
  | nil => rfl
  | cons r rest ih =>
    have hr : get r "tags" = none := by
      cases hget : get r "tags" with
      | none => rfl
      | some t => exact absurd ⟨r,mem_cons_self,by rw [hget]; rfl⟩ h
    have hrest : ¬ taggedBy rest := fun ⟨r',hr',ht⟩ => h ⟨r',mem_cons_of_mem r hr',ht⟩
    rw [foldl_cons,ih (fun r' hr' => hkeyed r' (mem_cons_of_mem r hr')) hrest,
      get_mergePeerMaps_tags (hkeyed r mem_cons_self),hr]

theorem get_tags_foldl_of_tagged (hkeyed : ∀ r∈rest,Keyed r) (h : taggedBy rest) (q : Members) :
    ∃ l, get (rest.foldl mergePeerMaps q) "tags" = some (.arr (l.map .str)) ∧ United l ∧
      tagsIn (get q "tags") ⊆ l := by
  induction rest generalizing q with
  | nil =>
    obtain ⟨r,hr,-⟩:=h
    cases hr
  | cons r rest ih =>
    have hkeyed' : ∀ r'∈rest,Keyed r' := fun r' hr' => hkeyed r' (mem_cons_of_mem r hr')
    rw [foldl_cons]
    have hget:=get_mergePeerMaps_tags (hkeyed r mem_cons_self) q
    cases hr : get r "tags" with
    | none =>
      rw [hr] at hget
      have hrest : taggedBy rest := by
        obtain ⟨r',hr',ht⟩:=h
        cases mem_cons.mp hr' with
        | inl heq =>
          rw [heq,hr] at ht
          cases ht
        | inr hmem => exact ⟨r',hmem,ht⟩
      obtain ⟨l,hl,hunited,hsub⟩:=ih hkeyed' hrest (mergePeerMaps q r)
      rw [hget] at hsub
      exact ⟨l,hl,hunited,hsub⟩
    | some t =>
      rw [hr] at hget
      have hunion : get (mergePeerMaps q r) "tags" = some (.arr ((unitedTags (get q "tags") (some t)).map .str)) :=
        hget.trans (congrArg some (unionTags_pair _ _))
      have hunited:=united_unitedTags (get q "tags") (some t)
      have hsub : tagsIn (get q "tags") ⊆ unitedTags (get q "tags") (some t) :=
        fun tag htag => mem_unitedTags.mpr (Or.inl htag)
      by_cases hrest : taggedBy rest
      · obtain ⟨l,hl,hunited',hsub'⟩:=ih hkeyed' hrest (mergePeerMaps q r)
        rw [hunion,tagsIn_of_united hunited] at hsub'
        exact ⟨l,hl,hunited',fun tag htag => hsub' (hsub htag)⟩
      · exact ⟨_,(get_tags_foldl_of_not_tagged hkeyed' hrest _).trans hunion,hunited,hsub⟩

def SettledTags (p : Members) : Prop :=
  ∀ t, get p "tags" = some t → ∃ l, t=.arr (l.map .str) ∧ United l

theorem absorbs_first (hkeyed : ∀ r∈rest,Keyed r) (h : taggedBy rest ∨ SettledTags p) :
    Absorbs (rest.foldl mergePeerMaps p) p := by
  constructor
  · intro key hkey hempty
    cases hp : isEmptyABValue (get p key) with
    | true => rfl
    | false =>
      rw [isEmptyABValue_foldl hkeyed hkey hp,hp] at hempty
      cases hempty
  · intro t ht
    by_cases htagged : taggedBy rest
    · obtain ⟨l,hl,hunited,hsub⟩:=get_tags_foldl_of_tagged hkeyed htagged p
      rw [ht] at hsub
      exact ⟨l,hl,hunited,hsub⟩
    · obtain ⟨l,rfl,hunited⟩:=h.resolve_left htagged t ht
      refine ⟨l,?_,hunited,?_⟩
      · rw [get_tags_foldl_of_not_tagged hkeyed htagged,ht]
      · rw [tagsIn_of_united hunited]
        exact List.Subset.refl l

theorem settledTags_of_again (hp : Keyed p) (hkeyed : ∀ r∈rest,Keyed r) (htagged : ¬ taggedBy rest)
    (h : (p::rest).foldl mergePeerMaps (rest.foldl mergePeerMaps p)=rest.foldl mergePeerMaps p) : SettledTags p := by
  intro t ht
  have hget:=congrArg (fun q => get q "tags") h
  rw [foldl_cons,get_tags_foldl_of_not_tagged hkeyed htagged,get_mergePeerMaps_tags hp,ht,
    get_tags_foldl_of_not_tagged hkeyed htagged,ht] at hget
  refine ⟨unitedTags (some t) (some t),?_,united_unitedTags _ _⟩
  rw [← unionTags_pair]
  exact (Option.some.inj hget).symm

end Entries

section Documents
variable {id : PeerID} {peers os : List Members} {base o : Doc}

theorem mergeIntoLast_eq (p : Members) (peers : List Members) :
    mergeIntoLast p peers=intoLast idOf mergePeerMaps p peers := by
  induction peers with
  | nil => rfl
  | cons q rest ih =>
    rw [mergeIntoLast,intoLast,ih]
    cases intoLast idOf mergePeerMaps p rest <;> rfl

theorem foldl_mergePeer (os peers : List Members) :
    os.foldl mergePeer peers=(os.filter fun p => idOf p≠"").foldl (upsert idOf mergePeerMaps) peers := by
  induction os generalizing peers with
  | nil => rfl
  | cons p rest ih =>
    rw [foldl_cons,ih,mergePeer]
    by_cases hid : idOf p=""
    · rw [if_pos hid,filter_cons_of_neg (by simpa using hid)]
    · rw [if_neg hid,filter_cons_of_pos (by simpa using hid),mergeIntoLast_eq]
      rfl

theorem keepsKey_filter (hkeyed : ∀ p∈os,Keyed p) :
    ∀ p∈os.filter fun p => idOf p≠"", KeepsKey idOf mergePeerMaps p := by
  intro p hp
  obtain ⟨hmem,hid⟩:=mem_filter.mp hp
  exact keepsKey_of_keyed (hkeyed p hmem) (of_decide_eq_true hid)

theorem filter_filter_id (hid : id≠"") (os : List Members) :
    (os.filter fun p => idOf p≠"").filter (fun p => idOf p=id)=os.filter fun p => idOf p=id := by
  rw [filter_filter]
  apply filter_congr
  intro p _
  by_cases hp : idOf p=id
  · simp [hp,hid]
  · simp [hp]

theorem lastOf_foldl_mergePeer (hkeyed : ∀ p∈os,Keyed p) (hid : id≠"") (peers : List Members) :
    lastOf idOf id (os.foldl mergePeer peers) =
      combine mergePeerMaps ((lastOf idOf id peers).toList++os.filter fun p => idOf p=id) := by
  rw [foldl_mergePeer,lastOf_foldl id peers (keepsKey_filter hkeyed),filter_filter_id hid]

theorem count_foldl_mergePeer (hkeyed : ∀ p∈os,Keyed p) (hid : id≠"") (peers : List Members) :
    ((os.foldl mergePeer peers).map idOf).count id =
      max ((peers.map idOf).count id) (if id∈os.map idOf then 1 else 0) := by
  have hmem : id∈(os.filter fun p => idOf p≠"").map idOf ↔ id∈os.map idOf := by
    constructor
    · intro h
      obtain ⟨p,hp,rfl⟩:=mem_map.mp h
      exact mem_map_of_mem (mem_filter.mp hp).1
    · intro h
      obtain ⟨p,hp,rfl⟩:=mem_map.mp h
      exact mem_map_of_mem (mem_filter.mpr ⟨hp,decide_eq_true hid⟩)
  rw [foldl_mergePeer,count_foldl id peers (keepsKey_filter hkeyed)]
  simp only [hmem]

/-- Entries that are merged a second time: those of a device that was not there begin
with tags that are settled, or have tags united. -/
def SettledAgain (peers os : List Members) : Prop :=
  ∀ id, id≠"" → id∉peers.map idOf → ∀ first rest, (os.filter fun p => idOf p=id)=first::rest →
    taggedBy rest ∨ SettledTags first

theorem foldl_again_of_settled (hkeyed : ∀ p∈os,Keyed p) (h : SettledAgain peers os) :
    os.foldl mergePeer (os.foldl mergePeer peers)=os.foldl mergePeer peers := by
  rw [foldl_mergePeer os (os.foldl mergePeer peers)]
  apply foldl_eq_self
  intro p hp
  obtain ⟨hmem,hid⟩:=mem_filter.mp hp
  have hid : idOf p≠"" := of_decide_eq_true hid
  have hin : p∈os.filter fun q => idOf q=idOf p := mem_filter.mpr ⟨hmem,decide_eq_true rfl⟩
  have hsame : ∀ q∈os.filter (fun q => idOf q=idOf p), Keyed q := fun q hq => hkeyed q (mem_filter.mp hq).1
  have hlast:=lastOf_foldl_mergePeer hkeyed hid peers
  cases hbase : lastOf idOf (idOf p) peers with
  | some b =>
    rw [hbase] at hlast
    exact ⟨_,hlast,(absorbs_of_mem hsame hin b).mergePeerMaps_eq (hkeyed p hmem)⟩
  | none =>
    have hnew : idOf p∉peers.map idOf := by
      rw [← lastOf_isSome_iff,hbase]
      exact Bool.false_ne_true
    rw [hbase] at hlast
    cases hos : os.filter fun q => idOf q=idOf p with
    | nil =>
      rw [hos] at hin
      cases hin
    | cons first rest =>
      rw [hos] at hlast hin hsame
      have hrest : ∀ q∈rest,Keyed q := fun q hq => hsame q (mem_cons_of_mem first hq)
      refine ⟨_,hlast,Absorbs.mergePeerMaps_eq (hkeyed p hmem) ?_⟩
      cases mem_cons.mp hin with
      | inl hp =>
        rw [hp]
        exact absorbs_first hrest (h _ hid hnew first rest hos)
      | inr hp => exact absorbs_of_mem hrest hp first

theorem settled_of_foldl_again (hkeyed : ∀ p∈os,Keyed p)
    (h : os.foldl mergePeer (os.foldl mergePeer peers)=os.foldl mergePeer peers) : SettledAgain peers os := by
  intro id hid hnew first rest hos
  have hmem (p : Members) (hp : p∈first::rest) : p∈os := by
    rw [← hos] at hp
    exact (mem_filter.mp hp).1
  have hlast:=lastOf_foldl_mergePeer hkeyed hid peers
  have hagain:=lastOf_foldl_mergePeer hkeyed hid (os.foldl mergePeer peers)
  rw [lastOf_of_not_mem hnew,hos] at hlast
  rw [h,hlast,hos] at hagain
  by_cases htagged : taggedBy rest
  · exact Or.inl htagged
  · refine Or.inr (settledTags_of_again (hkeyed first (hmem first mem_cons_self))
      (fun r hr => hkeyed r (hmem r (mem_cons_of_mem first hr))) htagged ?_)
    exact (Option.some.inj hagain).symm

theorem peersOf_of_not_isOverlay (h : isOverlay o=false) : peersOf o=[] := by
  cases o with
  | empty | blank | braces => rfl
  | broken | json value => cases h

theorem objects_peersToAny (l : List Members) : objects (some (peersToAny l))=l := objects_arr l

theorem objects_mergeAddressBookMaps (m overlay : Members) :
    objects (get (mergeAddressBookMaps m overlay) "peers") =
      (objects (get overlay "peers")).foldl mergePeer (objects (get m "peers")) := by
  unfold mergeAddressBookMaps
  dsimp only
  rw [get_set_of_ne _ _ (by decide),get_set_self,objects_peersToAny]

theorem get_mergeAddressBookMaps (m overlay : Members) {key : String} (hpeers : key≠"peers") (htags : key≠"tags") :
    get (mergeAddressBookMaps m overlay) key=get m key := by
  unfold mergeAddressBookMaps
  dsimp only
  rw [get_set_of_ne _ _ htags,get_set_of_ne _ _ hpeers]

theorem peersOf_mergeAddressBookJSON (base : Doc) (overlays : List Doc) :
    peersOf (mergeAddressBookJSON base overlays)=(overlays.flatMap peersOf).foldl mergePeer (peersOf base) := by
  have hfold (m : Members) : objects (get (((overlays.filter isOverlay).map parseAddressBookMap).foldl
      mergeAddressBookMaps m) "peers")=(overlays.flatMap peersOf).foldl mergePeer (objects (get m "peers")) := by
    induction overlays generalizing m with
    | nil => rfl
    | cons o rest ih =>
      rw [flatMap_cons,foldl_append]
      cases ho : isOverlay o with
      | true =>
        rw [filter_cons_of_pos ho,map_cons,foldl_cons,ih,objects_mergeAddressBookMaps]
        rfl
      | false =>
        rw [filter_cons_of_neg (by simp [ho]),ih,peersOf_of_not_isOverlay ho]
        rfl
  rw [mergeAddressBookJSON,peersOf_marshal,hfold]
  rfl

theorem get_mergeAddressBookJSON {ab : Members} {key : String} (base : Doc) (overlays : List Doc)
    (h : (mergeAddressBookJSON base overlays).decode=some (.obj ab)) (hpeers : key≠"peers") (htags : key≠"tags") :
    get ab key=get (parseAddressBookMap base) key := by
  rw [mergeAddressBookJSON,decode_marshal] at h
  cases h
  induction (overlays.filter isOverlay) using List.reverseRecOn with
  | nil => rfl
  | append_singleton l o ih =>
    rw [map_append,foldl_append]
    exact (get_mergeAddressBookMaps _ _ hpeers htags).trans ih

theorem mergeAddressBookMaps_again (m overlay : Members) :
    mergeAddressBookMaps (mergeAddressBookMaps m overlay) overlay=mergeAddressBookMaps m overlay ↔
      (objects (get overlay "peers")).foldl mergePeer
        ((objects (get overlay "peers")).foldl mergePeer (objects (get m "peers"))) =
      (objects (get overlay "peers")).foldl mergePeer (objects (get m "peers")) := by
  constructor
  · intro h
    have hpeers:=congrArg (fun ab => objects (get ab "peers")) h
    simpa only [objects_mergeAddressBookMaps] using hpeers
  · intro h
    have htags : get (mergeAddressBookMaps m overlay) "tags" =
        some (.arr ((unitedTags (get m "tags") (get overlay "tags")).map .str)) := by
      unfold mergeAddressBookMaps
      dsimp only
      rw [get_set_self,unionTags_pair]
    have hpeers : get (mergeAddressBookMaps m overlay) "peers" = some (peersToAny
        ((objects (get overlay "peers")).foldl mergePeer (objects (get m "peers")))) := by
      unfold mergeAddressBookMaps
      dsimp only
      rw [get_set_of_ne _ _ (by decide),get_set_self]
    have hsub : tagsIn (get overlay "tags") ⊆ unitedTags (get m "tags") (get overlay "tags") :=
      fun tag htag => mem_unitedTags.mpr (Or.inr htag)
    generalize mergeAddressBookMaps m overlay=ab at htags hpeers ⊢
    unfold mergeAddressBookMaps
    dsimp only
    rw [hpeers,objects_peersToAny,h,set_of_get hpeers,htags,
      unionTags_of_subset (united_unitedTags _ _) hsub,set_of_get htags]

theorem mergeAddressBookJSON_again_iff (hkeyed : ∀ p∈peersOf o, Keyed p) :
    mergeAddressBookJSON base [o,o]=mergeAddressBookJSON base [o] ↔ SettledAgain (peersOf base) (peersOf o) := by
  have hentries : (peersOf o).foldl mergePeer ((peersOf o).foldl mergePeer (peersOf base)) =
      (peersOf o).foldl mergePeer (peersOf base) ↔ SettledAgain (peersOf base) (peersOf o) :=
    ⟨settled_of_foldl_again hkeyed,foldl_again_of_settled hkeyed⟩
  rw [← hentries]
  cases ho : isOverlay o with
  | false =>
    have hnil:=peersOf_of_not_isOverlay ho
    simp [mergeAddressBookJSON,ho,hnil]
  | true =>
    have honce : [o].filter isOverlay=[o] := filter_cons_of_pos ho
    have htwice : [o,o].filter isOverlay=[o,o] := by rw [filter_cons_of_pos ho,honce]
    rw [mergeAddressBookJSON,mergeAddressBookJSON,honce,htwice]
    refine Iff.trans ?_ (mergeAddressBookMaps_again (parseAddressBookMap base) (parseAddressBookMap o))
    constructor
    · intro h
      have hdecode:=congrArg Doc.decode h
      rw [decode_marshal,decode_marshal] at hdecode
      exact Json.obj.inj (Option.some.inj hdecode)
    · intro h
      exact congrArg marshal h

end Documents

end BetterDesk.AddressBook
