import BetterDesk.AddressBook.Merge

/-! # The merged book that a client reads -/

namespace BetterDesk.AddressBook
open Text Db Json KeyedMerge List

def addressBookView (s : Books) (fails : Query → Bool) (base : Doc) (overlays : List Doc) : Doc :=
  mergeAdminTagsIntoAB (s.getPeersByIDs fails) (mergeAddressBookJSON base overlays)

def Gone (s : Books) (id : PeerID) : Prop :=
  ∃ row∈s.peers,row.id=id ∧ (row.banned=true ∨ row.softDeleted=true)

def Listed (base : Doc) (overlays : List Doc) (id : PeerID) : Prop :=
  id≠"" ∧ ((∃ p∈peersOf base, idOf p=id) ∨ ∃ o∈overlays, ∃ p∈peersOf o, idOf p=id)

def timesListed (data : Doc) (id : PeerID) : ℕ := ((peersOf data).map idOf).count id

structure ViewOk (s : Books) (fails : Query → Bool) (base : Doc) (overlays : List Doc) : Prop where
  struck : ∀ v∈peersOf (addressBookView s fails base overlays), idOf v≠"" → ¬ Gone s (idOf v)
  once : ∀ id, Listed base overlays id → ¬ Gone s id → timesListed (addressBookView s fails base overlays) id=1
  fields : ∀ v∈peersOf (addressBookView s fails base overlays), ∀ p∈peersOf base, idOf v≠"" → idOf p=idOf v →
    ∀ key, key≠"tags" → isEmptyABValue (get p key)=false → get v key=get p key
  tags : ∀ v∈peersOf (addressBookView s fails base overlays), idOf v≠"" → (strings (get v "tags")).Nodup ∧
    ∀ p∈peersOf base, idOf p=idOf v → strings (get p "tags") ⊆ strings (get v "tags")
  others : ∀ key, key≠"peers" → key≠"tags" →
    get (parseAddressBookMap (addressBookView s fails base overlays)) key=get (parseAddressBookMap base) key
  again : ∀ o∈overlays,mergeAddressBookJSON base [o,o]=mergeAddressBookJSON base [o]

def sources (base : Doc) (overlays : List Doc) (id : PeerID) : List Members :=
  (peersOf base).filter (fun p => idOf p=id)++(overlays.flatMap peersOf).filter fun p => idOf p=id

/-- A row that is banned but not deleted strikes its device, when the query answers and
tells of another device of the books that is neither. -/
def Strikes (s : Books) (fails : Query → Bool) (base : Doc) (overlays : List Doc) (id : PeerID) : Prop :=
  fails .getPeersByIDs=false ∧
    (∃ row∈s.peers,row.id=id ∧ row.banned=true ∧ row.softDeleted=false) ∧
      ∃ row∈s.peers,Listed base overlays row.id ∧ row.banned=false ∧ row.softDeleted=false

/-- Tags that were united are a superset of clean ones only; others stay as they are. -/
structure TagsInOrder (base : Doc) (first : Members) (rest : List Members) : Prop where
  united : taggedBy rest → first∈peersOf base → ∀ tag∈strings (get first "tags"), trimString tag=tag ∧ tag≠""
  alone : ¬ taggedBy rest → (strings (get first "tags")).Nodup

structure ViewCond (s : Books) (fails : Query → Bool) (base : Doc) (overlays : List Doc) : Prop where
  struck : ∀ id, Listed base overlays id → Gone s id → Strikes s fails base overlays id
  once : ∀ id, Listed base overlays id → ¬ Gone s id → timesListed base id≤1
  tags : ∀ id, Listed base overlays id → ¬ Gone s id → ∀ first rest, sources base overlays id=first::rest →
    TagsInOrder base first rest
  again : ∀ o∈overlays,SettledAgain (peersOf base) (peersOf o)

structure Retouch (f : Members → Members) : Prop where
  id : ∀ p, idOf (f p)=idOf p
  fields : ∀ p key, key≠"tags" → isEmptyABValue (get p key)=false → get (f p) key=get p key
  tags : ∀ p, ∃ more, strings (get (f p) "tags")=strings (get p "tags")++more ∧ more.Nodup ∧
    ∀ tag∈more,tag∉strings (get p "tags") ∧ trimString tag=tag ∧ tag≠""

theorem retouch_id : Retouch id where
  id _ := rfl
  fields _ _ _ _ := rfl
  tags _ := ⟨[],(append_nil _).symm,nodup_nil,fun _ h => absurd h not_mem_nil⟩

variable {key : String}

theorem get_setIfMissing_of_ne (p : Members) {other : String} (value : String) (hne : other≠key) :
    get (setIfMissing p key value) other=get p other := by
  unfold setIfMissing
  split
  · split
    · rfl
    · exact get_set_of_ne p _ hne
  · split
    · rfl
    · exact get_set_of_ne p _ hne
  · rfl

theorem get_setIfMissing (p : Members) (value : String) (h : isEmptyABValue (get p key)=false) :
    get (setIfMissing p key value) key=get p key := by
  unfold setIfMissing
  split
  · rename_i hget
    rw [hget] at h
    cases h
  · rename_i hget
    rw [hget] at h
    cases h
  · rfl

theorem get_setIfMissing_of_nonempty (p : Members) {other : String} (key value : String)
    (h : isEmptyABValue (get p other)=false) : get (setIfMissing p key value) other=get p other := by
  by_cases hne : other=key
  · subst hne
    exact get_setIfMissing p value h
  · exact get_setIfMissing_of_ne p value hne

theorem get_enrich (p : Members) (row : Peer) (h : isEmptyABValue (get p key)=false) :
    get (enrich p row) key=get p key := by
  have hhost:=get_setIfMissing_of_nonempty p "hostname" row.hostname h
  have hos:=get_setIfMissing_of_nonempty (setIfMissing p "hostname" row.hostname) "platform" row.os
    (hhost ▸ h)
  unfold enrich
  rw [get_setIfMissing_of_nonempty _ _ _ (by rw [hos,hhost]; exact h),hos,hhost]

theorem get_enrich_tags (p : Members) (row : Peer) : get (enrich p row) "tags" = get p "tags" := by
  unfold enrich
  rw [get_setIfMissing_of_ne _ _ (by decide),get_setIfMissing_of_ne _ _ (by decide),
    get_setIfMissing_of_ne _ _ (by decide)]

theorem mem_splitPeerTags {tags tag : String} (h : tag∈splitPeerTags tags) : trimString tag=tag ∧ tag≠"" := by
  obtain ⟨hmem,hne⟩:=mem_filter.mp h
  obtain ⟨t,-,rfl⟩:=mem_map.mp hmem
  exact ⟨trimString_trimString _,of_decide_eq_true hne⟩

theorem strings_addTags (p : Members) (row : Peer) : strings (get (addTags p row) "tags") =
    strings (get p "tags")++(splitPeerTags row.tags).eraseDups.filter fun t => t∉strings (get p "tags") := by
  unfold addTags
  split
  · rename_i hnil
    rw [hnil]
    exact (append_nil _).symm
  · rw [get_set_self,strings_arr]

theorem retouch_mergedEntry (rows : List Peer) : Retouch (mergedEntry rows) where
  id p := congrArg Prod.fst (entryOf_mergedEntry rows p)
  fields p key hkey hempty := by
    unfold mergedEntry
    split
    · rfl
    · split
      · rename_i row _
        have hget : get (addTags (enrich p row) row) key=get (enrich p row) key := by
          unfold addTags
          split
          · rfl
          · exact get_set_of_ne _ _ hkey
        rw [hget,get_enrich p row hempty]
      · rfl
  tags p := by
    unfold mergedEntry
    split
    · exact retouch_id.tags p
    · split
      · rename_i row _
        have hstrings:=strings_addTags (enrich p row) row
        rw [get_enrich_tags] at hstrings
        refine ⟨_,hstrings,(nodup_eraseDups _).filter _,?_⟩
        intro tag htag
        obtain ⟨hmem,hnew⟩:=mem_filter.mp htag
        exact ⟨of_decide_eq_true hnew,mem_splitPeerTags (mem_eraseDups.mp hmem)⟩
      · exact retouch_id.tags p

section View
variable {s : Books} {fails : Query → Bool} {base : Doc} {overlays : List Doc} {id : PeerID}

theorem timesListed_eq_length (data : Doc) (id : PeerID) :
    timesListed data id=((peersOf data).filter fun p => idOf p=id).length := by
  rw [timesListed,List.count,countP_map,countP_eq_length_filter]
  rfl

theorem keyed_flatMap (hkeyed : ∀ o∈overlays, ∀ p∈peersOf o, Keyed p) :
    ∀ p∈overlays.flatMap peersOf, Keyed p := by
  intro p hp
  obtain ⟨o,ho,hmem⟩:=mem_flatMap.mp hp
  exact hkeyed o ho p hmem

theorem timesListed_merged (base : Doc) (hkeyed : ∀ o∈overlays, ∀ p∈peersOf o, Keyed p) (hid : id≠"") :
    timesListed (mergeAddressBookJSON base overlays) id =
      max (timesListed base id) (if id∈(overlays.flatMap peersOf).map idOf then 1 else 0) := by
  rw [timesListed,peersOf_mergeAddressBookJSON,count_foldl_mergePeer (keyed_flatMap hkeyed) hid]
  rfl

theorem listed_iff (base : Doc) (overlays : List Doc) (id : PeerID) : Listed base overlays id ↔
    id≠"" ∧ (id∈(peersOf base).map idOf ∨ id∈(overlays.flatMap peersOf).map idOf) := by
  simp only [Listed,mem_map,mem_flatMap]
  constructor
  · intro h
    obtain ⟨hid,h⟩:=h
    cases h with
    | inl h => exact ⟨hid,Or.inl h⟩
    | inr h =>
      obtain ⟨o,ho,p,hp,hpid⟩:=h
      exact ⟨hid,Or.inr ⟨p,⟨o,ho,hp⟩,hpid⟩⟩
  · intro h
    obtain ⟨hid,h⟩:=h
    cases h with
    | inl h => exact ⟨hid,Or.inl h⟩
    | inr h =>
      obtain ⟨p,⟨o,ho,hp⟩,hpid⟩:=h
      exact ⟨hid,Or.inr ⟨o,ho,p,hp,hpid⟩⟩

theorem mem_deviceIDs_merged (hkeyed : ∀ o∈overlays, ∀ p∈peersOf o, Keyed p) :
    id∈deviceIDs (mergeAddressBookJSON base overlays) ↔ Listed base overlays id := by
  rw [deviceIDs_eq,mem_filter,decide_eq_true_iff,listed_iff]
  constructor
  · intro h
    obtain ⟨hmem,hid⟩:=h
    have hpos:=count_pos_iff.mpr hmem
    have htimes:=timesListed_merged base hkeyed hid
    rw [timesListed] at htimes
    rw [htimes,lt_max_iff] at hpos
    refine ⟨hid,?_⟩
    cases hpos with
    | inl h => exact Or.inl (count_pos_iff.mp h)
    | inr h =>
      by_cases hin : id∈(overlays.flatMap peersOf).map idOf
      · exact Or.inr hin
      · rw [if_neg hin] at h
        exact absurd h (lt_irrefl 0)
  · intro h
    obtain ⟨hid,h⟩:=h
    refine ⟨count_pos_iff.mp ?_,hid⟩
    have htimes:=timesListed_merged base hkeyed hid
    rw [timesListed] at htimes
    rw [htimes,lt_max_iff]
    cases h with
    | inl h => exact Or.inl (count_pos_iff.mpr h)
    | inr h =>
      rw [if_pos h]
      exact Or.inr Nat.one_pos

def struckFrom (s : Books) (fails : Query → Bool) (base : Doc) (overlays : List Doc) (id : PeerID) : Bool :=
  struck (s.getPeersByIDs fails) (deviceIDs (mergeAddressBookJSON base overlays)) id

theorem struckFrom_iff (hkeyed : ∀ o∈overlays, ∀ p∈peersOf o, Keyed p) (hlisted : Listed base overlays id) :
    struckFrom s fails base overlays id=true ↔ Strikes s fails base overlays id := by
  have hid:=hlisted.1
  unfold struckFrom struck Books.getPeersByIDs Strikes
  cases hfails : fails .getPeersByIDs with
  | true => simp
  | false =>
    rw [if_neg Bool.false_ne_true,Option.any_some]
    simp only [bannedRow,Bool.and_eq_true,decide_eq_true_eq,Bool.not_eq_true',any_eq_true,mem_filter,
      mem_deviceIDs_merged hkeyed,← Bool.not_eq_true,all_eq_true]
    constructor
    · intro h
      obtain ⟨-,hrow,row,⟨hmem,hlive,-⟩,hrowid,hban⟩:=h
      simp only [not_forall] at hrow
      obtain ⟨other,⟨hother,hlive',hlisted'⟩,hnot⟩:=hrow
      exact ⟨trivial,⟨row,hmem,hrowid,hban,hlive⟩,other,hother,hlisted',hnot,hlive'⟩
    · intro h
      obtain ⟨-,⟨row,hmem,hrowid,hban,hlive⟩,other,hother,hlisted',hnot,hlive'⟩:=h
      refine ⟨hid,fun hall => hnot (hall other ⟨hother,hlive',hlisted'⟩),row,⟨hmem,hlive,?_⟩,hrowid,hban⟩
      rw [hrowid]
      exact hlisted

theorem peersOf_view (s : Books) (fails : Query → Bool) (base : Doc) (overlays : List Doc) :
    ∃ f, Retouch f ∧ peersOf (addressBookView s fails base overlays) =
      ((peersOf (mergeAddressBookJSON base overlays)).filter fun p => !struckFrom s fails base overlays (idOf p)).map f := by
  unfold addressBookView struckFrom
  cases mergeAdminTagsIntoAB_cases (s.getPeersByIDs fails) (mergeAddressBookJSON base overlays) with
  | inl h =>
    obtain ⟨h,hall⟩:=h
    refine ⟨id,retouch_id,?_⟩
    rw [h,map_id]
    refine (filter_eq_self.mpr ?_).symm
    intro p hp
    rw [hall p hp]
    rfl
  | inr h =>
    obtain ⟨ab,rows,tags,-,h⟩:=h
    refine ⟨mergedEntry rows,retouch_mergedEntry rows,?_⟩
    rw [h,peersOf_marshal,get_set_of_ne _ _ (by decide),get_set_self,objects_peersToAny]

theorem filter_view {f : Members → Members} (hf : Retouch f)
    (hview : peersOf (addressBookView s fails base overlays) =
      ((peersOf (mergeAddressBookJSON base overlays)).filter fun p => !struckFrom s fails base overlays (idOf p)).map f)
    (hnot : struckFrom s fails base overlays id=false) :
    (peersOf (addressBookView s fails base overlays)).filter (fun v => idOf v=id) =
      ((peersOf (mergeAddressBookJSON base overlays)).filter fun p => idOf p=id).map f := by
  rw [hview,filter_map,filter_filter]
  congr 1
  apply filter_congr
  intro p _
  rw [Function.comp_apply,hf.id]
  by_cases hp : idOf p=id
  · simp [hp,hnot]
  · simp [hp]

theorem timesListed_view (hnot : struckFrom s fails base overlays id=false) :
    timesListed (addressBookView s fails base overlays) id=timesListed (mergeAddressBookJSON base overlays) id := by
  obtain ⟨f,hf,hview⟩:=peersOf_view s fails base overlays
  rw [timesListed_eq_length,timesListed_eq_length,filter_view hf hview hnot,length_map]

theorem entry_view (hkeyed : ∀ o∈overlays, ∀ p∈peersOf o, Keyed p) (hlisted : Listed base overlays id)
    (hnot : struckFrom s fails base overlays id=false) (hbase : timesListed base id≤1) :
    ∃ f first rest, Retouch f ∧ sources base overlays id=first::rest ∧
      (peersOf (addressBookView s fails base overlays)).filter (fun v => idOf v=id) =
        [f (rest.foldl mergePeerMaps first)] := by
  obtain ⟨f,hf,hview⟩:=peersOf_view s fails base overlays
  have hone : timesListed (mergeAddressBookJSON base overlays) id=1 := by
    have hpos : 0<timesListed (mergeAddressBookJSON base overlays) id := by
      have hmem:=(mem_deviceIDs_merged hkeyed).mpr hlisted
      rw [deviceIDs_eq] at hmem
      exact count_pos_iff.mpr (mem_filter.mp hmem).1
    have hle : timesListed (mergeAddressBookJSON base overlays) id≤1 := by
      rw [timesListed_merged base hkeyed hlisted.1]
      split <;> omega
    omega
  rw [timesListed_eq_length] at hone
  obtain ⟨x,hx⟩:=length_eq_one_iff.mp hone
  have hsources : (lastOf idOf id (peersOf base)).toList=(peersOf base).filter fun p => idOf p=id := by
    rw [timesListed_eq_length] at hbase
    unfold lastOf
    cases hb : (peersOf base).filter fun p => idOf p=id with
    | nil => rfl
    | cons b more =>
      rw [hb,length_cons] at hbase
      have hmore : more=[] := length_eq_zero_iff.mp (by omega)
      rw [hmore]
      rfl
  have hlast:=lastOf_eq_some_of_filter hx
  rw [peersOf_mergeAddressBookJSON,lastOf_foldl_mergePeer (keyed_flatMap hkeyed) hlisted.1,hsources] at hlast
  have hview':=filter_view hf hview hnot
  rw [hx] at hview'
  cases hlist : sources base overlays id with
  | nil =>
    rw [sources] at hlist
    rw [hlist] at hlast
    cases hlast
  | cons first rest =>
    have hlist':=hlist
    rw [sources] at hlist'
    rw [hlist'] at hlast
    cases hlast
    exact ⟨f,first,rest,hf,rfl,hview'⟩

variable {rest : List Members} {first : Members}

theorem sources_cases (hbase : timesListed base id≤1) (h : sources base overlays id=first::rest) :
    (∀ p∈peersOf base, idOf p=id → p=first) ∧ ∀ r∈rest,r∈overlays.flatMap peersOf := by
  rw [timesListed_eq_length] at hbase
  have hmem (p : Members) (hp : p∈peersOf base) (hpid : idOf p=id) :
      p∈(peersOf base).filter fun p => idOf p=id := mem_filter.mpr ⟨hp,decide_eq_true hpid⟩
  rw [sources] at h
  cases hb : (peersOf base).filter fun p => idOf p=id with
  | nil =>
    rw [hb] at hmem
    rw [hb,nil_append] at h
    constructor
    · intro p hp hpid
      exact absurd (hmem p hp hpid) not_mem_nil
    · intro r hr
      have hin : r∈first::rest := mem_cons_of_mem first hr
      rw [← h] at hin
      exact (mem_filter.mp hin).1
  | cons b more =>
    rw [hb,length_cons] at hbase
    have hmore : more=[] := length_eq_zero_iff.mp (by omega)
    rw [hmore] at hb
    rw [hb] at hmem
    rw [hb,singleton_append,cons.injEq] at h
    constructor
    · intro p hp hpid
      exact (mem_singleton.mp (hmem p hp hpid)).trans h.1
    · intro r hr
      rw [← h.2] at hr
      exact (mem_filter.mp hr).1

theorem idOf_of_sources (h : sources base overlays id=first::rest) : idOf first=id := by
  have hin : first∈sources base overlays id := h ▸ mem_cons_self
  cases mem_append.mp hin with
  | inl h | inr h => exact of_decide_eq_true (mem_filter.mp h).2

theorem tags_view {f : Members → Members} (hf : Retouch f) (hrest : ∀ r∈rest,Keyed r) :
    ((strings (get (f (rest.foldl mergePeerMaps first)) "tags")).Nodup ∧ (first∈peersOf base →
      strings (get first "tags") ⊆ strings (get (f (rest.foldl mergePeerMaps first)) "tags"))) ↔
        TagsInOrder base first rest := by
  obtain ⟨more,hmore,hnodup,hnew⟩:=hf.tags (rest.foldl mergePeerMaps first)
  rw [hmore]
  by_cases htagged : taggedBy rest
  · obtain ⟨l,hl,hunited,hsub⟩:=get_tags_foldl_of_tagged hrest htagged first
    rw [hl,strings_arr] at hnew ⊢
    constructor
    · intro h
      refine ⟨fun _ hbase tag htag => ?_,fun hnot => absurd htagged hnot⟩
      cases mem_append.mp (h.2 hbase htag) with
      | inl hin => exact ⟨hunited.trimmed tag hin,hunited.nonblank tag hin⟩
      | inr hin => exact (hnew tag hin).2
    · intro h
      constructor
      · exact hunited.nodup.append hnodup fun tag hin hin' => (hnew tag hin').1 hin
      · intro hbase tag htag
        obtain ⟨htrim,hne⟩:=h.united htagged hbase tag htag
        exact mem_append_left more (hsub (mem_tagsIn.mpr ⟨⟨tag,htag,htrim⟩,hne⟩))
  · rw [get_tags_foldl_of_not_tagged hrest htagged] at hnew ⊢
    constructor
    · intro h
      exact ⟨fun ht => absurd ht htagged,fun _ => h.1.of_append_left⟩
    · intro h
      constructor
      · exact (h.alone htagged).append hnodup fun tag hin hin' => (hnew tag hin').1 hin
      · intro _ tag htag
        exact mem_append_left more htag

theorem gone_of_strikes (h : Strikes s fails base overlays id) : Gone s id := by
  obtain ⟨-,⟨row,hmem,hid,hban,-⟩,-⟩:=h
  exact ⟨row,hmem,hid,Or.inl hban⟩

theorem not_struckFrom (hkeyed : ∀ o∈overlays, ∀ p∈peersOf o, Keyed p) (hlisted : Listed base overlays id)
    (h : ¬ Gone s id) : struckFrom s fails base overlays id=false := by
  rw [← Bool.not_eq_true,struckFrom_iff hkeyed hlisted]
  exact fun hstrikes => h (gone_of_strikes hstrikes)

theorem listed_of_mem_view (hkeyed : ∀ o∈overlays, ∀ p∈peersOf o, Keyed p) {v : Members}
    (hv : v∈peersOf (addressBookView s fails base overlays)) (hid : idOf v≠"") :
    Listed base overlays (idOf v) ∧ struckFrom s fails base overlays (idOf v)=false := by
  obtain ⟨f,hf,hview⟩:=peersOf_view s fails base overlays
  rw [hview] at hv
  obtain ⟨p,hp,rfl⟩:=mem_map.mp hv
  obtain ⟨hmem,hnot⟩:=mem_filter.mp hp
  rw [hf.id] at hid ⊢
  constructor
  · rw [← mem_deviceIDs_merged hkeyed,deviceIDs_eq]
    exact mem_filter.mpr ⟨mem_map_of_mem hmem,decide_eq_true hid⟩
  · simpa using hnot

theorem exists_view_of_not_struck (hkeyed : ∀ o∈overlays, ∀ p∈peersOf o, Keyed p)
    (hlisted : Listed base overlays id) (hnot : struckFrom s fails base overlays id=false) :
    ∃ v∈peersOf (addressBookView s fails base overlays), idOf v=id := by
  have hmem:=(mem_deviceIDs_merged hkeyed).mpr hlisted
  rw [deviceIDs_eq] at hmem
  have hpos:=count_pos_iff.mpr (mem_filter.mp hmem).1
  have htimes:=timesListed_view hnot
  unfold timesListed at htimes
  rw [← htimes] at hpos
  exact mem_map.mp (count_pos_iff.mp hpos)

theorem others_view (s : Books) (fails : Query → Bool) (base : Doc) (overlays : List Doc) {key : String}
    (hpeers : key≠"peers") (htags : key≠"tags") :
    get (parseAddressBookMap (addressBookView s fails base overlays)) key=get (parseAddressBookMap base) key := by
  have hparse {data : Doc} {ab : Members} (h : data.decode=some (.obj ab)) :
      get (parseAddressBookMap data) key=get ab key := by
    unfold parseAddressBookMap
    rw [h]
    dsimp only
    rw [get_withDefault_of_ne _ htags,get_withDefault_of_ne _ hpeers]
  unfold addressBookView
  cases mergeAdminTagsIntoAB_cases (s.getPeersByIDs fails) (mergeAddressBookJSON base overlays) with
  | inl h =>
    have hdecode : ∃ ab, (mergeAddressBookJSON base overlays).decode=some (.obj ab) := ⟨_,decode_marshal _⟩
    obtain ⟨ab,hab⟩:=hdecode
    rw [h.1,hparse hab]
    exact get_mergeAddressBookJSON base overlays hab hpeers htags
  | inr h =>
    obtain ⟨ab,rows,tags,hab,h⟩:=h
    rw [h,hparse (decode_marshal _),get_set_of_ne _ _ htags,get_set_of_ne _ _ hpeers]
    exact get_mergeAddressBookJSON base overlays hab hpeers htags

theorem struck_view_iff (hkeyed : ∀ o∈overlays, ∀ p∈peersOf o, Keyed p) :
    (∀ v∈peersOf (addressBookView s fails base overlays), idOf v≠"" → ¬ Gone s (idOf v)) ↔
      ∀ id, Listed base overlays id → Gone s id → Strikes s fails base overlays id := by
  constructor
  · intro h id hlisted hgone
    by_contra hstrikes
    rw [← struckFrom_iff hkeyed hlisted,Bool.not_eq_true] at hstrikes
    obtain ⟨v,hv,rfl⟩:=exists_view_of_not_struck hkeyed hlisted hstrikes
    exact h v hv hlisted.1 hgone
  · intro h v hv hid hgone
    obtain ⟨hlisted,hnot⟩:=listed_of_mem_view hkeyed hv hid
    rw [(struckFrom_iff hkeyed hlisted).mpr (h _ hlisted hgone)] at hnot
    cases hnot

theorem once_view_iff (hkeyed : ∀ o∈overlays, ∀ p∈peersOf o, Keyed p) (hlisted : Listed base overlays id)
    (hgone : ¬ Gone s id) : timesListed (addressBookView s fails base overlays) id=1 ↔ timesListed base id≤1 := by
  rw [timesListed_view (not_struckFrom hkeyed hlisted hgone),timesListed_merged base hkeyed hlisted.1]
  split
  · omega
  · rename_i hover
    have hin:=(((listed_iff base overlays id).mp hlisted).2).resolve_right hover
    have hpos:=count_pos_iff.mpr hin
    change 0<timesListed base id at hpos
    omega

theorem entry_of_mem_view (hkeyed : ∀ o∈overlays, ∀ p∈peersOf o, Keyed p)
    (honce : ∀ id, Listed base overlays id → ¬ Gone s id → timesListed base id≤1) {v : Members}
    (hv : v∈peersOf (addressBookView s fails base overlays)) (hid : idOf v≠"") (hgone : ¬ Gone s (idOf v)) :
    ∃ f first rest, Retouch f ∧ sources base overlays (idOf v)=first::rest ∧
      v=f (rest.foldl mergePeerMaps first) := by
  obtain ⟨hlisted,hnot⟩:=listed_of_mem_view hkeyed hv hid
  obtain ⟨f,first,rest,hf,hsources,hfilter⟩:=entry_view hkeyed hlisted hnot (honce _ hlisted hgone)
  refine ⟨f,first,rest,hf,hsources,?_⟩
  have hmem : v∈(peersOf (addressBookView s fails base overlays)).filter fun w => idOf w=idOf v :=
    mem_filter.mpr ⟨hv,decide_eq_true rfl⟩
  rw [hfilter] at hmem
  exact mem_singleton.mp hmem

theorem viewOk_of_cond (hkeyed : ∀ o∈overlays, ∀ p∈peersOf o, Keyed p) (h : ViewCond s fails base overlays) :
    ViewOk s fails base overlays := by
  have hstruck:=(struck_view_iff hkeyed).mpr h.struck
  constructor
  · exact hstruck
  · intro id hlisted hgone
    exact (once_view_iff hkeyed hlisted hgone).mpr (h.once id hlisted hgone)
  · intro v hv p hp hid hpid key hkey hempty
    have hgone:=hstruck v hv hid
    have hlisted:=(listed_of_mem_view hkeyed hv hid).1
    obtain ⟨f,first,rest,hf,hsources,heq⟩:=entry_of_mem_view hkeyed h.once hv hid hgone
    obtain ⟨hfirst,hrest⟩:=sources_cases (h.once _ hlisted hgone) hsources
    have hkept:=isEmptyABValue_foldl (fun r hr => keyed_flatMap hkeyed r (hrest r hr)) hkey
      (hfirst p hp hpid ▸ hempty)
    rw [heq,hf.fields _ key hkey (by rw [hkept,← hfirst p hp hpid]; exact hempty),hkept,hfirst p hp hpid]
  · intro v hv hid
    have hgone:=hstruck v hv hid
    have hlisted:=(listed_of_mem_view hkeyed hv hid).1
    obtain ⟨f,first,rest,hf,hsources,heq⟩:=entry_of_mem_view hkeyed h.once hv hid hgone
    obtain ⟨hfirst,hrest⟩:=sources_cases (h.once _ hlisted hgone) hsources
    obtain ⟨hnodup,hsub⟩:=(tags_view hf fun r hr => keyed_flatMap hkeyed r (hrest r hr)).mpr
      (h.tags _ hlisted hgone first rest hsources)
    rw [← heq] at hnodup hsub
    refine ⟨hnodup,fun p hp hpid => ?_⟩
    have hpf:=hfirst p hp hpid
    rw [hpf]
    exact hsub (hpf ▸ hp)
  · intro key hpeers htags
    exact others_view s fails base overlays hpeers htags
  · intro o ho
    exact (mergeAddressBookJSON_again_iff (hkeyed o ho)).mpr (h.again o ho)

theorem cond_of_viewOk (hkeyed : ∀ o∈overlays, ∀ p∈peersOf o, Keyed p) (h : ViewOk s fails base overlays) :
    ViewCond s fails base overlays := by
  have honce : ∀ id, Listed base overlays id → ¬ Gone s id → timesListed base id≤1 :=
    fun id hlisted hgone => (once_view_iff hkeyed hlisted hgone).mp (h.once id hlisted hgone)
  constructor
  · exact (struck_view_iff hkeyed).mp h.struck
  · exact honce
  · intro id hlisted hgone first rest hsources
    have hnot : struckFrom s fails base overlays id=false := not_struckFrom hkeyed hlisted hgone
    obtain ⟨v,hv,rfl⟩:=exists_view_of_not_struck hkeyed hlisted hnot
    obtain ⟨f,first',rest',hf,hsources',heq⟩:=entry_of_mem_view hkeyed honce hv hlisted.1 hgone
    cases hsources.symm.trans hsources'
    obtain ⟨-,hrest⟩:=sources_cases (honce _ hlisted hgone) hsources
    refine (tags_view hf fun r hr => keyed_flatMap hkeyed r (hrest r hr)).mp ?_
    obtain ⟨hnodup,hsub⟩:=h.tags v hv hlisted.1
    rw [← heq]
    exact ⟨hnodup,fun hbase => hsub first hbase (idOf_of_sources hsources)⟩
  · intro o ho
    exact (mergeAddressBookJSON_again_iff (hkeyed o ho)).mp (h.again o ho)

theorem view_ok_iff (s : Books) (fails : Query → Bool) (base : Doc) (overlays : List Doc)
    (hkeyed : ∀ o∈overlays, ∀ p∈peersOf o, Keyed p) :
    ViewOk s fails base overlays ↔ ViewCond s fails base overlays :=
  ⟨cond_of_viewOk hkeyed,viewOk_of_cond hkeyed⟩

end View

def bannedPeer : Books where
  books _ _ := .braces
  peers := [⟨"123456789","","","","vip",false,false,false⟩,⟨"987654321","","","","",true,false,false⟩]

def ownBook : Doc := .json (.obj [("peers",.arr [.obj [("id",.str "123456789"),("tags",.arr [.str "office"])]])])

def orgBook : Doc := .json (.obj [("peers",.arr [.obj [("id",.str "123456789"),("tags",.arr [.str "acme"])],
  .obj [("id",.str "987654321")]])])

theorem keyed_orgBook : ∀ o∈[orgBook], ∀ p∈peersOf o, Keyed p := by
  intro o ho p hp
  rw [mem_singleton.mp ho] at hp
  change p∈[[("id",.str "123456789"),("tags",.arr [.str "acme"])],[("id",.str "987654321")]] at hp
  rw [mem_cons,mem_singleton] at hp
  cases hp with
  | inl hp | inr hp =>
    rw [hp,Keyed]
    decide

theorem viewCond_bannedPeer : ViewCond bannedPeer (fun _ => false) ownBook [orgBook] := by
  have hlisted (id : PeerID) (h : Listed ownBook [orgBook] id) : id="123456789" ∨ id="987654321" := by
    have h:=((listed_iff ownBook [orgBook] id).mp h).2
    change id∈["123456789"] ∨ id∈["123456789","987654321"] at h
    simp only [mem_cons,not_mem_nil,or_false] at h
    exact h.elim Or.inl fun h => h
  have hgone : Gone bannedPeer "987654321" := by
    unfold Gone
    decide
  constructor
  · intro id h hgone
    cases hlisted id h with
    | inl hid =>
      subst hid
      have hnot : ¬ Gone bannedPeer "123456789" := by
        unfold Gone
        decide
      exact absurd hgone hnot
    | inr hid =>
      subst hid
      unfold Strikes Listed
      decide
  · intro id _ _
    exact count_le_length
  · intro id h hnot first rest hsources
    cases hlisted id h with
    | inl hid =>
      subst hid
      change [_,_]=_ at hsources
      cases hsources
      constructor
      · intro _ _
        decide
      · intro hnot
        exact absurd ⟨_,mem_cons_self,rfl⟩ hnot
    | inr hid => exact absurd (hid ▸ hgone) hnot
  · intro o ho id hid hnew first rest hfirst
    rw [mem_singleton.mp ho] at hfirst
    have hin : first∈(peersOf orgBook).filter fun p => idOf p=id := hfirst ▸ mem_cons_self
    obtain ⟨hmem,hfid⟩:=mem_filter.mp hin
    change first∈[_,_] at hmem
    rw [mem_cons,mem_singleton] at hmem
    cases hmem with
    | inl heq =>
      have hown : id="123456789" := (of_decide_eq_true hfid).symm.trans (heq ▸ rfl)
      exact absurd (hown ▸ mem_singleton.mpr rfl) hnew
    | inr heq =>
      refine Or.inr fun t ht => ?_
      rw [heq] at ht
      cases ht

theorem banned_device_struck : ViewOk bannedPeer (fun _ => false) ownBook [orgBook] ∧
    entries (addressBookView bannedPeer (fun _ => false) ownBook [orgBook])=[("123456789",none)] :=
  ⟨(view_ok_iff _ _ _ _ keyed_orgBook).mpr viewCond_bannedPeer,by rfl⟩

def deletedPeer : Books where
  books _ _ := .braces
  peers := [⟨"123456789","","","","",false,false,false⟩,⟨"987654321","","","","",false,false,true⟩]

def bookOfTwo : Doc := .json (.obj [("peers",.arr [.obj [("id",.str "123456789")],.obj [("id",.str "987654321")]])])

theorem deleted_device_stays :
    ¬ (∀ s fails base overlays, (∀ o∈overlays, ∀ p∈peersOf o, Keyed p) → ViewOk s fails base overlays) ∧
      entries (addressBookView deletedPeer (fun _ => false) bookOfTwo []) =
        [("123456789",none),("987654321",none)] := by
  have hentries : entries (addressBookView deletedPeer (fun _ => false) bookOfTwo []) =
      [("123456789",none),("987654321",none)] := by rfl
  refine ⟨fun h => ?_,hentries⟩
  have hok:=h deletedPeer (fun _ => false) bookOfTwo [] fun o ho => absurd ho not_mem_nil
  have hmem : ("987654321",none)∈entries (addressBookView deletedPeer (fun _ => false) bookOfTwo []) := by
    rw [hentries]
    exact mem_cons_of_mem _ mem_cons_self
  obtain ⟨v,hv,heq⟩:=mem_map.mp hmem
  have hid : idOf v="987654321" := congrArg Prod.fst heq
  refine hok.struck v hv (by rw [hid]; decide) ?_
  rw [hid]
  exact ⟨⟨"987654321","","","","",false,false,true⟩,mem_cons_of_mem _ mem_cons_self,rfl,
    Or.inr rfl⟩

end BetterDesk.AddressBook
