import BetterDesk.AddressBook.Handlers
import BetterDesk.Lib.Exec

/-! # Reading a book and posting it back -/

namespace BetterDesk.AddressBook
open Text Auth Db Api Json Exec Option

abbrev Entry := PeerID × Option Json

def entryOf (p : Members) : Entry := (idOf p,get p "password")

def entries (data : Doc) : List Entry := (peersOf data).map entryOf

structure Sync where
  ctx : Ctx
  getEnv : GetEnv
  postEnv : PostEnv

namespace Sync
variable (x : Sync) (s : Books)

def response : Option Doc := handleClientAddressBookGet x.getEnv s x.ctx

def result : Books :=
  match x.response s with
  | some data => handleClientAddressBookPost x.postEnv s x.ctx .legacy (.text data)
  | none => s

def merged : Doc := mergeOrgAddressBooksIntoAB x.getEnv x.ctx (s.books x.ctx.username .legacy)

end Sync

def VaultPassword (env : GetEnv) (id : PeerID) (pw : String) : Prop :=
  trimString pw≠"" ∧ ∃ org, env.openCredential org id=some pw

inductive Act
  | sync (x : Sync)
  | world (peers : List Peer)    -- the peers table changes otherwise

def syncStep (s : Books) : Act → Option Books
  | .sync x => some (x.result s)
  | .world peers => some {s with peers := peers}

/-- No password of a vault comes into a stored book, and an entry of a device that the
read withheld is still stored. -/
structure KeepsBook (x : Sync) (s : Books) : Prop where
  secrets : ∀ user t id pw, VaultPassword x.getEnv id pw →
    (id,some (.str pw))∈entries ((x.result s).books user t) → (id,some (.str pw))∈entries (s.books user t)
  withheld : ∀ data, x.response s=some data → ∀ p∈peersOf (s.books x.ctx.username .legacy),
    trimString (idOf p)≠"" → (∀ q∈peersOf data, idOf q≠idOf p) →
      p∈peersOf ((x.result s).books x.ctx.username .legacy)

def Kept (s : Books) : Act → Prop
  | .sync x => KeepsBook x s
  | .world _ => True

def deviceIDs (data : Doc) : List PeerID := ((entries data).map Prod.fst).filter fun id => id≠""

def struck (getPeersByIDs : List PeerID → Option (List Peer)) (ids : List PeerID) (id : PeerID) : Bool :=
  id≠""&&(getPeersByIDs ids).any fun rows => !rows.all Peer.banned&&bannedRow rows id

def outOfScope (visible : Option (PeerID → Bool)) (known : PeerID → Bool) (id : PeerID) : Bool :=
  visible.any fun visible => trimString id=""||(known (trimString id)&&!visible (trimString id))

namespace Sync
variable (x : Sync) (s : Books)

def strikes (id : PeerID) : Bool :=
  !isProRole x.ctx.role&&struck (s.getPeersByIDs x.getEnv.fails) (deviceIDs (x.merged s)) id

def hides (id : PeerID) : Bool :=
  !isProRole x.ctx.role&&!unscopedRole x.ctx.role &&
    outOfScope (visibleTo x.getEnv.scope x.ctx (loadRustDeskPeerByID x.getEnv s x.ctx))
      (knownPeer (loadRustDeskPeerByID x.getEnv s x.ctx)) id

def withholds (id : PeerID) : Bool := x.strikes s id||x.hides s id

def Accepted : Prop :=
  x.ctx.username≠"" ∧ x.getEnv.fails (.getAddressBook .legacy)=false ∧
    x.postEnv.fails (.saveAddressBook .legacy)=false ∧ ∀ data, x.response s=some data → x.postEnv.tooLarge data=false

end Sync

/-- What the injection makes of an entry. -/
def fillEntry (secrets : PeerID → Option String) (e : Entry) : Entry :=
  (e.1,match secrets e.1 with
    | some secret => if e.1≠"" ∧ isEmptyABValue e.2=true then some (.str secret) else e.2
    | none => e.2)

def Lends (env : GetEnv) (id : PeerID) (pw : String) (org : OrgID) : Prop :=
  id∈env.credentialFlags org ∧ env.openCredential org id=some pw ∧ trimString pw≠""

/-- Of the organizations of the user that share their book, the first with a
password for the device has this one. -/
def Lent (env : GetEnv) (ctx : Ctx) (id : PeerID) (pw : String) : Prop :=
  env.vault=true ∧ ∃ before org after, sharedOrgs env ctx=before++org::after ∧ Lends env id pw org ∧
    ∀ other∈before, ∀ pw', ¬ Lends env id pw' other

/-- The read withholds no device of the user's own book; a device that it shows has
no password of a vault but the one the book holds already, and is lent none where
it has none. -/
structure ReadInOrder (x : Sync) (s : Books) : Prop where
  devices : ∀ e∈entries (s.books x.ctx.username .legacy), trimString e.1≠"" → x.withholds s e.1=false
  shared : ∀ e∈entries (x.merged s), x.withholds s e.1=false → ∀ pw, VaultPassword x.getEnv e.1 pw →
    e.2=some (.str pw) → e∈entries (s.books x.ctx.username .legacy)
  lent : ∀ e∈entries (x.merged s), x.withholds s e.1=false → e.1≠"" → isEmptyABValue e.2=true →
    ∀ pw, Lent x.getEnv x.ctx e.1 pw → (e.1,some (.str pw))∈entries (s.books x.ctx.username .legacy)

def InOrder (s : Books) : Act → Prop
  | .sync x => x.Accepted s → ReadInOrder x s
  | .world _ => True

theorem get_withDefault_of_ne (m : Members) {key other : String} (hne : other≠key) :
    get (withDefault m key) other=get m other := by
  unfold withDefault
  split
  · rfl
  · exact get_set_of_ne m _ hne

theorem objects_withDefault (m : Members) (key : String) :
    objects (get (withDefault m key) key)=objects (get m key) := by
  unfold withDefault
  split
  · rfl
  · rename_i hnone
    rw [get_set_self,not_isSome_iff_eq_none.mp hnone]
    rfl

theorem peersOf_of_decode {data : Doc} {m : Members} (h : data.decode=some (.obj m)) :
    peersOf data=objects (get m "peers") := by
  unfold peersOf parseAddressBookMap
  rw [h]
  dsimp only
  rw [get_withDefault_of_ne _ (by decide),objects_withDefault]

theorem peersOf_of_not_object {data : Doc} (h : ∀ m, data.decode≠some (.obj m)) : peersOf data=[] := by
  unfold peersOf parseAddressBookMap
  split
  · rename_i m hm
    exact absurd hm (h m)
  · rfl

@[simp] theorem peersOf_marshal (m : Members) : peersOf (marshal m)=objects (get m "peers") := by
  cases m with
  | nil => exact (peersOf_of_decode rfl : peersOf .braces=_)
  | cons e rest => exact peersOf_of_decode rfl

theorem peersOf_set_peers (m : Members) (peers : List Members) :
    peersOf (marshal (set m "peers" (peersToAny peers)))=peers := by
  rw [peersOf_marshal,get_set_self,peersToAny,objects_arr]

theorem entryOf_set (p : Members) (v : Json) {key : String} (hid : key≠"id") (hpw : key≠"password") :
    entryOf (set p key v)=entryOf p := by
  unfold entryOf idOf
  rw [get_set_of_ne p v hid.symm,get_set_of_ne p v hpw.symm]

section Stages
variable {secrets : PeerID → Option String} {getPeersByIDs : List PeerID → Option (List Peer)} {rows : List Peer}

theorem fillEntry_mk (secrets : PeerID → Option String) (id : PeerID) (pw : Option Json) :
    fillEntry secrets (id,pw)=(id,match secrets id with
      | some secret => if id≠"" ∧ isEmptyABValue pw=true then some (.str secret) else pw
      | none => pw) := rfl

theorem orgSecrets_iff {env : GetEnv} {ctx : Ctx} {id : PeerID} {pw : String} (hid : id≠"") :
    orgSecrets env ctx id=some pw ↔ Lent env ctx id pw := by
  have hlends (org : OrgID) (pw : String) : (if id∈env.credentialFlags org then
      (env.openCredential org id).filter fun plain => trimString plain≠"" else none)=some pw ↔
        Lends env id pw org := by
    unfold Lends
    by_cases hflag : id∈env.credentialFlags org <;> simp [filter_eq_some_iff,hflag]
  unfold orgSecrets Lent
  cases hvault : env.vault with
  | false => simp
  | true =>
    rw [if_neg (by simp [hid]),List.findSome?_eq_some_iff]
    simp only [hlends,true_and,eq_none_iff_forall_not_mem,mem_def]

/-- A password of a vault in an entry shown was there, or was lent. -/
theorem filled_iff {env : GetEnv} {ctx : Ctx} {e : Entry} {pw : String} :
    VaultPassword env e.1 pw ∧ (fillEntry (orgSecrets env ctx) e).2=some (.str pw) ↔
      VaultPassword env e.1 pw ∧ e.2=some (.str pw) ∨
        e.1≠"" ∧ isEmptyABValue e.2=true ∧ Lent env ctx e.1 pw := by
  by_cases hfill : e.1≠"" ∧ isEmptyABValue e.2=true
  · obtain ⟨hid,hempty⟩:=hfill
    have hblank : VaultPassword env e.1 pw → e.2≠some (.str pw) := fun hv he => by
      simp [he,isEmptyABValue,hv.1] at hempty
    have hvault : Lent env ctx e.1 pw → VaultPassword env e.1 pw :=
      fun ⟨_,_,org,_,_,hlends,_⟩ => ⟨hlends.2.2,org,hlends.2.1⟩
    rw [← orgSecrets_iff hid] at hvault ⊢
    unfold fillEntry
    cases hsecret : orgSecrets env ctx e.1 with
    | none => simp
    | some secret =>
      rw [hsecret,some.injEq] at hvault
      simp only [hid,hempty,ne_eq,not_false_eq_true,and_self,if_true,some.injEq,str.injEq,true_and]
      exact ⟨fun h => Or.inr h.2,fun h => h.elim (fun h => absurd h.2 (hblank h.1)) fun h => ⟨hvault h,h⟩⟩
  · have hlent : ¬ (e.1≠"" ∧ isEmptyABValue e.2=true ∧ Lent env ctx e.1 pw) := fun h => hfill ⟨h.1,h.2.1⟩
    unfold fillEntry
    cases orgSecrets env ctx e.1 with
    | none => simp [hlent]
    | some secret => simp only [if_neg hfill,hlent,or_false]

theorem entryOf_fillPassword (secrets : PeerID → Option String) (p : Members) :
    entryOf (fillPassword secrets p)=fillEntry secrets (entryOf p) := by
  have hid (secret : String) : idOf (set p "password" (.str secret))=idOf p := by
    unfold idOf
    rw [get_set_of_ne p _ (by decide)]
  rw [entryOf,entryOf,fillEntry_mk,fillPassword]
  cases secrets (idOf p) with
  | none => rfl
  | some secret =>
    dsimp only
    split
    · rw [get_set_self,hid]
    · rfl

variable {id : PeerID} {p : Members}

theorem fillEntry_of_not_fills (h : fills secrets p=false) : fillEntry secrets (entryOf p)=entryOf p := by
  unfold fillEntry entryOf
  unfold fills at h
  dsimp only
  split
  · rename_i secret hsecret
    rw [hsecret] at h
    rw [if_neg]
    rintro ⟨hid,hempty⟩
    simp [hid,hempty] at h
  · rfl

theorem entries_injectSecrets (secrets : PeerID → Option String) (data : Doc) :
    entries (injectSecrets secrets data)=(entries data).map (fillEntry secrets) := by
  unfold injectSecrets entries
  dsimp only
  split
  · rw [peersOf_set_peers,List.map_map,List.map_map]
    exact List.map_congr_left fun p _ => entryOf_fillPassword secrets p
  · rename_i hany
    rw [List.map_map]
    refine List.map_congr_left fun p hp => (fillEntry_of_not_fills ?_).symm
    exact Bool.eq_false_iff.mpr fun hf => hany (List.any_eq_true.mpr ⟨p,hp,hf⟩)

theorem entryOf_setIfMissing (p : Members) (value : String) {key : String} (hid : key≠"id")
    (hpw : key≠"password") : entryOf (setIfMissing p key value)=entryOf p := by
  unfold setIfMissing
  split
  · split
    · rfl
    · exact entryOf_set p _ hid hpw
  · split
    · rfl
    · exact entryOf_set p _ hid hpw
  · rfl

theorem entryOf_mergedEntry (rows : List Peer) (p : Members) : entryOf (mergedEntry rows p)=entryOf p := by
  have htags (q : Members) (row : Peer) : entryOf (addTags q row)=entryOf q := by
    unfold addTags
    split
    · rfl
    · exact entryOf_set q _ (by decide) (by decide)
  have henrich (row : Peer) : entryOf (enrich p row)=entryOf p := by
    unfold enrich
    rw [entryOf_setIfMissing _ _ (by decide) (by decide),entryOf_setIfMissing _ _ (by decide) (by decide),
      entryOf_setIfMissing _ _ (by decide) (by decide)]
  unfold mergedEntry
  split
  · rfl
  · split
    · exact (htags _ _).trans (henrich _)
    · rfl

theorem deviceIDs_eq (data : Doc) : deviceIDs data=((peersOf data).map idOf).filter fun id => id≠"" := by
  unfold deviceIDs entries
  rw [List.map_map]
  rfl

theorem keptEntry_of_not_touched (h : touched rows p=false) : keptEntry rows p=true := by
  unfold touched at h
  unfold keptEntry
  by_cases hid : idOf p=""
  · simp [hid]
  · cases hb : bannedRow rows (idOf p) with
    | false => simp
    | true => simp [hid,hb] at h

theorem mergeAdminTagsIntoAB_cases (getPeersByIDs : List PeerID → Option (List Peer)) (data : Doc) :
    (mergeAdminTagsIntoAB getPeersByIDs data=data ∧
      ∀ p∈peersOf data, struck getPeersByIDs (deviceIDs data) (idOf p)=false) ∨
    ∃ ab rows tags, data.decode=some (.obj ab) ∧
      mergeAdminTagsIntoAB getPeersByIDs data=marshal (set (set ab "peers" (peersToAny
        (((peersOf data).filter fun p => !struck getPeersByIDs (deviceIDs data) (idOf p)).map (mergedEntry rows))))
          "tags" tags) := by
  unfold mergeAdminTagsIntoAB
  split
  · rename_i ab hab
    have hpeers:=peersOf_of_decode hab
    have hids:=deviceIDs_eq data
    dsimp only
    rw [← hpeers,← hids]
    split
    · rename_i hnil
      refine Or.inl ⟨rfl,fun p hp => ?_⟩
      have hid : idOf p="" := by
        by_contra hne
        have hmem : idOf p∈deviceIDs data := by
          rw [hids]
          exact List.mem_filter.mpr ⟨List.mem_map_of_mem hp,decide_eq_true hne⟩
        exact absurd (hnil ▸ hmem) List.not_mem_nil
      simp [struck,hid]
    · split
      · rename_i hfind
        exact Or.inl ⟨rfl,fun p _ => by simp [struck,hfind]⟩
      · rename_i rows hfind
        have hstruck (id : PeerID) : struck getPeersByIDs (deviceIDs data) id =
            (decide (id≠"")&&(!rows.all Peer.banned&&bannedRow rows id)) := by
          simp [struck,hfind]
        split
        · rename_i hban
          exact Or.inl ⟨rfl,fun p _ => by simp [hstruck,hban]⟩
        · rename_i hban
          have hban' : rows.all Peer.banned=false := Bool.eq_false_iff.mpr hban
          have hkept (p : Members) : (!struck getPeersByIDs (deviceIDs data) (idOf p))=keptEntry rows p := by
            rw [hstruck,hban',keptEntry]
            by_cases hid : idOf p="" <;> simp [hid]
          split
          · have hfilter : (peersOf data).filter (keptEntry rows) =
                (peersOf data).filter fun p => !struck getPeersByIDs (deviceIDs data) (idOf p) :=
              List.filter_congr fun p _ => (hkept p).symm
            rw [hfilter]
            exact Or.inr ⟨ab,rows,_,hab,rfl⟩
          · rename_i hany
            refine Or.inl ⟨rfl,fun p hp => ?_⟩
            have hk:=keptEntry_of_not_touched (Bool.eq_false_iff.mpr fun ht =>
              hany (List.any_eq_true.mpr ⟨p,hp,ht⟩))
            rw [← hkept p] at hk
            simpa using hk
  · rename_i hno
    exact Or.inl ⟨rfl,fun p hp => absurd (peersOf_of_not_object hno ▸ hp) List.not_mem_nil⟩

theorem entries_mergeAdminTagsIntoAB (getPeersByIDs : List PeerID → Option (List Peer)) (data : Doc) :
    entries (mergeAdminTagsIntoAB getPeersByIDs data) =
      (entries data).filter fun e => !struck getPeersByIDs (deviceIDs data) e.1 := by
  cases mergeAdminTagsIntoAB_cases getPeersByIDs data with
  | inl h =>
    obtain ⟨h,hall⟩:=h
    rw [h]
    refine (List.filter_eq_self.mpr fun e he => ?_).symm
    obtain ⟨p,hp,rfl⟩:=List.mem_map.mp he
    rw [show (entryOf p).1=idOf p from rfl,hall p hp]
    rfl
  | inr h =>
    obtain ⟨ab,rows,tags,-,h⟩:=h
    rw [h]
    unfold entries
    rw [peersOf_marshal,get_set_of_ne _ _ (by decide),get_set_self,peersToAny,objects_arr,List.map_map,
      List.filter_map]
    simp only [Function.comp_def,entryOf_mergedEntry]
    rfl

theorem peersOf_syncServerTagsIntoAddressBook {u : Unicode} {serverTags : List String} {data out : Doc}
    (h : syncServerTagsIntoAddressBook u serverTags data=some out) : peersOf out=peersOf data := by
  have hboth (ab : Members) (tags : Json) : peersOf (if serverTags=[] then marshal ab
      else marshal (set ab "tags" tags))=objects (get ab "peers") := by
    split
    · exact peersOf_marshal ab
    · rw [peersOf_marshal,get_set_of_ne _ _ (by decide)]
  unfold syncServerTagsIntoAddressBook at h
  dsimp only at h
  split at h
  · cases h
    exact hboth _ _
  · cases h
    exact hboth _ _
  · split at h
    · rename_i m hm
      cases h
      refine (hboth _ _).trans (Eq.trans ?_ (peersOf_of_decode hm).symm)
      split
      · rename_i hnone
        rw [hnone,get_set_self]
        rfl
      · rename_i hnull
        rw [hnull,get_set_self]
        rfl
      · rfl
    · cases h
    · cases h
      rfl

theorem peersOf_filterAddressBookPeersByVisibleSet (visible : Option (PeerID → Bool)) (known : PeerID → Bool)
    (data : Doc) : peersOf (filterAddressBookPeersByVisibleSet visible known data) =
      (peersOf data).filter fun p => !outOfScope visible known (idOf p) := by
  unfold filterAddressBookPeersByVisibleSet
  cases visible with
  | none => exact (List.filter_eq_self.mpr fun _ _ => rfl).symm
  | some visible =>
    dsimp only
    rw [peersOf_set_peers]
    refine List.filter_congr fun p _ => ?_
    simp [outOfScope]

theorem peersOf_normalizeAddressBookResponse (data : Doc) :
    peersOf (normalizeAddressBookResponse data)=peersOf data := by
  unfold normalizeAddressBookResponse
  split <;> rfl

theorem normalizeAddressBookResponse_twice (data : Doc) :
    normalizeAddressBookResponse (normalizeAddressBookResponse data)=normalizeAddressBookResponse data := by
  cases data with
  | json v => cases v <;> rfl
  | empty | blank | braces | broken => rfl

theorem idOf_eq_iff (hid : id≠"") : idOf p=id ↔ get p "id" = some (.str id) := by
  unfold idOf
  cases hget : get p "id" with
  | none => simp [hid.symm]
  | some v => cases v <;> simp [asString,hid.symm]

theorem idOf_mergePeerMaps (hid : trimString id≠"") (h : idOf p=id)
    (overlay : Members) : idOf (mergePeerMaps p overlay)=id := by
  have hne : id≠"" := by
    rintro rfl
    exact hid rfl
  rw [idOf_eq_iff hne] at h ⊢
  unfold mergePeerMaps
  induction overlay generalizing p with
  | nil => exact h
  | cons e rest ih =>
    rw [List.foldl_cons]
    refine ih ?_
    split
    · rw [get_set_of_ne _ _ (by decide),h]
    · split
      · rename_i hempty
        have hkey : "id"≠e.1 := by
          intro he
          rw [← he,h] at hempty
          simp [isEmptyABValue,hid] at hempty
        rw [get_set_of_ne _ _ hkey,h]
      · exact h

theorem mem_ids_mergeIntoLast (hid : trimString id≠"") (p : Members) {peers out : List Members}
    (h : mergeIntoLast p peers=some out) (hmem : id∈peers.map idOf) : id∈out.map idOf := by
  induction peers generalizing out with
  | nil => cases h
  | cons q rest ih =>
    rw [mergeIntoLast] at h
    rw [List.map_cons,List.mem_cons] at hmem
    split at h
    · rename_i rest' hrest
      cases h
      rw [List.map_cons,List.mem_cons]
      exact hmem.imp_right fun hr => ih hrest hr
    · split at h
      · cases h
        rw [List.map_cons,List.mem_cons]
        refine hmem.imp_left fun hq => ?_
        exact (idOf_mergePeerMaps hid hq.symm p).symm
      · cases h

theorem mem_ids_foldl_mergePeer (hid : trimString id≠"") (overlay : List Members)
    {peers : List Members} (hmem : id∈peers.map idOf) : id∈(overlay.foldl mergePeer peers).map idOf := by
  induction overlay generalizing peers with
  | nil => exact hmem
  | cons p rest ih =>
    rw [List.foldl_cons]
    refine ih ?_
    unfold mergePeer
    split
    · exact hmem
    · cases hlast : mergeIntoLast p peers with
      | none => exact List.map_append ▸ List.mem_append_left _ hmem
      | some out => exact mem_ids_mergeIntoLast hid p hlast hmem

theorem mem_ids_mergeAddressBookJSON (hid : trimString id≠"") (base : Doc) (overlays : List Doc)
    (hmem : id∈(peersOf base).map idOf) : id∈(peersOf (mergeAddressBookJSON base overlays)).map idOf := by
  unfold mergeAddressBookJSON
  rw [peersOf_marshal]
  have hfold (l : List Members) (m : Members) (hm : id∈(objects (get m "peers")).map idOf) :
      id∈(objects (get (l.foldl mergeAddressBookMaps m) "peers")).map idOf := by
    induction l generalizing m with
    | nil => exact hm
    | cons overlay l ih =>
      refine ih _ ?_
      unfold mergeAddressBookMaps
      dsimp only
      rw [get_set_of_ne _ _ (by decide),get_set_self,peersToAny,objects_arr]
      exact mem_ids_foldl_mergePeer hid _ hm
  exact hfold _ _ hmem

end Stages

section Read
variable {x : Sync} {s : Books} {data : Doc}

theorem exists_entry_of_mem_ids {id : PeerID} (h : id∈(peersOf data).map idOf) : ∃ e∈entries data, e.1=id := by
  obtain ⟨p,hp,hid⟩:=List.mem_map.mp h
  exact ⟨entryOf p,List.mem_map_of_mem hp,hid⟩

theorem mem_merged {id : PeerID} (hid : trimString id≠"")
    (hmem : id∈(peersOf (s.books x.ctx.username .legacy)).map idOf) : ∃ e∈entries (x.merged s), e.1=id := by
  refine exists_entry_of_mem_ids ?_
  unfold Sync.merged mergeOrgAddressBooksIntoAB
  dsimp only
  split
  · exact hmem
  · exact mem_ids_mergeAddressBookJSON hid _ _ hmem

theorem deviceIDs_injectSecrets (secrets : PeerID → Option String) (data : Doc) :
    deviceIDs (injectSecrets secrets data)=deviceIDs data := by
  unfold deviceIDs
  rw [entries_injectSecrets,List.map_map]
  rfl

theorem filter_map_fillEntry (secrets : PeerID → Option String) (drop : PeerID → Bool) (l : List Entry) :
    (l.map (fillEntry secrets)).filter (fun e => !drop e.1) =
      (l.filter fun e => !drop e.1).map (fillEntry secrets) := by
  rw [List.filter_map]
  rfl

theorem entries_filterAddressBookPeersByVisibleSet (visible : Option (PeerID → Bool)) (known : PeerID → Bool)
    (data : Doc) : entries (filterAddressBookPeersByVisibleSet visible known data) =
      (entries data).filter fun e => !outOfScope visible known e.1 := by
  unfold entries
  rw [peersOf_filterAddressBookPeersByVisibleSet,List.filter_map]
  rfl

theorem entries_normalizeAddressBookResponse (data : Doc) : entries (normalizeAddressBookResponse data)=entries data :=
  congrArg (List.map entryOf) (peersOf_normalizeAddressBookResponse data)

theorem entries_applyDeviceScopeToAddressBook (x : Sync) (s : Books) (data : Doc) :
    entries (applyDeviceScopeToAddressBook x.getEnv s x.ctx data) =
      (entries data).filter fun e => !x.hides s e.1 := by
  unfold applyDeviceScopeToAddressBook Sync.hides
  dsimp only
  cases isProRole x.ctx.role <;> cases unscopedRole x.ctx.role
  · exact entries_filterAddressBookPeersByVisibleSet ..
  all_goals exact (List.filter_eq_self.mpr fun _ _ => rfl).symm

theorem entries_synced {env : GetEnv} {ctx : Ctx} {merged synced : Doc}
    (h : (if isProRole ctx.role=true then some (injectOrgPeerCredentialsIntoAB env ctx merged)
      else syncServerTagsIntoAddressBook env.scope.unicode (collectRustDeskTags env s ctx)
        (mergeAdminTagsIntoAB (s.getPeersByIDs env.fails) (injectOrgPeerCredentialsIntoAB env ctx merged))) =
      some synced) :
    entries synced=((entries merged).filter fun e => !(!isProRole ctx.role &&
      struck (s.getPeersByIDs env.fails) (deviceIDs merged) e.1)).map (fillEntry (orgSecrets env ctx)) := by
  unfold injectOrgPeerCredentialsIntoAB at h
  have hinject:=entries_injectSecrets (orgSecrets env ctx) merged
  cases hpro : isProRole ctx.role with
  | true =>
    rw [hpro,if_pos rfl,some.injEq] at h
    rw [← h,hinject]
    have hall : (entries merged).filter (fun e => !(!true &&
        struck (s.getPeersByIDs env.fails) (deviceIDs merged) e.1))=entries merged :=
      List.filter_eq_self.mpr fun _ _ => by simp only [Bool.not_true,Bool.false_and,Bool.not_false]
    rw [hall]
  | false =>
    rw [hpro,if_neg Bool.false_ne_true] at h
    have htags : entries synced=entries (mergeAdminTagsIntoAB (s.getPeersByIDs env.fails)
        (injectSecrets (orgSecrets env ctx) merged)) :=
      congrArg (List.map entryOf) (peersOf_syncServerTagsIntoAddressBook h)
    rw [htags,entries_mergeAdminTagsIntoAB,deviceIDs_injectSecrets,hinject,filter_map_fillEntry]
    simp

theorem entries_response (h : x.response s=some data) :
    entries data=((entries (x.merged s)).filter fun e => !x.withholds s e.1).map
      (fillEntry (orgSecrets x.getEnv x.ctx)) := by
  unfold Sync.response handleClientAddressBookGet at h
  split at h
  · cases h
  · dsimp only at h
    rw [map_eq_some_iff] at h
    obtain ⟨synced,hsynced,rfl⟩:=h
    have hstruck : entries synced=((entries (x.merged s)).filter fun e => !x.strikes s e.1).map
        (fillEntry (orgSecrets x.getEnv x.ctx)) := entries_synced hsynced
    rw [entries_normalizeAddressBookResponse,entries_applyDeviceScopeToAddressBook,hstruck,filter_map_fillEntry,
      List.filter_filter]
    refine congrArg _ (List.filter_congr fun e _ => ?_)
    rw [Sync.withholds,Bool.not_or,Bool.and_comm]

theorem decode_marshal (m : Members) : (marshal m).decode=some (.obj m) := by
  cases m <;> rfl

theorem decode_injectSecrets {secrets : PeerID → Option String} (h : (injectSecrets secrets data).decode=some .null) :
    data.decode=some .null := by
  unfold injectSecrets at h
  dsimp only at h
  split at h
  · rw [decode_marshal] at h
    cases h
  · exact h

theorem decode_mergeAdminTagsIntoAB {getPeersByIDs : List PeerID → Option (List Peer)}
    (h : (mergeAdminTagsIntoAB getPeersByIDs data).decode=some .null) : data.decode=some .null := by
  unfold mergeAdminTagsIntoAB at h
  split at h
  · rename_i ab hab
    dsimp only at h
    split at h
    · exact h
    · split at h
      · exact h
      · split at h
        · exact h
        · split at h
          · rw [decode_marshal] at h
            cases h
          · exact h
  · exact h

theorem decode_of_syncServerTags_none {u : Unicode} {serverTags : List String}
    (h : syncServerTagsIntoAddressBook u serverTags data=none) : data.decode=some .null := by
  unfold syncServerTagsIntoAddressBook at h
  dsimp only at h
  split at h
  · cases h
  · cases h
  · split at h
    · cases h
    · assumption
    · cases h

theorem entries_of_no_response (hname : x.ctx.username≠"") (hread : x.getEnv.fails (.getAddressBook .legacy)=false)
    (h : x.response s=none) : entries (x.merged s)=[] := by
  unfold Sync.response handleClientAddressBookGet at h
  rw [if_neg (by simp [hname,hread])] at h
  dsimp only at h
  rw [map_eq_none_iff] at h
  split at h
  · cases h
  · have hnull:=decode_injectSecrets (decode_mergeAdminTagsIntoAB (decode_of_syncServerTags_none h))
    have hpeers : peersOf (x.merged s)=[] := peersOf_of_not_object fun m hm => by
      rw [show (x.merged s).decode=some .null from hnull] at hm
      cases hm
    rw [entries,hpeers,List.map_nil]

theorem books_syncAddressBookTagsToPeers (env : PostEnv) (s : Books) (role : Role) (data : Doc) :
    (syncAddressBookTagsToPeers env s role data).books=s.books := by
  unfold syncAddressBookTagsToPeers
  split
  · generalize postedTags env data=ws
    induction ws generalizing s with
    | nil => rfl
    | cons w ws ih =>
      rw [List.foldl_cons,ih]
      split <;> rfl
  · rfl

theorem normalizeAbDataField_response (h : x.response s=some data) : normalizeAbDataField (.text data)=data := by
  unfold Sync.response handleClientAddressBookGet at h
  split at h
  · cases h
  · obtain ⟨synced,-,rfl⟩:=map_eq_some_iff.mp h
    exact normalizeAddressBookResponse_twice _

theorem books_result_of_accepted (hacc : x.Accepted s) (h : x.response s=some data) (user : String) (t : AbType) :
    (x.result s).books user t = if user=x.ctx.username ∧ t=.legacy then data else s.books user t := by
  obtain ⟨hname,-,hsave,hlarge⟩:=hacc
  have hdata:=normalizeAbDataField_response h
  have hfits : ¬ (x.postEnv.tooLarge (normalizeAbDataField (.text data))=true ∨
      x.postEnv.fails (.saveAddressBook .legacy)=true) := by
    rw [hdata]
    simp [hlarge data h,hsave]
  unfold Sync.result
  rw [h]
  unfold handleClientAddressBookPost
  dsimp only
  rw [if_neg (by simp [hname]),if_neg hfits,books_syncAddressBookTagsToPeers,hdata]
  rfl

theorem books_result_of_not_accepted (hacc : ¬ x.Accepted s) : (x.result s).books=s.books := by
  unfold Sync.result
  split
  · rename_i data h
    have hread : ¬ (x.ctx.username="" ∨ x.getEnv.fails (.getAddressBook .legacy)=true) := fun hr => by
      rw [Sync.response,handleClientAddressBookGet,if_pos hr] at h
      cases h
    rw [not_or] at hread
    unfold handleClientAddressBookPost
    dsimp only
    rw [normalizeAbDataField_response h]
    split
    · rfl
    · split
      · rfl
      · rename_i hsave
        rw [not_or] at hsave
        refine absurd ⟨hread.1,Bool.eq_false_iff.mpr hread.2,Bool.eq_false_iff.mpr hsave.2,fun d hd => ?_⟩ hacc
        cases h.symm.trans hd
        exact Bool.eq_false_iff.mpr hsave.1
  · rfl

theorem keepsBook_of_books (h : (x.result s).books=s.books) : KeepsBook x s :=
  ⟨fun _ _ _ _ _ hmem => h ▸ hmem,fun _ _ _ hp _ _ => h ▸ hp⟩

theorem keepsBook_of_readInOrder (hacc : x.Accepted s) (hread : ReadInOrder x s) : KeepsBook x s := by
  cases hresp : x.response s with
  | none =>
    refine keepsBook_of_books ?_
    unfold Sync.result
    rw [hresp]
  | some data =>
    have hbooks:=books_result_of_accepted hacc hresp
    have hentries:=entries_response hresp
    refine ⟨fun user t id pw hvault hmem => ?_,fun data' hdata p hp hid hgone => ?_⟩
    · rw [hbooks] at hmem
      split at hmem
      · rename_i hown
        obtain ⟨rfl,rfl⟩:=hown
        rw [hentries] at hmem
        obtain ⟨e,he,hfill⟩:=List.mem_map.mp hmem
        obtain ⟨he,hshown⟩:=List.mem_filter.mp he
        have hfst : e.1=id := congrArg Prod.fst hfill
        have hsnd : (fillEntry (orgSecrets x.getEnv x.ctx) e).2=some (.str pw) := congrArg Prod.snd hfill
        rw [← hfst] at hvault ⊢
        have hshown : x.withholds s e.1=false := by simpa using hshown
        rcases filled_iff.mp ⟨hvault,hsnd⟩ with ⟨-,hown⟩ | ⟨hid,hempty,hlent⟩
        · rw [← hown]
          exact hread.shared e he hshown pw hvault hown
        · exact hread.lent e he hshown hid hempty pw hlent
      · exact hmem
    · cases hresp.symm.trans hdata
      have hmem : idOf p∈(peersOf (s.books x.ctx.username .legacy)).map idOf := List.mem_map_of_mem hp
      obtain ⟨e,he,hfst⟩:=mem_merged hid hmem
      have hshown : x.withholds s e.1=false := by
        rw [hfst]
        exact hread.devices (entryOf p) (List.mem_map_of_mem hp) hid
      have hin : fillEntry (orgSecrets x.getEnv x.ctx) e∈entries data := by
        rw [hentries]
        exact List.mem_map_of_mem (List.mem_filter.mpr ⟨he,by simpa using hshown⟩)
      obtain ⟨q,hq,heq⟩:=List.mem_map.mp hin
      exact absurd ((congrArg Prod.fst heq).trans hfst) (hgone q hq)

theorem readInOrder_of_keepsBook (hacc : x.Accepted s) (hkept : KeepsBook x s) : ReadInOrder x s := by
  cases hresp : x.response s with
  | none =>
    have hnil:=entries_of_no_response hacc.1 hacc.2.1 hresp
    refine ⟨fun e he hid => ?_,fun e he => ?_,fun e he => ?_⟩
    · obtain ⟨p,hp,rfl⟩:=List.mem_map.mp he
      obtain ⟨e',he',-⟩:=mem_merged hid (List.mem_map_of_mem hp)
      exact absurd (hnil ▸ he') List.not_mem_nil
    all_goals exact absurd (hnil ▸ he) List.not_mem_nil
  | some data =>
    have hentries:=entries_response hresp
    have hown : (x.result s).books x.ctx.username .legacy=data :=
      (books_result_of_accepted hacc hresp _ _).trans (if_pos ⟨rfl,rfl⟩)
    have hfilled : ∀ e∈entries (x.merged s), x.withholds s e.1=false → ∀ pw, VaultPassword x.getEnv e.1 pw →
        (fillEntry (orgSecrets x.getEnv x.ctx) e).2=some (.str pw) →
          (e.1,some (.str pw))∈entries (s.books x.ctx.username .legacy) := by
      intro e he hshown pw hvault hfill
      refine hkept.secrets x.ctx.username .legacy e.1 pw hvault ?_
      rw [hown,hentries]
      refine List.mem_map.mpr ⟨e,List.mem_filter.mpr ⟨he,by simpa using hshown⟩,?_⟩
      exact Prod.ext rfl hfill
    refine ⟨fun e he hid => ?_,fun e he hshown pw hvault hpw => ?_,fun e he hshown hid hempty pw hlent => ?_⟩
    · obtain ⟨p,hp,rfl⟩:=List.mem_map.mp he
      by_contra hheld
      have hgone : ∀ q∈peersOf data, idOf q≠idOf p := by
        intro q hq hqid
        have hin : entryOf q∈entries data := List.mem_map_of_mem hq
        rw [hentries] at hin
        obtain ⟨e',he',hfill⟩:=List.mem_map.mp hin
        have hfst : e'.1=idOf p := (congrArg Prod.fst hfill).trans hqid
        have hshown : x.withholds s e'.1=false := by simpa using (List.mem_filter.mp he').2
        rw [hfst] at hshown
        exact hheld hshown
      have hstill:=hkept.withheld data hresp p hp hid hgone
      rw [hown] at hstill
      exact hgone p hstill rfl
    · have hin:=hfilled e he hshown pw hvault (filled_iff.mpr (.inl ⟨hvault,hpw⟩)).2
      rwa [← hpw] at hin
    · obtain ⟨hvault,hfill⟩:=filled_iff.mpr (.inr ⟨hid,hempty,hlent⟩)
      exact hfilled e he hshown pw hvault hfill

theorem kept_iff (s : Books) (a : Act) : Kept s a ↔ InOrder s a := by
  cases a with
  | world peers => exact Iff.rfl
  | sync x =>
    constructor
    · exact fun hkept hacc => readInOrder_of_keepsBook hacc hkept
    · intro hread
      by_cases hacc : x.Accepted s
      · exact keepsBook_of_readInOrder hacc (hread hacc)
      · exact keepsBook_of_books (books_result_of_not_accepted hacc)

end Read

/-- Over every sequence of reads that are posted back. -/
theorem books_kept_in_place (s : Books) (acts : List Act) :
    Along syncStep Kept s acts ↔ Along syncStep InOrder s acts :=
  ⟨fun h => h.mono fun s a => (kept_iff s a).mp,fun h => h.mono fun s a => (kept_iff s a).mpr⟩

def acmeEnv : GetEnv where
  scope := ⟨⟨lowerString,fun a b => a=b⟩,none,none,none⟩
  userOrganizations := ["acme"]
  orgSetting _ := .ok none
  orgAddressBook _ := .ok .braces
  vault := true
  credentialFlags _ := ["123456789"]
  openCredential org id := if org="acme" ∧ id="123456789" then some "S3cret" else none
  fails _ := false

def twoEntries : Books where
  books _ _ := .json (.obj [("peers",.arr [.obj [("id",.str "123456789")],.obj [("id",.str "987654321")]])])
  peers := [⟨"123456789","","","","",false,false,false⟩,⟨"987654321","","","","",true,false,false⟩]

def acmeSync : Sync := ⟨⟨roleOperator,"ops",""⟩,acmeEnv,⟨fun _ => false,fun _ => none,fun _ => false⟩⟩

theorem sync_stores_credential : ¬ (∀ (s : Books) (acts : List Act), Along syncStep Kept s acts) ∧
      entries (twoEntries.books "ops" .legacy)=[("123456789",none),("987654321",none)] ∧
        entries ((acmeSync.result twoEntries).books "ops" .legacy)=[("123456789",some (.str "S3cret"))] := by
  have hbefore : entries (twoEntries.books "ops" .legacy)=[("123456789",none),("987654321",none)] := by rfl
  have hafter : entries ((acmeSync.result twoEntries).books "ops" .legacy) =
      [("123456789",some (.str "S3cret"))] := by rfl
  refine ⟨fun h => ?_,hbefore,hafter⟩
  have hkept : KeepsBook acmeSync twoEntries := (h twoEntries [.sync acmeSync]).1
  have hvault : VaultPassword acmeSync.getEnv "123456789" "S3cret" := ⟨by decide,"acme",rfl⟩
  have hin:=hkept.secrets "ops" .legacy _ _ hvault (hafter ▸ List.mem_cons_self)
  rw [hbefore] at hin
  simp at hin

end BetterDesk.AddressBook
