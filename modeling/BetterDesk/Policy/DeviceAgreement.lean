import BetterDesk.Policy.DeviceVisibility

/-! # Device visibility on both servers -/

namespace BetterDesk.Policy.DeviceVisibility
open Panel.DeviceGroups List
open Panel.UserSync (trim)
open Text (trimString)
open AddressBook (Area DeviceGroup Peer folderArea groupArea knownPeer panelAccessAllowed peerHasTag taggedPeers
  unscopedRole consoleUserGroupGUIDs userPeerGrants)
open Db (PeerID)

def TagsAlike (c : Console) (g : GroupRow) (p : Peer) : Prop :=
  (g.tagFilter≠"" ∧ hasTag c.js ⟨p.id,normalisePeerTags c.js p.tags,none⟩ g.tagFilter=true) ↔
    (trimString g.tagFilter≠"" ∧ peerHasTag c.unicode p (c.unicode.toLower (trimString g.tagFilter))=true)

/-- The two read the mode alike; the access lists and the groups of the user come through
`normalizeTexts` as they are; a group with a list is a folder's with the folder's own guid, or has
a guid that neither takes for a folder's; ids have no blanks around; tags are read alike. -/
structure ReadAlike (c : Console) : Prop where
  account : 0<c.user.id
  peerIDs : ∀ p∈c.peers,p.id≠"" ∧ trimString p.id=p.id
  mode : isDeviceScopeRestrictedDefault c noFailure=deviceScopeDefaultRestricted c answering
  users : ∀ g∈c.tables.deviceGroups,normalizeUsernames (c.tables.userAccess g.id)=c.tables.userAccess g.id
  groups : ∀ g∈c.tables.deviceGroups,normalizeGroupGuids (c.tables.groupAccess g.id)=c.tables.groupAccess g.id
  own : normalizeGroupGuids (c.tables.userGroups c.user.id)=c.tables.userGroups c.user.id
  numbers : ∀ folder∈c.tables.folders,folderIdFromGroupGuid c.js (folderGroupGUID folder)=some folder
  kind : ∀ g∈restrictedGroups c,
    folderIdFromGroupGuid c.js g.guid=none ∧ likeFolder g.guid=false ∧ g.guid≠"" ∨
      ∃ folder∈c.tables.folders,g.guid=folderGroupGUID folder
  members : ∀ g∈restrictedGroups c, ∀ id∈c.tables.deviceGroupMembers g.id, trimString id=id
  grants : ∀ id∈c.tables.userPeerGrants c.user.id, trimString id=id
  assignments : ∀ e∈c.tables.folderAssignments,trimString e.1=e.1 ∧ e.1≠"" ∧ e.1≠"__proto__"
  tags : ∀ g∈restrictedGroups c, g.sourceType="tag" → ∀ p∈c.peers,TagsAlike c g p

section Alike
variable {c : Console}

variable {x : PeerID} {g : GroupRow} {folder : ℤ}

theorem likeFolder_folderGroupGUID (folder : ℤ) : likeFolder (folderGroupGUID folder)=true := by
  have hlen : "folder_".length=7 := by decide
  rw [likeFolder,folderGroupGUID]
  simp
  omega

theorem mem_taggedPeers {u : AddressBook.Unicode} {g : DeviceGroup} {peers : List Peer} {p : Peer} :
    p∈taggedPeers u g peers ↔ p∈peers ∧ g.sourceType="tag" ∧ trimString g.tagFilter≠"" ∧
      peerHasTag u p (u.toLower (trimString g.tagFilter))=true := by
  rw [taggedPeers]
  split
  · rename_i hg
    simp [mem_filter,hg]
  · rename_i hg
    constructor
    · intro hp
      cases hp
    · intro hp
      exact absurd ⟨hp.2.1,hp.2.2.1⟩ hg

theorem toDeviceGroup_sourceType {t : Tables} {o : Outcomes} :
    (toDeviceGroup t o g).sourceType="tag" ↔ g.sourceType="tag" := by
  rw [toDeviceGroup]
  by_cases hs : g.sourceType=""
  · simp [hs]
  · simp [hs]

theorem mem_cleaned_of_clean {l : List PeerID} (h : ∀ id∈l,trimString id=id) : x∈cleaned l ↔ x∈l ∧ x≠"" := by
  simp only [cleaned,mem_filter,mem_map,decide_eq_true_eq]
  apply and_congr_left
  intro _
  constructor
  · intro hx
    obtain ⟨raw,hraw,rfl⟩:=hx
    rwa [h raw hraw]
  · intro hx
    exact ⟨x,hx,h x hx⟩

theorem mem_foldl_store : ∀ (l : List (PeerID × ℤ)) (out : SyncMap PeerID ℤ),
    (∀ e∈l,trimString e.1=e.1 ∧ e.1≠"") → (l.map Prod.fst).Nodup → (∀ e∈l, ∀ e'∈out,e'.1≠e.1) →
    ∀ e, e∈(l.foldl (fun out e =>
      if trimString e.1="" then out else out.store (trimString e.1) e.2) out : SyncMap PeerID ℤ) ↔ e∈out ∨ e∈l := by
  intro l
  induction l with
  | nil => simp
  | cons a rest ih =>
    intro out hclean hnodup hnew e
    obtain ⟨htrim,hne⟩:=hclean a mem_cons_self
    rw [map_cons,nodup_cons] at hnodup
    have hstore : out.store a.1 a.2=a::out := by
      rw [SyncMap.store,SyncMap.delete,filter_eq_self.mpr]
      intro e' he'
      simpa using hnew a mem_cons_self e' he'
    rw [foldl_cons,htrim,if_neg hne,hstore,ih (a::out)]
    · simp only [mem_cons]
      tauto
    · exact fun e he => hclean e (mem_cons_of_mem a he)
    · exact hnodup.2
    · intro e he e' he'
      cases mem_cons.mp he' with
      | inl h =>
        rw [h]
        exact fun heq => hnodup.1 (heq ▸ mem_map_of_mem he)
      | inr h => exact hnew e (mem_cons_of_mem a he) e' h

theorem lists_of_folder (hg : g∈c.tables.deviceGroups) (hguid : g.guid=folderGroupGUID folder) :
    (areaOf c answering (.inr folder)).allowedUsers=c.tables.userAccess g.id ∧
      (areaOf c answering (.inr folder)).allowedGroups=c.tables.groupAccess g.id := by
  have hrow : c.tables.groupByGuid (folderGroupGUID folder)=some g := hguid ▸ Tables.groupByGuid_of_mem hg
  simp [areaOf,folderArea,panelStore,folderGroupAccess_answering,hrow]

variable (h : ReadAlike c)
include h

theorem mem_listFolderAssignments {e : PeerID × ℤ} :
    e∈listFolderAssignments c.tables answering ↔ e∈c.tables.folderAssignments := by
  have hmem:=mem_foldl_store c.tables.folderAssignments []
    (fun e he => ⟨(h.assignments e he).1,(h.assignments e he).2.1⟩) c.tables.assigned_once
    (fun _ _ _ hout => nomatch hout) e
  rw [listFolderAssignments]
  refine hmem.trans ?_
  simp

theorem folderOf_iff : folderOf c.tables x=some folder ↔ (x,folder)∈c.tables.folderAssignments := by
  rw [folderOf]
  by_cases hproto : x="__proto__"
  · rw [if_pos hproto]
    constructor
    · intro hnone
      cases hnone
    · intro hmem
      exact absurd hproto (h.assignments _ hmem).2.2
  · rw [if_neg hproto]
    constructor
    · intro hfind
      obtain ⟨e,he,rfl⟩:=Option.map_eq_some_iff.mp hfind
      have hx : e.1=x := by simpa using List.find?_some he
      rw [← hx]
      exact mem_of_find?_eq_some he
    · intro hmem
      cases hf : c.tables.folderAssignments.find? fun e => e.1=x with
      | none => simpa using List.find?_eq_none.mp hf _ hmem
      | some e =>
        have hx : e.1=x := by simpa using List.find?_some hf
        have he:=inj_on_of_nodup_map c.tables.assigned_once (mem_of_find?_eq_some hf) hmem hx
        rw [he]
        rfl

theorem covers_of_group (hg : g∈restrictedGroups c)
    (hnone : folderIdFromGroupGuid c.js g.guid=none) (hguid : g.guid≠"") (hx : x∈c.peers.map Peer.id) :
    x∈(areaOf c answering (.inl g)).peerIDs ↔ x∈getGroupPeerIds c noFailure g := by
  obtain ⟨q,hq,hqx⟩:=mem_map.mp hx
  have hne : x≠"" := hqx ▸ (h.peerIDs q hq).1
  have hrow : c.tables.groupByGuid g.guid=some g := Tables.groupByGuid_of_mem (mem_of_mem_filter hg)
  have htag : x∈(taggedPeers c.unicode (toDeviceGroup c.tables answering g) c.peers).map Peer.id ↔
      g.sourceType="tag" ∧ g.tagFilter≠"" ∧
        ∃ p∈c.peers,p.id=x ∧ hasTag c.js ⟨p.id,normalisePeerTags c.js p.tags,none⟩ g.tagFilter=true := by
    simp only [mem_map,mem_taggedPeers,toDeviceGroup_sourceType]
    constructor
    · intro hmem
      obtain ⟨p,⟨hp,hsource,hgo⟩,rfl⟩:=hmem
      obtain ⟨hempty,hhas⟩:=(h.tags g hg hsource p hp).mpr hgo
      exact ⟨hsource,hempty,p,hp,rfl,hhas⟩
    · intro hmem
      obtain ⟨hsource,hempty,p,hp,rfl,hhas⟩:=hmem
      exact ⟨p,⟨hp,hsource,(h.tags g hg hsource p hp).mp ⟨hempty,hhas⟩⟩,rfl⟩
  rw [mem_getGroupPeerIds]
  simp only [hnone,reduceCtorEq,false_and,exists_false,false_or,true_and,noFailure,getDeviceGroupMembers,hrow,
    hguid,ne_eq,not_false_eq_true]
  rw [← ne_eq,← htag,areaOf,groupArea]
  have hmembers : (panelStore c answering).groupMembers (toDeviceGroup c.tables answering g).id =
      cleaned (c.tables.deviceGroupMembers g.id) := rfl
  simp only [mem_panelGroupPeerIDs,hmembers,mem_cleaned_of_clean (h.members g hg)]
  constructor
  · intro hmem
    obtain ⟨⟨raw,hraw,htrim⟩,-⟩:=hmem
    cases hraw with
    | inl hraw =>
      rw [h.members g hg raw hraw.1] at htrim
      exact Or.inl (htrim ▸ hraw.1)
    | inr hraw =>
      obtain ⟨p,hp,rfl⟩:=mem_map.mp hraw
      rw [(h.peerIDs p (mem_taggedPeers.mp hp |>.1)).2] at htrim
      exact Or.inr (htrim ▸ hraw)
  · intro hmem
    refine ⟨⟨x,hmem.imp_left fun hm => ⟨hm,hne⟩,?_⟩,hne,hx⟩
    exact hqx ▸ (h.peerIDs q hq).2

theorem covers_of_folder (hfolder : folder∈c.tables.folders)
    (hguid : g.guid=folderGroupGUID folder) (hx : x∈c.peers.map Peer.id) :
    x∈(areaOf c answering (.inr folder)).peerIDs ↔ x∈getGroupPeerIds c noFailure g := by
  have hread : folderIdFromGroupGuid c.js g.guid=some folder := hguid ▸ h.numbers folder hfolder
  have hgo : x∈(areaOf c answering (.inr folder)).peerIDs ↔ (x,folder)∈c.tables.folderAssignments := by
    rw [areaOf,folderArea,← mem_listFolderAssignments h]
    simp only [mem_map,mem_filter,Bool.and_eq_true,decide_eq_true_eq,knownPeer_iff]
    constructor
    · intro he
      obtain ⟨e,⟨he,hf,-⟩,rfl⟩:=he
      rw [← hf]
      exact he
    · intro he
      exact ⟨(x,folder),⟨he,rfl,by simpa using hx⟩,rfl⟩
  rw [hgo,mem_getGroupPeerIds,← folderOf_iff h]
  simp only [hread,Option.some.injEq,reduceCtorEq,false_and,or_false,noFailure,true_and,hx]
  constructor
  · exact fun hof => ⟨folder,rfl,hof⟩
  · intro hof
    obtain ⟨f,rfl,hof⟩:=hof
    exact hof

theorem ownGroups : consoleUserGroupGUIDs (panelStore c answering) c.user.id=c.tables.userGroups c.user.id := by
  have hne : ∀ guid∈c.tables.userGroups c.user.id, guid≠"" := by
    intro guid hguid
    rw [← h.own] at hguid
    exact (mem_trimmed.mp (mem_trimmed_of_mem_normalizeTexts hguid)).2
  rw [consoleUserGroupGUIDs,if_neg (not_le.mpr h.account)]
  exact filter_eq_self.mpr fun guid hguid => by simpa using hne guid hguid

theorem ownGroups_normalized : normalizeGroupGuids (accessUserGroups c noFailure)=c.tables.userGroups c.user.id := by
  have hfilter : accessUserGroups c noFailure=c.tables.userGroups c.user.id := by
    have hown:=ownGroups h
    rw [consoleUserGroupGUIDs,if_neg (not_le.mpr h.account)] at hown
    exact hown
  rw [hfilter,h.own]

theorem given_of_lists (hg : g∈c.tables.deviceGroups) {a : Area}
    (husers : a.allowedUsers=c.tables.userAccess g.id) (hgroups : a.allowedGroups=c.tables.groupAccess g.id) :
    given c answering a=groupAllowedForUser c noFailure g ∧ a.listed=hasAccessList c g := by
  constructor
  · rw [given,panelAccessAllowed,groupAllowedForUser,ownGroups h,ownGroups_normalized h,h.users g hg,h.groups g hg,
      husers,hgroups]
  · rw [Area.listed,hasAccessList,h.users g hg,h.groups g hg,husers,hgroups]

theorem rule_of_group (hg : g∈restrictedGroups c) (hx : x∈c.peers.map Peer.id) :
    ∃ i∈(serverScope c answering).rules,
      AccessScope.Matched (consoleScope c noFailure) (serverScope c answering) x g i := by
  obtain ⟨hrow,hlist⟩:=mem_filter.mp hg
  cases h.kind g hg with
  | inl hkind =>
    obtain ⟨hgiven,hlisted⟩:=given_of_lists h hrow (a := areaOf c answering (.inl g)) rfl rfl
    refine ⟨.inl g,⟨⟨rfl,?_⟩,by rw [hlisted,hlist]⟩,?_,?_⟩
    · exact mem_filter.mpr ⟨hrow,by simp [hkind.2.1]⟩
    · rw [consoleScope_admits,serverScope_admits,hgiven]
    · rw [mem_consoleScope_covers,mem_serverScope_covers]
      exact (covers_of_group h hg hkind.1 hkind.2.2 hx).symm
  | inr hkind =>
    obtain ⟨folder,hfolder,hguid⟩:=hkind
    obtain ⟨husers,hgroups⟩:=lists_of_folder hrow hguid
    obtain ⟨hgiven,hlisted⟩:=given_of_lists h hrow husers hgroups
    refine ⟨.inr folder,⟨hfolder,by rw [hlisted,hlist]⟩,?_,?_⟩
    · rw [consoleScope_admits,serverScope_admits,hgiven]
    · rw [mem_consoleScope_covers,mem_serverScope_covers]
      exact (covers_of_folder h hfolder hguid hx).symm

theorem group_of_rule {i : GroupRow ⊕ ℤ} (hi : i∈(serverScope c answering).rules) (hx : x∈c.peers.map Peer.id) :
    ∃ g∈(consoleScope c noFailure).rules,
      AccessScope.Matched (consoleScope c noFailure) (serverScope c answering) x g i := by
  obtain ⟨hlook,hlisted⟩:=hi
  cases i with
  | inl g =>
    obtain ⟨hrow,hlike⟩:=mem_filter.mp hlook.2
    obtain ⟨hgiven,hlist⟩:=given_of_lists h hrow (a := areaOf c answering (.inl g)) rfl rfl
    have hg : g∈restrictedGroups c := mem_filter.mpr ⟨hrow,by rw [← hlist,hlisted]⟩
    cases h.kind g hg with
    | inl hkind =>
      refine ⟨g,hg,?_,?_⟩
      · rw [consoleScope_admits,serverScope_admits,hgiven]
      · rw [mem_consoleScope_covers,mem_serverScope_covers]
        exact (covers_of_group h hg hkind.1 hkind.2.2 hx).symm
    | inr hkind =>
      obtain ⟨folder,-,hguid⟩:=hkind
      simp [hguid,likeFolder_folderGroupGUID] at hlike
  | inr folder =>
    cases hrow : c.tables.groupByGuid (folderGroupGUID folder) with
    | none =>
      rw [listed_iff] at hlisted
      simp [areaOf,folderArea,panelStore,folderGroupAccess_answering,hrow] at hlisted
    | some g =>
      obtain ⟨hmem,hguid⟩:=Tables.mem_of_groupByGuid hrow
      obtain ⟨husers,hgroups⟩:=lists_of_folder hmem hguid
      obtain ⟨hgiven,hlist⟩:=given_of_lists h hmem husers hgroups
      refine ⟨g,mem_filter.mpr ⟨hmem,by rw [← hlist,hlisted]⟩,?_,?_⟩
      · rw [consoleScope_admits,serverScope_admits,hgiven]
      · rw [mem_consoleScope_covers,mem_serverScope_covers]
        exact (covers_of_folder h hlook hguid hx).symm

theorem grants_alike (hx : x≠"") : x∈(consoleScope c noFailure).grants ↔ x∈(serverScope c answering).grants := by
  have hgo : userPeerGrants (panelStore c answering) c.user=cleaned (c.tables.userPeerGrants c.user.id) := by
    rw [userPeerGrants,if_pos h.account]
    rfl
  rw [mem_consoleScope_grants,mem_serverScope_grants,hgo,mem_cleaned_of_clean h.grants]
  exact (and_iff_left hx).symm

theorem shows_alike (hrole : unscopedRole c.role=false) :
    x∈consoleShows c noFailure ↔ x∈serverShows c answering := by
  by_cases hx : x∈c.peers.map Peer.id
  · have hne : x≠"" := by
      obtain ⟨p,hp,rfl⟩:=mem_map.mp hx
      exact (h.peerIDs p hp).1
    rw [mem_consoleShows (ne_of_gt h.account) hrole rfl hne,mem_serverShows hrole]
    apply and_congr_right
    intro _
    apply AccessScope.visible_congr
    · rw [consoleScope_restricted,serverScope_restricted,h.mode]
    · exact grants_alike h hne
    · exact fun g hg => rule_of_group h hg hx
    · exact fun i hi => group_of_rule h hi hx
  · exact iff_of_false (fun hs => hx (consoleShows_subset hs)) (fun hs => hx (serverShows_subset hs))

end Alike

def Agree (c : Console) : Prop := ∀ x, x∈consoleShows c noFailure ↔ x∈serverShows c answering

def Keeps (c c' : Console) : Prop :=
  consoleShows c noFailure ⊆ consoleShows c' noFailure ∧ serverShows c answering ⊆ serverShows c' answering

def FailsClosed (c : Console) (fails : Failing) (o : Outcomes) : Prop :=
  consoleShows c fails ⊆ consoleShows c noFailure ∧ serverShows c o ⊆ serverShows c answering

section Office

def asciiBuiltins : Builtins where
  toLowerCase s := String.ofList (s.toList.map Char.toLower)
  jsonParse _ := none
  print _ := ""
  parseInt s := some (s.toList.foldl (fun n d => 10*n+(d.toNat - '0'.toNat : ℤ)) 0)

def asciiUnicode : AddressBook.Unicode where
  toLower s := String.ofList (s.toList.map Char.toLower)
  equalFold a b := a.toList.map Char.toLower=b.toList.map Char.toLower

def device (id : PeerID) (tags : String) : Peer :=
  {id,hostname := "",os := "",user := "",tags,banned := false,disabled := false,softDeleted := false}

/-- Three devices: one in a manual group that is given to the users and groups of a list, one in a
folder that is given to `bob`, one with the tag of a group that is given to `ann`. -/
def office (users groups own : List String) (setting username : String) : Console where
  js := asciiBuiltins
  unicode := asciiUnicode
  tables :=
    { deviceGroups := [⟨1,"ops","manual",""⟩,⟨2,"folder_5","manual",""⟩,⟨3,"lab","tag","Lab"⟩]
      userAccess := fun group => if group=1 then users else if group=2 then ["bob"] else ["ann"]
      groupAccess := fun group => if group=1 then groups else []
      deviceGroupMembers := fun group => if group=1 then ["D1"] else []
      folders := [5]
      folderAssignments := [("D2",5)]
      userPeerGrants := fun _ => []
      userGroups := fun _ => own
      deviceScopeDefault := some setting
      guid_unique := by decide
      assigned_once := by decide}
  environment := none
  scopeDefaultCache := none
  user := ⟨7,username⟩
  role := "operator"
  peers := [device "D1" "",device "D2" "",device "D3" "lab,store"]

instance (c : Console) (g : GroupRow) (p : Peer) : Decidable (TagsAlike c g p) :=
  inferInstanceAs (Decidable (_ ↔ _))

theorem office_readAlike : ReadAlike (office ["ann"] ["staff"] ["staff"] "open" "ann") where
  account := by decide
  peerIDs := by decide
  mode := by decide
  users := by decide
  groups := by decide
  own := by decide
  numbers := by decide
  kind := by decide
  members := by decide
  grants := by decide
  assignments := by decide
  tags := by decide

/-- A hundred and one texts of two letters each, from `aa` to `dw`. -/
def letters : List (List Char) :=
  (List.range 101).map fun n => [Char.ofNat (97+n/26),Char.ofNat (97+n%26)]

def crowd : List String := letters.map String.ofList

theorem clean_of_letters {l : List Char} (hne : l≠[]) (h : ∀ ch∈l,Panel.UserSync.isWhiteSpace ch=false) :
    Clean (String.ofList l) := by
  have hfront : l.dropWhile Panel.UserSync.isWhiteSpace=l := by
    rw [dropWhile_eq_self_iff]
    intro hl hp
    rw [h _ (getElem_mem hl)] at hp
    cases hp
  have hback : l.rdropWhile Panel.UserSync.isWhiteSpace=l := by
    rw [rdropWhile_eq_self_iff]
    intro hl hp
    rw [h _ (getLast_mem hl)] at hp
    cases hp
  constructor
  · rw [trim,String.toList_ofList,hfront,hback]
  · intro hempty
    exact hne (by simpa using congrArg String.toList hempty)

theorem clean_crowd : ∀ s∈crowd,Clean s := by
  have hletters : letters.all (fun l => decide (l≠[])&&l.all fun ch => !Panel.UserSync.isWhiteSpace ch)=true := by
    decide
  intro s hs
  obtain ⟨l,hl,rfl⟩:=mem_map.mp hs
  obtain ⟨hne,hblank⟩:=(Bool.and_eq_true _ _).mp (all_eq_true.mp hletters l hl)
  apply clean_of_letters (of_decide_eq_true hne)
  intro ch hch
  simpa using all_eq_true.mp hblank ch hch

theorem nodup_crowd : crowd.Nodup := by
  have hletters : letters.Nodup :=
    List.Nodup.of_map (fun l => l.foldl (fun n ch => 256*n+ch.toNat) 0) (by decide)
  exact hletters.map fun _ _ h => String.ofList_injective h

theorem normalizeGroupGuids_own {c : Console} {n : ℕ} (h : c.tables.userGroups c.user.id=crowd.drop n) :
    normalizeGroupGuids (accessUserGroups c noFailure)=(crowd.drop n).take 100 := by
  have hclean : ∀ s∈crowd.drop n, Clean s := fun s hs => clean_crowd s (mem_of_mem_drop hs)
  have hown : accessUserGroups c noFailure=crowd.drop n := by
    rw [accessUserGroups,h]
    exact filter_eq_self.mpr fun s hs => by simpa using (hclean s hs).2
  rw [hown]
  exact normalizeTexts_of_clean hclean (nodup_crowd.sublist (drop_sublist n crowd))

end Office

end BetterDesk.Policy.DeviceVisibility
