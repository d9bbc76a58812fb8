import BetterDesk.AddressBook.DeviceScope
import BetterDesk.Lib.AccessScope
import BetterDesk.Lib.Inserted
import BetterDesk.Panel.UserSync

/-! # Device groups of the console (services/deviceGroupService.js, services/serverBackend.js) -/

namespace BetterDesk.Panel.DeviceGroups
open AddressBook (Peer ScopeUser Unicode unscopedRole)
open List Function
open Db (PeerID)
open Auth (Role)
open UserSync (trim orElse)

/-- The built-in functions; `parseInt` is `Number.parseInt` of digits where that is finite. -/
structure Builtins where
  toLowerCase : String → String
  jsonParse : String → Option Json
  print : Json → String
  parseInt : String → Option ℤ

/-- `String(v)`. -/
def Builtins.string (js : Builtins) : Json → String
  | .str s => s
  | v => js.print v

def splitComma (s : String) : List String := (s.toList.splitOnP fun c => c = ',').map String.ofList

/-- `.map(t => t.trim()).filter(Boolean)`. -/
def trimmed (l : List String) : List String := (l.map trim).filter fun t => t≠""

/-- Trimmed, each once in the order of their first occurrences, and no more than 100. -/
def normalizeTexts (raw : List String) : List String := (trimmed raw).eraseDups.take 100

def normalizeUsernames (value : List String) : List String := normalizeTexts value

def normalizeGroupGuids (value : List String) : List String := normalizeTexts value

variable {l l' : List String} {x : PeerID} {g : GroupRow} {s : String}

theorem mem_trimmed : s∈trimmed l ↔ (∃ t∈l,trim t=s) ∧ s≠"" := by
  simp [trimmed]

theorem mem_trimmed_of_mem_normalizeTexts (h : s∈normalizeTexts l) :
    s∈trimmed l := mem_eraseDups.mp (mem_of_mem_take h)

theorem normalizeTexts_eq_nil : normalizeTexts l=[] ↔ trimmed l=[] := by
  constructor
  · intro h
    cases ht : trimmed l with
    | nil => rfl
    | cons s rest => simp [normalizeTexts,ht,eraseDups_cons] at h
  · intro h
    simp [normalizeTexts,h]

theorem mem_normalizeTexts_of_short (h : (trimmed l).eraseDups.length≤100) : s∈normalizeTexts l ↔ s∈trimmed l := by
  rw [normalizeTexts,take_of_length_le h,mem_eraseDups]

def Clean (s : String) : Prop := trim s=s ∧ s≠""

theorem inserted_trimmed (hs : Clean s) (h : Inserted s l l') : Inserted s (trimmed l) (trimmed l') := by
  have hmap:=h.map trim
  rw [hs.1] at hmap
  exact hmap.filter (by simpa using hs.2)

theorem mem_normalizeTexts_of_inserted (hs : Clean s) (h : Inserted s l l')
    (hmem : s∈normalizeTexts l) : s∈normalizeTexts l' := (inserted_trimmed hs h).mem_take_eraseDups hmem

theorem normalizeTexts_ne_nil_of_inserted (hs : Clean s) (h : Inserted s l l') : normalizeTexts l'≠[] := by
  rw [Ne,normalizeTexts_eq_nil]
  exact ne_nil_of_mem ((inserted_trimmed hs h).mem.mpr (Or.inl rfl))

theorem eraseDups_of_nodup (h : l.Nodup) : l.eraseDups=l := by
  induction l with
  | nil => rfl
  | cons s rest ih =>
    rw [nodup_cons] at h
    have hkept : rest.filter (fun t => !t==s)=rest := by
      apply filter_eq_self.mpr
      intro t ht
      have hne : t≠s := fun heq => h.1 (heq ▸ ht)
      simpa using hne
    rw [eraseDups_cons,hkept,ih h.2]

theorem normalizeTexts_of_clean (hclean : ∀ s∈l,Clean s) (hnodup : l.Nodup) : normalizeTexts l=l.take 100 := by
  have htrim : l.map trim=l := (map_congr_left fun s hs => (hclean s hs).1).trans (map_id l)
  have hfilter : trimmed l=l := by
    rw [trimmed,htrim]
    exact filter_eq_self.mpr fun s hs => by simpa using (hclean s hs).2
  rw [normalizeTexts,hfilter,eraseDups_of_nodup hnodup]

theorem mem_normalizeTexts_of_nil (hs : Clean s)
    (h : Inserted s l l') (hnil : normalizeTexts l=[]) : s∈normalizeTexts l' := by
  obtain ⟨l₁,l₂,hl,hl'⟩:=inserted_trimmed hs h
  rw [normalizeTexts_eq_nil.mp hnil] at hl
  obtain ⟨rfl,rfl⟩:=nil_eq_append_iff.mp hl
  rw [normalizeTexts,hl']
  simp [eraseDups_cons]

/-- The tags that `normalisePeer` reads from the text of the Go server. -/
def normalisePeerTags (js : Builtins) (tags : String) : List Json :=
  if tags="" then []
  else match js.jsonParse tags with
    | some (.arr items) => items
    | some _ => [.str tags]
    | none => (trimmed (splitComma tags)).map .str

def normalizeTags (js : Builtins) (value : List Json) : List String := trimmed (value.map js.string)

def folderIdFromGroupGuid (js : Builtins) (value : String) : Option ℤ :=
  let s:=(trim value).toList
  if (s.take 7).map Char.toLower="folder_".toList ∧ s.drop 7≠[] ∧ (s.drop 7).all Char.isDigit then
    js.parseInt (String.ofList (s.drop 7))
  else none

structure GroupRow where
  id : ℤ
  guid : String
  sourceType : String
  tagFilter : String
deriving DecidableEq

/-- `userAccess` and `groupAccess` are the names and guids that the joins give for a group,
`userGroups` the guids that they give for a user, all in the order of the queries. -/
structure Tables where
  deviceGroups : List GroupRow
  userAccess : ℤ → List String
  groupAccess : ℤ → List String
  deviceGroupMembers : ℤ → List PeerID
  folders : List ℤ
  folderAssignments : List (PeerID × ℤ)
  userPeerGrants : ℤ → List PeerID
  userGroups : ℤ → List String
  deviceScopeDefault : Option String
  guid_unique : (deviceGroups.map GroupRow.guid).Nodup
  assigned_once : (folderAssignments.map Prod.fst).Nodup

def Tables.groupByGuid (t : Tables) (guid : String) : Option GroupRow :=
  t.deviceGroups.find? fun g => g.guid=guid

theorem Tables.groupByGuid_of_mem {t : Tables} (h : g∈t.deviceGroups) : t.groupByGuid g.guid=some g := by
  cases hf : t.groupByGuid g.guid with
  | none => simpa using List.find?_eq_none.mp hf g h
  | some g' =>
    have hguid : g'.guid=g.guid := by simpa using List.find?_some hf
    rw [inj_on_of_nodup_map t.guid_unique (mem_of_find?_eq_some hf) h hguid]

theorem Tables.mem_of_groupByGuid {t : Tables} {guid : String}
    (h : t.groupByGuid guid=some g) : g∈t.deviceGroups ∧ g.guid=guid :=
  ⟨mem_of_find?_eq_some h,by simpa using List.find?_some h⟩

/-- What decides which devices a user sees: the built-in functions of the two languages, the
tables, the environment, the cached mode while it is fresh, the account and the peers. -/
structure Console where
  js : Builtins
  unicode : Unicode
  tables : Tables
  environment : Option String
  scopeDefaultCache : Option Bool
  user : ScopeUser
  role : Role
  peers : List Peer

inductive Lookup where
  | setting | userGroups | deviceGroups | userPeerGrants | members (guid : String) | folderAssignments
deriving DecidableEq

abbrev Failing := Lookup → Bool

def noFailure : Failing := fun _ => false

variable (c : Console) (fails : Failing)

def isDeviceScopeRestrictedDefault : Bool :=
  let envRestricted:=c.js.toLowerCase (c.js.toLowerCase (orElse c.environment "open"))="restricted"
  match c.scopeDefaultCache with
  | some value => value
  | none =>
    if fails .setting then envRestricted
    else match c.tables.deviceScopeDefault with
      | none => envRestricted
      | some stored => if stored="" then envRestricted else c.js.toLowerCase stored="restricted"

/-- `getUserAccessContext`, and the groups that the checks read from it. -/
def accessUserGroups : List String :=
  if fails .userGroups then [] else (c.tables.userGroups c.user.id).filter fun guid => guid≠""

/-- A device of `getAllDevices`, with the folder that the assignments give it. -/
structure Device where
  id : PeerID
  tags : List Json
  folderId : Option ℤ

/-- `assignments[peer.id]`: an object keeps no number under the name of its prototype. -/
def folderOf (t : Tables) (id : PeerID) : Option ℤ :=
  if id="__proto__" then none else (t.folderAssignments.find? fun e => e.1=id).map Prod.snd

def getAllDevices : List Device :=
  c.peers.map fun p =>
    { id := p.id
      tags := normalisePeerTags c.js p.tags
      folderId := if fails .folderAssignments then none else folderOf c.tables p.id}

def hasTag (js : Builtins) (device : Device) (tag : String) : Bool :=
  js.toLowerCase (trim tag)≠"" &&
    (normalizeTags js device.tags).any fun t => js.toLowerCase t=js.toLowerCase (trim tag)

def groupAllowedForUser (g : GroupRow) : Bool :=
  let allowedUsers:=normalizeUsernames (c.tables.userAccess g.id)
  let allowedGroups:=normalizeGroupGuids (c.tables.groupAccess g.id)
  unscopedRole c.role||(allowedUsers=[]&&allowedGroups=[])||c.user.username∈allowedUsers ||
    allowedGroups.any fun guid => guid∈normalizeGroupGuids (accessUserGroups c fails)

def getDeviceGroupMembers (guid : String) : List PeerID :=
  match c.tables.groupByGuid guid with
  | some g => c.tables.deviceGroupMembers g.id
  | none => []

def getGroupPeerIds (g : GroupRow) : List PeerID :=
  match folderIdFromGroupGuid c.js g.guid with
  | some folder => ((getAllDevices c fails).filter fun d => d.folderId=some folder).map Device.id
  | none =>
    (if g.guid≠"" ∧ fails (.members g.guid)=false then getDeviceGroupMembers c g.guid else []) ++
      if g.sourceType="tag" ∧ g.tagFilter≠"" then
        ((getAllDevices c fails).filter fun d => hasTag c.js d g.tagFilter).map Device.id
      else []

def hasAccessList (g : GroupRow) : Bool :=
  normalizeUsernames (c.tables.userAccess g.id)≠[]||normalizeGroupGuids (c.tables.groupAccess g.id)≠[]

def restrictedGroups : List GroupRow := c.tables.deviceGroups.filter (hasAccessList c)

def peerGrants : List PeerID := if fails .userPeerGrants then [] else c.tables.userPeerGrants c.user.id

def allowedIds : List PeerID :=
  ((restrictedGroups c).filter (groupAllowedForUser c fails)).flatMap (getGroupPeerIds c fails)++peerGrants c fails

def restrictedIds : List PeerID :=
  ((restrictedGroups c).filter fun g => !groupAllowedForUser c fails g).flatMap (getGroupPeerIds c fails)

/-- `none` where it throws; a scope of `none` stands for every device. -/
def getDeviceScopeForUser : Option (Option (List PeerID)) :=
  if c.user.id=0||unscopedRole c.role then some none
  else if fails .deviceGroups then none
  else if restrictedGroups c=[] ∧ peerGrants c fails=[] then
    some (if isDeviceScopeRestrictedDefault c fails then some [] else none)
  else if isDeviceScopeRestrictedDefault c fails then some (some (allowedIds c fails))
  else
    some (some (((getAllDevices c fails).map Device.id).filter fun id =>
      id≠""&&(id∉restrictedIds c fails||id∈allowedIds c fails)))

def filterDevicesByScope (devices : List Device) (allowedIds : Option (List PeerID)) : List Device :=
  match allowedIds with
  | none => devices
  | some ids => devices.filter fun d => d.id∈ids

def consoleShows : List PeerID :=
  match getDeviceScopeForUser c fails with
  | none => []
  | some scope => (filterDevicesByScope (getAllDevices c fails) scope).map Device.id

def consoleScope : AccessScope GroupRow PeerID where
  rules := {g | g∈restrictedGroups c}
  admits g := groupAllowedForUser c fails g=true
  covers g := {x | x∈getGroupPeerIds c fails g}
  grants := {x | x∈peerGrants c fails}
  restricted := isDeviceScopeRestrictedDefault c fails=true

variable {c fails}

@[simp] theorem mem_consoleScope_rules : g∈(consoleScope c fails).rules ↔ g∈restrictedGroups c :=
  Iff.rfl

@[simp] theorem consoleScope_admits :
    (consoleScope c fails).admits g ↔ groupAllowedForUser c fails g=true := Iff.rfl

@[simp] theorem mem_consoleScope_covers :
    x∈(consoleScope c fails).covers g ↔ x∈getGroupPeerIds c fails g := Iff.rfl

@[simp] theorem mem_consoleScope_grants : x∈(consoleScope c fails).grants ↔ x∈peerGrants c fails := Iff.rfl

@[simp] theorem consoleScope_restricted :
    (consoleScope c fails).restricted ↔ isDeviceScopeRestrictedDefault c fails=true := Iff.rfl

theorem ids_getAllDevices (c : Console) (fails : Failing) :
    (getAllDevices c fails).map Device.id=c.peers.map Peer.id := by
  simp [getAllDevices,comp_def]

theorem mem_ids_filterDevicesByScope {ids : List PeerID} :
    x∈(filterDevicesByScope (getAllDevices c fails) (some ids)).map Device.id ↔
      x∈c.peers.map Peer.id ∧ x∈ids := by
  rw [← ids_getAllDevices c fails,filterDevicesByScope,mem_map,mem_map]
  constructor
  · intro h
    obtain ⟨d,hd,rfl⟩:=h
    obtain ⟨hd,hids⟩:=mem_filter.mp hd
    exact ⟨⟨d,hd,rfl⟩,by simpa using hids⟩
  · intro h
    obtain ⟨⟨d,hd,rfl⟩,hids⟩:=h
    exact ⟨d,mem_filter.mpr ⟨hd,by simpa using hids⟩,rfl⟩

theorem mem_allowed : x∈(consoleScope c fails).allowed ↔ x∈allowedIds c fails := by
  rw [AccessScope.mem_allowed,allowedIds,mem_append,mem_flatMap,or_comm]
  simp [consoleScope,and_assoc]

theorem mem_heldBack : x∈(consoleScope c fails).heldBack ↔ x∈restrictedIds c fails := by
  rw [AccessScope.mem_heldBack,restrictedIds,mem_flatMap]
  simp [consoleScope,and_assoc]

theorem consoleShows_subset : consoleShows c fails ⊆ c.peers.map Peer.id := by
  rw [consoleShows]
  cases getDeviceScopeForUser c fails with
  | none => exact nil_subset _
  | some scope => cases scope with
    | none =>
      intro x hx
      rwa [← ids_getAllDevices c fails]
    | some ids =>
      intro x hx
      exact (mem_ids_filterDevicesByScope.mp hx).1

theorem consoleShows_of_unscoped (h : c.user.id=0 ∨ unscopedRole c.role=true) :
    consoleShows c fails=c.peers.map Peer.id := by
  have hnull : getDeviceScopeForUser c fails=some none := by
    rw [getDeviceScopeForUser,if_pos (by simpa using h)]
  rw [consoleShows,hnull]
  exact ids_getAllDevices c fails

section Scoped
variable (hid : c.user.id≠0) (hrole : unscopedRole c.role=false)
include hid hrole

theorem consoleShows_of_throw (h : fails .deviceGroups=true) : consoleShows c fails=[] := by
  have hthrow : getDeviceScopeForUser c fails=none := by
    rw [getDeviceScopeForUser,if_neg (by simp [hid,hrole]),if_pos h]
  rw [consoleShows,hthrow]

variable {x : PeerID}

theorem mem_consoleShows (h : fails .deviceGroups=false) (hx : x≠"") :
    x∈consoleShows c fails ↔ x∈c.peers.map Peer.id ∧ x∈(consoleScope c fails).visible := by
  rw [consoleShows,getDeviceScopeForUser,if_neg (by simp [hid,hrole]),if_neg (by simp [h])]
  by_cases hempty : restrictedGroups c=[] ∧ peerGrants c fails=[]
  · have hvisible : x∈(consoleScope c fails).visible ↔ ¬ (consoleScope c fails).restricted :=
      AccessScope.mem_visible_of_empty (by simp [consoleScope,hempty.1]) (by simp [consoleScope,hempty.2])
    rw [if_pos hempty,hvisible]
    by_cases hmode : isDeviceScopeRestrictedDefault c fails=true
    · simp [consoleScope,hmode,filterDevicesByScope]
    · have hall : (filterDevicesByScope (getAllDevices c fails) none).map Device.id=c.peers.map Peer.id :=
        ids_getAllDevices c fails
      rw [if_neg hmode]
      simp [hall,consoleScope,hmode]
  · rw [if_neg hempty]
    by_cases hmode : isDeviceScopeRestrictedDefault c fails=true
    · rw [if_pos hmode,AccessScope.mem_visible_of_restricted (by exact hmode),mem_allowed]
      exact mem_ids_filterDevicesByScope
    · rw [if_neg hmode,AccessScope.mem_visible,mem_allowed,mem_heldBack]
      refine mem_ids_filterDevicesByScope.trans ?_
      rw [mem_filter,ids_getAllDevices]
      simp only [consoleScope_restricted,hmode]
      simp [hx]
      tauto

theorem shown_of_group (h : fails .deviceGroups=false) {g : GroupRow} (hg : g∈c.tables.deviceGroups)
    (hlist : hasAccessList c g=true) (hallowed : groupAllowedForUser c fails g=true) (hx : x≠"")
    (hpeer : x∈c.peers.map Peer.id) (hcovers : x∈getGroupPeerIds c fails g) : x∈consoleShows c fails := by
  rw [mem_consoleShows hid hrole h hx]
  exact ⟨hpeer,Or.inl (Or.inr ⟨g,mem_filter.mpr ⟨hg,hlist⟩,hallowed,hcovers⟩)⟩

theorem hidden_of_group (h : fails .deviceGroups=false) {g : GroupRow} (hg : g∈c.tables.deviceGroups)
    (hlist : hasAccessList c g=true) (hrefused : groupAllowedForUser c fails g=false) (hx : x≠"")
    (hcovers : x∈getGroupPeerIds c fails g)
    (honly : ∀ g'∈c.tables.deviceGroups,x∈getGroupPeerIds c fails g' → g'=g)
    (hgrants : x∉peerGrants c fails) : x∉consoleShows c fails := by
  rw [mem_consoleShows hid hrole h hx,AccessScope.mem_visible,AccessScope.mem_allowed,AccessScope.mem_heldBack]
  intro hshown
  cases hshown.2 with
  | inl hallowed =>
    cases hallowed with
    | inl hgrant => exact hgrants hgrant
    | inr hrule =>
      obtain ⟨g',hg',hadmits,hcovers'⟩:=hrule
      rw [honly g' (mem_of_mem_filter hg') hcovers',consoleScope_admits,hrefused] at hadmits
      cases hadmits
  | inr hopen =>
    exact hopen.2 ⟨g,mem_filter.mpr ⟨hg,hlist⟩,by rw [consoleScope_admits,hrefused]; exact Bool.false_ne_true,
      hcovers⟩

end Scoped

theorem mem_accessUserGroups_of_failing {guid : String} (h : guid∈accessUserGroups c fails) :
    accessUserGroups c fails=accessUserGroups c noFailure := by
  cases hf : fails .userGroups with
  | true => simp [accessUserGroups,hf] at h
  | false => simp [accessUserGroups,hf,noFailure]

theorem groupAllowedForUser_of_failing (h : groupAllowedForUser c fails g=true) :
    groupAllowedForUser c noFailure g=true := by
  simp only [groupAllowedForUser,Bool.or_eq_true,any_eq_true,decide_eq_true_eq] at h ⊢
  apply h.imp_right
  intro hguid
  obtain ⟨guid,hallowed,hmem⟩:=hguid
  obtain ⟨⟨t,ht,-⟩,-⟩:=mem_trimmed.mp (mem_trimmed_of_mem_normalizeTexts hmem)
  rw [mem_accessUserGroups_of_failing ht] at hmem
  exact ⟨guid,hallowed,hmem⟩

theorem peerGrants_of_failing (h : x∈peerGrants c fails) : x∈peerGrants c noFailure := by
  cases hf : fails .userPeerGrants with
  | true => simp [peerGrants,hf] at h
  | false => simpa [peerGrants,hf,noFailure] using h

theorem hasTag_getAllDevices {tag : String} :
    x∈((getAllDevices c fails).filter fun d => hasTag c.js d tag).map Device.id ↔
      ∃ p∈c.peers,p.id=x ∧ hasTag c.js ⟨p.id,normalisePeerTags c.js p.tags,none⟩ tag=true := by
  simp only [getAllDevices,mem_map,mem_filter]
  constructor
  · intro h
    obtain ⟨d,⟨⟨p,hp,rfl⟩,htag⟩,rfl⟩:=h
    exact ⟨p,hp,rfl,htag⟩
  · intro h
    obtain ⟨p,hp,rfl,htag⟩:=h
    exact ⟨_,⟨⟨p,hp,rfl⟩,htag⟩,rfl⟩

theorem folder_getAllDevices {folder : ℤ} :
    x∈((getAllDevices c fails).filter fun d => d.folderId=some folder).map Device.id ↔
      x∈c.peers.map Peer.id ∧ fails .folderAssignments=false ∧ folderOf c.tables x=some folder := by
  cases hf : fails .folderAssignments <;> simp [getAllDevices,hf]
  constructor
  · intro h
    obtain ⟨p,⟨hp,hfolder⟩,rfl⟩:=h
    exact ⟨⟨p,hp,rfl⟩,hfolder⟩
  · intro h
    obtain ⟨⟨p,hp,rfl⟩,hfolder⟩:=h
    exact ⟨p,⟨hp,hfolder⟩,rfl⟩

theorem mem_getGroupPeerIds : x∈getGroupPeerIds c fails g ↔
      (∃ folder, folderIdFromGroupGuid c.js g.guid=some folder ∧ x∈c.peers.map Peer.id ∧
        fails .folderAssignments=false ∧ folderOf c.tables x=some folder) ∨
      folderIdFromGroupGuid c.js g.guid=none ∧
        (g.guid≠"" ∧ fails (.members g.guid)=false ∧ x∈getDeviceGroupMembers c g.guid ∨
          g.sourceType="tag" ∧ g.tagFilter≠"" ∧ ∃ p∈c.peers,p.id=x ∧
            hasTag c.js ⟨p.id,normalisePeerTags c.js p.tags,none⟩ g.tagFilter=true) := by
  rw [getGroupPeerIds]
  cases hfolder : folderIdFromGroupGuid c.js g.guid with
  | some folder =>
    rw [folder_getAllDevices]
    simp
  | none =>
    rw [mem_append]
    simp only [reduceCtorEq,false_and,exists_false,false_or,true_and]
    apply or_congr
    · by_cases h : g.guid≠"" ∧ fails (.members g.guid)=false
      · simp [h]
      · rw [if_neg h]
        constructor
        · intro hx
          cases hx
        · intro hx
          exact absurd ⟨hx.1,hx.2.1⟩ h
    · by_cases h : g.sourceType="tag" ∧ g.tagFilter≠""
      · rw [if_pos h,hasTag_getAllDevices]
        simp [h]
      · rw [if_neg h]
        constructor
        · intro hx
          cases hx
        · intro hx
          exact absurd ⟨hx.1,hx.2.1⟩ h

theorem getGroupPeerIds_of_failing (h : x∈getGroupPeerIds c fails g) : x∈getGroupPeerIds c noFailure g := by
  rw [mem_getGroupPeerIds] at h ⊢
  refine h.imp ?_ ?_
  · intro h
    obtain ⟨folder,hfolder,hx,-,hof⟩:=h
    exact ⟨folder,hfolder,hx,rfl,hof⟩
  · intro h
    exact ⟨h.1,h.2.imp_left fun h => ⟨h.1,rfl,h.2.2⟩⟩

structure FindsPeers (c : Console) (fails : Failing) (g : GroupRow) : Prop where
  folder : ∀ folder, folderIdFromGroupGuid c.js g.guid=some folder → fails .folderAssignments=false
  members : folderIdFromGroupGuid c.js g.guid=none → g.guid="" ∨ fails (.members g.guid)=false

theorem FindsPeers.mem (hg : FindsPeers c fails g)
    (h : x∈getGroupPeerIds c noFailure g) : x∈getGroupPeerIds c fails g := by
  rw [mem_getGroupPeerIds] at h ⊢
  refine h.imp ?_ ?_
  · intro h
    obtain ⟨folder,hfolder,hx,-,hof⟩:=h
    exact ⟨folder,hfolder,hx,hg.folder folder hfolder,hof⟩
  · intro h
    refine ⟨h.1,h.2.imp_left ?_⟩
    intro hm
    exact ⟨hm.1,(hg.members h.1).resolve_left hm.1,hm.2.2⟩

/-- The failing lookups open nothing: the mode stays restricted where it is, and where the console
takes it to be open, the devices of the groups that hold them back are found. -/
structure ConsoleHolds (c : Console) (fails : Failing) : Prop where
  mode : isDeviceScopeRestrictedDefault c noFailure=true → isDeviceScopeRestrictedDefault c fails=true
  found : isDeviceScopeRestrictedDefault c fails=false → ∀ g∈restrictedGroups c,
    groupAllowedForUser c noFailure g=false → FindsPeers c fails g

theorem console_fails_closed (hnamed : ∀ p∈c.peers,p.id≠"") (h : ConsoleHolds c fails) :
    consoleShows c fails ⊆ consoleShows c noFailure := by
  by_cases hscoped : c.user.id=0 ∨ unscopedRole c.role=true
  · rw [consoleShows_of_unscoped hscoped,consoleShows_of_unscoped hscoped]
    exact List.Subset.refl _
  obtain ⟨hid,hrole⟩:=not_or.mp hscoped
  have hrole : unscopedRole c.role=false := by simpa using hrole
  cases hthrow : fails .deviceGroups with
  | true =>
    rw [consoleShows_of_throw hid hrole hthrow]
    exact nil_subset _
  | false =>
    have hle : (consoleScope c fails).visible ⊆ (consoleScope c noFailure).visible := by
      apply AccessScope.visible_subset
      · rw [consoleScope_restricted,consoleScope_restricted]
        exact h.mode
      · apply AccessScope.allowed_mono
        · intro x hx
          rw [mem_consoleScope_grants] at hx ⊢
          exact peerGrants_of_failing hx
        · intro g hg ha
          rw [consoleScope_admits] at ha
          rw [consoleScope_admits]
          refine ⟨hg,groupAllowedForUser_of_failing ha,?_⟩
          intro x hx
          rw [mem_consoleScope_covers] at hx ⊢
          exact getGroupPeerIds_of_failing hx
      · intro hopen
        rw [consoleScope_restricted,Bool.not_eq_true] at hopen
        apply AccessScope.heldBack_anti
        intro g hg ha
        rw [consoleScope_admits] at ha
        rw [consoleScope_admits]
        refine ⟨hg,fun hf => ha (groupAllowedForUser_of_failing hf),?_⟩
        intro x hx
        rw [mem_consoleScope_covers] at hx ⊢
        exact (h.found hopen g hg (by simpa using ha)).mem hx
    intro x hx
    have hne : x≠"" := by
      obtain ⟨p,hp,rfl⟩:=mem_map.mp (consoleShows_subset hx)
      exact hnamed p hp
    rw [mem_consoleShows hid hrole hthrow hne] at hx
    rw [mem_consoleShows hid hrole rfl hne]
    exact ⟨hx.1,hle hx.2⟩

def Tables.setPeerGrants (t : Tables) (user : ℤ) (l : List PeerID) : Tables :=
  {t with userPeerGrants := update t.userPeerGrants user l}

def Tables.setUserAccess (t : Tables) (group : ℤ) (l : List String) : Tables :=
  {t with userAccess := update t.userAccess group l}

def Tables.setUserGroups (t : Tables) (user : ℤ) (l : List String) : Tables :=
  {t with userGroups := update t.userGroups user l}

def Console.setTables (c : Console) (t : Tables) : Console := {c with tables := t}

/-- A grant to the user, the user added to an access list, the user added to a user group. -/
inductive Grows (c : Console) : Console → Prop
  | grant {id : PeerID} {l : List PeerID} (h : Inserted id (c.tables.userPeerGrants c.user.id) l) :
      Grows c (c.setTables (c.tables.setPeerGrants c.user.id l))
  | allow {group : ℤ} {l : List String} (h : Inserted c.user.username (c.tables.userAccess group) l) :
      Grows c (c.setTables (c.tables.setUserAccess group l))
  | join {guid : String} {l : List String} (h : Inserted guid (c.tables.userGroups c.user.id) l) :
      Grows c (c.setTables (c.tables.setUserGroups c.user.id l))

structure Alike (c c' : Console) : Prop where
  js : c'.js=c.js
  unicode : c'.unicode=c.unicode
  user : c'.user=c.user
  role : c'.role=c.role
  peers : c'.peers=c.peers
  environment : c'.environment=c.environment
  scopeDefaultCache : c'.scopeDefaultCache=c.scopeDefaultCache
  deviceScopeDefault : c'.tables.deviceScopeDefault=c.tables.deviceScopeDefault
  deviceGroups : c'.tables.deviceGroups=c.tables.deviceGroups
  groupAccess : c'.tables.groupAccess=c.tables.groupAccess
  deviceGroupMembers : c'.tables.deviceGroupMembers=c.tables.deviceGroupMembers
  folders : c'.tables.folders=c.tables.folders
  folderAssignments : c'.tables.folderAssignments=c.tables.folderAssignments

section Grown
variable {c' : Console}

theorem Grows.alike (h : Grows c c') : Alike c c' := by
  cases h <;> constructor <;> rfl

theorem Grows.userPeerGrants (h : Grows c c') {id : PeerID} (hid : id∈c.tables.userPeerGrants c.user.id) :
    id∈c'.tables.userPeerGrants c.user.id := by
  cases h with
  | grant h =>
    simp only [Console.setTables,Tables.setPeerGrants,update_self,h.mem]
    exact Or.inr hid
  | allow h => exact hid
  | join h => exact hid

theorem Grows.userAccess (h : Grows c c') (group : ℤ) : c'.tables.userAccess group=c.tables.userAccess group ∨
      Inserted c.user.username (c.tables.userAccess group) (c'.tables.userAccess group) := by
  cases h with
  | grant | join => exact Or.inl rfl
  | @allow given l h =>
    simp only [Console.setTables,Tables.setUserAccess]
    by_cases hg : group=given
    · rw [hg,update_self]
      exact Or.inr h
    · rw [update_of_ne hg]
      exact Or.inl rfl

theorem Grows.userGroups (h : Grows c c') {guid : String} (hguid : guid∈c.tables.userGroups c.user.id) :
    guid∈c'.tables.userGroups c.user.id := by
  cases h with
  | grant | allow => exact hguid
  | join h =>
    simp only [Console.setTables,Tables.setUserGroups,update_self,h.mem]
    exact Or.inr hguid

/-- A name that is put on a list is one that trimming keeps, and the groups of the user fit. -/
structure ConsoleKeeps (c c' : Console) : Prop where
  clean : c'.tables.userAccess=c.tables.userAccess ∨ Clean c.user.username
  short : c'.tables.userGroups=c.tables.userGroups ∨
    (trimmed (accessUserGroups c' noFailure)).eraseDups.length≤100

theorem Alike.getGroupPeerIds (h : Alike c c') (g : GroupRow) :
    getGroupPeerIds c' fails g=getGroupPeerIds c fails g := by
  simp only [DeviceGroups.getGroupPeerIds,getAllDevices,getDeviceGroupMembers,Tables.groupByGuid,folderOf,h.js,
    h.peers,h.deviceGroups,h.deviceGroupMembers,h.folderAssignments]

theorem Alike.restricted (h : Alike c c') :
    isDeviceScopeRestrictedDefault c' fails=isDeviceScopeRestrictedDefault c fails := by
  simp only [isDeviceScopeRestrictedDefault,h.js,h.environment,h.scopeDefaultCache,h.deviceScopeDefault]

variable (hgrow : Grows c c') (hkeep : ConsoleKeeps c c')
include hgrow hkeep

theorem mem_normalizeUsernames_of_grows {group : ℤ}
    (h : c.user.username∈normalizeUsernames (c.tables.userAccess group)) :
    c.user.username∈normalizeUsernames (c'.tables.userAccess group) := by
  cases hkeep.clean with
  | inl hsame => rwa [hsame]
  | inr hclean =>
    cases hgrow.userAccess group with
    | inl hsame => rwa [hsame]
    | inr hins => exact mem_normalizeTexts_of_inserted hclean hins h

theorem normalizeUsernames_of_grows {group : ℤ} :
    normalizeUsernames (c'.tables.userAccess group)=normalizeUsernames (c.tables.userAccess group) ∨
      normalizeUsernames (c'.tables.userAccess group)≠[] := by
  cases hkeep.clean with
  | inl hsame => exact Or.inl (by rw [hsame])
  | inr hclean =>
    cases hgrow.userAccess group with
    | inl hsame => exact Or.inl (by rw [hsame])
    | inr hins => exact Or.inr (normalizeTexts_ne_nil_of_inserted hclean hins)

theorem mem_userGroups_of_grows {guid : String} (h : guid∈normalizeGroupGuids (accessUserGroups c noFailure)) :
    guid∈normalizeGroupGuids (accessUserGroups c' noFailure) := by
  cases hkeep.short with
  | inl hsame =>
    rw [accessUserGroups,hsame,hgrow.alike.user]
    exact h
  | inr hshort =>
    rw [normalizeGroupGuids,mem_normalizeTexts_of_short hshort]
    obtain ⟨⟨t,ht,htrim⟩,hne⟩:=mem_trimmed.mp (mem_trimmed_of_mem_normalizeTexts h)
    refine mem_trimmed.mpr ⟨⟨t,?_,htrim⟩,hne⟩
    simp only [accessUserGroups,noFailure,Bool.false_eq_true,if_false,mem_filter] at ht ⊢
    rw [hgrow.alike.user]
    exact ⟨hgrow.userGroups ht.1,ht.2⟩

variable {g : GroupRow}

theorem hasAccessList_of_grows (h : hasAccessList c g=true) : hasAccessList c' g=true := by
  simp only [hasAccessList,Bool.or_eq_true,decide_eq_true_eq,hgrow.alike.groupAccess] at h ⊢
  apply h.imp_left
  intro hne
  cases normalizeUsernames_of_grows hgrow hkeep with
  | inl hsame => rwa [hsame]
  | inr hne' => exact hne'

theorem groupAllowedForUser_of_grows (hlist : hasAccessList c g=true)
    (h : groupAllowedForUser c noFailure g=true) : groupAllowedForUser c' noFailure g=true := by
  simp only [groupAllowedForUser,Bool.or_eq_true,Bool.and_eq_true,decide_eq_true_eq,any_eq_true,
    hgrow.alike.role,hgrow.alike.user,hgrow.alike.groupAccess] at h ⊢
  simp only [hasAccessList,Bool.or_eq_true,decide_eq_true_eq] at hlist
  refine h.imp (Or.imp (Or.imp_right ?_) ?_) ?_
  · intro hnil
    exact absurd hnil (by tauto)
  · exact mem_normalizeUsernames_of_grows hgrow hkeep
  · intro hany
    obtain ⟨guid,hallowed,hmem⟩:=hany
    exact ⟨guid,hallowed,mem_userGroups_of_grows hgrow hkeep hmem⟩

theorem hasAccessList_of_refused (h : hasAccessList c' g=true)
    (hno : groupAllowedForUser c' noFailure g=false) : hasAccessList c g=true := by
  have hrefused : c.user.username∉normalizeUsernames (c'.tables.userAccess g.id) := by
    intro hmem
    simp [groupAllowedForUser,hgrow.alike.user,hmem] at hno
  simp only [hasAccessList,Bool.or_eq_true,decide_eq_true_eq,hgrow.alike.groupAccess] at h ⊢
  refine h.imp_left ?_
  intro hne
  cases hkeep.clean with
  | inl hsame => rwa [← hsame]
  | inr hclean =>
    cases hgrow.userAccess g.id with
    | inl hsame => rwa [← hsame]
    | inr hins => exact fun hnil => hrefused (mem_normalizeTexts_of_nil hclean hins hnil)

theorem consoleScope_of_grows : (consoleScope c noFailure).visible ⊆ (consoleScope c' noFailure).visible := by
  have hrows : c'.tables.deviceGroups=c.tables.deviceGroups := hgrow.alike.deviceGroups
  apply AccessScope.visible_subset
  · rw [consoleScope_restricted,consoleScope_restricted,hgrow.alike.restricted]
    exact id
  · apply AccessScope.allowed_mono
    · intro x hx
      rw [mem_consoleScope_grants] at hx ⊢
      simp only [peerGrants,noFailure,Bool.false_eq_true,if_false,hgrow.alike.user] at hx ⊢
      exact hgrow.userPeerGrants hx
    · intro g hg ha
      rw [mem_consoleScope_rules,restrictedGroups,mem_filter] at hg
      rw [consoleScope_admits] at ha
      rw [mem_consoleScope_rules,consoleScope_admits,restrictedGroups,mem_filter,hrows]
      refine ⟨⟨hg.1,hasAccessList_of_grows hgrow hkeep hg.2⟩,groupAllowedForUser_of_grows hgrow hkeep hg.2 ha,?_⟩
      intro x hx
      rw [mem_consoleScope_covers] at hx ⊢
      rwa [hgrow.alike.getGroupPeerIds]
  · intro _
    apply AccessScope.heldBack_anti
    intro g hg ha
    rw [mem_consoleScope_rules,restrictedGroups,mem_filter,hrows] at hg
    rw [consoleScope_admits,Bool.not_eq_true] at ha
    have hlist:=hasAccessList_of_refused hgrow hkeep hg.2 ha
    rw [mem_consoleScope_rules,consoleScope_admits,restrictedGroups,mem_filter]
    refine ⟨⟨hg.1,hlist⟩,?_,?_⟩
    · intro hb
      rw [groupAllowedForUser_of_grows hgrow hkeep hlist hb] at ha
      cases ha
    · intro x hx
      rw [mem_consoleScope_covers] at hx ⊢
      rwa [hgrow.alike.getGroupPeerIds] at hx

theorem console_keeps (hnamed : ∀ p∈c.peers,p.id≠"") : consoleShows c noFailure ⊆ consoleShows c' noFailure := by
  have hpeers : c'.peers=c.peers := hgrow.alike.peers
  by_cases hscoped : c.user.id=0 ∨ unscopedRole c.role=true
  · have hscoped' : c'.user.id=0 ∨ unscopedRole c'.role=true := by
      rwa [hgrow.alike.user,hgrow.alike.role]
    rw [consoleShows_of_unscoped hscoped,consoleShows_of_unscoped hscoped',hpeers]
    exact List.Subset.refl _
  obtain ⟨hid,hrole⟩:=not_or.mp hscoped
  rw [Bool.not_eq_true] at hrole
  intro x hx
  have hne : x≠"" := by
    obtain ⟨p,hp,rfl⟩:=mem_map.mp (consoleShows_subset hx)
    exact hnamed p hp
  rw [mem_consoleShows hid hrole rfl hne] at hx
  rw [mem_consoleShows (by rwa [hgrow.alike.user]) (by rwa [hgrow.alike.role]) rfl hne,hpeers]
  exact ⟨hx.1,consoleScope_of_grows hgrow hkeep hx.2⟩

end Grown

end BetterDesk.Panel.DeviceGroups
