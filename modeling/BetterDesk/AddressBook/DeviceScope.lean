import BetterDesk.AddressBook.Document

/-! # Device scope (api/rustdesk_groups.go, api/rustdesk_peers.go) -/

namespace BetterDesk.AddressBook
open Text Auth Db

structure DeviceGroup where
  id : ℤ
  sourceType : String
  tagFilter : String
  allowedUsers : List String
  allowedGroupGUIDs : List String

structure Panel where
  restrictedDefault : Bool
  userIDByUsername : String → Option ℤ
  userPeerGrants : ℤ → List PeerID
  userGroupGUIDs : ℤ → List String
  deviceGroups : Option (List DeviceGroup)     -- absent when the query fails
  groupMembers : ℤ → List PeerID
  folders : List ℤ
  folderAccess : ℤ → List String × List String
  folderAssignments : List (PeerID × ℤ)

structure ScopeUser where
  id : ℤ
  username : String

/-- What decides the scope of a user: the panel, and the accounts that the database
and the request have for it. -/
structure Scope where
  unicode : Unicode
  panel : Option Panel
  dbUser : Option ScopeUser
  ctxUser : Option ScopeUser

def rustDeskUserForGroups (scope : Scope) (username : String) : ScopeUser :=
  let panelID:=scope.panel.bind fun panel => panel.userIDByUsername username
  match scope.dbUser with
  | some user =>
    if 0<user.id then {user with id := (panelID.filter fun id => 0 < id).getD user.id} else user
  | none => match scope.ctxUser with
    | some user => user
    | none => ⟨panelID.getD 0,username⟩

def consoleUserGroupGUIDs (panel : Panel) (userID : ℤ) : List String :=
  if userID≤0 then [] else panel.userGroupGUIDs userID

def unscopedRole (role : Role) : Bool :=
  isSuperAdminRole role||role==roleGlobalAdmin||role==roleServerAdmin

def panelAccessAllowed (user : ScopeUser) (role : Role) (userGroupGUIDs allowedUsers allowedGroups : List String) :
    Bool :=
  unscopedRole role||(allowedUsers=[]&&allowedGroups=[])||user.username∈allowedUsers ||
    allowedGroups.any fun g => g∈userGroupGUIDs

def peerHasTag (u : Unicode) (p : Peer) (tagLower : String) : Bool :=
  (p.tags.toList.splitOnP fun c => c = ',').any fun t => u.equalFold (trimString (String.ofList t)) tagLower

def knownPeer (peers : List Peer) (id : PeerID) : Bool := peers.any fun p => p.id=id

def taggedPeers (u : Unicode) (g : DeviceGroup) (peers : List Peer) : List Peer :=
  if g.sourceType="tag" ∧ trimString g.tagFilter≠"" then
    peers.filter fun p => peerHasTag u p (u.toLower (trimString g.tagFilter))
  else []

def panelGroupPeerIDs (u : Unicode) (panel : Panel) (g : DeviceGroup) (peers : List Peer)
    (visible : Option (PeerID → Bool)) : List PeerID :=
  (((panel.groupMembers g.id++(taggedPeers u g peers).map Peer.id).map trimString).filter fun id =>
    id≠""&&visible.all (· id)&&knownPeer peers id).eraseDups

structure Area where
  allowedUsers : List String
  allowedGroups : List String
  peerIDs : List PeerID

def Area.listed (a : Area) : Bool := a.allowedUsers≠[]||a.allowedGroups≠[]

def groupArea (u : Unicode) (panel : Panel) (peers : List Peer) (g : DeviceGroup) : Area :=
  ⟨g.allowedUsers,g.allowedGroupGUIDs,panelGroupPeerIDs u panel g peers none⟩

def folderArea (panel : Panel) (peers : List Peer) (folder : ℤ) : Area :=
  ⟨(panel.folderAccess folder).1,(panel.folderAccess folder).2,
    (panel.folderAssignments.filter fun e => e.2=folder&&knownPeer peers e.1).map Prod.fst⟩

def panelAreas (u : Unicode) (panel : Panel) (groups : List DeviceGroup) (peers : List Peer) : List Area :=
  (groups.map (groupArea u panel peers)++panel.folders.map (folderArea panel peers)).filter Area.listed

def userPeerGrants (panel : Panel) (user : ScopeUser) : List PeerID :=
  if 0<user.id then panel.userPeerGrants user.id else []

/-- `none` stands for every device. -/
def rustDeskVisiblePeerSet (u : Unicode) (panel : Option Panel) (user : ScopeUser) (role : Role)
    (peers : List Peer) : Option (PeerID → Bool) := if unscopedRole role then none
  else match panel with
    | none => none
    | some panel => match panel.deviceGroups with
      | none => none
      | some groups =>
        let areas:=panelAreas u panel groups peers
        let grants:=userPeerGrants panel user
        if areas=[] ∧ grants=[] then
          if panel.restrictedDefault then some fun _ => false else none
        else
          let given (a : Area) : Bool := panelAccessAllowed user role
            (consoleUserGroupGUIDs panel user.id) a.allowedUsers a.allowedGroups
          let allowed (id : PeerID) : Bool := id∈grants||areas.any fun a => given a&&id∈a.peerIDs
          let restricted (id : PeerID) : Bool := areas.any fun a => !given a&&id∈a.peerIDs
          some fun id =>
            if panel.restrictedDefault then allowed id
            else knownPeer peers id&&(!restricted id||allowed id)

def livePeers (peers : List Peer) : List Peer :=
  peers.filter fun p => !p.banned&&!p.softDeleted&&!p.disabled

def canBrowseRustDeskInventory (role : Role) : Bool :=
  role≠rolePro&&roleHasPermission role permDeviceView

end BetterDesk.AddressBook
