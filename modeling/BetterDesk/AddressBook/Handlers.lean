import BetterDesk.AddressBook.DeviceScope
import BetterDesk.Api.Credentials

/-! # Address book requests (api/client_api_handlers.go, api/address_book_merge.go,
api/org_peer_vault_ab.go, api/rustdesk_peers.go) -/

namespace BetterDesk.AddressBook
open Text Auth Db Api Json

inductive AbType
  | legacy
  | personal
  deriving DecidableEq

inductive Query
  | getAddressBook (abType : AbType)
  | saveAddressBook (abType : AbType)
  | getPeersByIDs
  | listPeers
  | updatePeerTags (id : PeerID)

/-- A user without a row has the text `{}`. -/
structure Books where
  books : String → AbType → Doc
  peers : List Peer

namespace Books
variable (s : Books)

def save (username : String) (abType : AbType) (data : Doc) : Books :=
  {s with books := fun user t => if user=username ∧ t=abType then data else s.books user t}

def updatePeerTags (id : PeerID) (tags : String) : Books :=
  {s with peers := s.peers.map fun p => if p.id=id then {p with tags := tags} else p}

def getPeersByIDs (fails : Query → Bool) (ids : List PeerID) : Option (List Peer) :=
  if fails .getPeersByIDs then none else some (s.peers.filter fun p => !p.softDeleted&&p.id∈ids)

end Books

/-- What stands in the body: nothing, a string with the text in it, or a value. -/
inductive Posted
  | nothing
  | text (data : Doc)
  | value (data : Doc)

def normalizeAbDataField : Posted → Doc
  | .nothing => .braces
  | .text data | .value data => normalizeAddressBookResponse data

def abDataFieldPresent : Posted → Bool
  | .nothing | .value (.json .null) => false
  | _ => true

/-- `tooLarge` tells a text of more than 512 KB, `unmarshalStrings` reads a JSON
array of strings. -/
structure PostEnv where
  tooLarge : Doc → Bool
  unmarshalStrings : String → Option (List String)
  fails : Query → Bool

def takeBytes : ℕ → List Char → List Char
  | _, [] => []
  | n, c::rest => if c.utf8Size≤n then c::takeBytes (n-c.utf8Size) rest
    else List.replicate n (Char.ofNat 0xFFFD)

def truncateTag (tag : String) : String :=
  if 50<tag.utf8ByteSize then String.ofList (takeBytes 50 tag.toList) else tag

def cleanTags : List String → List String → List String
  | _, [] => []
  | seen, t::rest =>
    let tag:=truncateTag (trimString t)
    if trimString t="" ∨ tag∈seen then cleanTags seen rest
    else if seen.length=19 then [tag]
    else tag::cleanTags (tag::seen) rest

def splitAtCommas (s : String) : List String := (s.toList.splitOnP fun c => c = ',').map String.ofList

def normalizeClientTags (env : PostEnv) : Json → List String
  | .arr items => cleanTags [] (items.filterMap asString)
  | .str s =>
    if trimString s="" then []
    else if (trimString s).toList.head?=some '[' then
      cleanTags [] ((env.unmarshalStrings s).getD (splitAtCommas s))
    else cleanTags [] (splitAtCommas s)
  | _ => []

/-- The values that `json.Unmarshal` puts into a field, one after the other. -/
def structField (m : Members) (name : String) : List Json :=
  (m.filter fun e => equalFoldString e.1 name).map Prod.snd

section Slices
variable {α : Type} (decode : α → Json → Option α) (zero : α)

/-- Each item goes into the element that the array holds at its place; the rest stays behind. -/
def decodeItems : List α → List Json → Option (List α × List α)
  | held, [] => some ([],held)
  | held, item::items => (decode (held.headD zero) item).bind fun x =>
    (decodeItems held.tail items).map fun r => (x::r.1,r.2)

/-- `slice` has what its array holds behind the end of it as the second part. -/
def decodeArray (slice : List α × List α) : Json → Option (List α × List α)
  | .null | .arr [] => some ([],[])
  | .arr items => decodeItems decode zero (slice.1++slice.2) items
  | _ => none

def decodeSlice (values : List Json) : Option (List α) :=
  (values.foldlM (decodeArray decode zero) ([],[])).map Prod.fst

end Slices

def decodePeer (held : Members) : Json → Option Members
  | .obj m => some (m.foldl (fun p e => set p e.1 e.2) held)
  | .null => some []
  | _ => none

def decodePeers (values : List Json) : Option (List Members) := decodeSlice decodePeer [] values

/-- The first entry of a device that has tags, with its tags as they are stored. -/
def tagUpdates (env : PostEnv) : List PeerID → List Members → List (PeerID × String)
  | _, [] => []
  | seen, p::rest =>
    let id:=trimString (idOf p)
    if id="" ∨ id∈seen then tagUpdates env seen rest
    else match get p "tags" with
      | none => tagUpdates env seen rest
      | some tags => (id,",".intercalate (normalizeClientTags env tags))::tagUpdates env (id::seen) rest

def postedTags (env : PostEnv) (data : Doc) : List (PeerID × String) :=
  match data.decode with
  | some (.obj m) => match decodePeers (structField m "peers") with
    | some peers => tagUpdates env [] peers
    | none => []
  | _ => []

def canSyncTags (role : Role) : Bool := role≠rolePro&&roleHasPermission role permDeviceEdit

def syncAddressBookTagsToPeers (env : PostEnv) (s : Books) (role : Role) (data : Doc) : Books :=
  if canSyncTags role then
    (postedTags env data).foldl (fun s w =>
      if env.fails (.updatePeerTags w.1) then s else s.updatePeerTags w.1 w.2) s
  else s

def handleClientAddressBookPost (env : PostEnv) (s : Books) (ctx : Ctx) (abType : AbType)
    (posted : Posted) : Books := let data:=normalizeAbDataField posted
  if ctx.username="" ∨ (abType=.personal ∧ abDataFieldPresent posted=false) then s
  else if env.tooLarge data ∨ env.fails (.saveAddressBook abType) then s
  else syncAddressBookTagsToPeers env (s.save ctx.username abType data) ctx.role data

structure GetEnv where
  scope : Scope
  userOrganizations : List OrgID                -- of the account of the request
  orgSetting : OrgID → Answer (Option String)   -- `shared_address_book_enabled`
  orgAddressBook : OrgID → Answer Doc
  vault : Bool
  credentialFlags : OrgID → List PeerID         -- empty when the query fails
  openCredential : OrgID → PeerID → Option String
  fails : Query → Bool

def resolveUserOrgIDsForAB (env : GetEnv) (ctx : Ctx) : List OrgID :=
  ((trimString ctx.orgID::env.userOrganizations).filter fun id => id≠"").eraseDups

def orgSharedAddressBookEnabled (env : GetEnv) (orgID : OrgID) : Bool :=
  match env.orgSetting orgID with
  | .error _ => false
  | .ok none => true
  | .ok (some value) => lowerString (trimString value)≠"false"

def sharedOrgs (env : GetEnv) (ctx : Ctx) : List OrgID :=
  (resolveUserOrgIDsForAB env ctx).filter (orgSharedAddressBookEnabled env)

def mergeOrgAddressBooksIntoAB (env : GetEnv) (ctx : Ctx) (data : Doc) : Doc :=
  let overlays:=((sharedOrgs env ctx).filterMap fun org => (env.orgAddressBook org).toOption).filter isOverlay
  if overlays=[] then data else mergeAddressBookJSON data overlays

def orgSecrets (env : GetEnv) (ctx : Ctx) (id : PeerID) : Option String :=
  if env.vault=false ∨ id="" then none
  else (sharedOrgs env ctx).findSome? fun org =>
    if id∈env.credentialFlags org then (env.openCredential org id).filter fun plain => trimString plain≠""
    else none

def injectOrgPeerCredentialsIntoAB (env : GetEnv) (ctx : Ctx) (data : Doc) : Doc :=
  injectSecrets (orgSecrets env ctx) data

def bookIDs (env : GetEnv) (s : Books) (username : String) (abType : AbType) : List PeerID :=
  if env.fails (.getAddressBook abType) then []
  else match (s.books username abType).decode with
    | some (.obj m) => ((decodePeers (structField m "peers")).getD []).filterMap fun p =>
      if idOf p="" then none else some (idOf p)
    | _ => []

def loadRustDeskPeerByID (env : GetEnv) (s : Books) (ctx : Ctx) : List Peer :=
  if canBrowseRustDeskInventory ctx.role then
    if env.fails .listPeers then [] else livePeers s.peers
  else
    let ids:=bookIDs env s ctx.username .legacy++bookIDs env s ctx.username .personal
    livePeers ((s.getPeersByIDs env.fails ids).getD [])

/-- `rustDeskVisiblePeerSet` for the user of a request. -/
def visibleTo (scope : Scope) (ctx : Ctx) (peers : List Peer) : Option (PeerID → Bool) :=
  rustDeskVisiblePeerSet scope.unicode scope.panel (rustDeskUserForGroups scope ctx.username) ctx.role peers

def decodeString (held : String) : Json → Option String
  | .str s => some s
  | .null => some held
  | _ => none

def collectRustDeskTags (env : GetEnv) (s : Books) (ctx : Ctx) : List String :=
  let book := if env.fails (.getAddressBook .legacy) then .braces else s.books ctx.username .legacy
  let data := if isProRole ctx.role then book else mergeAdminTagsIntoAB (s.getPeersByIDs env.fails) book
  let tags := match data.decode with
    | some (.obj m) => (decodeSlice decodeString "" (structField m "tags")).getD []
    | _ => []
  if canBrowseRustDeskInventory ctx.role=false then tags
  else
    let u:=env.scope.unicode
    let peers:=loadRustDeskPeerByID env s ctx
    let shown := match visibleTo env.scope ctx peers with
      | none => peers
      | some visible => peers.filter fun p => visible p.id
    (shown.flatMap fun p => splitPeerTags p.tags).foldl (fun tags t =>
      if u.toLower t∈tags.map (fun t => u.toLower (trimString t)) then tags else tags++[t]) tags

def applyDeviceScopeToAddressBook (env : GetEnv) (s : Books) (ctx : Ctx) (data : Doc) : Doc :=
  if isProRole ctx.role||unscopedRole ctx.role then data
  else
    let peers:=loadRustDeskPeerByID env s ctx
    filterAddressBookPeersByVisibleSet (visibleTo env.scope ctx peers) (knownPeer peers) data

def handleClientAddressBookGet (env : GetEnv) (s : Books) (ctx : Ctx) : Option Doc :=
  if ctx.username="" ∨ env.fails (.getAddressBook .legacy) then none
  else
    let data:=injectOrgPeerCredentialsIntoAB env ctx
      (mergeOrgAddressBooksIntoAB env ctx (s.books ctx.username .legacy))
    let synced := if isProRole ctx.role then some data
      else syncServerTagsIntoAddressBook env.scope.unicode (collectRustDeskTags env s ctx)
        (mergeAdminTagsIntoAB (s.getPeersByIDs env.fails) data)
    synced.map fun data => normalizeAddressBookResponse (applyDeviceScopeToAddressBook env s ctx data)

end BetterDesk.AddressBook
