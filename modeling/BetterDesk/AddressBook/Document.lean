import BetterDesk.Lib.Json
import BetterDesk.Db.Store

/-! # Address book documents (api/address_book_merge.go, api/org_peer_vault_ab.go,
api/org_ab_sanitize.go, api/client_api_handlers.go, api/rustdesk_peers.go) -/

namespace BetterDesk.AddressBook
open Text Db Json

inductive Doc
  | empty            -- no text
  | blank            -- white space
  | braces           -- the text of the empty object
  | broken
  | json (value : Json)

/-- `json.Unmarshal`. -/
def Doc.decode : Doc → Option Json
  | empty | blank | broken => none
  | braces => some (.obj [])
  | json v => some v

def marshal : Members → Doc
  | [] => .braces
  | m => .json (.obj m)

/-- `strings.ToLower` and `strings.EqualFold`. -/
structure Unicode where
  toLower : String → String
  equalFold : String → String → Bool

structure Peer where
  id : PeerID
  hostname : String
  os : String
  user : String
  tags : String
  banned : Bool
  disabled : Bool
  softDeleted : Bool

def withDefault (m : Members) (key : String) : Members :=
  if (get m key).isSome then m else set m key (.arr [])

def parseAddressBookMap (data : Doc) : Members :=
  match data.decode with
  | some (.obj m) => withDefault (withDefault m "peers") "tags"
  | _ => [("peers",.arr []),("tags",.arr [])]

/-- The entries of a document, `toPeerSlice` of its peers. -/
def peersOf (data : Doc) : List Members := objects (get (parseAddressBookMap data) "peers")

def peersToAny (peers : List Members) : Json := .arr (peers.map .obj)

def idOf (p : Members) : PeerID := ((get p "id").bind asString).getD ""

def isEmptyABValue : Option Json → Bool
  | none => true
  | some .null => true
  | some (.str s) => trimString s=""
  | some (.arr items) => items.isEmpty
  | _ => false

def toStringSlice (v : Option Json) : List String := (strings v).map trimString

def unionTags (values : List (Option Json)) : Json :=
  .arr (((values.flatMap toStringSlice).filter fun tag => tag≠"").eraseDups.map .str)

def mergePeerMaps (base overlay : Members) : Members :=
  overlay.foldl (fun out e =>
    if e.1="tags" then set out "tags" (unionTags [get out "tags",some e.2])
    else if isEmptyABValue (get out e.1)&&!isEmptyABValue (some e.2) then set out e.1 e.2
    else out) base

/-- The last entry with the ID of `p` takes it in. -/
def mergeIntoLast (p : Members) : List Members → Option (List Members)
  | [] => none
  | q::rest => match mergeIntoLast p rest with
    | some rest' => some (q::rest')
    | none => if idOf q=idOf p then some (mergePeerMaps q p::rest) else none

def mergePeer (peers : List Members) (p : Members) : List Members :=
  if idOf p="" then peers else (mergeIntoLast p peers).getD (peers++[p])

def mergeAddressBookMaps (base overlay : Members) : Members :=
  let peers:=(objects (get overlay "peers")).foldl mergePeer (objects (get base "peers"))
  set (set base "peers" (peersToAny peers)) "tags" (unionTags [get base "tags",get overlay "tags"])

def isOverlay : Doc → Bool
  | .empty | .blank | .braces => false
  | _ => true

def mergeAddressBookJSON (base : Doc) (overlays : List Doc) : Doc :=
  marshal (((overlays.filter isOverlay).map parseAddressBookMap).foldl mergeAddressBookMaps (parseAddressBookMap base))

def fillPassword (secrets : PeerID → Option String) (p : Members) : Members :=
  match secrets (idOf p) with
  | some secret =>
    if idOf p≠"" ∧ isEmptyABValue (get p "password")=true then set p "password" (.str secret) else p
  | none => p

def fills (secrets : PeerID → Option String) (p : Members) : Bool :=
  idOf p≠""&&(secrets (idOf p)).isSome&&isEmptyABValue (get p "password")

def injectSecrets (secrets : PeerID → Option String) (data : Doc) : Doc :=
  let ab:=parseAddressBookMap data
  let peers:=objects (get ab "peers")
  if peers.any (fills secrets) then marshal (set ab "peers" (peersToAny (peers.map (fillPassword secrets))))
  else data

def splitPeerTags (tags : String) : List String :=
  ((tags.toList.splitOnP fun c => c = ',').map fun t => trimString (String.ofList t)).filter fun t => t≠""

def setIfMissing (p : Members) (key value : String) : Members :=
  match get p key with
  | some (.str "") | none => if value="" then p else set p key (.str value)
  | some _ => p

def enrich (p : Members) (row : Peer) : Members :=
  setIfMissing (setIfMissing (setIfMissing p "hostname" row.hostname) "platform" row.os) "username" row.user

def addTags (p : Members) (row : Peer) : Members :=
  if splitPeerTags row.tags=[] then p
  else set p "tags" (.arr ((strings (get p "tags") ++
    (splitPeerTags row.tags).eraseDups.filter fun t => t∉strings (get p "tags")).map .str))

def infoRow (rows : List Peer) (id : PeerID) : Option Peer := rows.find? fun row => row.id=id&&!row.banned

def bannedRow (rows : List Peer) (id : PeerID) : Bool := rows.any fun row => row.id=id&&row.banned

def setsMissing (p : Members) (key value : String) : Bool :=
  value≠""&&(match get p key with | some (.str "") | none => true | some _ => false)

def touched (rows : List Peer) (p : Members) : Bool :=
  idOf p≠""&&(bannedRow rows (idOf p)||(infoRow rows (idOf p)).any fun row =>
    setsMissing p "hostname" row.hostname||setsMissing p "platform" row.os ||
      setsMissing p "username" row.user||splitPeerTags row.tags≠[])

def keptEntry (rows : List Peer) (p : Members) : Bool := idOf p=""||!bannedRow rows (idOf p)

def mergedEntry (rows : List Peer) (p : Members) : Members :=
  if idOf p="" then p
  else match infoRow rows (idOf p) with
    | some row => addTags (enrich p row) row
    | none => p

def globalTags (rows : List Peer) (existing : List String) (peers : List Members) : List String :=
  existing++((peers.flatMap fun p =>
    if idOf p="" then [] else ((infoRow rows (idOf p)).map fun row => splitPeerTags row.tags).getD []).eraseDups.filter
      fun t => t∉existing)

/-- `getPeersByIDs` finds the rows that are not deleted. -/
def mergeAdminTagsIntoAB (getPeersByIDs : List PeerID → Option (List Peer)) (data : Doc) : Doc :=
  match data.decode with
  | some (.obj ab) =>
    let peers:=objects (get ab "peers")
    let ids:=(peers.map idOf).filter fun id => id≠""
    if ids=[] then data
    else match getPeersByIDs ids with
      | none => data
      | some rows =>
        if rows.all Peer.banned then data
        else if peers.any (touched rows) then
          marshal (set (set ab "peers" (peersToAny ((peers.filter (keptEntry rows)).map (mergedEntry rows))))
            "tags" (.arr ((globalTags rows (strings (get ab "tags")) (peers.filter (keptEntry rows))).map .str)))
        else data
  | _ => data

def maxAddressBookTags : ℕ := 4096

def newServerTags (u : Unicode) : List String → List String → List String
  | _, [] => []
  | seen, t::rest =>
    let low:=u.toLower (trimString t)
    if low="" ∨ low∈seen then newServerTags u seen rest
    else t::newServerTags u (low::seen) rest

def syncServerTagsIntoAddressBook (u : Unicode) (serverTags : List String) (data : Doc) : Option Doc :=
  let write (m : Members) : Doc :=
    let ab := match get m "peers" with
      | none | some .null => set m "peers" (.arr [])
      | some _ => m
    if serverTags=[] then marshal ab
    else
      let existing:=((strings (get ab "tags")).filter fun t => t≠"").take maxAddressBookTags
      let added:=newServerTags u (existing.map fun t => u.toLower (trimString t))
        (serverTags.take maxAddressBookTags)
      marshal (set ab "tags" (if existing++added=[] then .null else .arr ((existing++added).map .str)))
  match data with
  | .empty | .braces => some (write [])
  | _ => match data.decode with
    | some (.obj m) => some (write m)
    | some .null => none
    | _ => some data

def filterAddressBookPeersByVisibleSet (visible : Option (PeerID → Bool)) (known : PeerID → Bool)
    (data : Doc) : Doc := match visible with
  | none => data
  | some visible =>
    let ab:=parseAddressBookMap data
    let keep (p : Members) : Bool :=
      let id:=trimString (idOf p)
      id≠""&&!(known id&&!visible id)
    marshal (set ab "peers" (peersToAny ((objects (get ab "peers")).filter keep)))

/-- `normalizeAddressBookResponse`, and `normalizeAbDataField` after unquoting. -/
def normalizeAddressBookResponse : Doc → Doc
  | .empty | .blank | .json .null => .braces
  | data => data

end BetterDesk.AddressBook
