import BetterDesk.Enrollment.Store
import BetterDesk.Lib.Base64
import BetterDesk.Lib.Time64

/-! # Device registration (api/branding_handlers.go, api/enrollment_proof.go) -/

namespace BetterDesk.Enrollment
open Db Text Base64

structure EnrollmentRequest where
  deviceID : PeerID
  uuid : Bytes
  hostname : Bytes
  platform : Bytes
  version : Bytes
  deviceType : Bytes
  bundleID : Bytes
  tags : Bytes
  publicKey : Bytes
  token : Bytes

/-- The rest of the request; `fresh` is what `generateSecureToken` returns in it. -/
structure Incoming where
  method : String
  path : String
  authorization : Bytes
  timestamp : String
  nonce : String
  signature : String
  clientIP : Bytes
  fresh : Option Bytes

structure Env where
  enrollmentMode : String
  hashToken : Bytes → TokenHash
  verify : Bytes → Bytes → Bytes → Bool      -- Ed25519: the key, the payload, the signature
  parseTime : String → Option ℤ

structure Reply where
  code : ℕ
  status : String
  error : String
  message : String
  syncMode : String
  displayName : String
  deviceToken : Option Bytes

def httpError (code : ℕ) (message : String) : Reply := ⟨code,"","",message,"","",none⟩

def rejectedReply (code : ℕ) (message : String) : Reply :=
  ⟨code,"rejected","",message,"","",none⟩

def identityConflict (message : String) : Reply :=
  ⟨409,"rejected","identity_conflict",message,"","",none⟩

def ask (op : Op) : Prog (Res op) := Programs.Prog.perform op

def yes : Answer Bool → Bool
  | .ok b => b
  | .error _ => false

def succeeded : Answer Unit → Bool
  | .ok _ => true
  | .error _ => false

def ed25519PublicKeySize : ℕ := 32
def ed25519SignatureSize : ℕ := 64

/-- The key of a public key text; its canonical text is `encodeStandard` of it. -/
def canonicalizeDevicePublicKey (encoded : Bytes) : Option Bytes :=
  (decodeStandard encoded).filter fun key => key.length=ed25519PublicKeySize

def normalizeEnrollmentBundleID (raw : Bytes) : Bytes := (trimSpace raw).take 128

def normalizeEnrollmentTags (raw : Bytes) : Bytes :=
  List.intercalate [44] (((raw.splitOn 44).map trimSpace).filter (·≠[])).eraseDups

def sameDeviceUUID (stored incoming : Bytes) : Bool :=
  let stored:=trimSpace stored
  let incoming:=trimSpace incoming
  if stored=[] ∨ incoming=[] then stored=incoming
  else stored=incoming||hexDecode stored=some incoming||hexDecode incoming=some stored ||
    [decodeStandard,decodeRawStandard].any fun decode =>
      decode incoming=some stored||decode stored=some incoming

/-- The separators of a tag list here: `,` `;` `|`, blank, tab, line feed. -/
def tagSeparators : List UInt8 := [44,59,124,32,9,10]

local instance : LawfulBEq Bytes := inferInstance

def isSupportAgentEnrollment (req : EnrollmentRequest) : Bool :=
  lowerBytes (trimSpace req.deviceType) ∈
    [lit "os_agent",lit "support-agent",lit "support_agent"] ||
  ((lowerBytes req.tags).splitOnP (· ∈ tagSeparators)).any fun tag =>
    tag∈[lit "support-agent",lit "support_agent"]

def enrollmentProofClockSkew : ℕ := 300000000000
def enrollmentProofNonceMax : ℕ := 256

def enrollmentProofPayload (method path : String) (id : PeerID) (key : Bytes)
    (timestamp nonce : String) : Bytes :=
  lit "bd-enrollment-v1\n" ++ lit method++[10]++lit path++[10]++lit id++[10] ++
    encodeStandard key++[10]++lit timestamp++[10]++lit nonce

def loadBdMgmtPublicKey (id : PeerID) : Prog (Option Bytes) := do
  match (← ask (.getConfig (.bdMgmtPublicKey id)) : Answer (Option Bytes)) with
  | .error _ => pure none
  | .ok (some key) => pure (if key.length=ed25519PublicKeySize then some key else none)
  | .ok none =>
    let peer : Answer (Option Peer) ← ask (.getPeer id)
    pure (peer.row.bind fun p => if p.pk.length=ed25519PublicKeySize then some p.pk else none)

def pendingEnrollmentForProof (id : PeerID) : Prog (Option PendingEnrollmentMeta) := do
  let pending : Answer (Option PendingEnrollmentMeta) ← ask (.getConfig (.pendingDevice id))
  pure (pending.row.filter fun p => p.deviceID≠"")

def unlessOther (incoming key : Bytes) : Option Bytes :=
  if incoming≠[] ∧ canonicalizeDevicePublicKey incoming≠some key then none else some key

def enrollmentProofPublicKey (id : PeerID) (incoming : Bytes) : Prog (Option Bytes) := do
  match (← ask (.getPeer id) : Answer (Option Peer)) with
  | .error _ => pure none
  | .ok (some _) =>
    let bound ← loadBdMgmtPublicKey id
    pure (bound.bind (unlessOther incoming))
  | .ok none =>
    match (← pendingEnrollmentForProof id).filter fun p => p.publicKey≠[] with
    | some p => pure ((canonicalizeDevicePublicKey p.publicKey).bind (unlessOther incoming))
    | none => pure (canonicalizeDevicePublicKey incoming)

@[irreducible] def enrollmentProofProvided (r : Incoming) : Bool :=
  trimString r.timestamp≠""||trimString r.nonce≠""||trimString r.signature≠""

@[irreducible] def signedBy (env : Env) (r : Incoming) (id : PeerID) (key : Bytes) : Bool :=
  match decodeStandard (lit (trimString r.signature)) with
  | none => false
  | some signature => signature.length=ed25519SignatureSize &&
      env.verify key (enrollmentProofPayload r.method r.path id key (trimString r.timestamp)
        (trimString r.nonce)) signature

def proofNonceKey (r : Incoming) (id : PeerID) : String :=
  "enrollment:" ++ id++":" ++ trimString r.nonce

@[irreducible] def proofSignedAt (env : Env) (r : Incoming) : Option ℤ :=
  if trimString r.timestamp="" ∨ trimString r.nonce="" ∨ trimString r.signature="" then none
  else if (lit (trimString r.nonce)).length>enrollmentProofNonceMax then none
  else env.parseTime (trimString r.timestamp)

/-- `delta > skew`, for `delta` the difference of the two times, turned positive. -/
def outsideSkew (skew : ℕ) (now signedAt : ℤ) : Bool := skew<Time64.flip (Time64.saturate (now-signedAt))

def verifyEnrollmentDeviceProof (env : Env) (r : Incoming) (id : PeerID) (incoming : Bytes) :
    Prog Bool := match proofSignedAt env r with
    | none => pure false
    | some signedAt => do
      let now : ℤ ← ask .clock
      if outsideSkew enrollmentProofClockSkew now signedAt then pure false
      else
        match ← enrollmentProofPublicKey id incoming with
        | none => pure false
        | some key =>
          if signedBy env r id key then do
            let replayed : Bool ← ask (.markUsed (proofNonceKey r id) now)
            pure (!replayed)
          else pure false

@[irreducible] def enrollmentTokenCandidates (r : Incoming) (bodyToken : Bytes) : List Bytes :=
  let body:=trimSpace bodyToken
  let bearer:=trimSpace (r.authorization.drop (lit "Bearer ").length)
  (if body≠[] then [body] else []) ++
    if r.authorization.length>(lit "Bearer ").length ∧
        equalFold (r.authorization.take (lit "Bearer ").length) (lit "Bearer ") ∧ bearer≠[]
      then [bearer] else []

def credentialFits (id : PeerID) (requireBound : Bool) (token : DeviceToken) : Bool :=
  if requireBound then token.status=.active&&token.peerID=id else token.fits id

def hasEnrollmentCredential (env : Env) (id : PeerID) (requireBound : Bool) : List Bytes → Prog Bool
  | [] => pure false
  | candidate::rest => do
    let token : Answer (Option DeviceToken) ← ask (.validateToken (env.hashToken candidate))
    if token.row.any (credentialFits id requireBound) then pure true
    else hasEnrollmentCredential env id requireBound rest

/-- `verified` says that this request's proof was already consumed. -/
def authorizeEnrollmentTokenIssue (env : Env) (r : Incoming) (verified : Bool) (id : PeerID)
    (publicKey bodyToken : Bytes) (requireBound : Bool) : Prog Bool :=
  if verified=true ∧ trimString id≠"" then pure true
  else if enrollmentProofProvided r then verifyEnrollmentDeviceProof env r id publicKey
  else hasEnrollmentCredential env id requireBound (enrollmentTokenCandidates r bodyToken)

def issueEnrollmentDeviceToken (env : Env) (r : Incoming) (id : PeerID) : Prog (Option Bytes) :=
  match r.fresh with
  | none => pure none
  | some plain => do
    let stored : Answer Unit ←
      ask (.createDeviceToken (env.hashToken plain) ⟨id,.active,0,0,none⟩)
    pure (if succeeded stored then some plain else none)

def storeBdMgmtPublicKey (id : PeerID) (encoded : Bytes) : Prog Unit :=
  match canonicalizeDevicePublicKey encoded with
  | none => pure ()
  | some key => do
    let _ ← ask (.setConfig (.bdMgmtPublicKey id) key)
    pure ()

/-- With `resetSecureState`, a device that has no row loses a sequence left
over, and one that was removed is refused. -/
def checkSecureState (id : PeerID) (resetSecureState : Bool) : Prog Bool :=
  if resetSecureState then do
    match (← ask (.getPeerIDState id) : Answer PeerIDState) with
    | .error _ => pure false
    | .ok .missing =>
      let deleted : Answer Unit ← ask (.deleteConfig (.telemetrySeq id))
      pure (succeeded deleted)
    | .ok .softDeleted => pure false
    | .ok .active => pure true
  else pure true

def createPeerFromEnrollment (req : EnrollmentRequest) (resetSecureState : Bool) (origin : Origin) :
    Prog Bool := if req.deviceID="" then pure false
  else do
    if ← checkSecureState req.deviceID resetSecureState then
      let created : Answer Unit ← ask (.upsertPeer req.deviceID req.uuid origin)
      if succeeded created then
        let bundleID:=normalizeEnrollmentBundleID req.bundleID
        if bundleID≠[] then
          let _ ← ask (.setConfig (.deviceBundleID req.deviceID) bundleID)
        if req.publicKey≠[] then
          storeBdMgmtPublicKey req.deviceID req.publicKey
        pure true
      else pure false
    else pure false

def PendingEnrollmentMeta.identified (found : PendingEnrollmentMeta) (id : PeerID) :
    PendingEnrollmentMeta :=
  {found with deviceID := if found.deviceID="" then id else found.deviceID}

def pendingConflict (existing : PendingEnrollmentMeta) (req : EnrollmentRequest) : Bool :=
  (existing.uuid≠[]&&req.uuid≠[]&&existing.uuid≠req.uuid) ||
  (existing.publicKey≠[]&&req.publicKey≠[] &&
    match canonicalizeDevicePublicKey existing.publicKey with
    | none => true
    | some stored => canonicalizeDevicePublicKey req.publicKey≠some stored) ||
  (existing.bundleID≠[]&&req.bundleID≠[] &&
    normalizeEnrollmentBundleID existing.bundleID≠normalizeEnrollmentBundleID req.bundleID)

def orElse (old new : Bytes) : Bytes := if old=[] then new else old

def enrichPending (existing : PendingEnrollmentMeta) (req : EnrollmentRequest) (clientIP : Bytes) :
    PendingEnrollmentMeta := {existing with
    hostname := orElse existing.hostname req.hostname
    platform := orElse existing.platform req.platform
    version := orElse existing.version req.version
    deviceType := orElse existing.deviceType (trimSpace req.deviceType)
    bundleID := orElse existing.bundleID (normalizeEnrollmentBundleID req.bundleID)
    tags := orElse existing.tags (normalizeEnrollmentTags req.tags)
    publicKey := orElse existing.publicKey req.publicKey
    uuid := orElse existing.uuid req.uuid
    ip := orElse existing.ip clientIP}

def storePendingDevice (req : EnrollmentRequest) (clientIP : Bytes) : Prog Bool := do
  let raw : Answer (Option PendingEnrollmentMeta) ← ask (.getConfig (.pendingDevice req.deviceID))
  match raw.row with
  | some found =>
    let existing:=found.identified req.deviceID
    if pendingConflict existing req then pure false
    else
      let enriched:=enrichPending existing req clientIP
      if enriched=existing then pure true
      else
        let stored : Answer Unit ← ask (.setConfig (.pendingDevice req.deviceID) enriched)
        pure (succeeded stored)
  | none =>
    let stored : Answer Unit ← ask (.setConfig (.pendingDevice req.deviceID)
      ⟨req.deviceID,req.uuid,req.hostname,req.platform,req.version,trimSpace req.deviceType,
        normalizeEnrollmentBundleID req.bundleID,normalizeEnrollmentTags req.tags,req.publicKey,
        clientIP⟩)
    pure (succeeded stored)

def enrollmentBlock (id : PeerID) : Prog (Option String) := do
  let banned : Answer Bool ← ask (.isPeerBanned id)
  if yes banned then pure (some "Device is banned")
  else
    let removed : Answer Bool ← ask (.isPeerSoftDeleted id)
    if yes removed then pure (some "Device has been removed")
    else
      let rejected : Answer (Option RejectionMarker) ← ask (.getConfig (.rejectedDevice id))
      if rejected.row.isSome then pure (some "Device enrollment was rejected")
      else pure none

def proofRequired : String := "Device identity proof is required to issue a device token"

def approvedReply (syncMode displayName message : String) (deviceToken : Option Bytes) : Reply :=
  ⟨200,"approved","",message,syncMode,displayName,deviceToken⟩

def deviceSettings (id : PeerID) : Prog (String × String) := do
  let syncMode : Answer (Option String) ← ask (.getConfig (.deviceSyncMode id))
  let displayName : Answer (Option String) ← ask (.getConfig (.deviceDisplayName id))
  pure (syncMode.row.getD "standard",displayName.row.getD "")

def bindBundle (req : EnrollmentRequest) : Prog (Option Reply) :=
  if isSupportAgentEnrollment req then do
    let bundleID:=normalizeEnrollmentBundleID req.bundleID
    let stored : Answer (Option Bytes) ← ask (.getConfig (.deviceBundleID req.deviceID))
    let bound:=normalizeEnrollmentBundleID (stored.row.getD [])
    if bound≠[] ∧ bound≠bundleID then
      pure (some (httpError 403 "bundle_id does not match enrolled device"))
    else if bound=[] then
      let written : Answer Unit ← ask (.setConfig (.deviceBundleID req.deviceID) bundleID)
      pure (if succeeded written then none
        else some (httpError 500 "failed to bind support-agent bundle"))
    else pure none
  else pure none

def reregister (env : Env) (r : Incoming) (req : EnrollmentRequest) (verified : Bool)
    (existing : Peer) : Prog Reply :=
  if req.uuid≠[] ∧ existing.uuid≠[] ∧ sameDeviceUUID existing.uuid req.uuid=false then
    pure (identityConflict "Device ID is already registered to a different machine")
  else do
    let bound ← loadBdMgmtPublicKey req.deviceID
    if req.publicKey≠[] ∧ bound≠none ∧ canonicalizeDevicePublicKey req.publicKey≠bound then
      pure (httpError 403 "public_key does not match enrolled device identity")
    else
      match ← bindBundle req with
      | some refusal => pure refusal
      | none =>
        let settings ← deviceSettings req.deviceID
        let hasBoundCredential ←
          hasEnrollmentCredential env req.deviceID true (enrollmentTokenCandidates r req.token)
        let authorized ←
          authorizeEnrollmentTokenIssue env r verified req.deviceID req.publicKey req.token true
        if authorized then
          if bound=none ∧ req.publicKey≠[] then
            storeBdMgmtPublicKey req.deviceID req.publicKey
          if hasBoundCredential then pure (approvedReply settings.1 settings.2 "" none)
          else
            let token ← issueEnrollmentDeviceToken env r req.deviceID
            pure (approvedReply settings.1 settings.2 "" token)
        else pure (approvedReply settings.1 settings.2 proofRequired none)

def enrollOpen (env : Env) (r : Incoming) (req : EnrollmentRequest) (verified : Bool) : Prog Reply := do
  if ← createPeerFromEnrollment req true .registration then
    if ← authorizeEnrollmentTokenIssue env r verified req.deviceID req.publicKey req.token false then
      let token ← issueEnrollmentDeviceToken env r req.deviceID
      pure (approvedReply "standard" "" "" token)
    else pure (approvedReply "standard" "" proofRequired none)
  else pure (httpError 500 "Failed to enroll device")

def enrollManaged (r : Incoming) (req : EnrollmentRequest) : Prog Reply := do
  if ← storePendingDevice req r.clientIP then
    pure ⟨202,"pending","","Waiting for operator approval","","",none⟩
  else pure (identityConflict "Device ID is already pending for a different machine")

def enrollLocked (env : Env) (r : Incoming) (req : EnrollmentRequest) : Prog Reply :=
  let locked:=rejectedReply 403 "Enrollment is locked — a valid token is required"
  if req.token=[] then pure locked
  else do
    let hash:=env.hashToken req.token
    let token : Answer (Option DeviceToken) ← ask (.validateToken hash)
    match token.row.filter fun t => t.fits req.deviceID with
    | none => pure locked
    | some t =>
      if t.status=.pending then
        let _ ← ask (.bindTokenToPeer hash req.deviceID)
      let _ ← ask (.incrementTokenUse hash)
      if ← createPeerFromEnrollment req true .registration then
        let issued ← issueEnrollmentDeviceToken env r req.deviceID
        pure (approvedReply "standard" "" "" (some (issued.getD req.token)))
      else pure (httpError 500 "Failed to enroll device")

def enrollmentMode (env : Env) : String :=
  if env.enrollmentMode="" then "open" else env.enrollmentMode

def registerDevice (env : Env) (r : Incoming) (req : EnrollmentRequest) (verified : Bool) :
    Prog Reply := do
  match ← enrollmentBlock req.deviceID with
  | some message => pure (rejectedReply 403 message)
  | none =>
    let peer : Answer (Option Peer) ← ask (.getPeer req.deviceID)
    match peer.row with
    | some existing => reregister env r req verified existing
    | none =>
      if enrollmentMode env="open" then enrollOpen env r req verified
      else if enrollmentMode env="managed" then enrollManaged r req
      else if enrollmentMode env="locked" then enrollLocked env r req
      else pure (httpError 200 "")

def handleDeviceRegister (env : Env) (r : Incoming) (req : EnrollmentRequest) : Prog Reply :=
  if req.deviceID="" then pure (httpError 400 "device_id is required")
  else if req.publicKey≠[] ∧ canonicalizeDevicePublicKey req.publicKey=none then
    pure (httpError 400 "invalid public_key")
  else if isSupportAgentEnrollment req then
    if trimSpace req.uuid=[] ∨ trimSpace req.bundleID=[] ∨ trimSpace req.publicKey=[] then
      pure (rejectedReply 400 "support-agent enrollment requires uuid, bundle_id, and public_key")
    else do
      if ← verifyEnrollmentDeviceProof env r req.deviceID req.publicKey then
        registerDevice env r req true
      else pure (rejectedReply 403 "valid support-agent installation proof is required")
  else registerDevice env r req false

def handleDeviceRegisterStatus (env : Env) (r : Incoming) (id : PeerID) : Prog Reply :=
  if id="" then pure (httpError 400 "device_id query param required")
  else do
    match ← enrollmentBlock id with
    | some message => pure (rejectedReply 403 message)
    | none =>
      let peer : Answer (Option Peer) ← ask (.getPeer id)
      match peer.row with
      | some p =>
        if p.banned ∨ p.disabled ∨ p.softDeleted then
          pure (rejectedReply 403 "Device enrollment is no longer active")
        else
          let settings ← deviceSettings id
          let hasBoundCredential ←
            hasEnrollmentCredential env id true (enrollmentTokenCandidates r [])
          if hasBoundCredential then pure (approvedReply settings.1 settings.2 proofRequired none)
          else if ← authorizeEnrollmentTokenIssue env r false id [] [] true then
            let token ← issueEnrollmentDeviceToken env r id
            pure (approvedReply settings.1 settings.2 "" token)
          else pure (approvedReply settings.1 settings.2 proofRequired none)
      | none =>
        let pending : Answer (Option PendingEnrollmentMeta) ← ask (.getConfig (.pendingDevice id))
        if pending.row.isSome then
          pure ⟨200,"pending","","Waiting for operator approval","","",none⟩
        else pure ⟨404,"unknown","","Device not found — register first","","",none⟩

end BetterDesk.Enrollment
