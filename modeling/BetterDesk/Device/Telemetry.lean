import BetterDesk.Device.Identity
import BetterDesk.Lib.Base64
import BetterDesk.Lib.Exec
import BetterDesk.Lib.Framing

/-! # Sealed telemetry (api/telemetry_crypto.go, api/telemetry_handlers.go) -/

namespace BetterDesk.Device.Telemetry
open Db Text Signal Exec Framing List Function Option

structure Envelope where
  version : ℤ
  deviceID : PeerID
  sequence : UInt64
  serverKeyID : Bytes
  ephemeralPublicKey : Bytes
  responsePublicKey : Bytes
  nonce : Bytes
  ciphertext : Bytes
  signature : Bytes
deriving DecidableEq

structure Heartbeat where
  id : PeerID
  uuid : String
  telemetrySchema : ℤ
  productSKU : String
  connMode : String
  capabilities : List String
  telemetry : Bytes
  telemetryEnvelope : Bytes
  betterDeskEnvelope : Bytes

structure ClientSnapshot where
  kind : String
  sampleID : String
  status : String
  collectedAt : String
  data : Bytes

structure CommandResult where
  id : ℤ
  status : String
  result : Bytes

structure ClientTelemetry where
  schema : ℤ
  sampleID : String
  collectedAt : String
  metrics : Bytes
  metricsStatus : String
  snapshots : List ClientSnapshot
  results : List CommandResult

/-- What the libraries compute: the JSON decoders (`none` is an error), whether a text is JSON, the
text of an identity, signatures, boxes under a private key, and the ID of a private key's public one. -/
structure Libraries where
  decodeEnvelope : Bytes → Option Envelope
  decodeHeartbeat : Bytes → Option Heartbeat
  decodeTelemetry : Bytes → Option ClientTelemetry
  decodeResultSnapshot : Bytes → Option ClientSnapshot
  valid : Bytes → Bool
  marshalIdentity : VerifiedDeviceIdentity → Bytes
  verify : Bytes → Bytes → Bytes → Bool
  openBox : Bytes → Bytes → Bytes → Bytes → Option Bytes
  keyID : Bytes → Bytes

structure Peer where
  pk : Bytes
  banned : Bool

structure Snapshot where
  sampleID : String
  status : String
  payload : Bytes
  collectedAt : String

structure Command where
  deviceID : PeerID
  command : String
  status : String
  result : Bytes

inductive Job where
  | checkPeer (deviceID : PeerID) (body : Heartbeat) (verified : Bool)
  | openHttp (deviceID : PeerID) (raw : Bytes)
  | openBody (deviceID : PeerID) (raw : Bytes)
  | rememberUnverified (deviceID : PeerID) (body : Heartbeat)
  | openTelemetry (deviceID : PeerID) (body : Heartbeat) (verified : Bool)
  | save (deviceID : PeerID) (snapshot : ClientSnapshot) (verified : Bool)
  | complete (deviceID : PeerID) (id : ℤ) (status : String) (result : Bytes)

/-- `memory` is `telemetryLastSequence`, `config` the rows `telemetry_seq_*`. -/
structure State where
  ready : Bool
  privateKey : Bytes
  keyRow : Bytes
  peers : PeerID → Option Peer
  memory : PeerID → ℕ
  config : PeerID → Bytes
  snapshots : PeerID → String → Option Snapshot
  commands : ℤ → Option Command
  requests : List (List Job)
  accepted : PeerID → List Envelope
  completions : List (ℤ × PeerID)
  identityWrites : List (PeerID × Bool)

structure Env where
  peerFails : Bool
  readFails : Bool
  writeFails : Bool
  clock : String

def start : State where
  ready := false
  privateKey := []
  keyRow := []
  peers _ := none
  memory _ := 0
  config _ := []
  snapshots _ _ := none
  commands _ := none
  requests := []
  accepted _ := []
  completions := []
  identityWrites := []

variable (lib : Libraries)

def telemetryMaxPayloadBytes : ℕ := 512*1024

/-- `strconv.ParseUint(text, 10, 64)`. -/
def parseUint (text : Bytes) : Option ℕ :=
  if text≠[] ∧ text.all isDigit=true ∧ decimalValue text<2^64 then some (decimalValue text) else none

def telemetrySigningMessage (envelope : Envelope) : Bytes :=
  let bar:=lit "|"
  let message:=lit (toString envelope.version)++bar++lit envelope.deviceID++bar ++
    decimal envelope.sequence.toNat++bar++envelope.serverKeyID++bar++envelope.ephemeralPublicKey++bar ++
    envelope.nonce++bar++envelope.ciphertext
  if envelope.responsePublicKey=[] then message else message++bar++envelope.responsePublicKey

def decodeSized (text : Bytes) (size : ℕ) : Option Bytes :=
  (Base64.decodeStandard text).filter fun b => b.length=size

/-- The checks of `openTelemetryEnvelope` up to the decryption. -/
def authentic (env : Env) (s : State) (deviceID : PeerID) (raw : Bytes) : Option (Envelope × Bytes) := do
  guard s.ready
  let envelope ← lib.decodeEnvelope raw
  guard (envelope.version=1 ∧ envelope.deviceID=deviceID ∧ envelope.serverKeyID=lib.keyID s.privateKey)
  let ephemeral ← decodeSized envelope.ephemeralPublicKey 32
  let nonce ← decodeSized envelope.nonce 24
  let ciphertext ← (Base64.decodeStandard envelope.ciphertext).filter fun b => 16≤b.length
  let signature ← decodeSized envelope.signature 64
  guard (env.peerFails=false)
  let peer ← s.peers deviceID
  guard (peer.pk.length=32 ∧ lib.verify peer.pk (telemetrySigningMessage envelope) signature=true)
  let plaintext ← lib.openBox s.privateKey ephemeral nonce ciphertext
  guard (plaintext.length≤telemetryMaxPayloadBytes)
  return (envelope,plaintext)

def lastSequence (env : Env) (s : State) (deviceID : PeerID) : ℕ :=
  let last:=s.memory deviceID
  if env.readFails then last
  else match parseUint (s.config deviceID) with
    | some stored => if stored>last then stored else last
    | none => last

def readable (envelope : Envelope) (plaintext : Bytes) : Bool :=
  lib.valid plaintext &&
    (envelope.responsePublicKey=[]||(decodeSized envelope.responsePublicKey 32).isSome)

def openTelemetryEnvelope (env : Env) (s : State) (deviceID : PeerID) (raw : Bytes) : State × Option Bytes :=
  match authentic lib env s deviceID raw with
  | none => (s,none)
  | some (envelope,plaintext) =>
    let sequence:=envelope.sequence.toNat
    if sequence≤lastSequence env s deviceID then (s,none)
    else
      let s:={s with memory := update s.memory deviceID sequence}
      if env.writeFails then (s,none)
      else
        let s:={s with config := update s.config deviceID (decimal sequence)}
        if !readable lib envelope plaintext then (s,none)
        else
          ({s with accepted := update s.accepted deviceID (envelope::s.accepted deviceID)},some plaintext)

/-- What a start of the server makes of the key row: the key in it, or a new one. -/
def initializeTelemetryKeys (s : State) (env : Env) (random : Option Bytes) : State :=
  match if env.readFails then none else decodeSized s.keyRow 32 with
  | some key => {s with privateKey := key,ready := true}
  | none => match random with
    | none => {s with ready := false}
    | some key =>
      if env.writeFails then {s with privateKey := key,ready := false}
      else {s with privateKey := key,ready := true,keyRow := Base64.encodeStandard key}

def telemetryStatus (status : String) : String :=
  if status∈["ok","unsupported","permission_denied","unavailable","error"] then status else "error"

def telemetryJSON (raw : Bytes) (max : ℕ) : Option Bytes :=
  if raw=[] then some (lit "\x7b\x7d")
  else if raw.length>max||!lib.valid raw then none
  else some raw

def resultStatus (status : String) : String :=
  if status∈["queued","ok","rejected","unsupported","permission_denied","error"] then status else "error"

def invalidResult : Bytes := lit "\x7b\"status\":\"error\",\"code\":\"invalid_result\"\x7d"

def resultJobs (deviceID : PeerID) (verified : Bool) (result : CommandResult) : List Job :=
  if result.id≤0 then []
  else
    let snapshot := if result.result=[] then none else lib.decodeResultSnapshot result.result
    (snapshot.map fun snapshot => Job.save deviceID snapshot verified).toList ++
      [.complete deviceID result.id (resultStatus result.status)
        ((telemetryJSON lib result.result (256*1024)).getD invalidResult)]

def saveClientTelemetry (deviceID : PeerID) (raw : Bytes) (verified : Bool) : List Job :=
  if raw=[] ∨ raw.length>telemetryMaxPayloadBytes then []
  else match lib.decodeTelemetry raw with
    | none => []
    | some envelope =>
      if envelope.schema≠0 ∧ envelope.schema≠1 then []
      else
        let metrics : ClientSnapshot :=
          ⟨"metrics",envelope.sampleID,envelope.metricsStatus,envelope.collectedAt,envelope.metrics⟩
        (if envelope.metrics=[] then [] else [Job.save deviceID metrics verified]) ++
          envelope.snapshots.map (fun snapshot => Job.save deviceID snapshot verified) ++
          envelope.results.flatMap (resultJobs lib deviceID verified)

def Heartbeat.identity (body : Heartbeat) : VerifiedDeviceIdentity :=
  ⟨body.productSKU,body.connMode,body.capabilities,body.telemetrySchema⟩

def Heartbeat.silent (body : Heartbeat) : Bool :=
  body.productSKU=""&&body.connMode=""&&body.capabilities=[]

def identitySnapshot (kind : String) (body : Heartbeat) : ClientSnapshot :=
  ⟨kind,"","ok","",lib.marshalIdentity body.identity⟩

/-- Whether `saveTelemetrySnapshot` comes to write, and the payload. -/
def storable (snapshot : ClientSnapshot) : Option Bytes :=
  if isSnapshotKind snapshot.kind then telemetryJSON lib snapshot.data telemetryMaxPayloadBytes else none

def saveTelemetrySnapshot (env : Env) (s : State) (deviceID : PeerID) (snapshot : ClientSnapshot) (verified : Bool) :
    State := match storable lib snapshot with
  | none => s
  | some payload =>
    if env.writeFails then s
    else
      let collectedAt := if snapshot.collectedAt="" then env.clock else snapshot.collectedAt
      let row : Snapshot := ⟨snapshot.sampleID,telemetryStatus snapshot.status,payload,collectedAt⟩
      { s with
        snapshots := update s.snapshots deviceID
          (update (s.snapshots deviceID) snapshot.kind (some row))
        identityWrites := if snapshot.kind=verifiedIdentityKind then (deviceID,verified)::s.identityWrites
          else s.identityWrites}

/-- `UPDATE ... WHERE id = ? AND status = 'pending'`; the history says whose submission it was. -/
def completeTelemetryCommand (env : Env) (s : State) (deviceID : PeerID) (id : ℤ) (status : String) (result : Bytes) :
    State := match s.commands id with
  | none => s
  | some row =>
    if env.writeFails||row.status≠"pending" then s
    else {s with
      commands := update s.commands id (some {row with status := status,result := result})
      completions := (id,deviceID)::s.completions}

def Heartbeat.device (body : Heartbeat) : Option PeerID :=
  let deviceID := if body.id="" then body.uuid else body.id
  if deviceID=""||!isValidPeerID deviceID then none else some deviceID

def heartbeatJobs (body : Option Heartbeat) (sealedFor : Option PeerID) : List Job :=
  match body with
  | none => []
  | some body => match body.device with
    | none => []
    | some deviceID => [.checkPeer deviceID body (sealedFor=some deviceID)]

def run (env : Env) (s : State) : Job → State × List Job
  | .checkPeer deviceID body verified =>
    if env.peerFails then (s,[])
    else match s.peers deviceID with
      | none => (s,[])
      | some peer =>
        if peer.banned then (s,[])
        else if body.betterDeskEnvelope≠[] then (s,[.openBody deviceID body.betterDeskEnvelope])
        else (s,[.rememberUnverified deviceID body,.openTelemetry deviceID body verified])
  | .openHttp deviceID raw => match openTelemetryEnvelope lib env s deviceID raw with
    | (s,none) => (s,[])
    | (s,some payload) =>
      -- without a key for the response the request goes no further
      if (lib.decodeEnvelope raw).any fun e => e.responsePublicKey≠[] then
        (s,heartbeatJobs (lib.decodeHeartbeat payload) (some deviceID))
      else (s,[])
  | .openBody deviceID raw => match openTelemetryEnvelope lib env s deviceID raw with
    | (s,none) => (s,[])
    | (s,some payload) => match lib.decodeHeartbeat payload with
      | none => (s,[])
      | some inner =>
        if inner.id≠"" ∧ inner.id≠deviceID then (s,[])
        else
          let remembered := if inner.silent then []
            else [Job.save deviceID (identitySnapshot lib "identity" inner) true,
              .save deviceID (identitySnapshot lib verifiedIdentityKind inner) true]
          (s,remembered++[.openTelemetry deviceID inner true])
  | .rememberUnverified deviceID body =>
    if env.readFails=false ∧ (s.snapshots deviceID verifiedIdentityKind).isSome=true then (s,[])
    else if body.silent then (s,[])
    else (s,[.save deviceID (identitySnapshot lib "identity" body) false])
  | .openTelemetry deviceID body verified =>
    if body.telemetryEnvelope=[] then (s,saveClientTelemetry lib deviceID body.telemetry verified)
    else match openTelemetryEnvelope lib env s deviceID body.telemetryEnvelope with
      | (s,none) => (s,[])
      | (s,some payload) => (s,saveClientTelemetry lib deviceID payload true)
  | .save deviceID snapshot verified => (saveTelemetrySnapshot lib env s deviceID snapshot verified,[])
  | .complete deviceID id status result => (completeTelemetryCommand env s deviceID id status result,[])

/-- `heartbeat` and `secure` are requests that come in. -/
inductive Event where
  | heartbeat (body : Option Heartbeat)
  | secure (deviceID : PeerID) (raw : Bytes)
  | work (request : ℕ) (env : Env)
  | queue (id : ℤ) (deviceID : PeerID) (command : String)
  | setPeer (deviceID : PeerID) (peer : Option Peer)
  | restart (env : Env) (random : Option Bytes)

def step (s : State) : Event → Option State
  | .heartbeat body => some {s with requests := s.requests++[heartbeatJobs body none]}
  | .secure deviceID raw => some {s with requests := s.requests++[[.openHttp deviceID raw]]}
  | .work request env => match s.requests[request]? with
    | some (job::rest) =>
      let (t,jobs):=run lib env s job
      some {t with requests := s.requests.set request (jobs++rest)}
    | _ => none
  | .queue id deviceID command =>
    if (s.commands id).isSome then none
    else some {s with commands := update s.commands id (some ⟨deviceID,command,"pending",[]⟩)}
  | .setPeer deviceID peer => some {s with peers := update s.peers deviceID peer}
  | .restart env random =>
    some (initializeTelemetryKeys {s with memory := fun _ => 0,requests := []} env random)

structure Holds (s : State) : Prop where
  increasing : ∀ d, (s.accepted d).Pairwise fun later earlier => earlier.sequence<later.sequence
  own : ∀ id d, (id,d)∈s.completions → ∃ row, s.commands id=some row ∧ row.deviceID=d
  verified : ∀ d verified, (d,verified)∈s.identityWrites → verified=true

def lastAccepted (s : State) (deviceID : PeerID) : ℕ :=
  match s.accepted deviceID with
  | [] => 0
  | envelope::_ => envelope.sequence.toNat

/-- The server knows the last accepted sequence when an envelope without other faults comes, or the
sequence of the envelope is on the same side of both. -/
def SequenceKnown (env : Env) (s : State) (deviceID : PeerID) (raw : Bytes) : Prop :=
  ∀ envelope plaintext, authentic lib env s deviceID raw=some (envelope,plaintext) →
    env.writeFails=false → readable lib envelope plaintext=true →
    lastAccepted s deviceID≤lastSequence env s deviceID ∨ lastAccepted s deviceID<envelope.sequence.toNat ∨
      envelope.sequence.toNat≤lastSequence env s deviceID

def JobOk (env : Env) (s : State) : Job → Prop
  | .openHttp deviceID raw => SequenceKnown lib env s deviceID raw
  | .openBody deviceID raw => SequenceKnown lib env s deviceID raw
  | .openTelemetry deviceID body _ => body.telemetryEnvelope≠[] → SequenceKnown lib env s deviceID body.telemetryEnvelope
  | .save _ snapshot verified => snapshot.kind=verifiedIdentityKind → verified=false →
      storable lib snapshot=none ∨ env.writeFails=true
  | .complete deviceID id _ _ => ∀ row, s.commands id=some row → row.status="pending" → env.writeFails=false →
      row.deviceID=deviceID
  | _ => True

def StepOk (s : State) : Event → Prop
  | .work request env => ∀ job rest, s.requests[request]?=some (job::rest) → JobOk lib env s job
  | _ => True

variable {lib} {env : Env} {s t : State}

def Increasing (s : State) : Prop :=
  ∀ d, (s.accepted d).Pairwise fun later earlier => earlier.sequence<later.sequence

theorem le_lastAccepted {d : PeerID} (h : Increasing s) : ∀ e∈s.accepted d, e.sequence.toNat≤lastAccepted s d := by
  intro e he
  unfold lastAccepted
  cases haccepted : s.accepted d with
  | nil =>
    rw [haccepted] at he
    cases he
  | cons last earlier =>
    have hd:=h d
    rw [haccepted] at hd he
    obtain ⟨hlast,-⟩:=pairwise_cons.mp hd
    cases mem_cons.mp he with
    | inl heq => rw [heq]
    | inr hmem => exact le_of_lt (UInt64.lt_iff_toNat_lt.mp (hlast e hmem))

theorem increasing_cons_iff {d : PeerID} {envelope : Envelope} (h : Increasing s) (hpos : 0<envelope.sequence.toNat) :
    Increasing {s with accepted := update s.accepted d (envelope::s.accepted d)} ↔
      lastAccepted s d<envelope.sequence.toNat := by
  constructor
  · intro hnew
    have hd:=hnew d
    simp only [update_self] at hd
    obtain ⟨hlast,-⟩:=pairwise_cons.mp hd
    unfold lastAccepted
    cases haccepted : s.accepted d with
    | nil => exact hpos
    | cons last earlier =>
      rw [haccepted] at hlast
      exact UInt64.lt_iff_toNat_lt.mp (hlast last mem_cons_self)
  · intro hlt other
    by_cases hother : other=d
    · subst hother
      simp only [update_self]
      refine pairwise_cons.mpr ⟨fun e he => ?_,h other⟩
      have hle:=le_lastAccepted h e he
      exact UInt64.lt_iff_toNat_lt.mpr (by omega)
    · simp only [update_of_ne hother]
      exact h other

theorem openTelemetryEnvelope_frame (lib : Libraries) (env : Env) (s : State) (d : PeerID) (raw : Bytes) :
    (openTelemetryEnvelope lib env s d raw).1.commands=s.commands ∧
      (openTelemetryEnvelope lib env s d raw).1.completions=s.completions ∧
      (openTelemetryEnvelope lib env s d raw).1.identityWrites=s.identityWrites := by
  unfold openTelemetryEnvelope
  split
  · exact ⟨rfl,rfl,rfl⟩
  · dsimp only
    split
    · exact ⟨rfl,rfl,rfl⟩
    · split
      · exact ⟨rfl,rfl,rfl⟩
      · split <;> exact ⟨rfl,rfl,rfl⟩

theorem open_increasing_iff (h : Increasing s) (d : PeerID) (raw : Bytes) :
    Increasing (openTelemetryEnvelope lib env s d raw).1 ↔ SequenceKnown lib env s d raw := by
  unfold openTelemetryEnvelope SequenceKnown
  cases hauthentic : authentic lib env s d raw with
  | none => exact iff_of_true h fun _ _ hsome => nomatch hsome
  | some opened =>
    obtain ⟨envelope,plaintext⟩:=opened
    dsimp only
    split
    · rename_i hreplay
      refine iff_of_true h fun e p hsame _ _ => ?_
      cases hsame
      exact .inr (.inr hreplay)
    · rename_i hnew
      split
      · rename_i hfails
        refine iff_of_true h fun _ _ _ hwrites => ?_
        rw [hfails] at hwrites
        cases hwrites
      · rename_i hwrites
        split
        · rename_i hunreadable
          refine iff_of_true h fun e p hsame _ hreadable => ?_
          cases hsame
          rw [hreadable] at hunreadable
          cases hunreadable
        · rename_i hreadable
          have hcons := @increasing_cons_iff _ d envelope h (by omega)
          refine Iff.trans hcons ⟨fun hlt e p hsame _ _ => ?_,fun hknown => ?_⟩
          · cases hsame
            exact .inr (.inl hlt)
          · rcases hknown envelope plaintext rfl (by simpa using hwrites) (by simpa using hreadable) with h | h | h
            · omega
            · exact h
            · omega

theorem holds_iff_increasing (h : Holds s) (hcommands : t.commands=s.commands) (hcompletions : t.completions=s.completions)
    (hwrites : t.identityWrites=s.identityWrites) : Holds t ↔ Increasing t := by
  constructor
  · intro ht
    exact ht.increasing
  · intro ht
    refine ⟨ht,?_,?_⟩
    · rw [hcommands,hcompletions]
      exact h.own
    · rw [hwrites]
      exact h.verified

theorem open_holds_iff (h : Holds s) (d : PeerID) (raw : Bytes) :
    Holds (openTelemetryEnvelope lib env s d raw).1 ↔ SequenceKnown lib env s d raw := by
  obtain ⟨hcommands,hcompletions,hwrites⟩:=openTelemetryEnvelope_frame lib env s d raw
  rw [holds_iff_increasing h hcommands hcompletions hwrites]
  exact open_increasing_iff h.increasing d raw

theorem save_holds_iff (h : Holds s) (d : PeerID) (snapshot : ClientSnapshot) (verified : Bool) :
    Holds (saveTelemetrySnapshot lib env s d snapshot verified) ↔ JobOk lib env s (.save d snapshot verified) := by
  unfold saveTelemetrySnapshot JobOk
  cases hstorable : storable lib snapshot with
  | none => exact iff_of_true h fun _ _ => .inl hstorable
  | some payload =>
    dsimp only
    split
    · rename_i hfails
      exact iff_of_true h fun _ _ => .inr hfails
    · rename_i hwrites
      constructor
      · intro hnew hkind hunverified
        have hverified:=hnew.verified d verified (by simp [hkind])
        rw [hunverified] at hverified
        cases hverified
      · intro hok
        refine ⟨h.increasing,h.own,fun d' verified' hmem => ?_⟩
        dsimp only at hmem
        split at hmem
        · rename_i hkind
          cases mem_cons.mp hmem with
          | inl heq =>
            cases heq
            cases verified with
            | true => rfl
            | false =>
              cases hok hkind rfl with
              | inl hnone =>
                rw [hstorable] at hnone
                cases hnone
              | inr hfails => exact absurd hfails hwrites
          | inr hold => exact h.verified d' verified' hold
        · exact h.verified d' verified' hmem

theorem complete_holds_iff (h : Holds s) (d : PeerID) (id : ℤ) (status : String) (result : Bytes) :
    Holds (completeTelemetryCommand env s d id status result) ↔ JobOk lib env s (.complete d id status result) := by
  unfold completeTelemetryCommand JobOk
  cases hrow : s.commands id with
  | none =>
    refine iff_of_true h fun row hsome => ?_
    rw [hrow] at hsome
    cases hsome
  | some row =>
    dsimp only
    split
    · rename_i hkept
      refine iff_of_true h fun row' hsame hpending hwrites => ?_
      rw [hrow,some.injEq] at hsame
      subst hsame
      simp [hpending,hwrites] at hkept
    · rename_i hdone
      simp only [Bool.or_eq_true,decide_eq_true_eq,not_or,Bool.not_eq_true,not_not] at hdone
      constructor
      · intro hnew row' hsame _ _
        rw [hrow,some.injEq] at hsame
        subst hsame
        obtain ⟨row',hrow',hdevice⟩:=hnew.own id d mem_cons_self
        simp only [update_self,some.injEq] at hrow'
        rw [← hrow'] at hdevice
        exact hdevice
      · intro hok
        have hdevice:=hok row hrow hdone.2 hdone.1
        refine ⟨h.increasing,fun id' d' hmem => ?_,h.verified⟩
        have hmem' : (id',d')=(id,d) ∨ (id',d')∈s.completions := mem_cons.mp hmem
        by_cases hid : id'=id
        · subst hid
          refine ⟨{row with status := status,result := result},update_self _ _ _,?_⟩
          cases hmem' with
          | inl heq =>
            cases heq
            exact hdevice
          | inr hold =>
            obtain ⟨row',hrow',hdevice'⟩:=h.own id' d' hold
            rw [hrow,some.injEq] at hrow'
            rw [← hrow'] at hdevice'
            exact hdevice'
        · obtain ⟨row',hrow',hdevice'⟩:=h.own id' d' (hmem'.resolve_left fun heq => hid (congrArg Prod.fst heq))
          exact ⟨row',(update_of_ne hid _ _).trans hrow',hdevice'⟩

theorem run_holds_iff (h : Holds s) (job : Job) : Holds (run lib env s job).1 ↔ JobOk lib env s job := by
  cases job with
  | checkPeer d body verified =>
    refine iff_of_true ?_ trivial
    unfold run
    dsimp only
    split
    · exact h
    · split
      · exact h
      · split
        · exact h
        · split <;> exact h
  | openHttp d raw =>
    have hopen := @open_holds_iff lib env _ h d raw
    simp only [run]
    generalize openTelemetryEnvelope lib env s d raw=opened at hopen ⊢
    obtain ⟨t,payload⟩:=opened
    cases payload with
    | none => exact hopen
    | some payload =>
      dsimp only
      split <;> exact hopen
  | openBody d raw =>
    have hopen := @open_holds_iff lib env _ h d raw
    simp only [run]
    generalize openTelemetryEnvelope lib env s d raw=opened at hopen ⊢
    obtain ⟨t,payload⟩:=opened
    cases payload with
    | none => exact hopen
    | some payload =>
      dsimp only
      split
      · exact hopen
      · split <;> exact hopen
  | rememberUnverified d body =>
    refine iff_of_true ?_ trivial
    simp only [run]
    split
    · exact h
    · split <;> exact h
  | openTelemetry d body verified =>
    have hopen := @open_holds_iff lib env _ h d body.telemetryEnvelope
    simp only [run]
    split
    · rename_i habsent
      exact iff_of_true h fun hpresent => absurd habsent hpresent
    · rename_i hpresent
      have hjob : JobOk lib env s (.openTelemetry d body verified) ↔ SequenceKnown lib env s d body.telemetryEnvelope :=
        ⟨fun hok => hok hpresent,fun hknown _ => hknown⟩
      rw [hjob]
      generalize openTelemetryEnvelope lib env s d body.telemetryEnvelope=opened at hopen ⊢
      obtain ⟨t,payload⟩:=opened
      cases payload <;> exact hopen
  | save d snapshot verified => exact save_holds_iff h d snapshot verified
  | complete d id status result => exact complete_holds_iff h d id status result

theorem initializeTelemetryKeys_frame (s : State) (env : Env) (random : Option Bytes) :
    (initializeTelemetryKeys s env random).accepted=s.accepted ∧ (initializeTelemetryKeys s env random).config=s.config ∧
      (initializeTelemetryKeys s env random).commands=s.commands ∧
      (initializeTelemetryKeys s env random).completions=s.completions ∧
      (initializeTelemetryKeys s env random).identityWrites=s.identityWrites := by
  unfold initializeTelemetryKeys
  split
  · exact ⟨rfl,rfl,rfl,rfl,rfl⟩
  · split
    · exact ⟨rfl,rfl,rfl,rfl,rfl⟩
    · split <;> exact ⟨rfl,rfl,rfl,rfl,rfl⟩

theorem holds_step_iff (h : Holds s) (e : Event) : (∀ t, step lib s e=some t → Holds t) ↔ StepOk lib s e := by
  have hkeeps {t : State} (hstep : step lib s e=some t) (ht : Holds t) : ∀ t', step lib s e=some t' → Holds t' := by
    intro t' ht'
    rw [hstep,some.injEq] at ht'
    exact ht' ▸ ht
  cases e with
  | heartbeat | secure | setPeer => exact iff_of_true (hkeeps rfl ⟨h.increasing,h.own,h.verified⟩) trivial
  | work request env =>
    unfold StepOk
    simp only [step]
    cases hrequest : s.requests[request]? with
    | none => exact iff_of_true (fun _ hsome => nomatch hsome) fun _ _ hsome => nomatch hsome
    | some jobs =>
      cases jobs with
      | nil => exact iff_of_true (fun _ hsome => nomatch hsome) fun _ _ hsome => nomatch hsome
      | cons job rest =>
        have hrun := @run_holds_iff lib env _ h job
        dsimp only
        constructor
        · intro hall job' rest' hsame
          cases hsame
          have hnew:=hall _ rfl
          exact hrun.mp ⟨hnew.increasing,hnew.own,hnew.verified⟩
        · intro hok t ht
          cases ht
          have hnew:=hrun.mpr (hok job rest rfl)
          exact ⟨hnew.increasing,hnew.own,hnew.verified⟩
  | queue id d command =>
    refine iff_of_true (fun t ht => ?_) trivial
    simp only [step] at ht
    split at ht
    · cases ht
    · rename_i hnew
      cases ht
      refine ⟨h.increasing,fun id' d' hmem => ?_,h.verified⟩
      obtain ⟨row,hrow,hdevice⟩:=h.own id' d' hmem
      have hne : id'≠id := fun heq => by
        rw [heq] at hrow
        rw [hrow] at hnew
        exact hnew rfl
      exact ⟨row,(update_of_ne hne _ _).trans hrow,hdevice⟩
  | restart env random =>
    refine iff_of_true (hkeeps rfl ?_) trivial
    obtain ⟨haccepted,-,hcommands,hcompletions,hwrites⟩ :=
      initializeTelemetryKeys_frame {s with memory := fun _ => 0,requests := []} env random
    refine ⟨?_,?_,?_⟩
    · rw [haccepted]
      exact h.increasing
    · rw [hcommands,hcompletions]
      exact h.own
    · rw [hwrites]
      exact h.verified

theorem holds_start : Holds start :=
  ⟨fun _ => List.Pairwise.nil,fun _ _ hmem => (not_mem_nil hmem).elim,fun _ _ hmem => (not_mem_nil hmem).elim⟩

/-- Sequences increase, commands are completed by their own device, and identities come from verified
envelopes, exactly when no step meets one of the three conditions under which the server cannot tell. -/
theorem telemetry_protected_iff (lib : Libraries) (es : List Event) :
    (∀ pre, pre <+: es → ∀ s, exec (step lib) start pre=some s → Holds s) ↔
      Along (step lib) (StepOk lib) start es := by
  rw [along_reached_iff holds_start]
  apply along_iff_of_keep Holds
  · intro s e t _ hok ht
    exact hok t ht
  · intro s e hs
    exact holds_step_iff hs e
  · exact holds_start

def Reads : Event → Prop
  | .work _ env => env.readFails=false
  | _ => True

def Stored (s : State) : Prop :=
  ∀ d, s.accepted d≠[] → ∃ stored, parseUint (s.config d)=some stored ∧ lastAccepted s d ≤ stored

theorem parseUint_decimal (n : UInt64) : parseUint (decimal n.toNat)=some n.toNat := by
  have hdigits : (decimal n.toNat).all isDigit=true := all_eq_true.mpr (decimal_digits n.toNat)
  unfold parseUint
  rw [decimalValue_decimal,if_pos ⟨decimal_ne_nil n.toNat,hdigits,n.toNat_lt⟩]

theorem lastAccepted_le_lastSequence {d : PeerID} (h : Stored s) (hread : env.readFails=false) :
    lastAccepted s d≤lastSequence env s d := by
  by_cases hnone : s.accepted d=[]
  · have hzero : lastAccepted s d=0 := by simp [lastAccepted,hnone]
    omega
  · obtain ⟨stored,hparse,hle⟩:=h d hnone
    unfold lastSequence
    rw [hread,hparse]
    dsimp only
    split
    · simp_all
    · split <;> omega

theorem open_stored (h : Stored s) (hread : env.readFails=false) (d : PeerID) (raw : Bytes) :
    Stored (openTelemetryEnvelope lib env s d raw).1 := by
  have hlast:=lastAccepted_le_lastSequence (d := d) h hread
  unfold openTelemetryEnvelope
  split
  · exact h
  · rename_i envelope plaintext _
    dsimp only
    split
    · exact h
    · rename_i hnew
      split
      · exact h
      · -- the row is written with a sequence above the last accepted one
        have hwritten (accepted : PeerID → List Envelope) (hother : ∀ other, other≠d → accepted other=s.accepted other)
            (hd : accepted d=s.accepted d ∨ accepted d=envelope::s.accepted d) :
            Stored {s with
              memory := update s.memory d envelope.sequence.toNat
              config := update s.config d (decimal envelope.sequence.toNat)
              accepted := accepted} := by
          intro other hsome
          by_cases hdevice : other=d
          · subst hdevice
            refine ⟨envelope.sequence.toNat,by simp [parseUint_decimal],?_⟩
            unfold lastAccepted at hlast ⊢
            dsimp only at hsome ⊢
            cases hd with
            | inl hsame =>
              rw [hsame]
              omega
            | inr hcons =>
              rw [hcons]
          · dsimp only at hsome
            rw [hother other hdevice] at hsome
            obtain ⟨stored,hparse,hle⟩:=h other hsome
            refine ⟨stored,by simpa [update_of_ne hdevice] using hparse,?_⟩
            unfold lastAccepted at hle ⊢
            dsimp only
            rwa [hother other hdevice]
        split
        · exact hwritten s.accepted (fun _ _ => rfl) (.inl rfl)
        · exact hwritten _ (fun other hne => update_of_ne hne _ _) (.inr (update_self _ _ _))

theorem stored_congr (h : Stored s) (haccepted : t.accepted=s.accepted) (hconfig : t.config=s.config) : Stored t := by
  intro d hsome
  rw [haccepted] at hsome
  obtain ⟨stored,hparse,hle⟩:=h d hsome
  refine ⟨stored,by rw [hconfig]; exact hparse,?_⟩
  unfold lastAccepted at hle ⊢
  rwa [haccepted]

theorem save_frame (env : Env) (s : State) (d : PeerID) (snapshot : ClientSnapshot) (verified : Bool) :
    (saveTelemetrySnapshot lib env s d snapshot verified).accepted=s.accepted ∧
      (saveTelemetrySnapshot lib env s d snapshot verified).config=s.config := by
  unfold saveTelemetrySnapshot
  split
  · exact ⟨rfl,rfl⟩
  · split <;> exact ⟨rfl,rfl⟩

theorem complete_frame (env : Env) (s : State) (d : PeerID) (id : ℤ) (status : String) (result : Bytes) :
    (completeTelemetryCommand env s d id status result).accepted=s.accepted ∧
      (completeTelemetryCommand env s d id status result).config=s.config := by
  unfold completeTelemetryCommand
  split
  · exact ⟨rfl,rfl⟩
  · split <;> exact ⟨rfl,rfl⟩

theorem run_sequences (lib : Libraries) (env : Env) (s : State) (job : Job) :
    ((run lib env s job).1.accepted=s.accepted ∧ (run lib env s job).1.config=s.config) ∨
      ∃ d raw, (run lib env s job).1=(openTelemetryEnvelope lib env s d raw).1 := by
  cases job with
  | checkPeer d body verified =>
    refine .inl ?_
    simp only [run]
    split
    · exact ⟨rfl,rfl⟩
    · split
      · exact ⟨rfl,rfl⟩
      · split
        · exact ⟨rfl,rfl⟩
        · split <;> exact ⟨rfl,rfl⟩
  | openHttp d raw =>
    refine .inr ⟨d,raw,?_⟩
    simp only [run]
    split
    · simp_all
    · rename_i hopened
      rw [hopened]
      split <;> rfl
  | openBody d raw =>
    refine .inr ⟨d,raw,?_⟩
    simp only [run]
    split
    · simp_all
    · rename_i hopened
      rw [hopened]
      split
      · rfl
      · split <;> rfl
  | rememberUnverified d body =>
    refine .inl ?_
    simp only [run]
    split
    · exact ⟨rfl,rfl⟩
    · split <;> exact ⟨rfl,rfl⟩
  | openTelemetry d body verified =>
    simp only [run]
    split
    · exact .inl ⟨rfl,rfl⟩
    · refine .inr ⟨d,body.telemetryEnvelope,?_⟩
      split <;> simp_all
  | save d snapshot verified => exact .inl (save_frame env s d snapshot verified)
  | complete d id status result => exact .inl (complete_frame env s d id status result)

theorem increasing_congr (h : Increasing s) (haccepted : t.accepted=s.accepted) : Increasing t := by
  intro d
  rw [haccepted]
  exact h d

theorem order_step {e : Event} (h : Increasing s ∧ Stored s) (hreads : Reads e) (ht : step lib s e=some t) :
    Increasing t ∧ Stored t := by
  have hframe (haccepted : t.accepted=s.accepted) (hconfig : t.config=s.config) : Increasing t ∧ Stored t :=
    ⟨increasing_congr h.1 haccepted,stored_congr h.2 haccepted hconfig⟩
  cases e with
  | heartbeat | secure | setPeer =>
    cases ht
    exact hframe rfl rfl
  | work request env =>
    have hread : env.readFails=false := hreads
    simp only [step] at ht
    split at ht
    · rename_i job rest _
      cases ht
      rcases run_sequences lib env s job with ⟨haccepted,hconfig⟩ | ⟨d,raw,hopen⟩
      · exact hframe haccepted hconfig
      · have hincreasing:=(@open_increasing_iff lib env _ h.1 d raw).mpr fun _ _ _ _ _ =>
          .inl (lastAccepted_le_lastSequence h.2 hread)
        have hstored := @open_stored lib _ _ h.2 hread d raw
        rw [← hopen] at hincreasing hstored
        exact ⟨increasing_congr hincreasing rfl,stored_congr hstored rfl rfl⟩
    · cases ht
  | queue id d command =>
    simp only [step] at ht
    split at ht
    · cases ht
    · cases ht
      exact hframe rfl rfl
  | restart env random =>
    cases ht
    obtain ⟨haccepted,hconfig,-⟩:=initializeTelemetryKeys_frame {s with memory := fun _ => 0,requests := []} env random
    exact hframe haccepted hconfig

theorem reads_keep_order {es : List Event} (hreads : ∀ e∈es,Reads e) (h : exec (step lib) start es=some s) :
    Increasing s :=
  (@exec_invariant _ _ _ (fun _ e => Reads e) (fun s => Increasing s ∧ Stored s) (fun _ _ _ hs hok ht => order_step hs hok ht)
    _ _ _ ⟨holds_start.increasing,fun _ hsome => absurd rfl hsome⟩ (along_of_forall (fun e he _ => hreads e he) start) h).1

def zeros (n : ℕ) : Bytes := List.replicate n 0

/-- An envelope of device DEVICE1, with sequence 7 and a signature that is taken to be good. -/
def sealedBeat : Envelope where
  version := 1
  deviceID := "DEVICE1"
  sequence := 7
  serverKeyID := []
  ephemeralPublicKey := Base64.encodeStandard (zeros 32)
  responsePublicKey := []
  nonce := Base64.encodeStandard (zeros 24)
  ciphertext := Base64.encodeStandard (zeros 18)
  signature := Base64.encodeStandard (zeros 64)

def plainTelemetry : ClientTelemetry where
  schema := 1
  sampleID := ""
  collectedAt := ""
  metrics := []
  metricsStatus := ""
  snapshots := [⟨verifiedIdentityKind,"","ok","",[]⟩]
  results := [⟨5,"ok",[]⟩]

def answers : Libraries where
  decodeEnvelope raw := if raw=lit "envelope" then some sealedBeat else none
  decodeHeartbeat _ := none
  decodeTelemetry raw := if raw=lit "telemetry" then some plainTelemetry else none
  decodeResultSnapshot _ := none
  valid _ := true
  marshalIdentity _ := []
  verify _ _ _ := true
  openBox _ _ _ _ := some (lit "\x7b\x7d")
  keyID _ := []

def works : Env := ⟨false,false,false,"2026-01-01T00:00:00Z"⟩

def readFailing : Env := {works with readFails := true}

def enrolled : List Event := [.restart works (some (zeros 32)),.setPeer "DEVICE1" (some ⟨zeros 32,false⟩)]

/-- The same envelope before and after a restart, and the second time the sequence row cannot be read. -/
def replayed : List Event := enrolled ++
  [.secure "DEVICE1" (lit "envelope"),.work 0 works,.restart works none,.secure "DEVICE1" (lit "envelope"),
    .work 0 readFailing]

def plain : List Event := enrolled ++
  [.queue 5 "DEVICE2" "collect.hardware",
    .heartbeat (some ⟨"DEVICE1","",0,"","",[],lit "telemetry",[],[]⟩),
    .work 0 works,.work 0 works,.work 0 works,.work 0 works,.work 0 works]

/-- The envelope comes again after a restart, and is refused. -/
def refused : List Event := enrolled++
  [.secure "DEVICE1" (lit "envelope"),.work 0 works,.restart works none,.secure "DEVICE1" (lit "envelope"),.work 0 works]

theorem order_kept : ∃ s, exec (step answers) start refused=some s ∧ s.accepted "DEVICE1"=[sealedBeat] ∧ Increasing s := by
  have hrun : (exec (step answers) start refused).map (fun s => s.accepted "DEVICE1")=some [sealedBeat] := by decide +kernel
  obtain ⟨s,hs,haccepted⟩:=map_eq_some_iff.mp hrun
  exact ⟨s,hs,haccepted,reads_keep_order (by simp [refused,enrolled,Reads,works]) hs⟩

theorem telemetry_is_not_protected :
    ¬ (∀ (lib : Libraries) (es : List Event) (s : State), exec (step lib) start es=some s → Holds s) ∧
    (exec (step answers) start replayed).any (fun s => decide (s.accepted "DEVICE1" = [sealedBeat,sealedBeat]))=true ∧
    (exec (step answers) start plain).any (fun s => decide ((5,"DEVICE1")∈s.completions) &&
      (s.commands 5).any fun row => decide (row.deviceID="DEVICE2"))=true ∧
    (exec (step answers) start plain).any (fun s => decide (("DEVICE1",false)∈s.identityWrites))=true := by
  have hreplayed : (exec (step answers) start replayed).any
      (fun s => decide (s.accepted "DEVICE1" = [sealedBeat,sealedBeat]))=true := by decide +kernel
  refine ⟨fun h => ?_,hreplayed,by decide,by decide⟩
  obtain ⟨s,hs,haccepted⟩:=(any_eq_true _ _).mp hreplayed
  have hincreasing:=(h answers replayed s hs).increasing "DEVICE1"
  rw [of_decide_eq_true haccepted] at hincreasing
  revert hincreasing
  decide

end BetterDesk.Device.Telemetry
