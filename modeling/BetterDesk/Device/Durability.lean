import BetterDesk.Device.Classification

/-! # What messages leave of the classification -/

namespace BetterDesk.Device
open Db Text Signal Exec Option Function

/-- The identities in `telemetry` that are saved as the verified one. -/
def savedIdentities (env : Env) (i : ℕ) (telemetry : Telemetry) : List VerifiedDeviceIdentity :=
  (telemetry.zipIdx i).filterMap fun x =>
    if env.fails (.saveTelemetrySnapshot x.2)||x.1.kind≠verifiedIdentityKind then none else some x.1.data

/-- The verified identities a message names, its own before its telemetry's. -/
def Message.identities (env : Env) (m : Message) : List VerifiedDeviceIdentity :=
  match m with
  | .sysinfo _ | .heartbeat _ .rejected => []
  | .heartbeat body .absent => savedIdentities env 0 body.readTelemetry
  | .heartbeat _ (.opened inner) =>
    if inner.id≠"" ∧ inner.id≠m.deviceID then []
    else (if inner.silent||env.fails .saveVerifiedIdentity then [] else [inner.identity]) ++
      savedIdentities env 0 inner.readTelemetry

/-- The last of them is on record afterwards. -/
def newIdentity (env : Env) (s : Devices) (m : Message) : VerifiedDeviceIdentity :=
  (m.identities env).getLastD (s.identity m.deviceID)

/-- A plain heartbeat is heard as long as no verified identity is found, a
sealed one under its own ID. -/
def heard (env : Env) (s : Devices) (m : Message) : Bool :=
  match m with
  | .sysinfo _ => true
  | .heartbeat _ .absent => env.fails .rememberedSnapshot||(s.snapshots m.deviceID verifiedIdentityKind).isNone
  | .heartbeat _ .rejected => false
  | .heartbeat _ (.opened inner) => inner.id=""||inner.id=m.deviceID

/-- Its `product_sku` and `conn_mode`. -/
def Message.product : Message → String × String
  | .sysinfo body => (body.productSKU,body.connMode)
  | .heartbeat _ (.opened inner) => (inner.productSKU,inner.connMode)
  | .heartbeat body _ => (body.productSKU,body.connMode)

def namesSupport (productSKU connMode : String) : Bool :=
  productSKU=supportClass||productSKU≠desktopClass&&connMode=incomingOnly

def namesOther (productSKU connMode : String) : Bool :=
  productSKU=desktopClass||productSKU≠supportClass&&productSKU≠""&&connMode≠incomingOnly

/-- A stored desktop takes no plain word for a support agent. -/
def toSupport (env : Env) (s : Devices) (m : Message) : Bool :=
  heard env s m&& !env.fails .updatePeerFields&&namesSupport m.product.1 m.product.2 &&
    (m.authenticated||env.fails .verifiedIdentity||(s.identity m.deviceID).productSKU≠desktopClass)

def toOther (env : Env) (s : Devices) (m : Message) : Bool :=
  heard env s m&& !env.fails .updatePeerFields&&namesOther m.product.1 m.product.2

/-- The signal server and the grants agree on the tags alone. -/
def tagsAgree (row : Row) : Bool := exactTag row||variantTag row==joinedSpelling row

def tagged (row : Row) : Bool := exactTag row||variantTag row

/-- What a message may say of an accepted device: to be a support agent, when
its tags spell one out; to be anything else, when the tags and the identity on
record then agree and no plain word takes a mark away; otherwise the identity
marks the device as before. -/
def inOrder (s : Devices) (a : Action) : Bool :=
  let old:=s.identity a.message.deviceID
  let new:=newIdentity a.env s a.message
  (accepted a.env s a.message).all fun row =>
    if toSupport a.env s a.message then tagsAgree row&&tagged row
    else if toOther a.env s a.message then tagsAgree row&&new.marks==tagged row &&
      (a.message.authenticated||!marks old row||new.marks)
    else marks new row==marks old row

def newClass (env : Env) (s : Devices) (m : Message) : Option String :=
  if toSupport env s m then some supportClass else if toOther env s m then some "betterdesk" else none

variable {env : Env} {s t v : Devices} {id : PeerID}

theorem setSnapshot_identity (kind : String) (data : VerifiedDeviceIdentity) :
    (s.setSnapshot id kind data).identity id = if kind=verifiedIdentityKind then data else s.identity id := by
  simp only [Devices.identity,Devices.setSnapshot,update_self]
  split
  · rename_i h
    rw [h,update_self,getD_some]
  · rename_i h
    rw [update_of_ne (Ne.symm h)]

structure Touches (id : PeerID) (s t : Devices) : Prop where
  peers : ∀ other, other≠id → t.peers other=s.peers other
  identity : ∀ other, other≠id → t.identity other=s.identity other

theorem Touches.refl (id : PeerID) (s : Devices) : Touches id s s := ⟨fun _ _ => rfl,fun _ _ => rfl⟩

theorem Touches.trans (h : Touches id s t) (h' : Touches id t v) : Touches id s v :=
  ⟨fun o ho => (h'.peers o ho).trans (h.peers o ho),fun o ho => (h'.identity o ho).trans (h.identity o ho)⟩

theorem touches_setSnapshot (kind : String) (data : VerifiedDeviceIdentity) :
    Touches id s (s.setSnapshot id kind data) := by
  refine ⟨fun _ _ => rfl,fun other ho => ?_⟩
  simp only [Devices.identity,Devices.setSnapshot,update_of_ne ho]

theorem touches_setDeviceType (deviceType : String) : Touches id s (s.setDeviceType id deviceType) :=
  ⟨fun _ ho => update_of_ne ho ..,fun _ _ => rfl⟩

theorem touches_saveUnless (failed : Bool) (kind : String) (data : VerifiedDeviceIdentity) :
    Touches id s (saveUnless failed s id kind data) := by
  unfold saveUnless
  split
  · exact .refl ..
  · exact touches_setSnapshot ..

theorem touches_classify (env : Env) (s : Devices) (id : PeerID) (productSKU connMode : String)
    (trusted : Bool) : Touches id s (classifyPeerFromClient env s id productSKU connMode trusted) := by
  unfold classifyPeerFromClient
  split
  · exact .refl ..
  · exact touches_setDeviceType ..

theorem touches_telemetry (i : ℕ) (telemetry : Telemetry) :
    Touches id s (saveClientTelemetry env id i s telemetry) := by
  induction telemetry generalizing i s with
  | nil => exact .refl ..
  | cons snapshot rest ih => exact (touches_saveUnless ..).trans (ih (i+1))

theorem saveUnless_peers (failed : Bool) (kind : String) (data : VerifiedDeviceIdentity) :
    (saveUnless failed s id kind data).peers=s.peers := by
  unfold saveUnless
  split <;> rfl

theorem saveUnless_identity (failed : Bool) (kind : String) (data : VerifiedDeviceIdentity) :
    (saveUnless failed s id kind data).identity id =
      if failed||kind≠verifiedIdentityKind then s.identity id else data := by
  unfold saveUnless
  cases failed with
  | true => rfl
  | false =>
    rw [if_neg Bool.false_ne_true,setSnapshot_identity,Bool.false_or]
    by_cases h : kind=verifiedIdentityKind
    · simp [h]
    · simp [h]

theorem telemetry_peers (i : ℕ) (telemetry : Telemetry) : (saveClientTelemetry env id i s telemetry).peers=s.peers := by
  induction telemetry generalizing i s with
  | nil => rfl
  | cons snapshot rest ih => exact (ih (i+1)).trans (saveUnless_peers ..)

theorem telemetry_identity (i : ℕ) (telemetry : Telemetry) :
    (saveClientTelemetry env id i s telemetry).identity id =
      (savedIdentities env i telemetry).getLastD (s.identity id) := by
  induction telemetry generalizing i s with
  | nil => rfl
  | cons snapshot rest ih =>
    have hkind : isSnapshotKind verifiedIdentityKind=true := by decide
    rw [saveClientTelemetry,ih,saveUnless_identity]
    simp only [savedIdentities,List.zipIdx_cons,List.filterMap_cons]
    by_cases h : snapshot.kind=verifiedIdentityKind
    · cases env.fails (.saveTelemetrySnapshot i)
      · simp only [h,hkind,ne_eq,not_true_eq_false,decide_false,Bool.not_true,Bool.or_self,
          Bool.false_eq_true,if_false]
        exact (List.getLastD_cons ..).symm
      · simp
    · simp [h]

theorem classify_snapshots (env : Env) (s : Devices) (id : PeerID) (productSKU connMode : String) (trusted : Bool) :
    (classifyPeerFromClient env s id productSKU connMode trusted).snapshots=s.snapshots := by
  unfold classifyPeerFromClient
  split <;> rfl

variable {row : Row} {m : Message}

theorem classify_getPeer (h : s.getPeer id=some row) (env : Env) (productSKU connMode : String)
    (trusted : Bool) :
    (classifyPeerFromClient env s id productSKU connMode trusted).getPeer id =
      some {row with deviceType := (classOf env s id productSKU connMode trusted).getD row.deviceType} := by
  unfold classifyPeerFromClient
  cases classOf env s id productSKU connMode trusted with
  | none => exact h
  | some deviceType =>
    obtain ⟨hrow,hlive⟩:=filter_eq_some_iff.mp h
    have hdeleted : row.softDeleted=false := by simpa using hlive
    simp only [Devices.getPeer,Devices.setDeviceType,update_self,hrow,map_some,
      hdeleted,Bool.false_eq_true,if_false,getD_some]
    exact filter_eq_some_iff.mpr ⟨rfl,rfl⟩

theorem getPeer_congr (h : t.peers id=s.peers id) : t.getPeer id=s.getPeer id :=
  congrArg (Option.filter _) h

theorem classOf_saveIdentity (data : VerifiedDeviceIdentity) (failed : Bool) (productSKU connMode : String)
    (trusted : Bool) : classOf env (saveUnless failed s id "identity" data) id productSKU connMode trusted =
      classOf env s id productSKU connMode trusted := by
  have hidentity : (saveUnless failed s id "identity" data).identity id=s.identity id := by
    rw [saveUnless_identity,if_pos]
    simp [(by decide : "identity"≠verifiedIdentityKind)]
  unfold classOf Devices.verifiedIdentity
  rw [hidentity]

theorem classOf_trusted (s t : Devices) (productSKU connMode : String) :
    classOf env t id productSKU connMode true=classOf env s id productSKU connMode true := by
  simp [classOf]

theorem classOf_eq (env : Env) (s : Devices) (id : PeerID) (productSKU connMode : String) (trusted : Bool) :
    classOf env s id productSKU connMode trusted =
      if !env.fails .updatePeerFields&&namesSupport productSKU connMode &&
        (trusted||env.fails .verifiedIdentity||(s.identity id).productSKU≠desktopClass) then some supportClass
      else if !env.fails .updatePeerFields&&namesOther productSKU connMode then some "betterdesk" else none := by
  have hne : desktopClass≠supportClass ∧ supportClass≠"" ∧ desktopClass≠"" ∧ "betterdesk"≠"" ∧
      "betterdesk"≠supportClass ∧ ""≠desktopClass := by decide
  unfold classOf classifyBetterDeskDevice namesSupport namesOther Devices.verifiedIdentity
  by_cases hsupport : productSKU=supportClass
  · cases trusted <;> cases env.fails .verifiedIdentity <;> cases env.fails .updatePeerFields <;>
      simp [hsupport,hne,hne.1.symm,VerifiedDeviceIdentity.none]
  by_cases hdesktop : productSKU=desktopClass
  · cases env.fails .updatePeerFields <;> simp [hdesktop,hne]
  by_cases hmode : connMode=incomingOnly
  · cases trusted <;> cases env.fails .verifiedIdentity <;> cases env.fails .updatePeerFields <;>
      simp [hsupport,hdesktop,hmode,hne,VerifiedDeviceIdentity.none]
  by_cases hempty : productSKU=""
  · simp [hmode,hempty,hne,hne.2.1.symm]
  · cases env.fails .updatePeerFields <;> simp [hsupport,hdesktop,hmode,hempty,hne]

theorem newClass_eq (env : Env) (s : Devices) (m : Message) : newClass env s m =
    if heard env s m then classOf env s m.deviceID m.product.1 m.product.2 m.authenticated else none := by
  rw [classOf_eq,newClass,toSupport,toOther]
  cases heard env s m <;> simp

theorem classOf_silent {body : ClientHeartbeat} (h : body.silent=true) (trusted : Bool) :
    classOf env s id body.productSKU body.connMode trusted=none := by
  simp only [ClientHeartbeat.silent,Bool.and_eq_true,decide_eq_true_eq] at h
  rw [classOf_eq,h.1.1,h.1.2,(by decide : namesSupport "" ""=false),(by decide : namesOther "" ""=false)]
  simp

structure Leaves (env : Env) (s : Devices) (m : Message) (row : Row) (t : Devices) : Prop where
  touches : Touches m.deviceID s t
  row : t.getPeer m.deviceID=some {row with deviceType := (newClass env s m).getD row.deviceType}
  identity : t.identity m.deviceID=newIdentity env s m

theorem rememberVerifiedIdentity_spec (h : s.getPeer id=some row) (env : Env)
    (body : ClientHeartbeat) :
    Touches id s (rememberVerifiedIdentity env s id body) ∧
      (rememberVerifiedIdentity env s id body).getPeer id=some {row with
        deviceType := (classOf env s id body.productSKU body.connMode true).getD row.deviceType} ∧
      (rememberVerifiedIdentity env s id body).identity id =
        if body.silent||env.fails .saveVerifiedIdentity then s.identity id else body.identity := by
  unfold rememberVerifiedIdentity
  cases hsilent : body.silent with
  | true => exact ⟨.refl ..,by rw [classOf_silent hsilent]; exact h,rfl⟩
  | false =>
    simp only [Bool.false_eq_true,if_false,Bool.false_or]
    refine ⟨((touches_saveUnless ..).trans (touches_saveUnless ..)).trans (touches_classify ..),?_,?_⟩
    · refine (classify_getPeer ?_ ..).trans (by rw [classOf_trusted s])
      rw [getPeer_congr (congrFun (saveUnless_peers ..) id),getPeer_congr (congrFun (saveUnless_peers ..) id),h]
    · rw [Devices.identity,classify_snapshots]
      refine (saveUnless_identity ..).trans ?_
      rw [saveUnless_identity]
      simp [(by decide : "identity"≠verifiedIdentityKind)]

theorem rememberUnverifiedIdentity_spec (h : s.getPeer id=some row) (env : Env)
    (body : ClientHeartbeat) :
    Touches id s (rememberUnverifiedIdentity env s id body) ∧
      (rememberUnverifiedIdentity env s id body).getPeer id=some {row with
        deviceType := ((if env.fails .rememberedSnapshot=false ∧
            (s.snapshots id verifiedIdentityKind).isSome then none
          else classOf env s id body.productSKU body.connMode false).getD row.deviceType)} ∧
      (rememberUnverifiedIdentity env s id body).identity id=s.identity id := by
  unfold rememberUnverifiedIdentity
  split
  · exact ⟨.refl ..,h,rfl⟩
  · cases hsilent : body.silent with
    | true => exact ⟨.refl ..,by rw [classOf_silent hsilent]; exact h,rfl⟩
    | false =>
      simp only [Bool.false_eq_true,if_false]
      refine ⟨(touches_saveUnless ..).trans (touches_classify ..),?_,?_⟩
      · refine (classify_getPeer ?_ ..).trans (by rw [classOf_saveIdentity])
        rw [getPeer_congr (congrFun (saveUnless_peers ..) id),h]
      · rw [Devices.identity,classify_snapshots]
        refine (saveUnless_identity ..).trans (if_pos ?_)
        simp [(by decide : "identity"≠verifiedIdentityKind)]

theorem accepted_getPeer (h : accepted env s m=some row) : s.getPeer m.deviceID=some row := by
  unfold accepted at h
  split at h
  · cases h
  · split at h
    · cases h
    · exact (filter_eq_some_iff.mp h).1

theorem handle_refused (h : accepted env s m=none) : m.handle env s=s := by
  unfold Message.handle
  rw [h]

theorem handle_leaves (h : accepted env s m=some row) : Leaves env s m row (m.handle env s) := by
  have hget : s.getPeer m.deviceID=some row := accepted_getPeer h
  unfold Message.handle
  rw [h]
  cases m with
  | sysinfo body =>
    refine ⟨touches_classify ..,by rw [newClass_eq]; exact classify_getPeer hget ..,?_⟩
    exact congrArg (fun all : PeerID → String → Option VerifiedDeviceIdentity =>
      (all _ verifiedIdentityKind).getD .none) (classify_snapshots ..)
  | heartbeat body envelope =>
    cases envelope with
    | rejected => exact ⟨.refl ..,hget,rfl⟩
    | absent =>
      obtain ⟨htouch,hrow,hidentity⟩:=rememberUnverifiedIdentity_spec hget env body
      refine ⟨htouch.trans (touches_telemetry ..),?_,?_⟩
      · have hclass : newClass env s (.heartbeat body .absent) =
            if env.fails .rememberedSnapshot=false ∧
              (s.snapshots (Message.heartbeat body .absent).deviceID verifiedIdentityKind).isSome then none
            else classOf env s (Message.heartbeat body .absent).deviceID body.productSKU body.connMode false := by
          rw [newClass_eq,heard]
          cases env.fails .rememberedSnapshot <;>
            cases s.snapshots (Message.heartbeat body .absent).deviceID verifiedIdentityKind <;> rfl
        rw [hclass]
        exact (getPeer_congr (congrFun (telemetry_peers ..) _)).trans hrow
      · exact (telemetry_identity ..).trans (congrArg _ hidentity)
    | opened inner =>
      simp only [handleClientHeartbeat]
      by_cases hid : inner.id≠"" ∧ inner.id≠(Message.heartbeat body (.opened inner)).deviceID
      · rw [if_pos hid]
        refine ⟨.refl ..,?_,?_⟩
        · have hheard : heard env s (.heartbeat body (.opened inner))=false := by simpa [heard] using hid
          rw [newClass_eq,hheard]
          exact hget
        · rw [newIdentity,Message.identities,if_pos hid]
          rfl
      · rw [if_neg hid]
        obtain ⟨htouch,hrow,hidentity⟩:=rememberVerifiedIdentity_spec hget env inner
        refine ⟨htouch.trans (touches_telemetry ..),?_,?_⟩
        · have hheard : heard env s (.heartbeat body (.opened inner))=true := by
            by_contra hnot
            exact hid (by simpa [heard] using hnot)
          rw [newClass_eq,hheard]
          exact (getPeer_congr (congrFun (telemetry_peers ..) _)).trans hrow
        · rw [newIdentity,Message.identities,if_neg hid]
          refine (telemetry_identity ..).trans ?_
          rw [hidentity]
          split
          · rfl
          · exact (List.getLastD_cons ..).symm

theorem inbound_iff_marks {identity : VerifiedDeviceIdentity} (h : Alike identity row) :
    isInboundOnlyPeer row=true ↔ marks identity row=true := by
  rw [← h.signal,treatsAsSupport_eq]

theorem inbound_of_marked {identity : VerifiedDeviceIdentity} (h : Alike identity row)
    (hm : markedSupport identity row=true) : isInboundOnlyPeer row=true := by
  simp only [markedSupport,Bool.or_eq_true,decide_eq_true_eq] at hm
  rcases hm with (htreats | htype) | hname
  · rwa [h.signal] at htreats
  · rw [isInboundOnlyPeer,htype,Bool.true_or]
  · rw [isInboundOnlyPeer,isInboundOnlyDeviceType_of_name hname,Bool.true_or]

theorem agrees_support (identity : VerifiedDeviceIdentity) (row : Row) :
    agrees identity {row with deviceType := supportClass}=(tagsAgree row&&tagged row) := by
  have hname : lowerString (trimString supportClass)∉passiveTypes := by decide
  have hinbound : isInboundOnlyDeviceType supportClass=false := by decide +kernel
  have hfold : equalFoldString supportClass supportClass=true := by decide
  simp [agrees,exactSpelling,variantSpelling,joinedSpelling,marks,hname,hinbound,hfold,exactTag,variantTag,
    tagsAgree,tagged]

theorem agrees_other (identity : VerifiedDeviceIdentity) (row : Row) :
    marks identity {row with deviceType := "betterdesk"}=identity.marks ∧
      agrees identity {row with deviceType := "betterdesk"}=(tagsAgree row&&identity.marks==tagged row) := by
  have hname : lowerString (trimString "betterdesk")∉passiveTypes := by decide
  have hinbound : isInboundOnlyDeviceType "betterdesk"=false := by decide +kernel
  have hfold : equalFoldString "betterdesk" supportClass=false := by decide
  simp [agrees,exactSpelling,variantSpelling,joinedSpelling,marks,hname,hinbound,hfold,exactTag,variantTag,
    tagsAgree,tagged]

/-- In order means: the device agrees afterwards, and no plain word took its mark. -/
theorem inOrder_iff {a : Action} (haccepted : accepted a.env s a.message=some row)
    (hold : agrees (s.identity a.message.deviceID) row=true) {row' : Row}
    (hrow' : row'={row with deviceType := (newClass a.env s a.message).getD row.deviceType}) :
    inOrder s a=true ↔ agrees (newIdentity a.env s a.message) row'=true ∧
      (a.message.authenticated||!marks (s.identity a.message.deviceID) row ||
        marks (newIdentity a.env s a.message) row')=true := by
  rw [inOrder,haccepted,all_some]
  cases hsupport : toSupport a.env s a.message with
  | true =>
    have hrow : row'={row with deviceType := supportClass} := by simp [hrow',newClass,hsupport]
    have hmarks : ∀ identity, marks identity {row with deviceType := supportClass}=true := fun identity => by
      simp [marks,(by decide : equalFoldString supportClass supportClass=true)]
    simp [hrow,agrees_support,hmarks]
  | false =>
    cases hother : toOther a.env s a.message with
    | true =>
      have hrow : row'={row with deviceType := "betterdesk"} := by simp [hrow',newClass,hsupport,hother]
      simp only [hrow,agrees_other,if_true,Bool.false_eq_true,if_false,Bool.and_eq_true]
    | false =>
      have hrow : row'=row := by simp [hrow',newClass,hsupport,hother]
      rw [hrow]
      simp only [agrees,Bool.and_eq_true,beq_iff_eq] at hold ⊢
      simp only [Bool.false_eq_true,if_false,beq_iff_eq,hold.1,hold.2,true_and]
      cases marks (newIdentity a.env s a.message) row <;> cases exactSpelling row||variantSpelling row <;> simp

theorem kept_iff_inOrder (h : Uniform s) (a : Action) : Kept s a ↔ inOrder s a=true := by
  cases haccepted : accepted a.env s a.message with
  | none =>
    have hstays : Durable s s := ⟨fun id row row' hrow hm hrow' => by
      rw [hrow] at hrow'
      cases hrow'
      exact inbound_of_marked (h.alike id row hrow) hm⟩
    have hkept : Kept s a := by
      refine ⟨?_,fun _ => ?_⟩
      · rwa [handle_refused haccepted]
      · rwa [handle_refused haccepted]
    exact iff_of_true hkept (by rw [inOrder,haccepted]; rfl)
  | some row =>
    have hleaves:=handle_leaves haccepted
    have hold : Alike _ row := h.alike _ row (accepted_getPeer haccepted)
    rw [inOrder_iff haccepted ((alike_iff_agrees ..).mp hold) rfl]
    constructor
    · intro hkept
      have hnew:=hkept.uniform.alike _ _ hleaves.row
      rw [hleaves.identity] at hnew
      refine ⟨(alike_iff_agrees ..).mp hnew,?_⟩
      cases hauth : a.message.authenticated with
      | true => rfl
      | false =>
        cases hmarks : marks (s.identity a.message.deviceID) row with
        | false => rfl
        | true =>
          have hmarked : markedSupport (s.identity a.message.deviceID) row=true := by
            rw [markedSupport,treatsAsSupport_eq,hmarks,Bool.true_or,Bool.true_or]
          exact (inbound_iff_marks hnew).mp
            ((hkept.durable hauth).stays _ _ _ (accepted_getPeer haccepted) hmarked hleaves.row)
    · rintro ⟨hagrees,hmark⟩
      have hnew:=(alike_iff_agrees ..).mpr hagrees
      refine ⟨⟨fun id row' hrow' => ?_⟩,fun hauth => ⟨fun id old row' hrow hm hrow' => ?_⟩⟩
      · by_cases hid : id=a.message.deviceID
        · subst hid
          rw [hleaves.row] at hrow'
          cases hrow'
          rwa [hleaves.identity]
        · rw [hleaves.touches.identity id hid]
          exact h.alike id row' (by rwa [getPeer_congr (hleaves.touches.peers id hid)] at hrow')
      · by_cases hid : id=a.message.deviceID
        · subst hid
          rw [accepted_getPeer haccepted] at hrow
          rw [hleaves.row] at hrow'
          cases hrow
          cases hrow'
          have hmarks:=(inbound_iff_marks hold).mp (inbound_of_marked hold hm)
          rw [hauth,hmarks] at hmark
          exact (inbound_iff_marks hnew).mpr hmark
        · rw [getPeer_congr (hleaves.touches.peers id hid),hrow] at hrow'
          cases hrow'
          exact inbound_of_marked (h.alike id old hrow) hm

/-- From any records and over any messages, exactly when the records agree at the
start and every message is in order. -/
theorem classification_kept (s : Devices) (as : List Action) : (Uniform s ∧ Along step Kept s as) ↔
      (∀ id row, s.getPeer id=some row → agrees (s.identity id) row=true) ∧
        Along step (fun s a => inOrder s a=true) s as := by
  have hstart : Uniform s ↔ ∀ id row, s.getPeer id=some row → agrees (s.identity id) row=true :=
    ⟨fun h id row hrow => (alike_iff_agrees ..).mp (h.alike id row hrow),
      fun h => ⟨fun id row hrow => (alike_iff_agrees ..).mpr (h id row hrow)⟩⟩
  rw [← hstart]
  refine and_congr_right fun h => ⟨fun hkept => ?_,fun hok => ?_⟩
  · refine hkept.of_invariant Uniform ?_ (fun s a hs hk => (kept_iff_inOrder hs a).mp hk) h
    rintro s a t - hk ⟨⟩
    exact hk.uniform
  · refine hok.of_invariant Uniform ?_ (fun s a hs hk => (kept_iff_inOrder hs a).mpr hk) h
    rintro s a t hs hk ⟨⟩
    exact ((kept_iff_inOrder hs a).mpr hk).uniform

def workingEnv : Env := ⟨true,fun _ => false⟩

def oneDevice (deviceType : String) (identity : Option VerifiedDeviceIdentity) : Devices where
  peers id := if id="device-07" then
    some ⟨[1],[1],none,deviceType,"",false,false,false⟩ else none
  snapshots id kind := if id="device-07" ∧ kind=verifiedIdentityKind then identity else none

theorem uniform_oneDevice {deviceType : String} {identity : Option VerifiedDeviceIdentity}
    (h : agrees (identity.getD .none) ⟨[1],[1],none,deviceType,"",false,false,false⟩=true) :
    Uniform (oneDevice deviceType identity) := by
  refine ⟨fun id row hrow => (alike_iff_agrees ..).mpr ?_⟩
  obtain ⟨hpeer,-⟩:=filter_eq_some_iff.mp hrow
  simp only [oneDevice] at hpeer
  split at hpeer
  · rename_i hid
    cases hpeer
    simpa only [Devices.identity,oneDevice,hid,true_and,if_true] using h
  · cases hpeer

def supportIdentity : VerifiedDeviceIdentity := ⟨supportClass,"",[],1⟩

def saysSupport : Action := ⟨workingEnv,.sysinfo ⟨"device-07","",supportClass,""⟩⟩

def saysDesktop : Action := ⟨workingEnv,.sysinfo ⟨"device-07","",desktopClass,""⟩⟩

def forgesIdentity : Action := ⟨workingEnv,.heartbeat
  ⟨"device-07","","","",[],1,[⟨verifiedIdentityKind,⟨desktopClass,"",[],1⟩⟩],.absent⟩ .absent⟩

theorem support_agents_disagree : ¬ (∀ s as, Uniform s → Along step Kept s as) ∧
      ¬ Along step Kept (oneDevice "" none) [saysSupport] ∧
      ¬ Along step Kept (oneDevice "support_agent" (some supportIdentity)) [saysDesktop] ∧
      ¬ Along step Kept (oneDevice "support_agent" (some supportIdentity)) [forgesIdentity] := by
  have hbad {deviceType : String} {identity : Option VerifiedDeviceIdentity} {a : Action}
      (h : agrees (identity.getD .none) ⟨[1],[1],none,deviceType,"",false,false,false⟩=true)
      (ha : inOrder (oneDevice deviceType identity) a=false) :
      ¬ Along step Kept (oneDevice deviceType identity) [a] := fun hkept =>
    Bool.false_ne_true (ha.symm.trans ((kept_iff_inOrder (uniform_oneDevice h) a).mp hkept.1))
  have hfirst : ¬ Along step Kept (oneDevice "" none) [saysSupport] :=
    hbad (by decide +kernel) (by decide +kernel)
  exact ⟨fun h => hfirst (h _ _ (uniform_oneDevice (by decide +kernel))),hfirst,
    hbad (by decide) (by decide),hbad (by decide) (by decide)⟩

end BetterDesk.Device
