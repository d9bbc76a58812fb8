import BetterDesk.Lib.Exec
import BetterDesk.Lib.SyncMap
import BetterDesk.Lib.Text

/-! # Downloads of the browser client -/

namespace BetterDesk.RdClient.Downloads
open Text (Bytes)
open List Option

/-- A block as it arrives: its bytes, or the content that its bytes decompress
to. -/
inductive Payload
  | plain (data : Bytes)
  | zstd (content : Bytes)

def Payload.content : Payload → Bytes
  | .plain data => data
  | .zstd content => content

/-- The end of a streamed file: the tasks of the chain it still waits for, and
whether the last batch has been written. -/
structure Saving where
  waits : ℕ
  flushed : Bool

structure Transfer where
  streamDownload : Bool
  blocks : List Bytes
  writeChain : List Bytes
  writeBatch : List Bytes
  written : Bytes
  saving : Option Saving

def DOWNLOAD_WRITE_BATCH : ℕ := 512*1024

namespace Transfer

def begin (streamDownload : Bool) : Transfer :=
  {streamDownload := streamDownload,blocks := [],writeChain := [],writeBatch := [],written := [],saving := none}

def applyBlock (t : Transfer) (bytes : Bytes) : Transfer :=
  if t.streamDownload then {t with writeChain := t.writeChain++[bytes]}
  else if bytes=[] then t
  else {t with blocks := t.blocks++[bytes]}

def flushWriteBatch (t : Transfer) : Transfer := {t with written := t.written++t.writeBatch.flatten,writeBatch := []}

/-- The chain's next task, for the block `bytes`. -/
def runTask (t : Transfer) (bytes : Bytes) (rest : List Bytes) : Transfer :=
  let t:={t with writeChain := rest,saving := t.saving.map fun v => {v with waits := v.waits-1}}
  if bytes=[] then t
  else
    let t:={t with writeBatch := t.writeBatch++[bytes]}
    if DOWNLOAD_WRITE_BATCH≤t.writeBatch.flatten.length then t.flushWriteBatch else t

def content (t : Transfer) : Bytes :=
  if t.streamDownload then t.written++t.writeBatch.flatten++t.writeChain.flatten else t.blocks.flatten

def startSaving (t : Transfer) : Transfer :=
  {t with saving := some {waits := t.writeChain.length,flushed := false}}

def flushEnd (t : Transfer) : Transfer :=
  {t.flushWriteBatch with saving := t.saving.map fun v => {v with flushed := true}}

def endIsNext (t : Transfer) : Bool := t.saving.any fun v => v.waits=0&&!v.flushed

end Transfer

/-- `received` and `ended` are what the peer has sent for the transfers at hand. -/
structure State where
  nextId : ℕ
  transfers : SyncMap ℕ Transfer
  decompressing : List (ℕ × Bytes)
  saved : List (ℕ × Bytes)
  received : List (ℕ × Bytes)
  ended : List ℕ

def State.start : State :=
  {nextId := 0,transfers := [],decompressing := [],saved := [],received := [],ended := []}

inductive Event
  | downloadFile (streamDownload : Bool)
  | block (id : ℕ) (payload : Payload)
  | decompressed (i : ℕ) (ok : Bool)
  | done (id : ℕ)
  | task (id : ℕ)
  | flush (id : ℕ)
  | finish (id : ℕ)

namespace State

def applyBlock (s : State) (id : ℕ) (bytes : Bytes) : State :=
  match s.transfers.load id with
  | none => s
  | some t => {s with transfers := s.transfers.store id (t.applyBlock bytes)}

def failTransfer (s : State) (id : ℕ) : State := {s with transfers := s.transfers.delete id}

def handleBlock (s : State) (id : ℕ) (payload : Payload) : State :=
  if (s.transfers.load id).isNone then s
  else
    let s:={s with received := s.received++[(id,payload.content)]}
    match payload with
    | .plain data => s.applyBlock id data
    | .zstd content => {s with decompressing := s.decompressing++[(id,content)]}

def finishComplete (s : State) (id : ℕ) (bytes : Bytes) : State :=
  {s with saved := s.saved++[(id,bytes)],transfers := s.transfers.delete id}

def handleDone (s : State) (id : ℕ) : State :=
  match s.transfers.load id with
  | none => s
  | some t =>
    let s:={s with ended := id::s.ended}
    if t.streamDownload then {s with transfers := s.transfers.store id t.startSaving}
    else s.finishComplete id t.blocks.flatten

end State

def step (s : State) : Event → Option State
  | .downloadFile streamDownload =>
    some {s with nextId := s.nextId+1,transfers := s.transfers.store s.nextId (Transfer.begin streamDownload)}
  | .block id payload => if id∈s.ended then none else some (s.handleBlock id payload)
  | .decompressed i ok => (s.decompressing[i]?).map fun x =>
    let s:={s with decompressing := s.decompressing.eraseIdx i}
    if ok then s.applyBlock x.1 x.2 else s.failTransfer x.1
  | .done id => if id∈s.ended then none else some (s.handleDone id)
  | .task id => (s.transfers.load id).bind fun t =>
    if t.endIsNext then none
    else match t.writeChain with
      | [] => none
      | bytes::rest => some {s with transfers := s.transfers.store id (t.runTask bytes rest)}
  | .flush id => (s.transfers.load id).bind fun t =>
    if t.endIsNext then some {s with transfers := s.transfers.store id t.flushEnd} else none
  | .finish id => (s.transfers.load id).bind fun t =>
    if t.saving.any (·.flushed) then some (s.finishComplete id t.written) else none

def bytesOf (id : ℕ) (log : List (ℕ × Bytes)) : Bytes := log.flatMap fun x => if x.1=id then x.2 else []

def savedOf (id : ℕ) (s : State) : List (ℕ × Bytes) := s.saved.filter fun x => x.1=id

def State.Idle (s : State) (id : ℕ) : Prop := ∀ x∈s.decompressing,x.1≠id

theorem bytesOf_append (id : ℕ) (xs ys : List (ℕ × Bytes)) : bytesOf id (xs++ys)=bytesOf id xs++bytesOf id ys := by
  simp [bytesOf]

@[simp] theorem bytesOf_self (id : ℕ) (c : Bytes) : bytesOf id [(id,c)]=c := by simp [bytesOf]

theorem bytesOf_none {id : ℕ} {log : List (ℕ × Bytes)} (h : ∀ x∈log,x.1≠id) : bytesOf id log=[] := by
  simp only [bytesOf,flatMap_eq_nil_iff]
  intro x hx
  rw [if_neg (h x hx)]

theorem bytesOf_other {id : ℕ} {x : ℕ × Bytes} (h : x.1≠id) : bytesOf id [x]=[] :=
  bytesOf_none (by simpa using h)

variable {i : ℕ} {tr : Transfer} {v : Saving}

theorem bytesOf_eraseIdx (id : ℕ) {log : List (ℕ × Bytes)} {x : ℕ × Bytes} (h : log[i]?=some x)
    (hfirst : x.1=id → ∀ y∈log.take i, y.1≠id) :
    bytesOf id log=(if x.1=id then x.2 else [])++bytesOf id (log.eraseIdx i) := by
  obtain ⟨hi,hget⟩:=List.getElem?_eq_some_iff.mp h
  have hsplit : log=log.take i++x::log.drop (i+1) := by
    rw [← hget,getElem_cons_drop,take_append_drop]
  have herase : log.eraseIdx i=log.take i++log.drop (i+1) := eraseIdx_eq_take_drop_succ log i
  have hcons : bytesOf id (x::log.drop (i+1))=(if x.1=id then x.2 else [])++bytesOf id (log.drop (i+1)) := rfl
  rw [herase,bytesOf_append]
  conv_lhs => rw [hsplit,bytesOf_append,hcons]
  by_cases hx : x.1=id
  · rw [bytesOf_none (hfirst hx),if_pos hx,nil_append,nil_append]
  · rw [if_neg hx,nil_append,nil_append]

theorem content_applyBlock (t : Transfer) (bytes : Bytes) : (t.applyBlock bytes).content=t.content++bytes := by
  unfold Transfer.applyBlock
  split
  · rename_i hs
    simp [Transfer.content,hs,append_assoc]
  · rename_i hs
    split
    · rename_i hnil
      rw [hnil,append_nil]
    · simp [Transfer.content,hs]

theorem content_runTask {t : Transfer} {bytes : Bytes} {rest : List Bytes} (hs : t.streamDownload=true)
    (hc : t.writeChain=bytes::rest) : (t.runTask bytes rest).content=t.content := by
  unfold Transfer.runTask
  dsimp only
  split
  · rename_i hnil
    simp [Transfer.content,hs,hc,hnil]
  · split
    · simp [Transfer.content,Transfer.flushWriteBatch,hs,hc]
    · simp [Transfer.content,hs,hc]

theorem runTask_fields (t : Transfer) (bytes : Bytes) (rest : List Bytes) :
    (t.runTask bytes rest).streamDownload=t.streamDownload ∧ (t.runTask bytes rest).writeChain=rest ∧
      (t.runTask bytes rest).saving=t.saving.map fun v => {v with waits := v.waits-1} := by
  unfold Transfer.runTask
  dsimp only
  split
  · exact ⟨rfl,rfl,rfl⟩
  · split
    · exact ⟨rfl,rfl,rfl⟩
    · exact ⟨rfl,rfl,rfl⟩

/-- A file whose end has not come yet: what was applied and what is still being
decompressed is what was received, in this order. -/
structure Open (s : State) (id : ℕ) (t : Transfer) : Prop where
  saving : t.saving=none
  memory : t.streamDownload=false → t.writeChain=[]
  content : t.content++bytesOf id s.decompressing=bytesOf id s.received

structure Ending (s : State) (id : ℕ) (t : Transfer) (v : Saving) : Prop where
  stream : t.streamDownload=true
  saving : t.saving=some v
  waits : t.writeChain.length=v.waits
  flushed : v.flushed=true → v.waits=0 ∧ t.writeBatch=[]
  content : t.content=bytesOf id s.received

inductive FileInv (s : State) (id : ℕ) : Prop
  | fresh (h : s.nextId ≤ id) (hload : s.transfers.load id=none) (hended : id∉s.ended) (hidle : s.Idle id)
      (hreceived : bytesOf id s.received=[]) (hsaved : savedOf id s=[])
  | opened (h : id < s.nextId) (t : Transfer) (hload : s.transfers.load id=some t) (hopen : Open s id t)
      (hended : id∉s.ended) (hsaved : savedOf id s=[])
  | ending (h : id < s.nextId) (t : Transfer) (hload : s.transfers.load id=some t) (v : Saving)
      (hend : Ending s id t v) (hended : id∈s.ended) (hidle : s.Idle id) (hsaved : savedOf id s=[])
  | complete (h : id < s.nextId) (hload : s.transfers.load id=none) (hended : id∈s.ended) (hidle : s.Idle id)
      (hsaved : savedOf id s=[(id,bytesOf id s.received)])

/-- The blocks of the file are applied in the order in which they came, and none
is being decompressed when its end comes. -/
def StepOk (id : ℕ) (s : State) : Event → Prop
  | .block i (.plain _) => i=id → s.Idle id
  | .decompressed i ok => ∀ x∈s.decompressing[i]?, x.1=id → ok=true ∧ ∀ y∈s.decompressing.take i, y.1≠id
  | .done i => i=id → s.Idle id
  | _ => True

instance (id : ℕ) (s : State) : Decidable (s.Idle id) := inferInstanceAs (Decidable (∀ x∈s.decompressing,_))

instance decidableStepOk (id : ℕ) (s : State) : (e : Event) → Decidable (StepOk id s e)
  | .downloadFile _ => isTrue trivial
  | .block _ (.plain _) => inferInstanceAs (Decidable (_ → _))
  | .block _ (.zstd _) => isTrue trivial
  | .decompressed _ _ => inferInstanceAs (Decidable (∀ x∈_,_ → _ ∧ ∀ y∈List.take _ _, _))
  | .done _ => inferInstanceAs (Decidable (_ → _))
  | .task _ => isTrue trivial
  | .flush _ => isTrue trivial
  | .finish _ => isTrue trivial

structure Unchanged (id : ℕ) (s t : State) : Prop where
  nextId : t.nextId ≤ id ↔ s.nextId ≤ id
  load : t.transfers.load id=s.transfers.load id
  decompressing : bytesOf id t.decompressing=bytesOf id s.decompressing
  idle : s.Idle id → t.Idle id
  saved : savedOf id t=savedOf id s
  received : bytesOf id t.received=bytesOf id s.received
  ended : id∈t.ended ↔ id∈s.ended

theorem Unchanged.inv {id : ℕ} {s t : State} (u : Unchanged id s t) (h : FileInv s id) : FileInv t id := by
  cases h with
  | fresh h hload hended hidle hreceived hsaved =>
    exact .fresh (u.nextId.mpr h) (u.load.trans hload) (mt u.ended.mp hended) (u.idle hidle) (u.received.trans hreceived)
      (u.saved.trans hsaved)
  | opened h tr hload hopen hended hsaved =>
    refine .opened ?_ tr (u.load.trans hload) ⟨hopen.saving,hopen.memory,?_⟩ (mt u.ended.mp hended) (u.saved.trans hsaved)
    · have hn:=u.nextId
      omega
    · rw [u.decompressing,u.received]
      exact hopen.content
  | ending h tr hload v hend hended hidle hsaved =>
    refine .ending ?_ tr (u.load.trans hload) v ⟨hend.stream,hend.saving,hend.waits,hend.flushed,?_⟩ (u.ended.mpr hended)
      (u.idle hidle) (u.saved.trans hsaved)
    · have hn:=u.nextId
      omega
    · rw [u.received]
      exact hend.content
  | complete h hload hended hidle hsaved =>
    refine .complete ?_ (u.load.trans hload) (u.ended.mpr hended) (u.idle hidle) ?_
    · have hn:=u.nextId
      omega
    · rw [u.saved,u.received]
      exact hsaved

theorem Unchanged.refl (id : ℕ) (s : State) : Unchanged id s s :=
  ⟨Iff.rfl,rfl,rfl,fun h => h,rfl,rfl,Iff.rfl⟩

theorem unchanged_store {id : ℕ} (h : i≠id) (s : State) (t : Transfer) :
    Unchanged id s {s with transfers := s.transfers.store i t} :=
  ⟨Iff.rfl,SyncMap.load_store_of_ne _ _ h.symm,rfl,fun h => h,rfl,rfl,Iff.rfl⟩

theorem unchanged_fail {id : ℕ} (h : i≠id) (s : State) : Unchanged id s (s.failTransfer i) :=
  ⟨Iff.rfl,SyncMap.load_delete_of_ne _ h.symm,rfl,fun h => h,rfl,rfl,Iff.rfl⟩

theorem unchanged_apply {id : ℕ} (h : i≠id) (s : State) (bytes : Bytes) : Unchanged id s (s.applyBlock i bytes) := by
  unfold State.applyBlock
  split
  · exact .refl id s
  · exact unchanged_store h s _

theorem unchanged_finish {id : ℕ} (h : i≠id) (s : State) (bytes : Bytes) :
    Unchanged id s (s.finishComplete i bytes) := by
  refine ⟨Iff.rfl,SyncMap.load_delete_of_ne _ h.symm,rfl,fun h => h,?_,rfl,Iff.rfl⟩
  simp [savedOf,State.finishComplete,filter_append,h]

theorem Unchanged.trans {id : ℕ} {s t u : State} (h : Unchanged id s t) (h' : Unchanged id t u) : Unchanged id s u :=
  ⟨h'.nextId.trans h.nextId,h'.load.trans h.load,h'.decompressing.trans h.decompressing,fun hi => h'.idle (h.idle hi),
    h'.saved.trans h.saved,h'.received.trans h.received,h'.ended.trans h.ended⟩

theorem unchanged_received {id : ℕ} (h : i≠id) (s : State) (bytes : Bytes) :
    Unchanged id s {s with received := s.received++[(i,bytes)]} := by
  refine ⟨Iff.rfl,rfl,rfl,fun h => h,rfl,?_,Iff.rfl⟩
  rw [bytesOf_append,bytesOf_other h,append_nil]

theorem unchanged_decompressing {id : ℕ} (h : i≠id) (s : State) (bytes : Bytes) :
    Unchanged id s {s with decompressing := s.decompressing++[(i,bytes)]} := by
  refine ⟨Iff.rfl,rfl,?_,fun hi => ?_,rfl,rfl,Iff.rfl⟩
  · rw [bytesOf_append,bytesOf_other h,append_nil]
  · intro x hx
    rcases mem_append.mp hx with hx | hx
    · exact hi x hx
    · rw [mem_singleton.mp hx]
      exact h

theorem unchanged_ended {id : ℕ} (h : i≠id) (s : State) : Unchanged id s {s with ended := i::s.ended} := by
  refine ⟨Iff.rfl,rfl,rfl,fun h => h,rfl,rfl,?_⟩
  simp [h.symm]

theorem unchanged_block {id : ℕ} (h : i≠id) (s : State) (payload : Payload) :
    Unchanged id s (s.handleBlock i payload) := by
  unfold State.handleBlock
  split
  · exact .refl id s
  · cases payload with
    | plain data => exact (unchanged_received h s data).trans (unchanged_apply h _ data)
    | zstd content => exact (unchanged_received h s content).trans (unchanged_decompressing h _ content)

theorem unchanged_done {id : ℕ} (h : i≠id) (s : State) : Unchanged id s (s.handleDone i) := by
  unfold State.handleDone
  split
  · exact .refl id s
  · dsimp only
    split
    · exact (unchanged_ended h s).trans (unchanged_store h _ _)
    · exact (unchanged_ended h s).trans (unchanged_finish h _ _)

variable {id : ℕ} {s t : State}

theorem applyBlock_memory (h : tr.streamDownload=false → tr.writeChain=[]) (bytes : Bytes) :
    (tr.applyBlock bytes).streamDownload=false → (tr.applyBlock bytes).writeChain=[] := by
  unfold Transfer.applyBlock
  split
  · rename_i hs
    intro hn
    rw [show tr.streamDownload=false from hn] at hs
    cases hs
  · split
    · exact h
    · exact h

theorem applyBlock_saving (tr : Transfer) (bytes : Bytes) : (tr.applyBlock bytes).saving=tr.saving := by
  unfold Transfer.applyBlock
  split
  · rfl
  · split
    · rfl
    · rfl

theorem open_apply {bytes : Bytes} (h : id < s.nextId) (hload : s.transfers.load id=some tr)
    (hsaving : tr.saving=none) (hmemory : tr.streamDownload=false → tr.writeChain=[])
    (hcontent : tr.content++(bytes++bytesOf id s.decompressing)=bytesOf id s.received) (hended : id∉s.ended)
    (hsaved : savedOf id s=[]) : FileInv (s.applyBlock id bytes) id := by
  unfold State.applyBlock
  rw [hload]
  refine .opened h (tr.applyBlock bytes) (SyncMap.load_store_self _ _ _) ⟨?_,applyBlock_memory hmemory bytes,?_⟩ hended hsaved
  · rw [applyBlock_saving,hsaving]
  · rw [content_applyBlock,append_assoc]
    exact hcontent

theorem download_inv {stream : Bool} (h : FileInv s id) (ht : step s (.downloadFile stream)=some t) : FileInv t id := by
  cases ht
  by_cases hid : s.nextId=id
  · cases h with
    | fresh h hload hended hidle hreceived hsaved =>
      refine .opened (by dsimp only; omega) (Transfer.begin stream) (by dsimp only; rw [hid]; exact SyncMap.load_store_self _ _ _)
        ⟨rfl,fun _ => rfl,?_⟩ hended hsaved
      dsimp only
      rw [bytesOf_none hidle,hreceived]
      cases stream <;> rfl
    | opened | ending | complete => omega
  · refine Unchanged.inv ⟨?_,SyncMap.load_store_of_ne _ _ (Ne.symm hid),rfl,fun h => h,rfl,rfl,Iff.rfl⟩ h
    dsimp only
    omega

theorem block_inv {payload : Payload} (h : FileInv s id) (hok : StepOk id s (.block i payload))
    (ht : step s (.block i payload)=some t) : FileInv t id := by
  simp only [step] at ht
  split at ht
  · cases ht
  · rename_i hnew
    cases ht
    by_cases hid : i=id
    · subst hid
      cases h with
      | fresh h hload hended hidle hreceived hsaved =>
        rw [State.handleBlock,hload]
        exact .fresh h hload hended hidle hreceived hsaved
      | complete _ _ hended | ending _ _ _ _ _ hended => exact absurd hended hnew
      | opened h tr hload hopen hended hsaved =>
        rw [State.handleBlock,hload]
        simp only [isNone_some,Bool.false_eq_true,if_false]
        cases payload with
        | plain data =>
          have hidle : s.Idle i := hok rfl
          refine open_apply h hload hopen.saving hopen.memory ?_ hended hsaved
          have hcontent:=hopen.content
          dsimp only [Payload.content]
          rw [bytesOf_none hidle,append_nil] at hcontent ⊢
          rw [bytesOf_append,bytesOf_self,hcontent]
        | zstd content =>
          refine .opened h tr hload ⟨hopen.saving,hopen.memory,?_⟩ hended hsaved
          dsimp only [Payload.content]
          rw [bytesOf_append,bytesOf_append,bytesOf_self,← append_assoc,hopen.content]
    · exact (unchanged_block hid s payload).inv h

theorem decompressed_inv {ok : Bool} (h : FileInv s id) (hok : StepOk id s (.decompressed i ok))
    (ht : step s (.decompressed i ok)=some t) : FileInv t id := by
  obtain ⟨⟨j,bytes⟩,hx,heq⟩:=map_eq_some_iff.mp ht
  have hfirst : j=id → ok=true ∧ ∀ y∈s.decompressing.take i, y.1≠id := hok (j,bytes) hx
  have herase:=bytesOf_eraseIdx id hx fun hj => (hfirst hj).2
  by_cases hid : j=id
  · subst hid
    have hmem : (j,bytes)∈s.decompressing := mem_of_getElem? hx
    cases h with
    | fresh _ _ _ hidle | ending _ _ _ _ _ _ hidle | complete _ _ _ hidle => exact absurd rfl (hidle _ hmem)
    | opened h tr hload hopen hended hsaved =>
      rw [(hfirst rfl).1] at heq
      cases heq
      refine open_apply (s := {s with decompressing := s.decompressing.eraseIdx i}) h hload hopen.saving hopen.memory ?_
        hended hsaved
      have hcontent:=hopen.content
      rw [herase,if_pos rfl] at hcontent
      exact hcontent
  · have hsame : Unchanged id s {s with decompressing := s.decompressing.eraseIdx i} := by
      refine ⟨Iff.rfl,rfl,?_,fun hidle x hmem => hidle x (mem_of_mem_eraseIdx hmem),rfl,rfl,Iff.rfl⟩
      rw [herase,if_neg hid,nil_append]
    dsimp only at heq
    split at heq
    · cases heq
      exact (hsame.trans (unchanged_apply hid _ bytes)).inv h
    · cases heq
      exact (hsame.trans (unchanged_fail hid _)).inv h

theorem done_inv (h : FileInv s id) (hok : StepOk id s (.done i)) (ht : step s (.done i)=some t) : FileInv t id := by
  simp only [step] at ht
  split at ht
  · cases ht
  · rename_i hnew
    cases ht
    by_cases hid : i=id
    · subst hid
      cases h with
      | fresh h hload hended hidle hreceived hsaved =>
        rw [State.handleDone,hload]
        exact .fresh h hload hended hidle hreceived hsaved
      | complete _ _ hended | ending _ _ _ _ _ hended => exact absurd hended hnew
      | opened h tr hload hopen hended hsaved =>
        have hidle : s.Idle i := hok rfl
        have hcontent:=hopen.content
        rw [bytesOf_none hidle,append_nil] at hcontent
        rw [State.handleDone,hload]
        dsimp only
        cases hstream : tr.streamDownload with
        | true =>
          rw [if_pos rfl]
          exact .ending h tr.startSaving (SyncMap.load_store_self _ _ _) {waits := tr.writeChain.length,flushed := false}
            ⟨hstream,rfl,rfl,nofun,hcontent⟩ mem_cons_self hidle hsaved
        | false =>
          rw [if_neg Bool.false_ne_true]
          refine .complete h (SyncMap.load_delete_self _ _) mem_cons_self hidle ?_
          have hblocks : tr.blocks.flatten=bytesOf i s.received := by
            rw [← hcontent,Transfer.content,hstream,if_neg Bool.false_ne_true]
          have hkeep : s.saved.filter (fun x => x.1=i)=[] := hsaved
          rw [savedOf,State.finishComplete,filter_append,hkeep,hblocks]
          simp
    · exact (unchanged_done hid s).inv h

theorem task_inv (h : FileInv s id) (ht : step s (.task i)=some t) : FileInv t id := by
  obtain ⟨tr,hload',ht⟩:=bind_eq_some_iff.mp ht
  split at ht
  · cases ht
  · rename_i hnext
    split at ht
    · cases ht
    · rename_i bytes rest hchain
      cases ht
      by_cases hid : i=id
      · subst hid
        obtain ⟨hstream,hrest,hsaving⟩:=runTask_fields tr bytes rest
        cases h with
        | fresh _ hload | complete _ hload =>
          rw [hload] at hload'
          cases hload'
        | opened h tr' hload hopen hended hsaved =>
          rw [hload] at hload'
          cases hload'
          have hs : tr.streamDownload=true := by
            cases hs : tr.streamDownload with
            | true => rfl
            | false =>
              rw [hopen.memory hs] at hchain
              cases hchain
          refine .opened h _ (SyncMap.load_store_self _ _ _) ⟨?_,fun hf => ?_,?_⟩ hended hsaved
          · rw [hsaving,hopen.saving]
            rfl
          · rw [hstream,hs] at hf
            cases hf
          · rw [content_runTask hs hchain]
            exact hopen.content
        | ending h tr' hload v hend hended hidle hsaved =>
          rw [hload] at hload'
          cases hload'
          have hwaits:=hend.waits
          rw [hchain,length_cons] at hwaits
          refine .ending h _ (SyncMap.load_store_self _ _ _) {v with waits := v.waits-1} ⟨?_,?_,?_,fun hf => ?_,?_⟩ hended
            hidle hsaved
          · rw [hstream,hend.stream]
          · rw [hsaving,hend.saving]
            rfl
          · rw [hrest]
            dsimp only
            omega
          · -- a flushed end has no task left
            have hzero:=(hend.flushed hf).1
            omega
          · rw [content_runTask hend.stream hchain]
            exact hend.content
      · exact (unchanged_store hid s _).inv h

theorem flush_inv (h : FileInv s id) (ht : step s (.flush i)=some t) : FileInv t id := by
  obtain ⟨tr,hload',ht⟩:=bind_eq_some_iff.mp ht
  split at ht
  · rename_i hnext
    cases ht
    by_cases hid : i=id
    · subst hid
      cases h with
      | fresh _ hload | complete _ hload =>
        rw [hload] at hload'
        cases hload'
      | opened h tr' hload hopen =>
        rw [hload] at hload'
        cases hload'
        simp [Transfer.endIsNext,hopen.saving] at hnext
      | ending h tr' hload v hend hended hidle hsaved =>
        rw [hload] at hload'
        cases hload'
        have hzero : v.waits=0 := by
          simp only [Transfer.endIsNext,hend.saving,any_some,Bool.and_eq_true,decide_eq_true_eq] at hnext
          exact hnext.1
        refine .ending h _ (SyncMap.load_store_self _ _ _) {v with flushed := true} ⟨hend.stream,?_,hend.waits,fun _ => ⟨hzero,rfl⟩,?_⟩
          hended hidle hsaved
        · rw [Transfer.flushEnd,hend.saving]
          rfl
        · have hcontent:=hend.content
          rw [Transfer.content,if_pos hend.stream] at hcontent
          have hflushed : tr.flushEnd.content=tr.written++tr.writeBatch.flatten++tr.writeChain.flatten := by
            simp [Transfer.content,Transfer.flushEnd,Transfer.flushWriteBatch,hend.stream]
          rw [hflushed]
          exact hcontent
    · exact (unchanged_store hid s _).inv h
  · cases ht

theorem finish_inv (h : FileInv s id) (ht : step s (.finish i)=some t) : FileInv t id := by
  obtain ⟨tr,hload',ht⟩:=bind_eq_some_iff.mp ht
  split at ht
  · rename_i hflushed
    cases ht
    by_cases hid : i=id
    · subst hid
      cases h with
      | fresh _ hload | complete _ hload =>
        rw [hload] at hload'
        cases hload'
      | opened h tr' hload hopen =>
        rw [hload] at hload'
        cases hload'
        simp [hopen.saving] at hflushed
      | ending h tr' hload v hend hended hidle hsaved =>
        rw [hload] at hload'
        cases hload'
        rw [hend.saving,any_some] at hflushed
        obtain ⟨hzero,hbatch⟩:=hend.flushed hflushed
        have hchain : tr.writeChain=[] := length_eq_zero_iff.mp (by rw [hend.waits,hzero])
        have hwritten : tr.written=bytesOf i s.received := by
          rw [← hend.content,Transfer.content,if_pos hend.stream,hbatch,hchain]
          simp
        refine .complete h (SyncMap.load_delete_self _ _) hended hidle ?_
        have hkeep : s.saved.filter (fun x => x.1=i)=[] := hsaved
        rw [savedOf,State.finishComplete,filter_append,hkeep,hwritten]
        simp
    · exact (unchanged_finish hid s _).inv h
  · cases ht

theorem step_inv {e : Event} (h : FileInv s id) (hok : StepOk id s e) (ht : step s e=some t) : FileInv t id := by
  cases e with
  | downloadFile stream => exact download_inv h ht
  | block i payload => exact block_inv h hok ht
  | decompressed i ok => exact decompressed_inv h hok ht
  | done i => exact done_inv h hok ht
  | task i => exact task_inv h ht
  | flush i => exact flush_inv h ht
  | finish i => exact finish_inv h ht

def ownEvents (id waits : ℕ) (flushed : Bool) : List Event :=
  List.replicate waits (.task id)++(if flushed then [.finish id] else [.flush id,.finish id])

theorem ending_of (h : FileInv s id) (hload : s.transfers.load id=some tr)
    (hsaving : tr.saving=some v) : Ending s id tr v ∧ id < s.nextId := by
  cases h with
  | fresh _ hload' | complete _ hload' =>
    rw [hload] at hload'
    cases hload'
  | opened h tr' hload' hopen =>
    rw [hload] at hload'
    cases hload'
    rw [hopen.saving] at hsaving
    cases hsaving
  | ending h tr' hload' v' hend =>
    rw [hload] at hload'
    cases hload'
    rw [hend.saving] at hsaving
    cases hsaving
    exact ⟨hend,h⟩

theorem saved_of_gone (h : FileInv s id) (hload : s.transfers.load id=none) (hid : id < s.nextId) :
    savedOf id s=[(id,bytesOf id s.received)] := by
  cases h with
  | fresh h => omega
  | complete h hload' hended hidle hsaved => exact hsaved
  | opened _ _ hload' | ending _ _ hload' =>
    rw [hload] at hload'
    cases hload'

theorem finish_saves (h : FileInv s id) (hload : s.transfers.load id=some tr)
    (hsaving : tr.saving=some v) (hflushed : v.flushed=true) :
    ∃ u, step s (.finish id)=some u ∧ savedOf id u=[(id,bytesOf id s.received)] := by
  have hstep : step s (.finish id)=some (s.finishComplete id tr.written) := by
    simp [step,hload,hsaving,hflushed]
  exact ⟨_,hstep,saved_of_gone (finish_inv h hstep) (SyncMap.load_delete_self _ _) (ending_of h hload hsaving).2⟩

open Exec in
theorem ending_saves (h : FileInv s id) (hload : s.transfers.load id=some tr) (hsaving : tr.saving=some v) :
    ∃ u, exec step s (ownEvents id v.waits v.flushed)=some u ∧ savedOf id u=[(id,bytesOf id s.received)] := by
  induction hn : v.waits generalizing s tr v with
  | zero =>
    cases hflushed : v.flushed with
    | true =>
      obtain ⟨u,hstep,hsaved⟩:=finish_saves h hload hsaving hflushed
      refine ⟨u,?_,hsaved⟩
      simp [ownEvents,exec_cons,hstep,exec_nil]
    | false =>
      have hnext : tr.endIsNext=true := by simp [Transfer.endIsNext,hsaving,hn,hflushed]
      have hstep : step s (.flush id)=some {s with transfers := s.transfers.store id tr.flushEnd} := by
        simp [step,hload,hnext]
      have hsaving' : tr.flushEnd.saving=some {v with flushed := true} := by
        rw [Transfer.flushEnd,hsaving]
        rfl
      obtain ⟨u,hfinish,hsaved⟩:=finish_saves (flush_inv h hstep) (SyncMap.load_store_self _ _ _) hsaving' rfl
      refine ⟨u,?_,hsaved⟩
      simp [ownEvents,exec_cons,hstep,hfinish,exec_nil]
  | succ n ih =>
    have hend:=(ending_of h hload hsaving).1
    obtain ⟨bytes,rest,hchain⟩:=exists_cons_of_length_eq_add_one (hend.waits.trans hn)
    have hnext : tr.endIsNext=false := by simp [Transfer.endIsNext,hsaving,hn]
    have hstep : step s (.task id)=some {s with transfers := s.transfers.store id (tr.runTask bytes rest)} := by
      simp [step,hload,hnext,hchain]
    have hsaving' : (tr.runTask bytes rest).saving=some {v with waits := v.waits-1} := by
      rw [(runTask_fields tr bytes rest).2.2,hsaving]
      rfl
    obtain ⟨u,hexec,hsaved⟩:=ih (task_inv h hstep) (SyncMap.load_store_self _ _ _) hsaving'
      (by dsimp only; omega)
    refine ⟨u,?_,hsaved⟩
    rw [ownEvents,replicate_succ,cons_append,exec_cons,hstep,bind_some]
    exact hexec

/-- A file is saved at most once, with the contents of its blocks in the order in
which they came, when the peer has ended it and none of its blocks is being
decompressed; and a file that has ended is saved, at the latest when its chain
has run. -/
structure SavedRight (id : ℕ) (s : State) : Prop where
  once : savedOf id s=[] ∨
    savedOf id s=[(id,bytesOf id s.received)] ∧ id∈s.ended ∧ s.Idle id
  ended : id∈s.ended → ∃ es u, (∀ e∈es,e=.task id ∨ e=.flush id ∨ e=.finish id) ∧
    Exec.exec step s es=some u ∧ savedOf id u=[(id,bytesOf id s.received)]

theorem savedRight_of_inv (h : FileInv s id) : SavedRight id s := by
  cases h with
  | fresh _ _ hended _ _ hsaved | opened _ _ _ _ hended hsaved => exact ⟨.inl hsaved,fun hin => absurd hin hended⟩
  | complete h hload hended hidle hsaved =>
    exact ⟨.inr ⟨hsaved,hended,hidle⟩,fun _ => ⟨[],s,nofun,rfl,hsaved⟩⟩
  | ending h tr hload v hend hended hidle hsaved =>
    refine ⟨.inl hsaved,fun _ => ?_⟩
    obtain ⟨u,hexec,hu⟩:=ending_saves (.ending h tr hload v hend hended hidle hsaved) hload hend.saving
    refine ⟨ownEvents id v.waits v.flushed,u,fun e he => ?_,hexec,hu⟩
    rcases mem_append.mp he with he | he
    · exact .inl (eq_of_mem_replicate he)
    · cases hf : v.flushed with
      | true => simp_all
      | false => simp_all

open Exec in
/-- A file is saved right in every run that applies its blocks in the order in
which they came and ends it when none of them is being decompressed. -/
theorem downloads_saved (id : ℕ) (es : List Event) (hok : Along step (StepOk id) State.start es) (s : State)
    (h : exec step State.start es=some s) : SavedRight id s := by
  have hstart : FileInv State.start id := .fresh (Nat.zero_le _) rfl nofun nofun rfl rfl
  exact savedRight_of_inv (exec_invariant (FileInv · id) (fun s e t hs hok ht => step_inv hs hok ht) hstart hok h)

def twoFiles : List Event :=
  [.downloadFile false,.downloadFile true,.block 0 (.zstd [1]),.block 1 (.plain [9]),.decompressed 0 true,
    .block 0 (.plain [2]),.done 0,.done 1,.task 1,.flush 1,.finish 1]

theorem two_files_saved : ∃ s, Exec.exec step State.start twoFiles=some s ∧ SavedRight 0 s ∧ SavedRight 1 s ∧
      s.saved=[(0,[1,2]),(1,[9])] :=
  ⟨_,rfl,downloads_saved 0 twoFiles (by decide) _ rfl,downloads_saved 1 twoFiles (by decide) _ rfl,by decide⟩

/-- The end of a file does not wait for a block that is being decompressed. -/
theorem saved_without_first_block :
    ¬∀ (id : ℕ) (es : List Event) (s : State), Exec.exec step State.start es=some s → SavedRight id s := by
  intro h
  have hright:=h 0 [.downloadFile false,.block 0 (.zstd [1]),.block 0 (.plain [2]),.done 0] _ rfl
  rcases hright.once with hnone | ⟨hsaved,-,-⟩
  · exact absurd hnone (by decide)
  · exact absurd hsaved (by decide)

end BetterDesk.RdClient.Downloads
