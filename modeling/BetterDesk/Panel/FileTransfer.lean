import BetterDesk.Lib.Exec
import BetterDesk.Lib.Text

/-! # The file transfer relay (services/fileTransferService.js) -/

namespace BetterDesk.Panel.FileTransfer
open Exec Text List

def MAX_FILE_SIZE : ℤ := 4*1024*1024*1024
def TRANSFER_TIMEOUT_MS : ℤ := 30*60*1000

inductive Status
  | pending
  | active
  | completed
  | failed
  | cancelled
  deriving DecidableEq

/-- A record with the file at its `tempPath`; `listed` as long as it is in `transfers`. -/
structure Transfer where
  deviceId : String
  size : ℤ
  status : Status
  bytesTransferred : ℕ
  chunksReceived : ℕ
  updatedAt : ℤ
  file : Option Bytes
  listed : Bool
  deriving DecidableEq

def createTransfer (deviceId : String) (size now : ℤ) : Option Transfer :=
  if MAX_FILE_SIZE < size then none else some ⟨deviceId,size,.pending,0,0,now,none,true⟩

namespace Transfer
variable (t : Transfer)

def stopped : Bool := t.status=.cancelled||t.status=.failed

/-- A call that throws leaves the transfer as it is. -/
def receiveChunk (now chunkIndex : ℤ) (data : Bytes) : Transfer :=
  if !t.listed||t.stopped then t
  else
    let bytesTransferred:=t.bytesTransferred+data.length
    {t with
      status := if t.size≤bytesTransferred then .completed else if t.status=.pending then .active else t.status
      file := some (if chunkIndex=0 then data else t.file.getD []++data)
      bytesTransferred
      chunksReceived := t.chunksReceived+1
      updatedAt := now}

def cancelTransfer (now : ℤ) : Transfer :=
  if t.listed then {t with status := .cancelled,updatedAt := now,file := none} else t

def sweep (now : ℤ) : Transfer :=
  let t:=if t.listed&&t.status=.active&&TRANSFER_TIMEOUT_MS<now-t.updatedAt then
    {t with status := .failed,file := none} else t
  if (t.status=.completed||t.stopped)&&3600000<now-t.updatedAt then {t with listed := false} else t

end Transfer

/-- The messages of `handleWsMessage` that name a transfer. -/
inductive Message
  | chunk (chunkIndex : Option ℤ) (data : Bytes)
  | cancel

inductive Event
  | ws (deviceId : String) (message : Message)
  | receiveChunk (chunkIndex : ℤ) (data : Bytes)
  | cancelTransfer
  | timer

/-- `received` are the chunks of all calls so far. -/
structure System where
  transfer : Transfer
  received : List (ℤ × Bytes)

def System.receiveChunk (s : System) (now index : ℤ) (data : Bytes) : System :=
  ⟨s.transfer.receiveChunk now index data,s.received++[(index,data)]⟩

/-- `handleWsMessage` does not look at the device that sent a chunk or cancels. -/
def step (s : System) : ℤ × Event → Option System
  | (now,.ws _ (.chunk index data)) => some (s.receiveChunk now (index.getD 0) data)
  | (now,.receiveChunk index data) => some (s.receiveChunk now index data)
  | (now,.ws _ .cancel) | (now,.cancelTransfer) => some {s with transfer := s.transfer.cancelTransfer now}
  | (now,.timer) => some {s with transfer := s.transfer.sweep now}

/-- A completed file has the declared size and is put together from its chunks. -/
def Assembled (s : System) : Prop := s.transfer.status=.completed → ∃ chunks : List Bytes,
  s.transfer.file=some chunks.flatten ∧ (chunks.flatten.length : ℤ)=s.transfer.size ∧
    ∀ i : ℕ, ∀ data, chunks[i]?=some data → ((i : ℤ),data)∈s.received

def foreign (s : System) : Event → Bool
  | .ws deviceId _ => deviceId≠s.transfer.deviceId
  | _ => false

structure Untouched (s : System) (e : ℤ × Event) (t : System) : Prop where
  completed : s.transfer.status=.completed → t.transfer.file=s.transfer.file ∧ t.transfer.status=.completed
  others : foreign s e.2=true → t.transfer=s.transfer

/-- A chunk that is taken is the next one, and within the declared size. -/
def Next (s : System) (index : ℤ) (data : Bytes) : Prop :=
  s.transfer.listed=true → s.transfer.stopped=false → s.transfer.status≠.completed ∧
    index=s.transfer.chunksReceived ∧ ((s.transfer.bytesTransferred+data.length : ℕ) : ℤ) ≤ s.transfer.size

def InOrder (s : System) : ℤ × Event → Prop
  | (_,.ws deviceId (.chunk index data)) => Next s (index.getD 0) data ∧
    (s.transfer.listed=true → s.transfer.stopped=false → deviceId=s.transfer.deviceId)
  | (_,.receiveChunk index data) => Next s index data
  | (_,.ws deviceId .cancel) => s.transfer.listed=true →
    s.transfer.status≠.completed ∧ deviceId=s.transfer.deviceId
  | (_,.cancelTransfer) => s.transfer.listed=true → s.transfer.status≠.completed
  | (_,.timer) => True

/-- Unless it has been given up, the transfer has the chunks `0, 1, …` in its file. -/
def Inv (s : System) : Prop := s.transfer.stopped=false → ∃ chunks : List Bytes,
  chunks.length=s.transfer.chunksReceived ∧ chunks.flatten.length=s.transfer.bytesTransferred ∧
    (chunks=[] ∨ s.transfer.file=some chunks.flatten) ∧
    (∀ i : ℕ, ∀ data, chunks[i]?=some data → ((i : ℤ),data)∈s.received) ∧
    (s.transfer.status=.completed → chunks≠[] ∧ (chunks.flatten.length : ℤ)=s.transfer.size)

variable {s t : System} {now index : ℤ} {data : Bytes}

theorem Inv.assembled (h : Inv s) : Assembled s := by
  intro hc
  obtain ⟨chunks,-,-,hfile,hreceived,hdone⟩:=h (by simp [Transfer.stopped,hc])
  exact ⟨chunks,hfile.resolve_left (hdone hc).1,(hdone hc).2,hreceived⟩

theorem Inv.receiveChunk (h : Inv s) (hnext : Next s index data) : Inv (s.receiveChunk now index data) := by
  have hlog (i : ℕ) (d : Bytes) (hi : ((i : ℤ),d)∈s.received) : ((i : ℤ),d)∈s.received++[(index,data)] :=
    mem_append_left _ hi
  by_cases hopen : s.transfer.listed=true ∧ s.transfer.stopped=false
  · obtain ⟨hlisted,hstopped⟩:=hopen
    obtain ⟨chunks,hcount,hbytes,hfile,hreceived,-⟩:=h hstopped
    obtain ⟨-,hindex,hsize⟩:=hnext hlisted hstopped
    have hnew : (s.transfer.receiveChunk now index data).file=some (chunks++[data]).flatten := by
      simp only [Transfer.receiveChunk,hlisted,hstopped,Bool.not_true,Bool.or_self,Bool.false_eq_true,if_false,
        flatten_append,flatten_singleton]
      rcases hfile with rfl | hfile
      · rw [if_pos (by simpa [← hcount] using hindex)]
        rfl
      · by_cases hzero : index=0
        · have hnil : chunks=[] := length_eq_zero_iff.mp (by omega)
          rw [if_pos hzero,hnil]
          rfl
        · rw [if_neg hzero,hfile]
          rfl
    refine fun _ => ⟨chunks++[data],?_,?_,.inr hnew,fun i d hi => ?_,fun hdone => ⟨by simp,?_⟩⟩
    · simp [System.receiveChunk,Transfer.receiveChunk,hlisted,hstopped,hcount]
    · simp [System.receiveChunk,Transfer.receiveChunk,hlisted,hstopped,← hbytes]
    · rw [getElem?_append] at hi
      split at hi
      · exact hlog i d (hreceived i d hi)
      · rename_i hge
        have hlast : i=chunks.length ∧ d=data := by
          rw [getElem?_singleton] at hi
          split at hi <;> simp_all
          omega
        rw [hlast.1,hlast.2,hcount,← hindex]
        exact mem_append_right _ mem_cons_self
    · -- the count has come to the size, and the condition keeps it from passing it
      have hreached : s.transfer.size≤((s.transfer.bytesTransferred+data.length : ℕ) : ℤ) := by
        by_contra hlt
        have hnot : s.transfer.status≠.completed := (hnext hlisted hstopped).1
        simp only [System.receiveChunk,Transfer.receiveChunk,hlisted,hstopped,Bool.not_true,Bool.or_self,
          Bool.false_eq_true,if_false,if_neg hlt] at hdone
        split at hdone
        · cases hdone
        · exact hnot hdone
      simp only [System.receiveChunk,Transfer.receiveChunk,hlisted,hstopped,Bool.not_true,Bool.or_self,
        Bool.false_eq_true,if_false,flatten_append,flatten_singleton,length_append,hbytes]
      omega
  · have hsame : s.transfer.receiveChunk now index data=s.transfer := by
      rw [Transfer.receiveChunk,if_pos]
      cases hl : s.transfer.listed <;> cases hs : s.transfer.stopped <;> simp_all
    intro hstopped
    rw [System.receiveChunk,hsame] at hstopped ⊢
    obtain ⟨chunks,hcount,hbytes,hfile,hreceived,hdone⟩:=h hstopped
    exact ⟨chunks,hcount,hbytes,hfile,fun i d hi => hlog i d (hreceived i d hi),hdone⟩

theorem Inv.cancel (h : Inv s) : Inv {s with transfer := s.transfer.cancelTransfer now} := by
  unfold Transfer.cancelTransfer
  split
  · exact fun hs => absurd hs (by simp [Transfer.stopped])
  · exact h

theorem Inv.sweep (h : Inv s) : Inv {s with transfer := s.transfer.sweep now} := by
  unfold Transfer.sweep
  dsimp only
  split
  · split <;> exact fun hs => absurd hs (by simp [Transfer.stopped])
  · split <;> exact h

theorem step_inv {e : ℤ × Event} (h : Inv s) (hok : InOrder s e) (ht : step s e=some t) : Inv t := by
  obtain ⟨now,e⟩:=e
  cases e with
  | ws deviceId m =>
    cases m with
    | chunk index data =>
      cases ht
      exact h.receiveChunk hok.1
    | cancel =>
      cases ht
      exact h.cancel
  | receiveChunk index data =>
    cases ht
    exact h.receiveChunk hok
  | cancelTransfer =>
    cases ht
    exact h.cancel
  | timer =>
    cases ht
    exact h.sweep

theorem receiveChunk_untouched (hnext : Next s index data) (hc : s.transfer.status=.completed) :
    s.transfer.receiveChunk now index data=s.transfer := by
  have hstopped : s.transfer.stopped=false := by simp [Transfer.stopped,hc]
  cases hl : s.transfer.listed with
  | true => exact absurd hc (hnext hl hstopped).1
  | false => simp [Transfer.receiveChunk,hl]

theorem cancel_untouched (h : s.transfer.listed=true → s.transfer.status≠.completed)
    (hc : s.transfer.status=.completed) : s.transfer.cancelTransfer now=s.transfer := by
  cases hl : s.transfer.listed with
  | true => exact absurd hc (h hl)
  | false => simp [Transfer.cancelTransfer,hl]

theorem step_untouched {e : ℤ × Event} (hok : InOrder s e) (ht : step s e=some t) : Untouched s e t := by
  obtain ⟨now,e⟩:=e
  cases e with
  | ws deviceId m =>
    cases m with
    | chunk index data =>
      cases ht
      refine ⟨fun hc => ?_,fun hf => ?_⟩
      · simp [System.receiveChunk,receiveChunk_untouched hok.1 hc,hc]
      · have hclosed : (!s.transfer.listed||s.transfer.stopped)=true := by
          cases hl : s.transfer.listed <;> cases hs : s.transfer.stopped <;> simp
          exact absurd (hok.2 hl hs) (by simpa [foreign] using hf)
        simp [System.receiveChunk,Transfer.receiveChunk,hclosed]
    | cancel =>
      cases ht
      refine ⟨fun hc => ?_,fun hf => ?_⟩
      · simp [cancel_untouched (fun hl => (hok hl).1) hc,hc]
      · cases hl : s.transfer.listed with
        | true => exact absurd (hok hl).2 (by simpa [foreign] using hf)
        | false => simp [Transfer.cancelTransfer,hl]
  | receiveChunk index data =>
    cases ht
    refine ⟨fun hc => ?_,fun hf => (by cases hf)⟩
    simp [System.receiveChunk,receiveChunk_untouched hok hc,hc]
  | cancelTransfer =>
    cases ht
    refine ⟨fun hc => ?_,fun hf => (by cases hf)⟩
    simp [cancel_untouched hok hc,hc]
  | timer =>
    cases ht
    refine ⟨fun hc => ?_,fun hf => (by cases hf)⟩
    simp only [Transfer.sweep,hc,reduceCtorEq,decide_false,Bool.and_false,Bool.false_and,Bool.false_eq_true,if_false]
    split
    · exact ⟨rfl,rfl⟩
    · exact ⟨rfl,hc⟩

/-- In every run of these steps, what is completed is the file that was sent, and it stays. -/
theorem files_received {deviceId : String} {size now : ℤ} {transfer : Transfer}
    (hnew : createTransfer deviceId size now=some transfer) {es : List (ℤ × Event)}
    (hok : Along step InOrder ⟨transfer,[]⟩ es) :
    (∀ pre, pre <+: es → ∀ s, exec step ⟨transfer,[]⟩ pre=some s → Assembled s) ∧
      Along step (fun s e => ∀ t, step s e=some t → Untouched s e t) ⟨transfer,[]⟩ es := by
  have hinit : Inv ⟨transfer,[]⟩ := by
    unfold createTransfer at hnew
    split at hnew <;> cases hnew
    exact fun _ => ⟨[],rfl,rfl,.inl rfl,fun i d hi => (by cases hi),fun hc => (by cases hc)⟩
  refine ⟨fun pre ⟨post,hpre⟩ s hs => ?_,hok.mono fun s e he t => step_untouched he⟩
  exact (exec_invariant Inv (fun s e t => step_inv) hinit (hpre ▸ hok).before hs).assembled

def ofDevice (deviceId : String) (index : ℤ) (data : Bytes) : ℤ × Event :=
  (0,.ws deviceId (.chunk (some index) data))

theorem files_received_whole : ∃ s, exec step ⟨⟨"device-1",3,.pending,0,0,0,none,true⟩,[]⟩
    [ofDevice "device-1" 0 [1,2],ofDevice "device-1" 1 [3]]=some s ∧ Assembled s := by
  have hok : Along step InOrder ⟨⟨"device-1",3,.pending,0,0,0,none,true⟩,[]⟩
      [ofDevice "device-1" 0 [1,2],ofDevice "device-1" 1 [3]] := by
    refine ⟨⟨fun _ _ => by decide,fun _ _ => rfl⟩,fun t ht => ?_⟩
    cases ht
    exact ⟨⟨fun _ _ => by decide,fun _ _ => rfl⟩,fun t ht => trivial⟩
  exact ⟨_,rfl,(files_received (rfl : createTransfer "device-1" 3 0=some _) hok).1 _ (prefix_refl _) _ rfl⟩

/-- The first chunk is sent again: it is counted twice and stored once. -/
theorem files_not_received : ¬ ∀ (deviceId : String) (size now : ℤ) (transfer : Transfer) (es : List (ℤ × Event)),
    createTransfer deviceId size now=some transfer →
    (∀ pre, pre <+: es → ∀ s, exec step ⟨transfer,[]⟩ pre=some s → Assembled s) ∧
      Along step (fun s e => ∀ t, step s e=some t → Untouched s e t) ⟨transfer,[]⟩ es := by
  intro h
  obtain ⟨chunks,hfile,hsize,-⟩:=(h "device-1" 2 0 _ [ofDevice "device-1" 0 [1],ofDevice "device-1" 0 [1]] rfl).1 _
    (prefix_refl _) _ rfl rfl
  rw [← Option.some.inj hfile] at hsize
  exact absurd hsize (by decide)

end BetterDesk.Panel.FileTransfer
