import BetterDesk.Lib.Exec
import BetterDesk.Lib.Text

/-! # Uploads of the browser client (public/js/rdclient/filetransfer.js) -/

namespace BetterDesk.RdClient.FileUpload
open Exec List Option Function
open Text (Bytes)

def BLOCK_SIZE : ℕ := 131072

def computeOffsetBlk (transferredSize blockSize : ℕ) : ℕ := transferredSize/blockSize

inductive Status where
  | pending | transferring | cancelled | error | complete
deriving DecidableEq

/-- What an upload sends, and between it what it is told: the offset that a stream begins at, an
end by the user, the peer or a failure, and that the user resumes it. -/
inductive Item where
  | receive
  | digest (isResume : Bool) (transferredSize : ℕ)
  | sendConfirm (fileNum : ℕ) (skip : Bool)
  | cancel
  | block (fileNum blkId : ℕ) (data : Bytes)
  | done (fileNum : ℕ)
  | agreed (offset : ℕ)
  | ended
  | resumed
deriving DecidableEq

/-- A running `_sendUploadBlocks`: it waits for a block, or pauses after one. -/
structure Loop where
  offset : ℕ
  blkId : ℕ
  paused : Bool

/-- A transfer of type `upload`. -/
structure Upload where
  file : Bytes
  folderJob : Bool
  registered : Bool
  status : Status
  fileNum : ℕ
  sentBytes : ℕ
  resumable : Bool
  stallTimer : Bool
  runs : List Bool
  pendingOverwrite : Option ℕ
  loops : List Loop
  history : List Item

namespace Upload

/-- `uploadFile` -/
def begin (file : Bytes) (folderJob : Bool) : Upload :=
  { file,folderJob
    registered := true
    status := .pending
    fileNum := 0
    sentBytes := 0
    resumable := false
    stallTimer := false
    runs := [false]
    pendingOverwrite := none
    loops := []
    history := []}

def log (u : Upload) (item : Item) : Upload := {u with history := u.history++[item]}

/-- The `catch` of `_sendUploadBlocks`. -/
def loopFailed (u : Upload) : Upload :=
  let resumable := !u.folderJob&&0<u.sentBytes&&u.sentBytes<u.file.length
  {u with status := .error,resumable,registered := u.registered&&resumable}.log .ended

def iterate (u : Upload) (offset blkId : ℕ) (doneOk : Bool) : Upload :=
  if offset<u.file.length ∧ u.status=.transferring then {u with loops := u.loops++[⟨offset,blkId,false⟩]}
  else if u.status=.transferring then if doneOk then u.log (.done u.fileNum) else u.loopFailed
  else u

/-- `_sendUploadBlocks` up to its first `await`. -/
def sendUploadBlocks (u : Upload) (startOffset : ℕ) (doneOk : Bool) : Upload :=
  (u.log (.agreed startOffset)).iterate startOffset (computeOffsetBlk startOffset BLOCK_SIZE) doneOk

def blockAt (file : Bytes) (offset : ℕ) : Bytes := (file.drop offset).take (min (offset+BLOCK_SIZE) file.length-offset)

def sendBlock (u : Upload) (offset blkId stop : ℕ) : Upload :=
  {u.log (.block u.fileNum blkId (blockAt u.file offset)) with sentBytes := stop}

def afterBlock (u : Upload) (stop blkId : ℕ) (doneOk : Bool) : Upload :=
  if blkId%64=0 then {u with loops := u.loops++[⟨stop,blkId,true⟩]} else u.iterate stop blkId doneOk

/-- A block has been read and compressed; `u` no longer lists the loop. -/
def blockReady (u : Upload) (loop : Loop) (doneOk : Bool) : Upload :=
  let stop:=min (loop.offset+BLOCK_SIZE) u.file.length
  (u.sendBlock loop.offset loop.blkId stop).afterBlock stop (loop.blkId+1) doneOk

def leave (u : Upload) : Upload := {u with registered := false}.log .ended

def proceedUpload (u : Upload) (fileNum : ℕ) (skip doneOk : Bool) : Upload :=
  let u:=u.log (.sendConfirm fileNum skip)
  if skip then u.leave else u.sendUploadBlocks u.sentBytes doneOk

def heard (u : Upload) (fileNum : ℕ) : Upload := {u with stallTimer := false,fileNum}

def inTransfer (u : Upload) : Upload := {u with status := .transferring}

structure Digest where
  fileNum : ℕ
  isUpload : Bool
  isIdentical : Bool

/-- `sendOk`: the confirmation can be sent. -/
def handleDigest (u : Upload) (overwriteStrategy : Option Bool) (d : Digest) (sendOk doneOk : Bool) : Upload :=
  if !u.registered then u
  else
    let u:=(u.heard d.fileNum).inTransfer
    if !d.isUpload then u
    else if d.isIdentical then if sendOk then (u.log (.sendConfirm d.fileNum true)).leave else u
    else match overwriteStrategy with
      | some skip => if sendOk then u.proceedUpload d.fileNum skip doneOk else u
      | none => {u with pendingOverwrite := some d.fileNum}

def handleSendConfirm (u : Upload) (fileNum offsetBlk : ℕ) (skip doneOk : Bool) : Upload :=
  if !u.registered then u
  else
    let u:=u.heard fileNum
    if skip then u.leave
    else
      let startOffset := if 0<offsetBlk then offsetBlk*BLOCK_SIZE else u.sentBytes
      u.inTransfer.sendUploadBlocks startOffset doneOk

def handleDone (u : Upload) : Upload :=
  if !u.registered then u else {u with stallTimer := false,status := .complete,registered := false}.log .ended

def handleError (u : Upload) : Upload :=
  if !u.registered then u
  else
    let resumable := !u.folderJob&&0<u.sentBytes
    {u with stallTimer := false,status := .error,resumable,registered := resumable}.log .ended

def confirmOverwrite (u : Upload) (skip sendOk doneOk : Bool) : Upload := match u.pendingOverwrite with
  | none => u
  | some fileNum =>
    let u:={u with pendingOverwrite := none}
    if sendOk then u.proceedUpload fileNum skip doneOk else u

def cancelTransfer (u : Upload) : Upload :=
  if !u.registered then u
  else (({u with status := .cancelled,stallTimer := false,registered := false}.log .cancel).log .ended)

def resumeTransfer (u : Upload) : Upload :=
  if !u.registered||!u.resumable then u
  else {u with status := .pending,resumable := false,runs := u.runs++[true]}.log .resumed

def failTransfer (u : Upload) : Upload :=
  if !u.registered then u else {u with stallTimer := false}.leave

/-- The request of `uploadFile` or of `resumeTransfer`, and `_armTransferTimeout`. -/
def run (u : Upload) (resume ok : Bool) : Upload :=
  if !ok then u.failTransfer
  else
    let isResume:=resume&&0<u.sentBytes
    let u := if isResume then u else u.log .receive
    {u.log (.digest isResume u.sentBytes) with stallTimer := u.registered}

def stall (u : Upload) : Upload :=
  let u:={u with stallTimer := false}
  if !u.registered||u.status ≠ .pending then u
  else
    let resumable:=decide (0<u.sentBytes)
    {u with status := .error,resumable,registered := resumable}.log .ended

end Upload

/-- `i` is a running loop, or a request that waits for the connection. -/
inductive Act where
  | connected (i : ℕ) (ok : Bool)
  | digest (d : Upload.Digest) (sendOk doneOk : Bool)
  | confirm (fileNum offsetBlk : ℕ) (skip doneOk : Bool)
  | done
  | error
  | blockReady (i : ℕ) (ok doneOk : Bool)
  | wake (i : ℕ) (doneOk : Bool)
  | confirmOverwrite (skip applyToAll sendOk doneOk : Bool)
  | cancel
  | resume
  | stall

def Upload.act (u : Upload) (overwriteStrategy : Option Bool) : Act → Option Upload
  | .connected i ok => u.runs[i]?.map fun resume => {u with runs := u.runs.eraseIdx i}.run resume ok
  | .digest d sendOk doneOk => some (u.handleDigest overwriteStrategy d sendOk doneOk)
  | .confirm fileNum offsetBlk skip doneOk => some (u.handleSendConfirm fileNum offsetBlk skip doneOk)
  | .done => some u.handleDone
  | .error => some u.handleError
  | .blockReady i ok doneOk => u.loops[i]?.bind fun loop =>
    let u:={u with loops := u.loops.eraseIdx i}
    if loop.paused then none else some (if ok then u.blockReady loop doneOk else u.loopFailed)
  | .wake i doneOk => u.loops[i]?.bind fun loop =>
    let u:={u with loops := u.loops.eraseIdx i}
    if loop.paused then some (u.iterate loop.offset loop.blkId doneOk) else none
  | .confirmOverwrite skip _ sendOk doneOk => some (u.confirmOverwrite skip sendOk doneOk)
  | .cancel => some u.cancelTransfer
  | .resume => some u.resumeTransfer
  | .stall => if u.stallTimer then some u.stall else none

/-- `RDFileTransfer` -/
structure State where
  nextId : ℕ
  overwriteStrategy : Option Bool
  uploads : ℕ → Option Upload

def start : State := ⟨1,none,fun _ => none⟩

inductive Event where
  | uploadFile (file : Bytes) (folderJob : Bool)
  | act (id : ℕ) (a : Act)

def strategyAfter (overwriteStrategy : Option Bool) (u : Upload) : Act → Option Bool
  | .confirmOverwrite skip true _ _ => if u.pendingOverwrite.isSome then some skip else overwriteStrategy
  | _ => overwriteStrategy

def step (s : State) : Event → Option State
  | .uploadFile file folderJob => some {s with
      nextId := s.nextId+1
      uploads := update s.uploads s.nextId (some (.begin file folderJob))}
  | .act id a => (s.uploads id).bind fun u => (u.act s.overwriteStrategy a).map fun v => {s with
      overwriteStrategy := strategyAfter s.overwriteStrategy u a
      uploads := update s.uploads id (some v)}

/-- Where an upload stands: no stream is agreed, the blocks from an offset on are still to be
sent, all is sent, or it has been stopped. -/
inductive Phase where
  | waiting
  | streaming (next : ℕ)
  | finished
  | stopped
deriving DecidableEq

/-- What an upload may send: in a stream the next block of the file, after the last of them one
`done`, nothing before and nothing after it. -/
def Phase.next (file : Bytes) : Phase → Item → Option Phase
  | .waiting, .agreed offset => some (.streaming offset)
  | .stopped, .resumed => some .waiting
  | _, .ended => some .stopped
  | .streaming offset, .block _ blkId data =>
    if offset<file.length ∧ blkId=offset/BLOCK_SIZE ∧ data=Upload.blockAt file offset then
      some (.streaming (offset+data.length))
    else none
  | .streaming offset, .done _ => if file.length≤offset then some .finished else none
  | _, .block .. => none
  | _, .done _ => none
  | p, _ => some p

def Upload.phase (u : Upload) : Option Phase := u.history.foldlM (Phase.next u.file) .waiting

def Upload.Ok (u : Upload) : Prop := ∃ p, u.phase=some p ∧ ∀ offset, p=.streaming offset → u.loops≠[]

def Upload.reading (u : Upload) : Bool := u.loops.any fun loop => !loop.paused

def Upload.quiet (u : Upload) : Bool := !u.reading&&(u.status ≠ .transferring||u.loops.isEmpty)

def Upload.fresh (u : Upload) : Bool := u.phase=some .waiting&&u.loops.isEmpty

def Upload.mayProceed (u : Upload) (skip : Bool) : Bool :=
  if skip then u.quiet
  else u.fresh&&u.status=.transferring||u.phase=some .stopped&&u.status ≠ .transferring

def Upload.actOk (u : Upload) (overwriteStrategy : Option Bool) : Act → Bool
  | .connected _ ok => ok||!u.registered||u.quiet
  | .digest d sendOk _ => !u.registered ||
    -- a loop that pauses in a stopped upload would go on
    ((u.status=.transferring||u.loops.isEmpty)&&(!d.isUpload||!sendOk ||
      if d.isIdentical then u.loops.isEmpty
      else match overwriteStrategy with
        | none => true
        | some true => u.loops.isEmpty
        | some false => u.fresh))
  | .confirm _ _ skip _ => !u.registered || if skip then u.quiet else u.fresh
  | .done | .error | .cancel => !u.registered||!u.reading
  | .confirmOverwrite skip _ sendOk _ => u.pendingOverwrite.isNone||!sendOk||u.mayProceed skip
  | .blockReady .. | .wake .. | .resume | .stall => true

def stepOk (s : State) : Event → Bool
  | .uploadFile .. => true
  | .act id a => (s.uploads id).all fun u => u.actOk s.overwriteStrategy a

variable {u v : Upload} {p : Phase}

inductive Shape (u : Upload) (p : Phase) : Prop where
  | idle (loops : u.loops=[]) (phase : ∀ offset, p ≠ .streaming offset)
  | active (loop : Loop) (loops : u.loops=[loop]) (phase : p=.streaming loop.offset)
      (status : u.status=.transferring) (reads : loop.paused=false → loop.offset<u.file.length)
      (blkId : loop.offset<u.file.length → loop.blkId=loop.offset/BLOCK_SIZE)
  | stale (loop : Loop) (loops : u.loops=[loop]) (paused : loop.paused=true)
      (phase : p=.waiting ∨ p=.stopped) (status : u.status ≠ .transferring)

/-- At most one loop runs; it sends the stream that is agreed, or it pauses and will stop. -/
structure Inv (u : Upload) (p : Phase) : Prop where
  phase : u.phase=some p
  shape : Shape u p
  resumable : u.resumable=true → p=.stopped

theorem Inv.ok (h : Inv u p) : u.Ok := by
  refine ⟨p,h.phase,fun offset hp => ?_⟩
  cases h.shape with
  | idle _ hphase => exact absurd hp (hphase offset)
  | active _ hloops | stale _ hloops => simp [hloops]

theorem phase_log (h : u.phase=some p) (item : Item) : (u.log item).phase=p.next u.file item := by
  simp only [Upload.phase,Upload.log,foldlM_append] at h ⊢
  rw [h]
  simp

theorem phase_ended (h : u.phase=some p) : (u.log .ended).phase=some .stopped := by
  rw [phase_log h]
  cases p <;> rfl

theorem not_reading (h : Inv u p) (hr : u.reading=false) : u.loops=[] ∨ ∃ loop, u.loops=[loop] ∧ loop.paused=true := by
  cases h.shape with
  | idle hloops => exact .inl hloops
  | active loop hloops =>
    right
    refine ⟨loop,hloops,?_⟩
    simpa [Upload.reading,hloops] using hr
  | stale loop hloops hpaused => exact .inr ⟨loop,hloops,hpaused⟩

theorem of_quiet (h : Inv u p) (hq : u.quiet=true) :
    u.loops=[] ∨ ∃ loop, u.loops=[loop] ∧ loop.paused=true ∧ u.status ≠ .transferring := by
  simp only [Upload.quiet,Bool.and_eq_true,Bool.not_eq_true',Bool.or_eq_true,decide_eq_true_eq,
    List.isEmpty_iff] at hq
  cases not_reading h hq.1 with
  | inl hloops => exact .inl hloops
  | inr hpaused =>
    obtain ⟨loop,hloops,hp⟩:=hpaused
    cases hq.2 with
    | inl hstatus => exact .inr ⟨loop,hloops,hp,hstatus⟩
    | inr hnone => exact .inl hnone

theorem quiet_of_loops (h : u.loops=[]) : u.quiet=true := by
  simp [Upload.quiet,Upload.reading,h]

theorem of_fresh (h : Inv u p) (hf : u.fresh=true) : p=.waiting ∧ u.loops=[] := by
  simp only [Upload.fresh,Bool.and_eq_true,decide_eq_true_eq,List.isEmpty_iff] at hf
  rw [h.phase] at hf
  exact ⟨Option.some.inj hf.1,hf.2⟩

theorem inv_ended (hphase : u.phase=some p)
    (hloops : u.loops=[] ∨ ∃ loop, u.loops=[loop] ∧ loop.paused=true ∧ u.status ≠ .transferring) :
    Inv (u.log .ended) .stopped := by
  refine ⟨phase_ended hphase,?_,fun _ => rfl⟩
  cases hloops with
  | inl hnone =>
    refine .idle hnone fun offset h => ?_
    cases h
  | inr hpaused =>
    obtain ⟨loop,hloops,hp,hstatus⟩:=hpaused
    exact .stale loop hloops hp (.inr rfl) hstatus

theorem inv_loopFailed (hphase : u.phase=some p) (hloops : u.loops=[]) : Inv u.loopFailed .stopped := by
  unfold Upload.loopFailed
  exact inv_ended (p := p) hphase (.inl hloops)

theorem inv_iterate {offset blkId : ℕ} (hphase : u.phase=some (.streaming offset)) (hloops : u.loops=[])
    (hstatus : u.status=.transferring) (hres : u.resumable=false)
    (hblk : offset<u.file.length → blkId=offset/BLOCK_SIZE) (doneOk : Bool) :
    ∃ q, Inv (u.iterate offset blkId doneOk) q := by
  unfold Upload.iterate
  by_cases hlt : offset<u.file.length
  · rw [if_pos ⟨hlt,hstatus⟩]
    refine ⟨.streaming offset,hphase,?_,fun h => ?_⟩
    · refine .active ⟨offset,blkId,false⟩ ?_ rfl hstatus (fun _ => hlt) hblk
      show u.loops++[_]=[_]
      rw [hloops]
      rfl
    · have h' : u.resumable=true := h
      rw [hres] at h'
      cases h'
  · rw [if_neg fun h => hlt h.1,if_pos hstatus]
    cases doneOk with
    | true =>
      refine ⟨.finished,?_,.idle hloops (fun n h => by cases h),fun h => ?_⟩
      · rw [if_pos rfl,phase_log hphase,Phase.next,if_pos (Nat.le_of_not_lt hlt)]
      · have h' : u.resumable=true := h
        rw [hres] at h'
        cases h'
    | false => exact ⟨.stopped,inv_loopFailed hphase hloops⟩

theorem inv_sendUploadBlocks (hphase : u.phase=some .waiting) (hloops : u.loops=[])
    (hstatus : u.status=.transferring) (hres : u.resumable=false) (startOffset : ℕ) (doneOk : Bool) :
    ∃ q, Inv (u.sendUploadBlocks startOffset doneOk) q := by
  have hlog : (u.log (.agreed startOffset)).phase=some (.streaming startOffset) := phase_log hphase _
  exact inv_iterate hlog hloops hstatus hres (fun _ => rfl) doneOk

theorem iterate_of_status (h : u.status ≠ .transferring) (offset blkId : ℕ) (doneOk : Bool) :
    u.iterate offset blkId doneOk=u := by
  rw [Upload.iterate,if_neg fun hc => h hc.2,if_neg h]

theorem sendUploadBlocks_of_status (h : u.status ≠ .transferring) (startOffset : ℕ) (doneOk : Bool) :
    u.sendUploadBlocks startOffset doneOk=u.log (.agreed startOffset) :=
  iterate_of_status (u := u.log (.agreed startOffset)) h _ _ doneOk

theorem length_blockAt (file : Bytes) (offset : ℕ) :
    (Upload.blockAt file offset).length=min (offset+BLOCK_SIZE) file.length-offset := by
  simp only [Upload.blockAt,length_take,length_drop]
  omega

theorem phase_sendBlock {offset blkId stop : ℕ} (hphase : u.phase=some (.streaming offset))
    (hlt : offset<u.file.length) (hblk : blkId=offset/BLOCK_SIZE)
    (hstop : stop=offset+(Upload.blockAt u.file offset).length) :
    (u.sendBlock offset blkId stop).phase=some (.streaming stop) := by
  have hblock:=phase_log hphase (.block u.fileNum blkId (Upload.blockAt u.file offset))
  rw [Phase.next,if_pos ⟨hlt,hblk,rfl⟩,← hstop] at hblock
  exact hblock

theorem block_stop {file : Bytes} {offset : ℕ} (hlt : offset<file.length) :
    min (offset+BLOCK_SIZE) file.length=offset+(Upload.blockAt file offset).length := by
  rw [length_blockAt]
  omega

theorem block_next {file : Bytes} {offset blkId : ℕ} (hblk : blkId=offset/BLOCK_SIZE)
    (hmore : min (offset+BLOCK_SIZE) file.length<file.length) :
    blkId+1=min (offset+BLOCK_SIZE) file.length/BLOCK_SIZE := by
  have hmin : min (offset+BLOCK_SIZE) file.length=offset+BLOCK_SIZE := by omega
  rw [hmin,Nat.add_div_right _ (by decide),hblk]

theorem inv_afterBlock {stop blkId : ℕ} (hphase : u.phase=some (.streaming stop)) (hloops : u.loops=[])
    (hstatus : u.status=.transferring) (hres : u.resumable=false)
    (hblk : stop<u.file.length → blkId=stop/BLOCK_SIZE) (doneOk : Bool) :
    ∃ q, Inv (u.afterBlock stop blkId doneOk) q := by
  unfold Upload.afterBlock
  split
  · refine ⟨.streaming stop,hphase,?_,fun h => ?_⟩
    · refine .active ⟨stop,blkId,true⟩ ?_ rfl hstatus (fun h => by cases h) hblk
      show u.loops++[_]=[_]
      rw [hloops]
      rfl
    · have h' : u.resumable=true := h
      rw [hres] at h'
      cases h'
  · exact inv_iterate hphase hloops hstatus hres hblk doneOk

theorem blockReady_eq (u : Upload) (loop : Loop) (doneOk : Bool) : u.blockReady loop doneOk =
    (u.sendBlock loop.offset loop.blkId (min (loop.offset+BLOCK_SIZE) u.file.length)).afterBlock
      (min (loop.offset+BLOCK_SIZE) u.file.length) (loop.blkId+1) doneOk := rfl

theorem inv_sent {offset blkId stop : ℕ} (hphase : u.phase=some (.streaming offset)) (hloops : u.loops=[])
    (hstatus : u.status=.transferring) (hres : u.resumable=false) (hlt : offset<u.file.length)
    (hblk : blkId=offset/BLOCK_SIZE) (hstop : stop=offset+(Upload.blockAt u.file offset).length)
    (hnext : stop<u.file.length → blkId+1=stop/BLOCK_SIZE) (doneOk : Bool) :
    ∃ q, Inv ((u.sendBlock offset blkId stop).afterBlock stop (blkId+1) doneOk) q :=
  inv_afterBlock (phase_sendBlock hphase hlt hblk hstop) hloops hstatus hres hnext doneOk

theorem inv_blockReady {loop : Loop} (hphase : u.phase=some (.streaming loop.offset)) (hloops : u.loops=[])
    (hstatus : u.status=.transferring) (hres : u.resumable=false) (hlt : loop.offset<u.file.length)
    (hblk : loop.blkId=loop.offset/BLOCK_SIZE) (doneOk : Bool) : ∃ q, Inv (u.blockReady loop doneOk) q := by
  rw [blockReady_eq]
  exact inv_sent hphase hloops hstatus hres hlt hblk (block_stop hlt) (block_next hblk) doneOk

theorem inv_leave (h : Inv u p) (hq : u.quiet=true) : Inv u.leave .stopped := by
  have hloops:=of_quiet h hq
  exact inv_ended (u := {u with registered := false}) h.phase hloops

theorem Inv.congr (h : Inv u p) (hfile : v.file=u.file) (hhistory : v.history=u.history) (hloops : v.loops=u.loops)
    (hstatus : v.status=u.status) (hres : v.resumable=u.resumable) : Inv v p := by
  constructor
  · rw [Upload.phase,hfile,hhistory]
    exact h.phase
  · cases h.shape with
    | idle hl hp => exact .idle (hloops.trans hl) hp
    | active loop hl hp hs hreads hblk =>
      exact .active loop (hloops.trans hl) hp (hstatus.trans hs) (by rw [hfile]; exact hreads) (by rw [hfile]; exact hblk)
    | stale loop hl hpaused hp hs =>
      refine .stale loop (hloops.trans hl) hpaused hp ?_
      rw [hstatus]
      exact hs
  · rw [hres]
    exact h.resumable

theorem Inv.message (h : Inv u p) {item : Item} (hitem : p.next u.file item=some p) : Inv (u.log item) p := by
  refine ⟨(phase_log h.phase item).trans hitem,?_,h.resumable⟩
  cases h.shape with
  | idle hl hp => exact .idle hl hp
  | active loop hl hp hs hreads hblk => exact .active loop hl hp hs hreads hblk
  | stale loop hl hpaused hp hs => exact .stale loop hl hpaused hp hs

theorem next_sendConfirm (file : Bytes) (fileNum : ℕ) (skip : Bool) (q : Phase) :
    q.next file (.sendConfirm fileNum skip)=some q := by
  cases q <;> rfl

theorem resumable_false (h : Inv u p) (hp : p ≠ .stopped) : u.resumable=false := by
  rw [Bool.eq_false_iff]
  exact fun hr => hp (h.resumable hr)

theorem inv_proceedUpload (h : Inv u p) (fileNum : ℕ) {skip : Bool} (hok : u.mayProceed skip=true) (doneOk : Bool) :
    ∃ q, Inv (u.proceedUpload fileNum skip doneOk) q := by
  have hlog : Inv (u.log (.sendConfirm fileNum skip)) p := h.message (next_sendConfirm u.file fileNum skip p)
  unfold Upload.proceedUpload
  cases skip with
  | true => exact ⟨.stopped,inv_leave hlog hok⟩
  | false =>
    simp only [Upload.mayProceed,Bool.false_eq_true,if_false,Bool.or_eq_true,Bool.and_eq_true,
      decide_eq_true_eq] at hok
    simp only [Bool.false_eq_true,if_false]
    cases hok with
    | inl hfresh =>
      obtain ⟨rfl,hloops⟩:=of_fresh h hfresh.1
      have hres : u.resumable=false := resumable_false h (by decide)
      exact inv_sendUploadBlocks hlog.phase hloops hfresh.2 hres _ doneOk
    | inr hstopped =>
      -- nothing is streamed, as the upload is not in transfer
      obtain ⟨hphase,hstatus⟩:=hstopped
      have hp : p=.stopped := Option.some.inj (h.phase.symm.trans hphase)
      subst hp
      have hstill : (u.log (.sendConfirm fileNum false)).status ≠ .transferring := hstatus
      rw [sendUploadBlocks_of_status hstill]
      exact ⟨.stopped,hlog.message rfl⟩

theorem inv_handleDigest (h : Inv u p) (overwriteStrategy : Option Bool) (d : Upload.Digest) (sendOk doneOk : Bool)
    (hok : u.actOk overwriteStrategy (.digest d sendOk doneOk)=true) :
    ∃ q, Inv (u.handleDigest overwriteStrategy d sendOk doneOk) q := by
  unfold Upload.handleDigest
  cases hreg : u.registered with
  | false => exact ⟨p,h⟩
  | true =>
    simp only [Upload.actOk,hreg,Bool.not_true,Bool.false_or,Bool.and_eq_true,Bool.or_eq_true,
      decide_eq_true_eq,List.isEmpty_iff] at hok
    obtain ⟨hstatus,hupload⟩:=hok
    simp only [Bool.not_true,Bool.false_eq_true,if_false]
    have hnow : Inv (u.heard d.fileNum).inTransfer p := by
      refine ⟨h.phase,?_,h.resumable⟩
      cases h.shape with
      | idle hl hp => exact .idle hl hp
      | active loop hl hp hs hreads hblk => exact .active loop hl hp rfl hreads hblk
      | stale loop hl _ _ hs =>
        cases hstatus with
        | inl htransferring => exact absurd htransferring hs
        | inr hnone =>
          rw [hl] at hnone
          cases hnone
    cases hup : d.isUpload with
    | false => exact ⟨p,hnow⟩
    | true =>
      simp only [Bool.not_true,Bool.false_eq_true,if_false]
      cases hsend : sendOk with
      | false =>
        cases d.isIdentical with
        | true => exact ⟨p,hnow⟩
        | false => cases overwriteStrategy with
          | none => exact ⟨p,hnow.congr rfl rfl rfl rfl rfl⟩
          | some skip => exact ⟨p,hnow⟩
      | true =>
        rw [hup,hsend] at hupload
        simp only [Bool.not_true,Bool.false_eq_true,false_or] at hupload
        cases hid : d.isIdentical with
        | true =>
          rw [hid,if_pos rfl,List.isEmpty_iff] at hupload
          refine ⟨.stopped,inv_leave (hnow.message (next_sendConfirm _ _ _ _)) ?_⟩
          exact quiet_of_loops hupload
        | false =>
          rw [hid,if_neg Bool.false_ne_true] at hupload
          cases overwriteStrategy with
          | none => exact ⟨p,hnow.congr rfl rfl rfl rfl rfl⟩
          | some skip =>
            refine inv_proceedUpload hnow d.fileNum ?_ doneOk
            cases skip with
            | true =>
              rw [List.isEmpty_iff] at hupload
              exact quiet_of_loops hupload
            | false =>
              have hfresh : (u.heard d.fileNum).inTransfer.fresh=true := hupload
              have hnowStatus : (u.heard d.fileNum).inTransfer.status=.transferring := rfl
              simp [Upload.mayProceed,hfresh,hnowStatus]

theorem inv_handleSendConfirm (h : Inv u p) (fileNum offsetBlk : ℕ) {skip : Bool} (doneOk : Bool)
    (hok : (!u.registered || if skip then u.quiet else u.fresh)=true) :
    ∃ q, Inv (u.handleSendConfirm fileNum offsetBlk skip doneOk) q := by
  unfold Upload.handleSendConfirm
  cases hreg : u.registered with
  | false => exact ⟨p,h⟩
  | true =>
    rw [hreg] at hok
    have hnow : Inv (u.heard fileNum) p := h.congr rfl rfl rfl rfl rfl
    cases skip with
    | true => exact ⟨.stopped,inv_leave hnow hok⟩
    | false =>
      obtain ⟨rfl,hloops⟩:=of_fresh h hok
      have hres : u.resumable=false := resumable_false h (by decide)
      exact inv_sendUploadBlocks (u := (u.heard fileNum).inTransfer) h.phase hloops rfl hres _ doneOk

theorem inv_stop (h : Inv u p) (hr : u.reading=false) (hphase : v.phase=u.phase) (hloops : v.loops=u.loops)
    (hstatus : v.status ≠ .transferring) : Inv (v.log .ended) .stopped := by
  apply inv_ended (hphase.trans h.phase)
  cases not_reading h hr with
  | inl hnone => exact .inl (hloops.trans hnone)
  | inr hpaused =>
    obtain ⟨loop,hl,hp⟩:=hpaused
    exact .inr ⟨loop,hloops.trans hl,hp,hstatus⟩

theorem inv_run (h : Inv u p) (resume : Bool) {ok : Bool} (hok : (ok||!u.registered||u.quiet)=true) :
    ∃ q, Inv (u.run resume ok) q := by
  unfold Upload.run
  cases ok with
  | false =>
    rw [if_pos (by rfl),Upload.failTransfer]
    split
    · exact ⟨p,h⟩
    · rename_i hreg
      rw [Bool.false_or,Bool.or_eq_true,or_iff_right hreg] at hok
      have hnow : Inv {u with stallTimer := false} p := h.congr rfl rfl rfl rfl rfl
      exact ⟨.stopped,inv_leave hnow hok⟩
  | true =>
    have hreceive : Inv (if (resume&&decide (0<u.sentBytes))=true then u else u.log .receive) p := by
      split
      · exact h
      · apply h.message
        cases p <;> rfl
    have hdigest (size : ℕ) : p.next (if (resume&&decide (0<u.sentBytes))=true then u else u.log .receive).file
        (.digest (resume&&decide (0<u.sentBytes)) size)=some p := by
      cases p <;> rfl
    exact ⟨p,(hreceive.message (hdigest _)).congr rfl rfl rfl rfl rfl⟩

theorem inv_stall (h : Inv u p) : ∃ q, Inv u.stall q := by
  unfold Upload.stall
  have hnow : Inv {u with stallTimer := false} p := h.congr rfl rfl rfl rfl rfl
  simp only
  split
  · exact ⟨p,hnow⟩
  · rename_i hpending
    simp only [Bool.or_eq_true,Bool.not_eq_true',decide_eq_true_eq,not_or,not_not] at hpending
    refine ⟨.stopped,inv_ended (p := p) hnow.phase ?_⟩
    cases h.shape with
    | idle hl => exact .inl hl
    | active loop _ _ hs =>
      rw [hpending.2] at hs
      cases hs
    | stale loop hl hpaused => exact .inr ⟨loop,hl,hpaused,by simp⟩

theorem inv_resumeTransfer (h : Inv u p) : ∃ q, Inv u.resumeTransfer q := by
  unfold Upload.resumeTransfer
  split
  · exact ⟨p,h⟩
  · rename_i hres
    simp only [Bool.or_eq_true,Bool.not_eq_true',not_or,Bool.not_eq_false] at hres
    have hp:=h.resumable hres.2
    subst hp
    refine ⟨.waiting,phase_log h.phase .resumed,?_,fun h => by cases h⟩
    cases h.shape with
    | idle hl => exact .idle hl fun offset hc => by cases hc
    | active loop _ hphase => cases hphase
    | stale loop hl hpaused _ _ => exact .stale loop hl hpaused (.inl rfl) (by simp [Upload.log])

theorem loop_of (h : Inv u p) {i : ℕ} {loop : Loop} (hi : u.loops[i]?=some loop) :
    u.loops=[loop] ∧ u.loops.eraseIdx i=[] := by
  have hall : ∃ loop', u.loops=[loop'] := by
    cases h.shape with
    | idle hl =>
      rw [hl] at hi
      cases hi
    | active loop' hl | stale loop' hl => exact ⟨loop',hl⟩
  obtain ⟨loop',hl⟩:=hall
  rw [hl] at hi
  cases i with
  | zero =>
    cases hi
    exact ⟨hl,by rw [hl]; rfl⟩
  | succ i => cases hi

theorem reading_of_ok (hreg : ¬(!u.registered)=true) (hok : (!u.registered||!u.reading)=true) : u.reading=false := by
  rw [Bool.or_eq_true,or_iff_right hreg] at hok
  simpa using hok

theorem inv_act (h : Inv u p) {overwriteStrategy : Option Bool} {a : Act}
    (hok : u.actOk overwriteStrategy a=true) (hv : u.act overwriteStrategy a=some v) : ∃ q, Inv v q := by
  cases a with
  | connected i ok =>
    obtain ⟨resume,-,rfl⟩:=map_eq_some_iff.mp hv
    exact inv_run (u := {u with runs := u.runs.eraseIdx i}) (h.congr rfl rfl rfl rfl rfl) resume hok
  | digest d sendOk doneOk =>
    cases hv
    exact inv_handleDigest h overwriteStrategy d sendOk doneOk hok
  | confirm fileNum offsetBlk skip doneOk =>
    cases hv
    exact inv_handleSendConfirm h fileNum offsetBlk doneOk hok
  | done =>
    cases hv
    rw [Upload.handleDone]
    split
    · exact ⟨p,h⟩
    · rename_i hreg
      have hr:=reading_of_ok hreg hok
      exact ⟨.stopped,inv_stop h hr rfl rfl (by simp)⟩
  | error =>
    cases hv
    rw [Upload.handleError]
    split
    · exact ⟨p,h⟩
    · rename_i hreg
      have hr:=reading_of_ok hreg hok
      exact ⟨.stopped,inv_stop h hr rfl rfl (by simp)⟩
  | blockReady i ok doneOk =>
    obtain ⟨loop,hloop,hv⟩:=bind_eq_some_iff.mp hv
    obtain ⟨hloops,hrest⟩:=loop_of h hloop
    simp only at hv
    split at hv
    · cases hv
    · rename_i hpaused
      cases hv
      cases h.shape with
      | idle hnone =>
        rw [hloops] at hnone
        cases hnone
      | active loop' hloops' hphase hstatus hreads hblk =>
        rw [hloops] at hloops'
        cases hloops'
        subst hphase
        have hlt:=hreads (Bool.not_eq_true _ ▸ hpaused)
        cases ok with
        | true =>
          have hres : u.resumable=false := resumable_false h (by simp)
          rw [if_pos rfl]
          exact inv_blockReady (u := {u with loops := u.loops.eraseIdx i}) h.phase hrest hstatus hres hlt (hblk hlt) doneOk
        | false => exact ⟨.stopped,inv_loopFailed (u := {u with loops := u.loops.eraseIdx i}) h.phase hrest⟩
      | stale loop' hloops' hpaused' =>
        rw [hloops] at hloops'
        cases hloops'
        exact absurd hpaused' hpaused
  | wake i doneOk =>
    obtain ⟨loop,hloop,hv⟩:=bind_eq_some_iff.mp hv
    obtain ⟨hloops,hrest⟩:=loop_of h hloop
    simp only at hv
    split at hv
    · cases hv
      cases h.shape with
      | idle hnone =>
        rw [hloops] at hnone
        cases hnone
      | active loop' hloops' hphase hstatus _ hblk =>
        rw [hloops] at hloops'
        cases hloops'
        subst hphase
        have hres : u.resumable=false := resumable_false h (by simp)
        exact inv_iterate (u := {u with loops := u.loops.eraseIdx i}) h.phase hrest hstatus hres hblk doneOk
      | stale loop' hloops' _ hphase hstatus =>
        -- the loop sees the status and ends
        have hstill : Upload.status {u with loops := u.loops.eraseIdx i} ≠ .transferring := hstatus
        rw [iterate_of_status hstill]
        refine ⟨p,h.phase,.idle hrest fun offset hp => ?_,h.resumable⟩
        subst hp
        simp at hphase
    · cases hv
  | confirmOverwrite skip applyToAll sendOk doneOk =>
    cases hv
    rw [Upload.confirmOverwrite]
    cases hpending : u.pendingOverwrite with
    | none => exact ⟨p,h⟩
    | some fileNum =>
      have hnow : Inv {u with pendingOverwrite := none} p := h.congr rfl rfl rfl rfl rfl
      cases sendOk with
      | false => exact ⟨p,hnow⟩
      | true =>
        simp only [Upload.actOk,hpending,isNone_some,Bool.not_true,Bool.false_or] at hok
        exact inv_proceedUpload hnow fileNum hok doneOk
  | cancel =>
    cases hv
    rw [Upload.cancelTransfer]
    split
    · exact ⟨p,h⟩
    · rename_i hreg
      have hr:=reading_of_ok hreg hok
      have hcancel : (Upload.log {u with status := .cancelled,stallTimer := false,registered := false} .cancel).phase =
          u.phase := by
        rw [h.phase]
        exact (phase_log (u := {u with status := .cancelled,stallTimer := false,registered := false}) h.phase _).trans
          (by cases p <;> rfl)
      refine ⟨.stopped,inv_stop h hr hcancel rfl ?_⟩
      simp [Upload.log]
  | resume =>
    cases hv
    exact inv_resumeTransfer h
  | stall =>
    simp only [Upload.act] at hv
    split at hv
    · cases hv
      exact inv_stall h
    · cases hv

def Item.data : Item → Bytes
  | .block _ _ data => data
  | _ => []

def Item.isDone : Item → Bool
  | .done _ => true
  | _ => false

theorem blockAt_append (file : Bytes) (offset : ℕ) :
    Upload.blockAt file offset++file.drop (offset+(Upload.blockAt file offset).length)=file.drop offset := by
  have htake : Upload.blockAt file offset=(file.drop offset).take (Upload.blockAt file offset).length := by
    rw [length_blockAt]
    rfl
  rw [← drop_drop]
  conv_lhs =>
    rw [htake]
  rw [length_take,length_drop,length_blockAt]
  have hmin : min (min (offset+BLOCK_SIZE) file.length-offset) (file.length-offset) =
      min (offset+BLOCK_SIZE) file.length-offset := by omega
  rw [hmin,take_append_drop]

theorem finished_quiet {file : Bytes} {items : List Item} (hend : .ended∉items)
    (h : items.foldlM (Phase.next file) .finished=some .finished) :
    items.flatMap Item.data=[] ∧ items.countP Item.isDone=0 := by
  induction items with
  | nil => exact ⟨rfl,rfl⟩
  | cons item items ih =>
    rw [mem_cons,not_or] at hend
    rw [foldlM_cons] at h
    obtain ⟨q,hq,hrest⟩:=bind_eq_some_iff.mp h
    cases item with
    | block => cases hq
    | done => cases hq
    | ended => exact absurd rfl hend.1
    | receive | digest | sendConfirm | cancel | agreed | resumed =>
      cases hq
      exact ih hend.2 hrest

theorem streamed {file : Bytes} {offset : ℕ} {items : List Item} (hend : .ended∉items)
    (h : items.foldlM (Phase.next file) (.streaming offset)=some .finished) :
    items.flatMap Item.data=file.drop offset ∧ items.countP Item.isDone=1 := by
  induction items generalizing offset with
  | nil => cases h
  | cons item items ih =>
    rw [mem_cons,not_or] at hend
    rw [foldlM_cons] at h
    obtain ⟨q,hq,hrest⟩:=bind_eq_some_iff.mp h
    cases item with
    | block fileNum blkId data =>
      rw [Phase.next] at hq
      split at hq
      · rename_i hblock
        cases hq
        obtain ⟨hdata,hdone⟩:=ih hend.2 hrest
        constructor
        · rw [flatMap_cons,hdata,Item.data,hblock.2.2]
          exact blockAt_append file offset
        · rw [countP_cons,hdone]
          rfl
      · cases hq
    | done fileNum =>
      rw [Phase.next] at hq
      split at hq
      · rename_i hlast
        cases hq
        obtain ⟨hdata,hdone⟩:=finished_quiet hend.2 hrest
        constructor
        · rw [flatMap_cons,hdata,drop_of_length_le hlast]
          rfl
        · rw [countP_cons,hdone]
          rfl
      · cases hq
    | ended => exact absurd rfl hend.1
    | receive | digest | sendConfirm | cancel | agreed | resumed =>
      cases hq
      exact ih hend.2 hrest

def Upload.left (u : Upload) (offset : ℕ) : ℕ := 2*(u.file.length-offset) + if u.reading then 0 else 1

def Act.goesOn (a : Act) : Prop := a=.blockReady 0 true true ∨ a=.wake 0 true

theorem iterate_goesOn {offset blkId : ℕ} (hphase : u.phase=some (.streaming offset)) (hloops : u.loops=[])
    (hstatus : u.status=.transferring) :
    (offset<u.file.length ∧ (u.iterate offset blkId true).phase=some (.streaming offset) ∧
      (u.iterate offset blkId true).left offset=2*(u.file.length-offset)) ∨
    (u.iterate offset blkId true).phase=some .finished := by
  unfold Upload.iterate
  by_cases hlt : offset<u.file.length
  · left
    rw [if_pos ⟨hlt,hstatus⟩]
    refine ⟨hlt,hphase,?_⟩
    simp [Upload.left,Upload.reading,hloops]
  · right
    rw [if_neg fun h => hlt h.1,if_pos hstatus,if_pos rfl,phase_log hphase,Phase.next,
      if_pos (Nat.le_of_not_lt hlt)]

theorem afterBlock_goesOn {stop blkId : ℕ} (hphase : u.phase=some (.streaming stop)) (hloops : u.loops=[])
    (hstatus : u.status=.transferring) : ((u.afterBlock stop blkId true).phase=some (.streaming stop) ∧
      (u.afterBlock stop blkId true).left stop≤2*(u.file.length-stop)+1) ∨
    (u.afterBlock stop blkId true).phase=some .finished := by
  unfold Upload.afterBlock
  split
  · refine .inl ⟨hphase,?_⟩
    simp [Upload.left,Upload.reading,hloops]
  · refine (iterate_goesOn hphase hloops hstatus).imp (fun h => ⟨h.2.1,?_⟩) id
    rw [h.2.2]
    omega

theorem sent_goesOn {offset blkId stop : ℕ} (hphase : u.phase=some (.streaming offset)) (hloops : u.loops=[])
    (hstatus : u.status=.transferring) (hlt : offset<u.file.length) (hblk : blkId=offset/BLOCK_SIZE)
    (hstop : stop=offset+(Upload.blockAt u.file offset).length) (hmore : offset < stop) :
    (∃ next, ((u.sendBlock offset blkId stop).afterBlock stop (blkId+1) true).phase=some (.streaming next) ∧
      ((u.sendBlock offset blkId stop).afterBlock stop (blkId+1) true).left next<2*(u.file.length-offset)) ∨
    ((u.sendBlock offset blkId stop).afterBlock stop (blkId+1) true).phase=some .finished := by
  have hafter := @afterBlock_goesOn (u.sendBlock offset blkId stop) stop (blkId+1)
    (phase_sendBlock hphase hlt hblk hstop) hloops hstatus
  refine hafter.imp (fun h => ⟨stop,h.1,lt_of_le_of_lt h.2 ?_⟩) id
  show 2*(u.file.length-stop)+1<2*(u.file.length-offset)
  omega

theorem blockReady_goesOn {loop : Loop} (hphase : u.phase=some (.streaming loop.offset)) (hloops : u.loops=[])
    (hstatus : u.status=.transferring) (hlt : loop.offset<u.file.length)
    (hblk : loop.blkId=loop.offset/BLOCK_SIZE) :
    (∃ next, (u.blockReady loop true).phase=some (.streaming next) ∧
      (u.blockReady loop true).left next<2*(u.file.length-loop.offset)) ∨
    (u.blockReady loop true).phase=some .finished := by
  have hpos : 0<BLOCK_SIZE := by decide
  rw [blockReady_eq]
  exact sent_goesOn hphase hloops hstatus hlt hblk (block_stop hlt) (by omega)

theorem stream_step {offset : ℕ} (h : Inv u (.streaming offset)) (overwriteStrategy : Option Bool) :
    ∃ a v, a.goesOn ∧ u.act overwriteStrategy a=some v ∧
      ((∃ next, Inv v (.streaming next) ∧ v.left next<u.left offset) ∨ v.phase=some .finished) := by
  cases h.shape with
  | idle _ hphase => exact absurd rfl (hphase offset)
  | stale loop _ _ hphase => simp at hphase
  | active loop hloops hphase hstatus hreads hblk =>
    have hoffset : offset=loop.offset := by simpa using hphase
    subst hoffset
    have hres : u.resumable=false := resumable_false h (by simp)
    cases hpaused : loop.paused with
    | true =>
      have hact : u.act overwriteStrategy (.wake 0 true) =
          some (Upload.iterate {u with loops := []} loop.offset loop.blkId true) := by
        simp [Upload.act,hloops,hpaused]
      refine ⟨.wake 0 true,_,.inr rfl,hact,?_⟩
      cases @iterate_goesOn {u with loops := []} loop.offset loop.blkId h.phase rfl hstatus with
      | inl hmore =>
        obtain ⟨hlt,hnext,hleft⟩:=hmore
        obtain ⟨q,hq⟩:=inv_iterate (u := {u with loops := []}) h.phase rfl hstatus hres hblk true
        have hsame : q=.streaming loop.offset := Option.some.inj (hq.phase.symm.trans hnext)
        subst hsame
        refine .inl ⟨loop.offset,hq,?_⟩
        rw [hleft]
        simp [Upload.left,Upload.reading,hloops,hpaused]
      | inr hdone => exact .inr hdone
    | false =>
      have hlt:=hreads hpaused
      have hact : u.act overwriteStrategy (.blockReady 0 true true) =
          some (Upload.blockReady {u with loops := []} loop true) := by
        simp [Upload.act,hloops,hpaused]
      obtain ⟨q,hq⟩:=inv_blockReady (u := {u with loops := []}) h.phase rfl hstatus hres hlt (hblk hlt) true
      refine ⟨.blockReady 0 true true,_,.inl rfl,hact,?_⟩
      have hbefore : u.left loop.offset=2*(u.file.length-loop.offset) := by
        simp [Upload.left,Upload.reading,hloops,hpaused]
      cases blockReady_goesOn (u := {u with loops := []}) h.phase rfl hstatus hlt (hblk hlt) with
      | inl hmore =>
        obtain ⟨next,hnext,hleft⟩:=hmore
        have hsame : q=.streaming next := Option.some.inj (hq.phase.symm.trans hnext)
        subst hsame
        exact .inl ⟨next,hq,hbefore ▸ hleft⟩
      | inr hdone => exact .inr hdone

theorem stream_completes {offset : ℕ} (h : Inv u (.streaming offset)) (overwriteStrategy : Option Bool) :
    ∃ acts : List Act, (∀ a∈acts,a.goesOn) ∧
      ∃ v, exec (fun u a => Upload.act u overwriteStrategy a) u acts=some v ∧ v.phase=some .finished := by
  generalize hleft : u.left offset=fuel
  induction fuel using Nat.strong_induction_on generalizing u offset with
  | _ fuel ih =>
    obtain ⟨a,v,ha,hact,hv⟩:=stream_step h overwriteStrategy
    cases hv with
    | inl hmore =>
      obtain ⟨next,hinv,hlt⟩:=hmore
      obtain ⟨acts,hacts,w,hw,hdone⟩:=ih (v.left next) (hleft ▸ hlt) hinv rfl
      refine ⟨a::acts,fun b hb => ?_,w,?_,hdone⟩
      · cases mem_cons.mp hb with
        | inl heq => exact heq ▸ ha
        | inr hmem => exact hacts b hmem
      · rw [exec_cons,hact]
        exact hw
    | inr hdone =>
      refine ⟨[a],fun b hb => ?_,v,?_,hdone⟩
      · rw [mem_singleton.mp hb]
        exact ha
      · rw [exec_cons,hact]
        rfl

variable {s t : State}

theorem inv_begin (file : Bytes) (folderJob : Bool) : Inv (.begin file folderJob) .waiting := by
  refine ⟨rfl,.idle rfl fun offset h => ?_,fun h => ?_⟩
  · cases h
  · cases h

theorem inv_update (hs : ∀ id u, s.uploads id=some u → ∃ p, Inv u p) (id : ℕ) (hv : ∃ p, Inv v p) :
    ∀ id' w, update s.uploads id (some v) id'=some w → ∃ p, Inv w p := by
  intro id' w hw
  by_cases hid : id'=id
  · rw [hid,update_self] at hw
    cases hw
    exact hv
  · rw [update_of_ne hid] at hw
    exact hs id' w hw

theorem inv_step (hs : ∀ id u, s.uploads id=some u → ∃ p, Inv u p) {e : Event} (hok : stepOk s e=true)
    (he : step s e=some t) : ∀ id u, t.uploads id=some u → ∃ p, Inv u p := by
  cases e with
  | uploadFile file folderJob =>
    cases he
    exact inv_update hs s.nextId ⟨.waiting,inv_begin file folderJob⟩
  | act id a =>
    obtain ⟨w,hw,he⟩:=bind_eq_some_iff.mp he
    obtain ⟨v,hv,rfl⟩:=map_eq_some_iff.mp he
    obtain ⟨p,hp⟩:=hs id w hw
    rw [stepOk,hw] at hok
    exact inv_update hs id (inv_act hp hok hv)

theorem inv_run_all {es : List Event} (hok : Along step (fun s e => stepOk s e=true) start es)
    (hs : exec step start es=some s) : ∀ id u, s.uploads id=some u → ∃ p, Inv u p := by
  apply exec_invariant (fun s => ∀ id u, s.uploads id=some u → ∃ p, Inv u p) _ _ hok hs
  · intro s e t hs hok he
    exact inv_step hs hok he
  · intro id u hu
    cases hu

theorem exec_acts {id : ℕ} {overwriteStrategy : Option Bool} {acts : List Act} (hacts : ∀ a∈acts,a.goesOn)
    (hu : s.uploads id=some u) (hstrategy : s.overwriteStrategy=overwriteStrategy)
    (h : exec (fun u a => Upload.act u overwriteStrategy a) u acts=some v) :
    ∃ t, exec step s (acts.map (.act id))=some t ∧ t.uploads id=some v := by
  induction acts generalizing s u with
  | nil =>
    cases h
    exact ⟨s,rfl,hu⟩
  | cons a acts ih =>
    obtain ⟨w,hw,hrest⟩:=exec_cons_some h
    have hkeep : strategyAfter s.overwriteStrategy u a=overwriteStrategy := by
      rw [← hstrategy]
      cases hacts a mem_cons_self with
      | inl ha | inr ha => simp [ha,strategyAfter]
    have hstep : step s (.act id a)=some {s with
        overwriteStrategy := strategyAfter s.overwriteStrategy u a
        uploads := update s.uploads id (some w)} := by
      have hw' : u.act s.overwriteStrategy a=some w := hstrategy ▸ hw
      simp [step,hu,hw']
    obtain ⟨t,ht,hv⟩:=ih (s := {s with
        overwriteStrategy := strategyAfter s.overwriteStrategy u a
        uploads := update s.uploads id (some w)})
      (fun b hb => hacts b (mem_cons_of_mem a hb)) (update_self _ _ _) hkeep hrest
    refine ⟨t,?_,hv⟩
    rw [map_cons,exec_cons,hstep]
    exact ht

/-- In a run whose steps all meet the condition every upload sends what it may: when it is done, the
file from the agreed offset on in order and one `done`; and a stream can always be brought to that. -/
theorem uploads_send_each_block_once {es : List Event} (hok : Along step (fun s e => stepOk s e=true) start es)
    (hs : exec step start es=some s) {id : ℕ} (hu : s.uploads id=some u) : u.Ok ∧
      (∀ before offset after, u.history=before ++ .agreed offset::after →
        before.foldlM (Phase.next u.file) .waiting=some .waiting → .ended∉after → u.phase=some .finished →
        after.flatMap Item.data=u.file.drop offset ∧ after.countP Item.isDone=1) ∧
      (∀ offset, u.phase=some (.streaming offset) → ∃ acts : List Act, (∀ a∈acts,a.goesOn) ∧
        ∃ t v, exec step s (acts.map (.act id))=some t ∧ t.uploads id=some v ∧ v.phase=some .finished) := by
  obtain ⟨p,hp⟩:=inv_run_all hok hs id u hu
  refine ⟨hp.ok,fun before offset after hhistory hbefore hend hfinished => ?_,fun offset hphase => ?_⟩
  · rw [Upload.phase,hhistory,foldlM_append] at hfinished
    rw [hbefore] at hfinished
    exact streamed hend hfinished
  · have hsame : p=.streaming offset := Option.some.inj (hp.phase.symm.trans hphase)
    subst hsame
    obtain ⟨acts,hacts,v,hv,hdone⟩:=stream_completes hp s.overwriteStrategy
    obtain ⟨t,ht,htv⟩:=exec_acts hacts hu rfl hv
    exact ⟨acts,hacts,t,v,ht,htv,hdone⟩

/-- The second block cannot be read at first. -/
def resumedRun (file : Bytes) : List Event :=
  [.uploadFile file false,.act 1 (.connected 0 true),.act 1 (.confirm 0 0 false true),.act 1 (.blockReady 0 true true),
    .act 1 (.blockReady 0 false true),.act 1 .resume,.act 1 (.connected 0 true),.act 1 (.confirm 0 1 false true),
    .act 1 (.blockReady 0 true true)]

theorem resumed_run {file : Bytes} (h : file.length=BLOCK_SIZE+1) :
    Along step (fun s e => stepOk s e=true) start (resumedRun file) ∧
      ∃ s u, exec step start (resumedRun file)=some s ∧ s.uploads 1=some u ∧
        u.history=[.receive,.digest false 0,.agreed 0,.block 0 0 (Upload.blockAt file 0),.ended,.resumed,
          .digest true BLOCK_SIZE,.agreed BLOCK_SIZE,.block 0 1 (Upload.blockAt file BLOCK_SIZE),.done 0] := by
  have hpos : 0<BLOCK_SIZE := by decide
  have hself:=Nat.div_self hpos
  have hlen:=length_blockAt file
  rw [h] at hlen
  simp [resumedRun,Along,step,start,stepOk,Upload.actOk,Upload.fresh,Upload.phase,Phase.next,Upload.act,
    Upload.begin,Upload.run,Upload.log,Upload.handleSendConfirm,Upload.heard,Upload.inTransfer,
    Upload.sendUploadBlocks,Upload.iterate,Upload.blockReady,Upload.sendBlock,Upload.afterBlock,Upload.loopFailed,
    Upload.resumeTransfer,computeOffsetBlk,h,hlen,hpos,hpos.ne',hself]

theorem resumed_sent_once : ∃ s u, exec step start (resumedRun (replicate (BLOCK_SIZE+1) 7))=some s ∧
    s.uploads 1=some u ∧ u.Ok ∧ u.history.drop 7=[.agreed BLOCK_SIZE,
      .block 0 1 (Upload.blockAt (replicate (BLOCK_SIZE+1) 7) BLOCK_SIZE),.done 0] := by
  obtain ⟨hok,s,u,hs,hu,hhistory⟩:=@resumed_run (replicate (BLOCK_SIZE+1) 7) (length_replicate ..)
  exact ⟨s,u,hs,hu,(uploads_send_each_block_once hok hs hu).1,by rw [hhistory]; rfl⟩

def oneByteRun : List Event :=
  [.uploadFile [7] false,.act 1 (.connected 0 true),.act 1 (.confirm 0 0 false true),.act 1 (.blockReady 0 true true)]

/-- Two confirmations: the byte is sent twice, and two `done`. -/
theorem uploads_repeat_blocks :
    ¬(∀ (es : List Event) (s : State) (id : ℕ) (u : Upload), exec step start es=some s → s.uploads id=some u → u.Ok) ∧
      ((exec step start [.uploadFile [7] false,.act 1 (.connected 0 true),.act 1 (.confirm 0 0 false true),
        .act 1 (.confirm 0 0 false true),.act 1 (.blockReady 0 true true),.act 1 (.blockReady 0 true true)]).any fun s =>
          (s.uploads 1).any fun u => u.phase=none&&u.history.flatMap Item.data=[7,7] &&
            u.history.countP Item.isDone=2)=true ∧
      ((exec step start (oneByteRun++[.act 1 (.confirm 0 0 false true)])).any fun s =>
          (s.uploads 1).any fun u => u.history.countP Item.isDone=2)=true ∧
      ((exec step start [.uploadFile [7] false,.act 1 (.connected 0 true),.act 1 (.confirm 0 0 false true),
        .act 1 .cancel,.act 1 (.blockReady 0 true true)]).any fun s =>
          (s.uploads 1).any fun u => u.status=.cancelled&&u.phase=none &&
            u.history.drop 3=[.cancel,.ended,.block 0 0 [7]])=true := by
  have htwice : ((exec step start [.uploadFile [7] false,.act 1 (.connected 0 true),.act 1 (.confirm 0 0 false true),
      .act 1 (.confirm 0 0 false true),.act 1 (.blockReady 0 true true),.act 1 (.blockReady 0 true true)]).any fun s =>
        (s.uploads 1).any fun u => u.phase=none&&u.history.flatMap Item.data=[7,7] &&
          u.history.countP Item.isDone=2)=true := by decide
  refine ⟨fun hall => ?_,htwice,by decide,by decide⟩
  obtain ⟨s,hs,hwrong⟩:=(any_eq_true _ _).mp htwice
  obtain ⟨u,hu,hwrong⟩:=(any_eq_true _ _).mp hwrong
  rw [Bool.and_eq_true,Bool.and_eq_true,decide_eq_true_eq] at hwrong
  obtain ⟨p,hp,-⟩:=hall _ s 1 u hs hu
  rw [hwrong.1.1] at hp
  cases hp

end BetterDesk.RdClient.FileUpload
