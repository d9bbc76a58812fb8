import BetterDesk.Lib.Exec

/-! # Restart transactions (web-nodejs/services/restartCoordinator.js) -/

namespace BetterDesk.Panel

/-- The texts of a descriptor are those that `rollbackChange` hands to a service. -/
structure RollbackDescriptor where
  type : String
  detail : String
  deriving DecidableEq

structure Change where
  key : String
  label : String
  rollback : RollbackDescriptor
  deriving DecidableEq

inductive Phase
  | pending
  | restarting
  | ready
  | failed
  deriving DecidableEq

structure Transaction where
  id : ℕ
  userId : String
  phase : Phase
  changes : List Change
  bootId : Option ℕ
  token : Option ℕ
  error : Option String
  rollbackFailures : List (String × String)
  deriving DecidableEq

def maxChanges : ℕ := 32

namespace Transaction

def opened (id : ℕ) (userId : String) : Transaction := ⟨id,userId,.pending,[],none,none,none,[]⟩

def addChange (t : Transaction) (change : Change) : Option Transaction :=
  let label := if change.label="" then change.key else change.label
  if t.changes.any fun c => c.key=change.key then
    some {t with changes := t.changes.map fun c => if c.key=change.key then {c with label := label} else c}
  else if maxChanges≤t.changes.length then none
  else some {t with changes := t.changes++[{change with label := label}]}

/-- The transaction as `confirm` writes it first. -/
def restartedAt (t : Transaction) (boot token : ℕ) : Transaction := {t with
  phase := .restarting
  bootId := some boot
  token := some token
  error := none}

def failedWith (t : Transaction) (error : String) : Transaction := {t with
  phase := .failed
  error := some error}

end Transaction

structure RestartResult where
  daemonReload : Option Bool
  restarts : List Bool

def restartResultFailed (result : RestartResult) : Bool :=
  result.daemonReload=some false||result.restarts.any fun success => !success

inductive RestartOutcome
  | returned (result : RestartResult)
  | threw (message : String)

def rollbackTypes : List String :=
  ["connection-mode","advanced-file","billing-clock","go-config","env-config"]

/-- The error of `rollbackChange`; `outcome` is that of the service it calls. -/
def rollbackChange (change : Change) (outcome : Option String) : Option String :=
  if change.rollback.type∈rollbackTypes then outcome else some "unknown_restart_rollback"

inductive Rolling
  | cancel
  | confirm

inductive Job
  | rolling (call : Rolling) (state : Transaction) (todo : List Change) (failures : List (String × String))
  | probing (state : Transaction)

/-- One write of the state file, by a call of this operator; `none` is its removal. -/
structure Write where
  operator : String
  content : Option Transaction

structure Registered where
  id : ℕ
  key : String
  rollback : RollbackDescriptor
  deriving DecidableEq

/-- The file with its writes, the last first; the process; and what has happened, for the
statements. -/
structure World where
  writes : List Write
  boot : ℕ
  supply : ℕ
  jobs : List Job
  registered : List Registered
  rolledBack : List (ℕ × String)
  completed : List ℕ

def contentOf : List Write → Option Transaction
  | [] => none
  | w::_ => w.content

namespace World
variable (w : World)

def start : World := ⟨[],0,0,[],[],[],[]⟩

def file : Option Transaction := contentOf w.writes

/-- `touch`, or `removeState` for no transaction; nothing happens when the call fails. -/
def write (operator : String) (content : Option Transaction) (ok : Bool) : World :=
  if ok then {w with writes := ⟨operator,content⟩::w.writes} else w

def getRawForOperator (user : Option String) (id : ℕ) : Option Transaction :=
  w.file.filter fun t => t.id=id&&some t.userId=user

def registerChange (user : Option String) (change : Change) (reads writes : Bool) : World :=
  match user with
  | none => w
  | some userId =>
    if userId="" then w
    else
      let state:=(if reads then w.file else none).filter fun t => t.phase=.pending
      let added := match state with
        | none => (Transaction.opened w.supply userId).addChange change
        | some t => if t.userId≠userId then none else t.addChange change
      match added with
      | none => w
      | some t =>
        let isNew:=(state.map Transaction.changes).all fun cs => !cs.any fun c => c.key=change.key
        let registered := if writes&&isNew then [⟨t.id,change.key,change.rollback⟩] else []
        { w.write userId (some t) writes with
          supply := w.supply+1
          registered := registered++w.registered}

def finish (call : Rolling) (t : Transaction) (failures : List (String × String)) (ok : Bool)
    (retry : String × Bool) : World := match call with
  | .cancel =>
    if failures=[] then w.write t.userId none ok
    else w.write t.userId (some {t.failedWith "rollback_failed" with rollbackFailures := failures}) ok
  | .confirm =>
    let error := if failures=[] then "service_restart_failed_rolled_back"
      else "service_restart_failed_rollback_failed"
    let failed:={t.failedWith error with rollbackFailures := failures}
    if ok then w.write t.userId (some failed) true
    else w.write t.userId (some (failed.failedWith retry.1)) retry.2

def rollBack (call : Rolling) (t : Transaction) (ok : Bool) (retry : String × Bool) : World :=
  if t.changes=[] then w.finish call t [] ok retry
  else {w with jobs := w.jobs++[.rolling call t t.changes.reverse []]}

def cancel (user : Option String) (id : ℕ) (ok : Bool) : World :=
  match w.getRawForOperator user id with
  | none => w
  | some t => if t.phase=.pending then w.rollBack .cancel t ok ("",false) else w

/-- `first`, `second` and `third` say which of the writes succeed. -/
def confirm (user : Option String) (id : ℕ) (restart : RestartOutcome) (first second third : Bool) : World :=
  match w.getRawForOperator user id with
  | none => w
  | some t =>
    if t.phase=.pending ∨ t.phase=.failed then
      let begun:=t.restartedAt w.boot w.supply
      let w:={w with supply := w.supply+1}
      if first then
        let w:=w.write t.userId (some begun) true
        match restart with
        | .threw message => w.write t.userId (some (begun.failedWith message)) second
        | .returned result =>
          if restartResultFailed result then w.rollBack .confirm begun second ("write_failed",third)
          else if second then w.write t.userId (some begun) true
          else w.write t.userId (some (begun.failedWith "write_failed")) third
      else w
    else w

def getPublicStatus (id token : ℕ) : World :=
  match w.file.filter fun t => t.id=id&&t.token=some token with
  | none => w
  | some t =>
    if t.phase=.restarting ∧ t.bootId≠some w.boot then {w with jobs := w.jobs++[.probing t]} else w

def complete (user : Option String) (id : ℕ) (ok : Bool) : World :=
  match w.getRawForOperator user id with
  | none => w
  | some t =>
    if t.phase=.ready ∨ t.phase=.failed then
      {w.write t.userId none ok with completed := if ok ∧ t.phase=.ready then t.id::w.completed else w.completed}
    else w

def dismissFailed (user : Option String) (key : String) (ok : Bool) : World :=
  match w.file with
  | none => w
  | some t =>
    if t.phase=.failed ∧ some t.userId=user ∧ (key="" ∨ t.changes.any fun c => c.key=key) then
      w.write t.userId none ok
    else w

def advance (k : ℕ) (outcome : Option String) (ok : Bool) (retry : String × Bool) : Option World :=
  match w.jobs[k]? with
  | some (.rolling call t (change::rest) failures) =>
    let error:=rollbackChange change outcome
    let failures:=failures++(error.map fun e => (change.key,e)).toList
    let w:={w with rolledBack := if error=none then (t.id,change.key)::w.rolledBack else w.rolledBack}
    if rest=[] then some (({w with jobs := w.jobs.eraseIdx k}).finish call t failures ok retry)
    else some {w with jobs := w.jobs.set k (.rolling call t rest failures)}
  | _ => none

def answer (k : ℕ) (running ok : Bool) : Option World :=
  match w.jobs[k]? with
  | some (.probing t) =>
    let w:={w with jobs := w.jobs.eraseIdx k}
    some (if running then w.write t.userId (some {t with phase := .ready}) ok else w)
  | _ => none

end World

inductive Call
  | register (user : Option String) (change : Change) (reads writes : Bool)
  | cancel (user : Option String) (id : ℕ) (ok : Bool)
  | confirm (user : Option String) (id : ℕ) (restart : RestartOutcome) (first second third : Bool)
  | status (id token : ℕ)
  | complete (user : Option String) (id : ℕ) (ok : Bool)
  | dismiss (user : Option String) (key : String) (ok : Bool)
  | advance (k : ℕ) (outcome : Option String) (ok : Bool) (retry : String × Bool)
  | answer (k : ℕ) (running ok : Bool)
  | reboot

def step (w : World) : Call → Option World
  | .register user change reads writes => some (w.registerChange user change reads writes)
  | .cancel user id ok => some (w.cancel user id ok)
  | .confirm user id restart first second third => some (w.confirm user id restart first second third)
  | .status id token => some (w.getPublicStatus id token)
  | .complete user id ok => some (w.complete user id ok)
  | .dismiss user key ok => some (w.dismissFailed user key ok)
  | .advance k outcome ok retry => w.advance k outcome ok retry
  | .answer k running ok => w.answer k running ok
  | .reboot => some {w with
      jobs := []
      boot := w.boot+1}

end BetterDesk.Panel
