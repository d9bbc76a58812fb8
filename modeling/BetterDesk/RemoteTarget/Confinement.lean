import BetterDesk.RemoteTarget.Gateway

/-! # Confinement of a remote target session -/

namespace BetterDesk.RemoteTarget
open Text Framing Exec List Option

/-- The arguments of `connect`, in the order of guacd's names, have the host and
the port of the target. -/
structure Carries (target : Target) (names args : List Bytes) : Prop where
  host : ∀ (i : ℕ) (name : Bytes), names[i]?=some name → isHostName name=true →
    args[i]?=some target.host
  port : ∀ (i : ℕ) (name : Bytes), names[i]?=some name → isPortName name=true →
    args[i]?=some (decimal target.port)
  named : names.any isHostName=true ∧ names.any isPortName=true

/-- However much of the output has reached guacd, it reads the instructions sent
on, one by one, and every `connect` among them is the target's. -/
structure Confined (target : Target) (s : Session) : Prop where
  parsed : ∀ p, p <+: s.output → records runeUnits p <+: s.forwarded.map fun f => f.instruction.fields
  connects : ∀ f∈s.forwarded,f.instruction.opcode=connectOp →
    ∃ names, f.announced=some names ∧ Carries target names f.instruction.args

def sendsAscii (vault : Option Vault) (target : Target) (argNames : List Bytes) (i : Instruction) : Bool :=
  (rewriteInstruction vault target argNames i).all fun i => i.fields.all isAscii

/-- The next instruction is sent on as ASCII. -/
def Ready (vault : Option Vault) (target : Target) (s : Session) : Event → Prop
  | .forward _ => ∀ i∈s.queue.head?, sendsAscii vault target s.argNames i=true ∧
      (i.opcode=connectOp → s.announced=some s.argNames ∧
        s.argNames.any isHostName=true ∧ s.argNames.any isPortName=true)
  | _ => True

instance (vault : Option Vault) (target : Target) (s : Session) (e : Event) :
    Decidable (Ready vault target s e) := by
  unfold Ready
  cases e <;> infer_instance

theorem rewriteConnect_get (target : Target) (password : Bytes) (values names : List Bytes) {i : ℕ}
    {name : Bytes} (h : names[i]?=some name) : ∃ value,
      (rewriteRemoteTargetConnect target password values names)[i]? =
        some (rewriteArg target password name value) := by
  induction names generalizing values i with
  | nil => cases h
  | cons n names ih =>
    cases i with
    | zero =>
      cases h
      cases values with
      | nil => exact ⟨[],rfl⟩
      | cons v values => exact ⟨v,rfl⟩
    | succ i =>
      cases values with
      | nil => exact ih [] h
      | cons v values => exact ih values h

theorem isHostName_not_port {name : Bytes} (h : isPortName name=true) : isHostName name=false := by
  simp only [isPortName,beq_iff_eq] at h
  rw [isHostName,h]
  decide

theorem rewriteConnect_carries (target : Target) (password : Bytes) (values : List Bytes)
    {names : List Bytes} (hnamed : names.any isHostName=true ∧ names.any isPortName=true) :
    Carries target names (rewriteRemoteTargetConnect target password values names) := by
  refine ⟨fun i name hname hhost => ?_,fun i name hname hport => ?_,hnamed⟩
  · obtain ⟨value,hv⟩:=rewriteConnect_get target password values names hname
    rw [hv,rewriteArg,if_pos hhost]
  · obtain ⟨value,hv⟩:=rewriteConnect_get target password values names hname
    rw [hv,rewriteArg,if_neg (by simp [isHostName_not_port hport]),if_pos hport]

variable {target : Target} {vault : Option Vault} {s t : Session}

theorem rewriteInstruction_carries {argNames : List Bytes}
    {i i' : Instruction} (h : rewriteInstruction vault target argNames i=some i') :
    i'.opcode=i.opcode ∧ (i.opcode=connectOp →
      argNames.any isHostName=true ∧ argNames.any isPortName=true → Carries target argNames i'.args) := by
  unfold rewriteInstruction at h
  split at h
  · rename_i hselect
    cases h
    refine ⟨rfl,fun hconnect => ?_⟩
    rw [hselect] at hconnect
    exact absurd hconnect (by decide)
  · split at h
    · obtain ⟨password,_,rfl⟩:=map_eq_some_iff.mp h
      exact ⟨rfl,fun _ hnamed => rewriteConnect_carries target password i.args hnamed⟩
    · rename_i hne
      cases h
      exact ⟨rfl,fun hconnect => absurd hconnect hne⟩

def sent (s : Session) : Bytes :=
  (s.forwarded.map fun f => f.instruction.fields).flatMap (encode List.length)

/-- The output is what was sent on, cut short at most by the error that closed
the session. -/
structure Sound (target : Target) (s : Session) : Prop where
  output : s.output <+: sent s
  whole : s.closed=false → s.output=sent s
  ascii : ∀ f∈s.forwarded,f.instruction.fields.all isAscii=true
  connects : ∀ f∈s.forwarded,f.instruction.opcode=connectOp →
    ∃ names, f.announced=some names ∧ Carries target names f.instruction.args

theorem Sound.confined (h : Sound target s) : Confined target s := by
  refine ⟨fun p hp => ?_,h.connects⟩
  obtain ⟨q,hq⟩:=hp.trans h.output
  have hall : records runeUnits (sent s)=s.forwarded.map fun f => f.instruction.fields := by
    refine records_encode fun r hr => ?_
    obtain ⟨f,hf,rfl⟩:=mem_map.mp hr
    refine ⟨by simp [Instruction.fields],fun v hv => agrees_ascii ?_⟩
    exact all_eq_true.mp (h.ascii f hf) v hv
  rw [← hall,← hq]
  exact records_append p q

theorem Sound.forward {written : Option ℕ} (h : Sound target s) (hok : Ready vault target s (.forward written))
    (hstep : step vault target s (.forward written)=some t) : Sound target t := by
  unfold step at hstep
  dsimp only at hstep
  split at hstep
  · cases hstep
  · rename_i hopen
    cases hq : s.queue with
    | nil =>
      rw [hq] at hstep
      cases hstep
    | cons i queue =>
      rw [hq] at hstep
      dsimp only at hstep
      obtain ⟨hsend,hconn⟩:=hok i (by rw [hq]; rfl)
      cases hr : rewriteInstruction vault target s.argNames i with
      | none =>
        rw [hr] at hstep
        cases hstep
        exact ⟨h.output,fun hf => (by cases hf),h.ascii,h.connects⟩
      | some i' =>
        rw [hr] at hstep
        cases hstep
        have hwhole : s.output=sent s := h.whole (by simpa using hopen)
        have hsent : sent s++encodeInstruction i' =
            ((s.forwarded++[Forwarded.mk i' s.announced]).map fun f => f.instruction.fields).flatMap
              (encode List.length) := by
          simp [sent,encodeInstruction]
        obtain ⟨hop,hcarries⟩:=rewriteInstruction_carries hr
        refine ⟨?_,fun hopen' => ?_,fun f hf => ?_,fun f hf hop' => ?_⟩
        · show s.output++_ <+: _
          rw [sent,← hsent,hwhole,prefix_append_right_inj]
          cases written with
          | none => exact prefix_rfl
          | some n => exact take_prefix n _
        · cases written with
          | none =>
            show s.output++_=_
            rw [sent,← hsent,hwhole]
          | some n => cases hopen'
        · rcases mem_append.mp hf with hf | hf
          · exact h.ascii f hf
          · rw [mem_singleton.mp hf]
            simpa [sendsAscii,hr] using hsend
        · rcases mem_append.mp hf with hf | hf
          · exact h.connects f hf hop'
          · rw [mem_singleton.mp hf] at hop' ⊢
            have hconnect : i.opcode=connectOp := hop.symm.trans hop'
            obtain ⟨hann,hnamed⟩:=hconn hconnect
            exact ⟨s.argNames,hann,hcarries hconnect hnamed⟩

theorem Sound.of_same (h : Sound target s) (hout : t.output=s.output)
    (hfwd : t.forwarded=s.forwarded) (hclosed : t.closed=false → s.closed=false) : Sound target t := by
  have hsent : sent t=sent s := by rw [sent,hfwd,sent]
  refine ⟨by rw [hout,hsent]; exact h.output,fun hc => ?_,?_,?_⟩
  · rw [hout,hsent]
    exact h.whole (hclosed hc)
  · rw [hfwd]
    exact h.ascii
  · rw [hfwd]
    exact h.connects

theorem Sound.step {e : Event} (h : Sound target s)
    (hok : Ready vault target s e) (hstep : step vault target s e=some t) : Sound target t := by
  cases e with
  | forward written => exact h.forward hok hstep
  | browser text data =>
    unfold RemoteTarget.step at hstep
    dsimp only at hstep
    split at hstep
    · cases hstep
    · rename_i hopen
      have hs : s.closed=false := by
        rw [not_or] at hopen
        simpa using hopen.1
      split at hstep
      · cases hstep
        exact h.of_same rfl rfl fun _ => hs
      · split at hstep
        · cases hstep
          exact h.of_same rfl rfl fun _ => hs
        · cases hstep
          exact h.of_same rfl rfl fun _ => hs
  | guacdSends data =>
    cases hstep
    exact h.of_same rfl rfl id
  | guacdReads n =>
    unfold RemoteTarget.step at hstep
    dsimp only at hstep
    split at hstep
    · cases hstep
    · cases hstep
      exact h.of_same rfl rfl id

/-- A session whose instructions are all sent on under the condition stays with
its target. -/
theorem session_confined {vault : Option Vault} {target : Target} {es : List Event}
    (hok : Along (step vault target) (Ready vault target) .start es) {s : Session}
    (hrun : exec (step vault target) .start es=some s) : Confined target s := by
  have hstart : Sound target .start :=
    ⟨prefix_rfl,fun _ => rfl,by simp [Session.start],by simp [Session.start]⟩
  exact (exec_invariant (Sound target) (fun s e t hs he ht => hs.step he ht) hstart hok hrun).confined

def officeTarget : Target := ⟨lit "rdp",lit "10.0.0.5",3389,[],"none","","",""⟩

def handshake : List Event := [.browser true (lit "6.select,3.ssh;"),.forward none,
  .guacdSends (lit "4.args,8.hostname,4.port;"),.guacdReads 25,
  .browser true (lit "7.connect,4.evil,1.1;"),.forward none]

theorem handshake_confined : ∃ s, exec (step none officeTarget) .start handshake=some s ∧
    s.output=lit "6.select,3.rdp;7.connect,8.10.0.0.5,4.3389;" ∧ Confined officeTarget s := by
  have hout : (exec (step none officeTarget) .start handshake).map Session.output =
      some (lit "6.select,3.rdp;7.connect,8.10.0.0.5,4.3389;") := by decide
  have hok : Along (step none officeTarget) (Ready none officeTarget) .start handshake := by decide
  obtain ⟨s,hrun,hs⟩:=map_eq_some_iff.mp hout
  exact ⟨s,hrun,hs,session_confined hok hrun⟩

/-- Eight bytes, four code points: guacd takes the value to reach into the next
field, which goes on with a `connect`. -/
def smuggling : List Event := [
  .browser true (lit "1.x,8.éééé,22.;7.connect,4.evil,1.1;;"),.forward none]

/-- A `connect` before the names have arrived is sent on as it is. -/
def early : List Event := [.browser true (lit "7.connect,4.evil,1.1;"),.forward none]

theorem sessions_leave_target : (∃ s, exec (step none officeTarget) .start smuggling=some s ∧
      [connectOp,lit "evil",lit "1"]∈records runeUnits s.output ∧ ¬ Confined officeTarget s) ∧
    ∃ s, exec (step none officeTarget) .start early=some s ∧
      [connectOp,lit "evil",lit "1"]∈records runeUnits s.output ∧ ¬ Confined officeTarget s := by
  have hsmuggled : (exec (step none officeTarget) .start smuggling).map
      (fun s => (records runeUnits s.output,s.forwarded.length)) =
        some ([[lit "x",lit "éééé,22."],[connectOp,lit "evil",lit "1"]],1) := by decide
  have hearly : (exec (step none officeTarget) .start early).map
      (fun s => (records runeUnits s.output,s.forwarded)) =
        some ([[connectOp,lit "evil",lit "1"]],[⟨⟨connectOp,[lit "evil",lit "1"]⟩,none⟩]) := by
    decide
  obtain ⟨s,hrun,hs⟩:=map_eq_some_iff.mp hsmuggled
  obtain ⟨s',hrun',hs'⟩:=map_eq_some_iff.mp hearly
  obtain ⟨hrecords,hlen⟩:=Prod.mk.inj hs
  obtain ⟨hrecords',hfwd⟩:=Prod.mk.inj hs'
  refine ⟨⟨s,hrun,by rw [hrecords]; simp,fun hc => ?_⟩,s',hrun',by rw [hrecords']; simp,fun hc => ?_⟩
  · -- two instructions are read where one was sent on
    have hle:=(hc.parsed s.output prefix_rfl).length_le
    rw [hrecords,length_map,hlen] at hle
    exact absurd hle (by decide)
  · obtain ⟨names,hnone,_⟩:=hc.connects ⟨⟨connectOp,[lit "evil",lit "1"]⟩,none⟩
      (by rw [hfwd]; exact mem_singleton_self _) rfl
    cases hnone

end BetterDesk.RemoteTarget
