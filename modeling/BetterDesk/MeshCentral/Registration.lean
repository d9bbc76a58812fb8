import BetterDesk.Lib.Exec

/-! # Registration of mesh agents (meshcentral/registry.go, agent_ws.go) -/

namespace BetterDesk.MeshCentral.Registration
open Exec List Function

/-- How far `registerAgent` has come; `replacing` waits for the `disconnect` of an older connection,
if not of its own number. -/
inductive Stage
  | fresh
  | upserted
  | replacing (old : ℕ)
  | stored
  | registered
  deriving DecidableEq

/-- What `disconnect` has still to do once it has taken the peer ID. -/
inductive Leaving
  | nothing
  | delete
  | markOffline
  deriving DecidableEq

structure AgentConn where
  stage : Stage
  peerID : Bool
  leaving : Leaving
  closed : Bool
  deriving DecidableEq

/-- The connections of one node; `registered` has those that completed, the newest first. -/
structure Gateway where
  conns : ℕ → AgentConn
  agent : Option ℕ
  online : Bool
  registered : List ℕ

def Gateway.start : Gateway := ⟨fun _ => ⟨.fresh,false,.nothing,false⟩,none,false,[]⟩

namespace Gateway
variable (s : Gateway) (c : ℕ)

def setStage (stage : Stage) : Gateway := {s with conns := update s.conns c {s.conns c with stage}}

/-- `disconnect` up to the point where it has taken the peer ID. -/
def disconnect : Gateway :=
  let ac:=s.conns c
  {s with conns := update s.conns c {ac with
    peerID := false
    leaving := if ac.peerID then .delete else ac.leaving
    closed := true}}

end Gateway

/-- The steps of `registerAgent` and of `tryCompleteAuth` after it, and those of `disconnect`. -/
inductive Action
  | upsert (c : ℕ)
  | loadAndDelete (c : ℕ)
  | store (c : ℕ)
  | setPeerID (c : ℕ)
  | disconnect (c : ℕ)
  | delete (c : ℕ)
  | markOffline (c : ℕ)

def step (s : Gateway) : Action → Option Gateway
  | .upsert c => if (s.conns c).stage=.fresh then some {s.setStage c .upserted with online := true} else none
  | .loadAndDelete c =>
    if (s.conns c).stage≠.upserted then none
    else match s.agent with
      | none => some (s.setStage c (.replacing c))
      | some old => some {(s.disconnect old).setStage c
          (.replacing (if (s.conns old).peerID then old else c)) with agent := none}
  | .store c => match (s.conns c).stage with
    | .replacing old =>
      if old≠c ∧ (s.conns old).leaving≠.nothing then none else some {s.setStage c .stored with agent := some c}
    | _ => none
  | .setPeerID c =>
    if (s.conns c).stage=.stored then
      some {s with
        conns := update s.conns c {s.conns c with stage := .registered,peerID := true}
        registered := c::s.registered}
    else none
  | .disconnect c => some (s.disconnect c)
  | .delete c =>
    if (s.conns c).leaving=.delete then
      some {s with conns := update s.conns c {s.conns c with leaving := .markOffline},agent := none}
    else none
  | .markOffline c =>
    if (s.conns c).leaving=.markOffline then
      some {s with conns := update s.conns c {s.conns c with leaving := .nothing},online := false}
    else none

/-- The newest connection that has completed and is open is the one in the registry, and online. -/
def Follows (s : Gateway) : Prop :=
  ∀ c, s.registered.find? (fun c => !(s.conns c).closed)=some c → s.agent=some c ∧ s.online=true

def AgentConn.hasStored (ac : AgentConn) : Prop := ac.closed=false ∧ (ac.stage=.stored ∨ ac.stage=.registered)

/-- No entry is taken, replaced or deleted that an open connection has stored, and the peer is not
marked offline under one that has begun to register. -/
def Alone (s : Gateway) : Action → Prop
  | .loadAndDelete c | .store c => ∀ d≠c,¬(s.conns d).hasStored
  | .delete _ => ∀ d, ¬(s.conns d).hasStored
  | .markOffline _ => ∀ d, (s.conns d).closed=false → (s.conns d).stage=.fresh
  | _ => True

structure Inv (s : Gateway) : Prop where
  entry : ∀ c, (s.conns c).hasStored → s.agent=some c
  online : ∀ c, (s.conns c).closed=false → (s.conns c).stage≠.fresh → s.online=true
  completed : ∀ c∈s.registered,(s.conns c).stage=.registered

variable {s t : Gateway} {c : ℕ} {a : Action}

theorem Inv.follows (h : Inv s) : Follows s := by
  intro c hc
  have hopen : (s.conns c).closed=false := by simpa using find?_some hc
  have hstage:=h.completed c (mem_of_find?_eq_some hc)
  exact ⟨h.entry c ⟨hopen,.inr hstage⟩,h.online c hopen (by rw [hstage]; nofun)⟩

theorem Inv.disconnect (h : Inv s) (c : ℕ) : Inv (s.disconnect c) := by
  obtain ⟨hentry,honline,hcompleted⟩:=h
  constructor <;> intro d <;> simp only [Gateway.disconnect,update_apply] <;> grind [AgentConn.hasStored]

theorem step_inv (h : Inv s) (hok : Alone s a) (ht : step s a=some t) : Inv t := by
  cases a with
  | upsert c =>
    simp only [step] at ht
    split at ht <;> cases ht
    obtain ⟨hentry,honline,hcompleted⟩:=h
    constructor <;> intro d <;> simp only [Gateway.setStage,update_apply] <;> grind [AgentConn.hasStored]
  | loadAndDelete c =>
    simp only [step] at ht
    split at ht
    · cases ht
    · split at ht <;> cases ht <;> obtain ⟨hentry,honline,hcompleted⟩:=h <;> simp only [Alone] at hok <;>
        constructor <;> intro d <;> simp only [Gateway.setStage,Gateway.disconnect,update_apply] <;>
        grind [AgentConn.hasStored]
  | store c =>
    simp only [step] at ht
    split at ht
    · split at ht <;> cases ht
      obtain ⟨hentry,honline,hcompleted⟩:=h
      simp only [Alone] at hok
      constructor <;> intro d <;> simp only [Gateway.setStage,update_apply] <;> grind [AgentConn.hasStored]
    · cases ht
  | setPeerID c =>
    simp only [step] at ht
    split at ht <;> cases ht
    obtain ⟨hentry,honline,hcompleted⟩:=h
    constructor <;> intro d <;> simp only [update_apply] <;> grind [AgentConn.hasStored]
  | disconnect c =>
    cases ht
    exact h.disconnect c
  | delete | markOffline =>
    simp only [step] at ht
    split at ht <;> cases ht
    obtain ⟨hentry,honline,hcompleted⟩:=h
    simp only [Alone] at hok
    constructor <;> intro d <;> simp only [update_apply] <;> grind [AgentConn.hasStored]

/-- In every run of such steps the registry follows the newest open connection. -/
theorem registry_follows {as : List Action} (hok : Along step Alone .start as) :
    ∀ pre, pre <+: as → ∀ s, exec step .start pre=some s → Follows s := by
  rintro pre ⟨post,rfl⟩ s hs
  have hstart : Inv .start := ⟨fun c hc => (by simp [Gateway.start,AgentConn.hasStored] at hc),
    fun c _ hc => absurd rfl hc,fun c hc => (by cases hc)⟩
  exact (exec_invariant Inv (fun _ _ _ => step_inv) hstart hok.before hs).follows

def register (c : ℕ) : List Action := [.upsert c,.loadAndDelete c,.store c,.setPeerID c]

/-- A connection that registers, ends and takes its node offline, and the next one. -/
def registeredAgain : List Action := register 0++[.disconnect 0,.delete 0,.markOffline 0]++register 1

theorem registry_follows_first : ∃ s, exec step .start registeredAgain=some s ∧ s.registered=[1,0] ∧
    s.agent=some 1 ∧ Follows s := by
  have hok : Along step Alone .start registeredAgain := by
    refine .cons trivial rfl (.cons ?_ rfl (.cons ?_ rfl (.cons trivial rfl (.cons trivial rfl (.cons ?_ rfl
      (.cons ?_ rfl (.cons trivial rfl (.cons ?_ rfl (.cons ?_ rfl (.cons trivial rfl trivial))))))))))
    all_goals
      intro d
      simp only [Gateway.setStage,Gateway.disconnect,Gateway.start,update_apply,AgentConn.hasStored]
      grind
  exact ⟨_,rfl,rfl,rfl,registry_follows hok _ (prefix_refl _) _ rfl⟩

/-- A node connects again while its first connection is open: it ends in the registry, and offline. -/
theorem registry_lags : ¬ ∀ (as : List Action) (s : Gateway), exec step .start as=some s → Follows s := by
  intro h
  exact absurd (h (register 0++[.upsert 1,.loadAndDelete 1,.delete 0,.markOffline 0,.store 1,.setPeerID 1]) _ rfl
    1 rfl).2 (by decide)

end BetterDesk.MeshCentral.Registration
