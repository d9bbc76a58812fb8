import BetterDesk.Lib.Exec
import Mathlib.Algebra.Order.Ring.Nat
import Mathlib.Data.List.Forall2

/-! # Programs over a shared store -/

namespace BetterDesk.Programs
open Exec List

variable {Op : Type} {Res : Op → Type} {α β : Type}

inductive Prog (Op : Type) (Res : Op → Type) (α : Type)
  | done (a : α)
  | call (op : Op) (k : Res op → Prog Op Res α)

namespace Prog

def bind : Prog Op Res α → (α → Prog Op Res β) → Prog Op Res β
  | done a, f => f a
  | call op k, f => call op fun r => (k r).bind f

instance : Monad (Prog Op Res) where
  pure := done
  bind := bind

def perform (op : Op) : Prog Op Res (Res op) := call op done

def nextOp : Prog Op Res α → Option Op
  | done _ => none
  | call op _ => some op

def reply : Prog Op Res α → Option α
  | done a => some a
  | call _ _ => none

/-- The program on its own, with `run` for an operation. -/
def eval {σ : Type} (run : σ → (op : Op) → Res op × σ) : Prog Op Res α → σ → α × σ
  | done a, s => (a,s)
  | call op k, s => eval run (k (run s op).1) (run s op).2

def within {Op' : Type} {Res' : Op' → Type} (f : (op : Op) → Prog Op' Res' (Res op)) : Prog Op Res α → Prog Op' Res' α
  | done a => done a
  | call op k => (f op).bind fun r => (k r).within f

variable {σ : Type} {run : σ → (op : Op) → Res op × σ} {s : σ}

@[simp] theorem eval_pure {a : α} : eval run (pure a) s=(a,s) := rfl

@[simp] theorem eval_bind {x : Prog Op Res α} {f : α → Prog Op Res β} :
    eval run (x >>= f) s=eval run (f (eval run x s).1) (eval run x s).2 := by
  induction x generalizing s with
  | done a => rfl
  | call op k ih => exact ih (run s op).1

@[simp] theorem eval_perform {op : Op} : eval run (perform op) s=run s op := rfl

/-- Every operation that the program can come to meets `P`. -/
def Performs (P : Op → Prop) : Prog Op Res α → Prop
  | done _ => True
  | call op k => P op ∧ ∀ r, Performs P (k r)

namespace Performs
variable {P : Op → Prop}

theorem pure {a : α} : Performs P (Pure.pure a : Prog Op Res α) := trivial

theorem mono {P' : Op → Prop} (hP : ∀ op, P op → P' op) {x : Prog Op Res α} (h : x.Performs P) : x.Performs P' := by
  induction x with
  | done a => trivial
  | call op k ih => exact ⟨hP op h.1,fun r => ih r (h.2 r)⟩

theorem perform {op : Op} (h : P op) : Performs P (Prog.perform op : Prog Op Res _) := ⟨h,fun _ => trivial⟩

theorem bind {x : Prog Op Res α} {f : α → Prog Op Res β} (hx : x.Performs P) (hf : ∀ a, (f a).Performs P) :
    (x >>= f).Performs P := by
  induction x with
  | done a => exact hf a
  | call op k ih => exact ⟨hx.1,fun r => ih r (hx.2 r)⟩

end Performs

/-- The program as one of the kind `t`: every operation carries its kind. -/
def tag {T : Type} (t : T) : Prog Op Res α → Prog (T × Op) (fun o => Res o.2) α
  | done a => done a
  | call op k => call (t,op) fun r => (k r).tag t

end Prog

structure Monitor (Op : Type) (Res : Op → Type) (P : Type) where
  allowed : P → Op → Prop
  next : P → (op : Op) → Res op → P → Prop

namespace Monitor
variable {P : Type} {m : Monitor Op Res P} {Q Q' : α → P → Prop} {g : P}

/-- Whatever the results are, the program keeps to the monitor and ends in `Q`. -/
def wp (m : Monitor Op Res P) (Q : α → P → Prop) : Prog Op Res α → P → Prop
  | .done a, g => Q a g
  | .call op k, g => m.allowed g op ∧ ∀ r g', m.next g op r g' → wp m Q (k r) g'

@[simp] theorem wp_pure {a : α} : m.wp Q (pure a) g ↔ Q a g := Iff.rfl

@[simp] theorem wp_bind {R : β → P → Prop} {x : Prog Op Res α} {f : α → Prog Op Res β} :
    m.wp R (x >>= f) g ↔ m.wp (fun a g' => m.wp R (f a) g') x g := by
  induction x generalizing g with
  | done a => rfl
  | call op k ih =>
    exact and_congr_right fun _ => forall_congr' fun r => forall_congr' fun g' =>
      imp_congr_right fun _ => ih r

@[simp] theorem wp_perform {op : Op} {Q : Res op → P → Prop} :
    m.wp Q (.perform op) g ↔ m.allowed g op ∧ ∀ r g', m.next g op r g' → Q r g' := Iff.rfl

theorem wp_mono (hQ : ∀ a g', Q a g' → Q' a g') {x : Prog Op Res α} (h : m.wp Q x g) : m.wp Q' x g := by
  induction x generalizing g with
  | done a => exact hQ a g h
  | call op k ih => exact ⟨h.1,fun r g' hg => ih r (h.2 r g' hg)⟩

/-- A program of other operations, each of which keeps `I`. -/
theorem wp_within {Op' : Type} {Res' : Op' → Type} {f : (op : Op') → Prog Op Res (Res' op)} (I : P → Prop)
    (hf : ∀ op g, I g → m.wp (fun _ g' => I g') (f op) g) (hQ : ∀ a g', I g' → Q a g') {x : Prog Op' Res' α} (hg : I g) :
    m.wp Q (x.within f) g := by
  induction x generalizing g with
  | done a => exact hQ a g hg
  | call op k ih =>
    have hbind : m.wp (fun r g' => m.wp Q ((k r).within f) g') (f op) g :=
      wp_mono (fun r g' hg' => ih r hg') (hf op g hg)
    exact wp_bind.mpr hbind

end Monitor

structure Entry (σ : Type) (Op : Type) (Res : Op → Type) where
  store : σ
  op : Op
  res : Res op

structure Process (σ Req Op : Type) (Res : Op → Type) (α : Type) where
  request : Req
  log : List (Entry σ Op Res)
  prog : Prog Op Res α

structure Sys (σ Req Op : Type) (Res : Op → Type) (α : Type) where
  store : σ
  procs : List (Process σ Req Op Res α)

/-- A request arrives, an operation of process `i` is performed, or something
outside moves the store. -/
inductive Act (Req E : Type)
  | begin (r : Req)
  | step (i : ℕ) (fails : Bool)
  | env (e : E)

variable {σ Req E : Type}

def initial (s : σ) : Sys σ Req Op Res α := ⟨s,[]⟩

def Process.advance (run : σ → (op : Op) → Bool → Res op × σ) (s : σ) (fails : Bool)
    (p : Process σ Req Op Res α) : Option (Process σ Req Op Res α × σ) := match p.prog with
  | .done _ => none
  | .call op k =>
    some ({p with log := ⟨s,op,(run s op fails).1⟩::p.log,prog := k (run s op fails).1},
      (run s op fails).2)

def step (run : σ → (op : Op) → Bool → Res op × σ) (handle : Req → Prog Op Res α)
    (move : σ → E → σ) (s : Sys σ Req Op Res α) : Act Req E → Option (Sys σ Req Op Res α)
  | .begin r => some {s with procs := s.procs++[⟨r,[],handle r⟩]}
  | .env e => some {s with store := move s.store e}
  | .step i fails =>
    match s.procs[i]? with
    | none => none
    | some p => match p.advance run s.store fails with
      | none => none
      | some (p',store) => some ⟨store,s.procs.set i p'⟩

variable {run : σ → (op : Op) → Bool → Res op × σ} {handle : Req → Prog Op Res α} {move : σ → E → σ}

theorem step_step {s t : Sys σ Req Op Res α} {i : ℕ} {fails : Bool}
    (h : step run handle move s (.step i fails)=some t) : ∃ p op k, s.procs[i]?=some p ∧ p.prog=.call op k ∧
      t=⟨(run s.store op fails).2,s.procs.set i
        ⟨p.request,⟨s.store,op,(run s.store op fails).1⟩::p.log,k (run s.store op fails).1⟩⟩ := by
  unfold step at h
  dsimp only at h
  split at h
  · cases h
  · rename_i p hp
    unfold Process.advance at h
    cases hprog : p.prog with
    | done a =>
      rw [hprog] at h
      cases h
    | call op k =>
      rw [hprog] at h
      cases h
      exact ⟨p,op,k,hp,hprog,rfl⟩

def Tracked {P : Type} (m : Monitor Op Res P) (Q : Req → α → P → Prop)
    (procs : List (Process σ Req Op Res α)) (gs : List P) : Prop :=
  List.Forall₂ (fun p g => m.wp (Q p.request) p.prog g) procs gs

theorem forall₂_set {A B : Type} {R : A → B → Prop} {l : List A} {l' : List B} {i : ℕ} {a : A} {b : B}
    (h : List.Forall₂ R l l') (hab : R a b) : List.Forall₂ R (l.set i a) (l'.set i b) := by
  induction h generalizing i with
  | nil => exact .nil
  | cons hr ht ih =>
    cases i with
    | zero => exact .cons hab ht
    | succ n => exact .cons hr ih

theorem forall₂_getElem? {A B : Type} {R : A → B → Prop} {l : List A} {l' : List B} {i : ℕ} {a : A}
    (h : List.Forall₂ R l l') (ha : l[i]?=some a) : ∃ b, l'[i]?=some b ∧ R a b := by
  induction h generalizing i with
  | nil => cases ha
  | cons hr _ ih =>
    cases i with
    | zero =>
      cases ha
      exact ⟨_,rfl,hr⟩
    | succ n => exact ih ha

theorem sum_set {A : Type} {l : List A} {i : ℕ} {a b : A} {f : A → ℕ} {n : ℕ} (ha : l[i]?=some a) (hb : f b=f a+n) :
    ((l.set i b).map f).sum=(l.map f).sum+n := by
  induction l generalizing i with
  | nil => cases ha
  | cons x rest ih =>
    cases i with
    | zero =>
      obtain rfl : x=a := Option.some.inj ha
      simp only [set_cons_zero,map_cons,sum_cons,hb]
      omega
    | succ i =>
      have hrest:=ih (i := i) ha
      simp only [set_cons_succ,map_cons,sum_cons,hrest]
      omega

section Tracked
variable {P : Type} {m : Monitor Op Res P} {Q : Req → α → P → Prop}
  {ok : Sys σ Req Op Res α → Act Req E → Prop} {J : Sys σ Req Op Res α → List P → Prop}

/-- Requests find a stage to begin in, and every allowed operation leads to a stage that
keeps `J`. -/
structure Keeps (run : σ → (op : Op) → Bool → Res op × σ) (handle : Req → Prog Op Res α) (move : σ → E → σ)
    (m : Monitor Op Res P) (Q : Req → α → P → Prop) (ok : Sys σ Req Op Res α → Act Req E → Prop)
    (J : Sys σ Req Op Res α → List P → Prop) : Prop where
  begin : ∀ s gs r, Tracked m Q s.procs gs → J s gs → ok s (.begin r) →
    ∃ g, m.wp (Q r) (handle r) g ∧ J {s with procs := s.procs++[⟨r,[],handle r⟩]} (gs++[g])
  env : ∀ s gs e, Tracked m Q s.procs gs → J s gs → ok s (.env e) → J {s with store := move s.store e} gs
  step : ∀ s gs i fails p op k g, Tracked m Q s.procs gs → J s gs → ok s (.step i fails) →
    s.procs[i]?=some p → gs[i]?=some g → p.prog=.call op k → m.allowed g op →
    m.wp (Q p.request) p.prog g →
    ∃ g', m.next g op (run s.store op fails).1 g' ∧
      J ⟨(run s.store op fails).2,s.procs.set i ⟨p.request,
        ⟨s.store,op,(run s.store op fails).1⟩::p.log,k (run s.store op fails).1⟩⟩ (gs.set i g')

theorem Keeps.tracked_step (hkeeps : Keeps run handle move m Q ok J) {s t : Sys σ Req Op Res α} {a : Act Req E}
    (hs : ∃ gs, Tracked m Q s.procs gs ∧ J s gs) (hok : ok s a) (hst : Programs.step run handle move s a=some t) :
    ∃ gs, Tracked m Q t.procs gs ∧ J t gs := by
  obtain ⟨gs,htr,hJ⟩:=hs
  cases a with
  | begin r =>
    cases hst
    obtain ⟨g,hwp,hJ'⟩:=hkeeps.begin s gs r htr hJ hok
    exact ⟨gs++[g],rel_append htr (.cons hwp .nil),hJ'⟩
  | env e =>
    cases hst
    exact ⟨gs,htr,hkeeps.env s gs e htr hJ hok⟩
  | step i fails =>
    obtain ⟨p,op,k,hp,hprog,rfl⟩:=step_step hst
    obtain ⟨g,hg,hwp⟩:=forall₂_getElem? htr hp
    have hcall : m.allowed g op ∧
        ∀ r g', m.next g op r g' → m.wp (Q p.request) (k r) g' := by
      rw [hprog] at hwp
      exact hwp
    obtain ⟨g',hnext,hJ'⟩:=hkeeps.step s gs i fails p op k g htr hJ hok hp hg hprog hcall.1 hwp
    exact ⟨gs.set i g',forall₂_set htr (hcall.2 _ g' hnext),hJ'⟩

/-- The run lemma: `J` holds in every state reached. -/
theorem Keeps.exec_tracked (hkeeps : Keeps run handle move m Q ok J) {s₀ : σ} {t : Sys σ Req Op Res α}
    {as : List (Act Req E)} (h0 : J (initial s₀) []) (hok : Along (Programs.step run handle move) ok (initial s₀) as)
    (h : exec (Programs.step run handle move) (initial s₀) as=some t) : ∃ gs, Tracked m Q t.procs gs ∧ J t gs := by
  have hstart : ∃ gs, Tracked m Q (initial s₀ : Sys σ Req Op Res α).procs gs ∧ J (initial s₀) gs :=
    ⟨[],List.Forall₂.nil,h0⟩
  exact exec_invariant (fun s => ∃ gs, Tracked m Q s.procs gs ∧ J s gs)
    (fun _ _ _ hs hok hst => hkeeps.tracked_step hs hok hst) hstart hok h

theorem exec_tracked (J : Sys σ Req Op Res α → List P → Prop)
    (hbegin : ∀ s gs r, Tracked m Q s.procs gs → J s gs → ok s (.begin r) →
      ∃ g, m.wp (Q r) (handle r) g ∧ J {s with procs := s.procs++[⟨r,[],handle r⟩]} (gs++[g]))
    (henv : ∀ s gs e, Tracked m Q s.procs gs → J s gs → ok s (.env e) →
      J {s with store := move s.store e} gs)
    (hstep : ∀ s gs i fails p op k g, Tracked m Q s.procs gs → J s gs → ok s (.step i fails) →
      s.procs[i]?=some p → gs[i]?=some g → p.prog=.call op k → m.allowed g op →
      m.wp (Q p.request) p.prog g →
      ∃ g', m.next g op (run s.store op fails).1 g' ∧
        J ⟨(run s.store op fails).2,s.procs.set i ⟨p.request,
          ⟨s.store,op,(run s.store op fails).1⟩::p.log,k (run s.store op fails).1⟩⟩ (gs.set i g'))
    {s₀ : σ} {t : Sys σ Req Op Res α} {as : List (Act Req E)} (h0 : J (initial s₀) [])
    (hok : Along (Programs.step run handle move) ok (initial s₀) as)
    (h : exec (Programs.step run handle move) (initial s₀) as=some t) :
    ∃ gs, Tracked m Q t.procs gs ∧ J t gs := Keeps.exec_tracked ⟨hbegin,henv,hstep⟩ h0 hok h

end Tracked

theorem mem_procs_of_done {s t : Sys σ Req Op Res α} {a : Act Req E} (hst : step run handle move s a=some t)
    {p : Process σ Req Op Res α} (hp : p∈s.procs) (hdone : p.prog.nextOp=none) : p∈t.procs := by
  cases a with
  | begin r =>
    cases hst
    exact mem_append_left _ hp
  | env e =>
    cases hst
    exact hp
  | step i fails =>
    obtain ⟨q,op,k,hq,hprog,rfl⟩:=step_step hst
    obtain ⟨j,hj⟩:=mem_iff_getElem?.mp hp
    have hij : i≠j := by
      rintro rfl
      rw [hq] at hj
      cases hj
      rw [hprog] at hdone
      cases hdone
    exact mem_iff_getElem?.mpr ⟨j,by rw [List.getElem?_set_ne hij]; exact hj⟩

abbrev Seen (Res : Op → Type) := (op : Op) × Res op

def history (allowed : List (Seen Res) → Op → Prop) : Monitor Op Res (List (Seen Res)) where
  allowed := allowed
  next seen op r seen' := seen'=⟨op,r⟩::seen

def Process.seen (p : Process σ Req Op Res α) : List (Seen Res) := p.log.map fun e => ⟨e.op,e.res⟩

section History
variable {allowed : List (Seen Res) → Op → Prop} {Q : α → List (Seen Res) → Prop} {seen : List (Seen Res)}

theorem history_perform {op : Op} {Q : Res op → List (Seen Res) → Prop} (hop : allowed seen op)
    (h : ∀ r, Q r (⟨op,r⟩::seen)) : (history allowed).wp Q (.perform op) seen := by
  refine ⟨hop,fun r seen' hseen => ?_⟩
  cases hseen
  exact h r

theorem history_call {op : Op} {f : Res op → Prog Op Res α} (hop : allowed seen op)
    (h : ∀ r, (history allowed).wp Q (f r) (⟨op,r⟩::seen)) : (history allowed).wp Q (Prog.perform op >>= f) seen :=
  Monitor.wp_bind.mpr (history_perform hop h)

theorem history_bind {x : Prog Op Res β} {f : β → Prog Op Res α} {R : β → List (Seen Res) → Prop}
    (hx : (history allowed).wp R x seen) (h : ∀ b seen', R b seen' → (history allowed).wp Q (f b) seen') :
    (history allowed).wp Q (x >>= f) seen := Monitor.wp_bind.mpr (Monitor.wp_mono h hx)

theorem history_performs {P : Op → Prop} (hP : ∀ seen' op, seen <:+ seen' → P op → allowed seen' op)
    {x : Prog Op Res α} (hx : x.Performs P) (hQ : ∀ a new, (∀ e∈new,P e.1) → Q a (new++seen)) :
    (history allowed).wp Q x seen := by
  induction x generalizing seen with
  | done a => exact hQ a [] (by simp)
  | call op k ih =>
    refine ⟨hP seen op suffix_rfl hx.1,fun r seen' hseen => ?_⟩
    cases hseen
    have hsuffix : seen <:+ ⟨op,r⟩::seen := suffix_cons _ _
    refine ih r (fun seen' op' hs => hP seen' op' (hsuffix.trans hs)) (hx.2 r) fun a new hnew => ?_
    rw [append_cons]
    refine hQ a (new++[⟨op,r⟩]) fun e he => ?_
    rcases mem_append.mp he with he | he
    · exact hnew e he
    · rw [mem_singleton.mp he]
      exact hx.1

def untag {T : Type} (seen : List (Seen fun o : T × Op => Res o.2)) : List (Seen Res) :=
  seen.map fun e => ⟨e.1.2,e.2⟩

theorem history_tag {T : Type} {t : T} {x : Prog Op Res α} {seen : List (Seen fun o : T × Op => Res o.2)}
    (h : (history allowed).wp Q x (untag seen)) :
    (history fun seen o => o.1=t ∧ allowed (untag seen) o.2).wp (fun a seen => Q a (untag seen)) (x.tag t) seen := by
  induction x generalizing seen with
  | done a => exact h
  | call op k ih =>
    refine ⟨⟨rfl,h.1⟩,fun r seen' hseen => ?_⟩
    cases hseen
    exact ih r (h.2 r _ rfl)

end History

/-- The process does what its request allows it after what it has seen, and `run` has
answered it. -/
structure Process.Follows (run : σ → (op : Op) → Bool → Res op × σ) (allowed : Req → List (Seen Res) → Op → Prop)
    (Q : Req → α → List (Seen Res) → Prop) (p : Process σ Req Op Res α) : Prop where
  ahead : (history (allowed p.request)).wp (Q p.request) p.prog p.seen
  answered : ∀ e∈p.log, ∃ fails, e.res=(run e.store e.op fails).1

section Follows
variable {allowed : Req → List (Seen Res) → Op → Prop} {Q : Req → α → List (Seen Res) → Prop}
  {p : Process σ Req Op Res α}

theorem Process.Follows.may {op : Op} {k : Res op → Prog Op Res α} (h : p.Follows run allowed Q)
    (hprog : p.prog=.call op k) : allowed p.request p.seen op := by
  have hahead:=h.ahead
  rw [hprog] at hahead
  exact hahead.1

theorem Process.Follows.ends {a : α} (h : p.Follows run allowed Q) (hprog : p.prog=.done a) : Q p.request a p.seen := by
  have hahead:=h.ahead
  rw [hprog] at hahead
  exact hahead

def Process.next (p : Process σ Req Op Res α) (s : σ) {op : Op} (r : Res op) (k : Res op → Prog Op Res α) :
    Process σ Req Op Res α := ⟨p.request,⟨s,op,r⟩::p.log,k r⟩

theorem Process.Follows.next {op : Op} {k : Res op → Prog Op Res α} {s : σ} {fails : Bool} (h : p.Follows run allowed Q)
    (hprog : p.prog=.call op k) : (p.next s (run s op fails).1 k).Follows run allowed Q := by
  have hahead:=h.ahead
  rw [hprog] at hahead
  refine ⟨hahead.2 _ _ rfl,fun e he => ?_⟩
  rcases mem_cons.mp he with rfl | he
  · exact ⟨fails,rfl⟩
  · exact h.answered e he

/-- Something seen was answered by `run`, in a store of the log. -/
theorem Process.Follows.met {op : Op} {r : Res op} (h : p.Follows run allowed Q) (hseen : ⟨op,r⟩∈p.seen) :
    ∃ e∈p.log,e.op=op ∧ ∃ fails, r=(run e.store op fails).1 := by
  obtain ⟨e,he,heq⟩:=mem_map.mp hseen
  obtain ⟨fails,hres⟩:=h.answered e he
  cases heq
  exact ⟨e,he,rfl,fails,hres⟩

theorem follows_step {s t : Sys σ Req Op Res α} {a : Act Req E}
    (hhandle : ∀ r, (history (allowed r)).wp (Q r) (handle r) []) (h : ∀ p∈s.procs,p.Follows run allowed Q)
    (hst : step run handle move s a=some t) : ∀ p∈t.procs,p.Follows run allowed Q := by
  cases a with
  | begin r =>
    cases hst
    intro p hp
    rcases mem_append.mp hp with hp | hp
    · exact h p hp
    · rw [mem_singleton.mp hp]
      exact ⟨hhandle r,fun e he => absurd he not_mem_nil⟩
  | env e =>
    cases hst
    exact h
  | step i fails =>
    obtain ⟨q,op,k,hq,hprog,rfl⟩:=step_step hst
    intro p hp
    rcases mem_or_eq_of_mem_set hp with hp | rfl
    · exact h p hp
    · exact (h q (mem_of_getElem? hq)).next hprog

end Follows

def Sys.logOf (s : Sys σ Req Op Res α) (i : ℕ) : List (Entry σ Op Res) := ((s.procs[i]?).map Process.log).getD []

/-- What the logs say more than those of `s₀`, was performed on stores with `I`. -/
def LoggedSince (s₀ : Sys σ Req Op Res α) (I : σ → Prop) (s : Sys σ Req Op Res α) : Prop :=
  ∀ i, ∀ e∈s.logOf i, e∈s₀.logOf i ∨ I e.store

theorem loggedSince_step {s₀ s t : Sys σ Req Op Res α} {I : σ → Prop} {a : Act Req E} (h : LoggedSince s₀ I s)
    (hI : I s.store) (hst : step run handle move s a=some t) : LoggedSince s₀ I t := by
  intro i e he
  cases a with
  | begin r =>
    cases hst
    refine h i e ?_
    unfold Sys.logOf at he ⊢
    dsimp only at he
    rw [List.getElem?_append] at he
    split at he
    · exact he
    · by_cases hi : i=s.procs.length
      · simp [hi] at he
      · rw [List.getElem?_eq_none (by simp; omega)] at he
        cases he
  | env e =>
    cases hst
    exact h i _ he
  | step j fails =>
    obtain ⟨p,op,k,hp,-,rfl⟩:=step_step hst
    by_cases hij : j=i
    · subst hij
      have hlt : j < s.procs.length := (List.getElem?_eq_some_iff.mp hp).1
      have hlog : s.logOf j=p.log := by
        unfold Sys.logOf
        rw [hp]
        rfl
      unfold Sys.logOf at he
      rw [List.getElem?_set_self hlt] at he
      rcases mem_cons.mp he with rfl | he
      · exact .inr hI
      · exact h j e (hlog ▸ he)
    · refine h i e ?_
      unfold Sys.logOf at he ⊢
      dsimp only at he
      rwa [List.getElem?_set_ne hij] at he

section Alone
variable {run : σ → (op : Op) → Bool → Res op × σ} {handle : Req → Prog Op Res α} {move : σ → E → σ}

/-- A program that runs alone: the store may move between its operations, each of them
meets `ok` and succeeds, and the store it leaves is in `Q`. -/
def Prog.always (run : σ → (op : Op) → Bool → Res op × σ) (moves : σ → σ → Prop) (ok : σ → Op → Prop)
    (Q : α → σ → Prop) : Prog Op Res α → σ → Prop
  | .done a, s => ∀ s', moves s s' → Q a s'
  | .call op k, s => ∀ s', moves s s' → ok s' op → always run moves ok Q (k (run s' op false).1) (run s' op false).2

section Rules
variable {moves : σ → σ → Prop} {ok : σ → Op → Prop} {Q Q' : α → σ → Prop} {s s' : σ}

theorem Prog.always_bind (hrefl : ∀ s, moves s s) {x : Prog Op Res β} {f : β → Prog Op Res α}
    (h : x.always run moves ok (fun b s' => (f b).always run moves ok Q s') s) : (x >>= f).always run moves ok Q s := by
  induction x generalizing s with
  | done b => exact h s (hrefl s)
  | call op k ih => exact fun s' hs' hok => ih (run s' op false).1 (h s' hs' hok)

theorem Prog.always_mono (hQ : ∀ a s, Q a s → Q' a s) {x : Prog Op Res α} (h : x.always run moves ok Q s) :
    x.always run moves ok Q' s := by
  induction x generalizing s with
  | done a => exact fun s' hs' => hQ a s' (h s' hs')
  | call op k ih => exact fun s' hs' hok => ih (run s' op false).1 (h s' hs' hok)

theorem Prog.always_moves (htrans : ∀ a b c, moves a b → moves b c → moves a c) {x : Prog Op Res α}
    (h : x.always run moves ok Q s) (hs : moves s s') : x.always run moves ok Q s' := by
  cases x with
  | done a => exact fun u hu => h u (htrans _ _ _ hs hu)
  | call op k => exact fun u hu hok => h u (htrans _ _ _ hs hu) hok

end Rules

def Sys.Idle (s : Sys σ Req Op Res α) : Prop := ∀ p∈s.procs,p.prog.nextOp=none

/-- Requests begin when no other is under way and `req` allows them. -/
def Alone (req : σ → Req → Prop) (stays : σ → E → Prop) (ok : σ → Op → Prop)
    (s : Sys σ Req Op Res α) : Act Req E → Prop
  | .begin r => s.Idle ∧ req s.store r
  | .step i fails => fails=false ∧ ∀ p∈s.procs[i]?, ∀ op∈p.prog.nextOp,ok s.store op
  | .env e => s.Idle ∨ stays s.store e

instance (s : Sys σ Req Op Res α) : Decidable s.Idle :=
  inferInstanceAs (Decidable (∀ p∈s.procs,p.prog.nextOp=none))

instance {req : σ → Req → Prop} {stays : σ → E → Prop} {ok : σ → Op → Prop} [∀ s r, Decidable (req s r)]
    [∀ s e, Decidable (stays s e)] [∀ s op, Decidable (ok s op)] (s : Sys σ Req Op Res α) :
    (a : Act Req E) → Decidable (Alone req stays ok s a)
  | .begin r => inferInstanceAs (Decidable (s.Idle ∧ req s.store r))
  | .step i fails =>
    inferInstanceAs (Decidable (fails=false ∧ ∀ p∈s.procs[i]?, ∀ op∈p.prog.nextOp,ok s.store op))
  | .env e => inferInstanceAs (Decidable (s.Idle ∨ stays s.store e))

theorem step_alone {s t : Sys σ Req Op Res α} {i : ℕ} {fails : Bool} {ds : List (Process σ Req Op Res α)}
    {p : Process σ Req Op Res α} (hprocs : s.procs=ds++[p]) (hds : ∀ q∈ds,q.prog.nextOp=none)
    (h : step run handle move s (.step i fails)=some t) :
    ∃ op k, p.prog=.call op k ∧ s.procs[i]?=some p ∧ t=⟨(run s.store op fails).2,ds++[⟨p.request,
      ⟨s.store,op,(run s.store op fails).1⟩::p.log,k (run s.store op fails).1⟩]⟩ := by
  obtain ⟨q,op,k,hq,hprog,rfl⟩:=step_step h
  have hq':=hq
  rw [hprocs] at hq
  -- those before the last one are done
  have hi : i=ds.length := by
    by_contra hne
    rw [List.getElem?_append] at hq
    split at hq
    · have hnone:=hds q (mem_of_getElem? hq)
      rw [hprog] at hnone
      cases hnone
    · rw [List.getElem?_singleton,if_neg (by omega)] at hq
      cases hq
  rw [hi,List.getElem?_append_right (Nat.le_refl _),Nat.sub_self] at hq
  obtain rfl : p=q := by simpa using hq
  refine ⟨op,k,hprog,hq',?_⟩
  rw [hprocs,hi,set_append_right _ _ (Nat.le_refl _),Nat.sub_self]
  rfl

/-- What every request that runs alone leads from `I` to `I`, holds between requests. -/
theorem exec_alone {req : σ → Req → Prop} {stays : σ → E → Prop} {ok : σ → Op → Prop} (moves : σ → σ → Prop)
    (I : σ → Prop) (hrefl : ∀ s, moves s s) (htrans : ∀ a b c, moves a b → moves b c → moves a c)
    (hmove : ∀ s e, stays s e → moves s (move s e)) (hstable : ∀ s e, I s → I (move s e))
    (hreq : ∀ s r, I s → req s r → (handle r).always run moves ok (fun _ => I) s)
    {s₀ : σ} {t : Sys σ Req Op Res α} {as : List (Act Req E)} (h0 : I s₀)
    (hok : Along (step run handle move) (Alone req stays ok) (initial s₀) as)
    (h : exec (step run handle move) (initial s₀) as=some t) (hidle : t.Idle) : I t.store := by
  let K (s : Sys σ Req Op Res α) : Prop := (s.Idle ∧ I s.store) ∨ ∃ ds p, s.procs=ds++[p] ∧
    (∀ q∈ds,q.prog.nextOp=none) ∧ p.prog.always run moves ok (fun _ => I) s.store
  have hrest (s : Sys σ Req Op Res α) (hK : K s) (hs : s.Idle) : I s.store := by
    rcases hK with hK | ⟨ds,p,hprocs,-,halways⟩
    · exact hK.2
    · have hdone:=hs p (by simp [hprocs])
      cases hp : p.prog with
      | done a =>
        rw [hp] at halways
        exact halways s.store (hrefl _)
      | call op k =>
        rw [hp] at hdone
        cases hdone
  refine hrest t (exec_invariant K ?_ ?_ hok h) hidle
  · intro s a t hK hok hst
    cases a with
    | begin r =>
      cases hst
      exact .inr ⟨s.procs,_,rfl,hok.1,hreq s.store r (hrest s hK hok.1) hok.2⟩
    | env e =>
      cases hst
      by_cases hs : s.Idle
      · exact .inl ⟨hs,hstable s.store e (hrest s hK hs)⟩
      · rcases hK with hK | ⟨ds,p,hprocs,hds,halways⟩
        · exact absurd hK.1 hs
        · exact .inr ⟨ds,p,hprocs,hds,Prog.always_moves htrans halways (hmove _ e (hok.resolve_left hs))⟩
    | step i fails =>
      obtain ⟨rfl,hop⟩:=hok
      rcases hK with ⟨hs,-⟩ | ⟨ds,p,hprocs,hds,halways⟩
      · obtain ⟨p,op,k,hp,hprog,-⟩:=step_step hst
        have hdone:=hs p (mem_of_getElem? hp)
        rw [hprog] at hdone
        cases hdone
      · obtain ⟨op,k,hprog,hp,rfl⟩:=step_alone hprocs hds hst
        have hmeets:=hop p hp op (by rw [hprog]; rfl)
        rw [hprog] at halways
        exact .inr ⟨ds,_,rfl,hds,halways s.store (hrefl _) hmeets⟩
  · exact .inl ⟨fun p hp => (nomatch hp),h0⟩

end Alone

end BetterDesk.Programs
