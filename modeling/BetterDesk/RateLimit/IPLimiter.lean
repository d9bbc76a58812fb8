import Mathlib.Data.List.Induction
import Mathlib.Logic.Function.Basic
import BetterDesk.Lib.SlidingWindow

/-! # Limits per address (ratelimit/ip_limiter.go) -/

namespace BetterDesk.RateLimit
open SlidingWindow List

variable {α : Type*} [DecidableEq α]

structure IPEntry where
  timestamps : List ℤ
  blocked : Bool
  blockedAt : ℤ

structure IPLimiter (α : Type*) where
  entries : α → Option IPEntry
  limit : ℤ
  window : ℤ

namespace IPLimiter

def new (limit window : ℤ) : IPLimiter α := ⟨fun _ => none,limit,window⟩

variable (l : IPLimiter α)

def put (ip : α) (entry : Option IPEntry) : IPLimiter α := {l with entries := Function.update l.entries ip entry}

def stamps (ip : α) : List ℤ := ((l.entries ip).map IPEntry.timestamps).getD []

def Allow (ip : α) (now : ℤ) : Bool × IPLimiter α :=
  if l.limit≤0 then (true,l)
  else
    let entry:=(l.entries ip).getD ⟨[],false,0⟩
    let fresh:=recent (now-l.window) entry.timestamps
    if l.limit≤fresh.length then
      (false,l.put ip (some ⟨fresh,true,if entry.blocked then entry.blockedAt else now⟩))
    else (true,l.put ip (some ⟨fresh++[now],false,entry.blockedAt⟩))

def IsBlocked (ip : α) (now : ℤ) : Bool × IPLimiter α :=
  match l.entries ip with
  | none => (false,l)
  | some entry =>
    let fresh:=recent (now-l.window) entry.timestamps
    (l.limit≤fresh.length,l.put ip (some {entry with timestamps := fresh}))

def Reset (ip : α) : IPLimiter α := l.put ip none

/-- The round of `cleanupLoop`. -/
def prune (now : ℤ) : IPLimiter α :=
  {l with entries := fun ip => (l.entries ip).filter fun entry => recent (now-l.window) entry.timestamps≠[]}

end IPLimiter

inductive Call (α : Type*) where
  | allow (ip : α)
  | isBlocked (ip : α)
  | count (ip : α)
  | reset (ip : α)
  | prune
deriving DecidableEq

namespace IPLimiter

def call (l : IPLimiter α) (now : ℤ) : Call α → IPLimiter α
  | .allow ip => (l.Allow ip now).2
  | .isBlocked ip => (l.IsBlocked ip now).2
  | .count _ => l
  | .reset ip => l.Reset ip
  | .prune => l.prune now

def after (l : IPLimiter α) (calls : List (ℤ × Call α)) : IPLimiter α := calls.foldl (fun l c => l.call c.1 c.2) l

def accepted (l : IPLimiter α) (ip : α) : List (ℤ × Call α) → List ℤ
  | [] => []
  | c::calls =>
    (if c.2=.allow ip ∧ (l.Allow ip c.1).1=true then [c.1] else [])++(l.call c.1 c.2).accepted ip calls

theorem after_snoc (l : IPLimiter α) (calls : List (ℤ × Call α)) (c : ℤ × Call α) :
    l.after (calls++[c])=(l.after calls).call c.1 c.2 := by
  simp [after]

theorem accepted_snoc (l : IPLimiter α) (ip : α) (calls : List (ℤ × Call α)) (c : ℤ × Call α) :
    l.accepted ip (calls++[c])=l.accepted ip calls ++
      if c.2=.allow ip ∧ ((l.after calls).Allow ip c.1).1=true then [c.1] else [] := by
  induction calls generalizing l with
  | nil => rw [nil_append,accepted,accepted,accepted,append_nil,nil_append]; rfl
  | cons d calls ih =>
    rw [cons_append,accepted,ih,accepted,append_assoc]
    rfl

variable {l : IPLimiter α}

@[simp] theorem stamps_put_self (ip : α) (entry : IPEntry) : (l.put ip (some entry)).stamps ip=entry.timestamps := by
  simp [stamps,put]

theorem stamps_put_ne {ip ip' : α} (h : ip'≠ip) (entry : Option IPEntry) : (l.put ip entry).stamps ip'=l.stamps ip' := by
  simp [stamps,put,h]

omit [DecidableEq α] in
theorem stamps_getD (ip : α) : ((l.entries ip).getD ⟨[],false,0⟩).timestamps=l.stamps ip := by
  unfold stamps
  cases l.entries ip <;> rfl

theorem call_limit (now : ℤ) (c : Call α) : (l.call now c).limit=l.limit ∧ (l.call now c).window=l.window := by
  cases c with
  | allow ip =>
    simp only [call,Allow]
    split
    · exact ⟨rfl,rfl⟩
    · split <;> exact ⟨rfl,rfl⟩
  | isBlocked ip =>
    simp only [call,IsBlocked]
    split <;> exact ⟨rfl,rfl⟩
  | count | reset | prune => exact ⟨rfl,rfl⟩

theorem after_new (limit window : ℤ) (calls : List (ℤ × Call α)) :
    ((new limit window).after calls).limit=limit ∧ ((new limit window).after calls).window=window := by
  induction calls using List.reverseRecOn with
  | nil => exact ⟨rfl,rfl⟩
  | append_singleton calls c ih =>
    rw [after_snoc,(call_limit c.1 c.2).1,(call_limit c.1 c.2).2]
    exact ih

theorem allow_iff (ip : α) (now : ℤ) :
    (l.Allow ip now).1=true ↔ l.limit≤0 ∨ ((recent (now-l.window) (l.stamps ip)).length : ℤ)<l.limit := by
  unfold Allow
  rw [← stamps_getD (l := l)]
  split
  case isTrue h => simp [h]
  case isFalse h =>
    dsimp only
    split
    · simp only [Bool.false_eq_true,false_iff]
      omega
    · simp only [true_iff]
      omega

theorem stamps_allow (hl : 0<l.limit) (ip : α) (now : ℤ) :
    (l.Allow ip now).2.stamps ip=recent (now-l.window) (l.stamps ip) ++
      if (l.Allow ip now).1=true then [now] else [] := by
  unfold Allow
  rw [if_neg (not_le.mpr hl),← stamps_getD (l := l)]
  dsimp only
  split
  · simp [stamps_put_self]
  · simp [stamps_put_self]

theorem stamps_allow_ne {ip ip' : α} (h : ip'≠ip) (now : ℤ) : (l.Allow ip now).2.stamps ip'=l.stamps ip' := by
  unfold Allow
  split
  · rfl
  · dsimp only
    split
    · exact stamps_put_ne h _
    · exact stamps_put_ne h _

theorem stamps_isBlocked (ip : α) (now : ℤ) :
    (l.IsBlocked ip now).2.stamps ip=recent (now-l.window) (l.stamps ip) := by
  unfold IsBlocked stamps
  cases h : l.entries ip with
  | none => simp [h]
  | some entry => simp [put]

theorem stamps_isBlocked_ne {ip ip' : α} (h : ip'≠ip) (now : ℤ) : (l.IsBlocked ip now).2.stamps ip'=l.stamps ip' := by
  unfold IsBlocked
  split
  · rfl
  · exact stamps_put_ne h _

omit [DecidableEq α] in
theorem recent_prune (now : ℤ) (ip : α) :
    recent (now-l.window) ((l.prune now).stamps ip)=recent (now-l.window) (l.stamps ip) := by
  unfold prune stamps
  dsimp only
  cases l.entries ip with
  | none => rfl
  | some entry =>
    by_cases h : recent (now-l.window) entry.timestamps=[]
    · simp [Option.filter,h]
    · simp [Option.filter,h]

theorem recent_call (hl : 0<l.limit) {c : Call α} {ip : α} (hc : c ≠ .reset ip) (now : ℤ) :
    recent (now-l.window) ((l.call now c).stamps ip)=recent (now-l.window) (l.stamps ip) ++
      recent (now-l.window) (if c=.allow ip ∧ (l.Allow ip now).1=true then [now] else []) := by
  cases c with
  | allow ip' =>
    by_cases h : ip=ip'
    · subst h
      rw [call,stamps_allow hl,recent_append,recent_recent le_rfl]
      simp
    · rw [call,stamps_allow_ne h,if_neg (fun hand => h (Call.allow.inj hand.1).symm)]
      simp
  | isBlocked ip' =>
    by_cases h : ip=ip'
    · subst h
      rw [call,stamps_isBlocked,recent_recent le_rfl]
      simp
    · rw [call,stamps_isBlocked_ne h]
      simp
  | count => simp [call]
  | reset ip' =>
    have h : ip≠ip' := fun he => hc (by rw [he])
    rw [call,Reset,stamps_put_ne h]
    simp
  | prune => rw [call,recent_prune]; simp

/-- The calls of a run: their times do not go back, and none of them resets the address. -/
structure InOrder (ip : α) (calls : List (ℤ × Call α)) : Prop where
  times : (calls.map Prod.fst).Pairwise (·≤·)
  noReset : ∀ c∈calls,c.2 ≠ .reset ip

omit [DecidableEq α] in
theorem InOrder.init {ip : α} {calls : List (ℤ × Call α)} {c : ℤ × Call α} (h : InOrder ip (calls++[c])) :
    InOrder ip calls ∧ (∀ d∈calls,d.1≤c.1) ∧ c.2 ≠ .reset ip := by
  have htimes:=h.times
  rw [map_append,pairwise_append] at htimes
  refine ⟨⟨htimes.1,fun d hd => h.noReset d (mem_append_left _ hd)⟩,fun d hd => ?_,h.noReset c (by simp)⟩
  exact htimes.2.2 d.1 (mem_map_of_mem hd) c.1 (by simp)

theorem recent_after {limit window : ℤ} (hl : 0<limit) {ip : α} {calls : List (ℤ × Call α)} (h : InOrder ip calls)
    {now : ℤ} (hnow : ∀ c∈calls,c.1≤now) :
    recent (now-window) (((new limit window).after calls).stamps ip) =
      recent (now-window) ((new limit window).accepted ip calls) := by
  induction calls using List.reverseRecOn generalizing now with
  | nil => rfl
  | append_singleton calls c ih =>
    obtain ⟨hcalls,hlast,hreset⟩:=h.init
    obtain ⟨hlimit,hwindow⟩:=after_new (α := α) limit window calls
    have hcut : c.1-window≤now-window := sub_le_sub_right (hnow c (by simp)) window
    have hstep:=recent_call (l := (new limit window).after calls) (by rw [hlimit]; exact hl) hreset c.1
    rw [hwindow] at hstep
    have hkept:=congrArg (recent (now-window)) hstep
    rw [recent_append,recent_recent hcut,recent_recent hcut,recent_recent hcut] at hkept
    have hbefore:=congrArg (recent (now-window)) (ih hcalls hlast)
    rw [recent_recent hcut,recent_recent hcut] at hbefore
    rw [after_snoc,accepted_snoc,recent_append,← hbefore]
    exact hkept

theorem allow_after_iff {limit window : ℤ} {ip : α} {calls : List (ℤ × Call α)} (h : InOrder ip calls) {now : ℤ}
    (hnow : ∀ c∈calls,c.1≤now) :
    (((new limit window).after calls).Allow ip now).1=true ↔
      limit≤0 ∨ ((recent (now-window) ((new limit window).accepted ip calls)).length : ℤ)<limit := by
  obtain ⟨hlimit,hwindow⟩:=after_new (α := α) limit window calls
  rw [allow_iff,hlimit,hwindow]
  by_cases hl : limit≤0
  · exact iff_of_true (Or.inl hl) (Or.inl hl)
  · rw [recent_after (not_le.mp hl) h hnow]

theorem admitted_accepted {limit window : ℤ} (hl : 0<limit) {ip : α} {calls : List (ℤ × Call α)} (h : InOrder ip calls) :
    Admitted limit.toNat window ((new limit window).accepted ip calls) := by
  induction calls using List.reverseRecOn with
  | nil => exact .nil
  | append_singleton calls c ih =>
    obtain ⟨hcalls,hlast,-⟩:=h.init
    rw [accepted_snoc]
    split
    case isTrue hc =>
      refine .snoc (ih hcalls) ?_
      have hfew:=((allow_after_iff hcalls hlast).mp hc.2).resolve_left (not_le.mpr hl)
      omega
    case isFalse =>
      rw [append_nil]
      exact ih hcalls

/-- In every run a call is accepted exactly when less than `limit` calls of its address were
accepted in the window before it, or when nothing is limited at all; so no window has more. -/
theorem sliding_window_exact (limit window : ℤ) (ip : α) (calls : List (ℤ × Call α)) (h : InOrder ip calls) :
    (∀ pre now post, calls=pre++(now,.allow ip)::post →
      ((((new limit window).after pre).Allow ip now).1=true ↔
        limit≤0 ∨ ((recent (now-window) ((new limit window).accepted ip pre)).length : ℤ)<limit)) ∧
    (0<limit → ∀ a, ((within window a ((new limit window).accepted ip calls)).length : ℤ)≤limit) := by
  constructor
  · intro pre now post he
    have hpre : InOrder ip (pre++[(now,.allow ip)]) := by
      have hsub : (pre++[(now,Call.allow ip)]).Sublist calls := by
        have hsplit : calls=(pre++[(now,.allow ip)])++post := by simp [he]
        rw [hsplit]
        exact sublist_append_left _ _
      exact ⟨h.times.sublist (hsub.map _),fun c hc => h.noReset c (hsub.subset hc)⟩
    obtain ⟨hcalls,hlast,-⟩:=hpre.init
    exact allow_after_iff hcalls hlast
  · intro hl a
    have hadmitted : Admitted limit.toNat window ((new limit window).accepted ip calls) := admitted_accepted hl h
    have hle:=hadmitted.window_le a
    omega

/-- Three calls of one address, the last of them when the first has left the window. -/
def visits : List (ℤ × Call ℕ) := [(0,.allow 7),(4,.allow 7),(5,.prune),(6,.reset 8),(10,.allow 7)]

theorem visits_inOrder : InOrder 7 visits := ⟨by decide,by decide⟩

/-- Of two calls within ten, with one allowed, the second is refused and the third accepted. -/
theorem visits_limited : ((((new 1 10).after (visits.take 1)).Allow 7 4).1=true ↔ (1 : ℤ)≤0 ∨ (1 : ℤ)<1) ∧
    ((within 10 (-1) ((new 1 10).accepted 7 visits)).length : ℤ)≤1 :=
  ⟨(sliding_window_exact 1 10 7 visits visits_inOrder).1 [(0,.allow 7)] 4 _ rfl,
    (sliding_window_exact 1 10 7 visits visits_inOrder).2 (by decide) (-1)⟩

/-- Without a limit a call is accepted although there are not less than zero accepted before it. -/
theorem unlimited_accepts : ¬ ∀ (limit window : ℤ) (ip : ℕ) (calls : List (ℤ × Call ℕ)) (now : ℤ), InOrder ip calls →
    (∀ c∈calls,c.1≤now) → ((((new limit window).after calls).Allow ip now).1=true ↔
      ((recent (now-window) ((new limit window).accepted ip calls)).length : ℤ)<limit) := by
  intro hall
  have hfree:=(hall 0 10 7 [] 0 ⟨List.Pairwise.nil,by simp⟩ (by simp)).mp (by decide)
  exact absurd hfree (by decide)

end IPLimiter
end BetterDesk.RateLimit
