import BetterDesk.Lib.Exec
import BetterDesk.Lib.Text
import Mathlib.Algebra.Order.Ring.Int

/-! # Two-factor codes of a device (api/device_totp_handlers.go, auth/totp.go) -/

namespace BetterDesk.Device.TotpLock
open Exec Text Function

/-- What the codes are computed with: base32 and HMAC-SHA1, and the URI for the setup. -/
structure Crypto where
  decodeBase32 : String → Option Bytes
  hmacSHA1 : Bytes → Bytes → Bytes
  totpUri : String → String → String

def totpPeriod : ℤ := 30

def totpDigits : ℕ := 6

def bigEndian64 (n : ℕ) : Bytes := (List.range 8).map fun i => (n/256^(7-i)).toUInt8

def uint32 (b : Bytes) : ℕ := b.foldl (fun n x => 256*n+x.toNat) 0

/-- `%0*d`. -/
def padded (digits n : ℕ) : String :=
  let text:=Nat.toDigits 10 n
  String.ofList (List.replicate (digits-text.length) '0' ++ text)

variable (crypto : Crypto)

def ComputeTOTP (secret : String) (t : ℤ) : Option String :=
  (crypto.decodeBase32 secret).map fun key =>
    let counter:=(t%2^64).toNat/totpPeriod.toNat
    let hash:=crypto.hmacSHA1 key (bigEndian64 counter)
    let offset:=(hash.getLastD 0).toNat%16
    padded totpDigits (uint32 ((hash.drop offset).take 4)%2^31%10^totpDigits)

def ValidateTOTP (secret code : String) (now : ℤ) : Bool :=
  code.utf8ByteSize=totpDigits && [-1,0,1].any fun i => ComputeTOTP crypto secret (now+i*totpPeriod)=some code

inductive Action where
  | setup | enable | disable | status
deriving DecidableEq

def actionOf (text : String) : Action :=
  match lowerString (trimString text) with
  | "setup" => .setup
  | "enable" => .enable
  | "disable" => .disable
  | _ => .status

structure Body where
  deviceID : String
  deviceToken : String
  action : String
  code : String

structure Request where
  post : Bool
  body : Option Body

inductive Response where
  | methodNotAllowed | invalidJSON | invalidToken | invalidCode
  | status (enabled : Bool) (uri secret : String)

/-- What happens while a request is served: which of the reads and writes succeed, the secret that is
drawn, and whether the token is active and bound to the device. -/
structure Outcome where
  bound : Bool
  reads : Bool
  writesEnabled : Bool
  writesSecret : Bool
  drawn : String

/-- `server_config`; a key that is not there reads as the empty text. -/
abbrev Config := String → String

def enabledKey (deviceID : String) : String := "device_totp_enabled_" ++ deviceID

def secretKey (deviceID : String) : String := "device_totp_secret_" ++ deviceID

def getConfig (c : Config) (reads : Bool) (key : String) : String := if reads then c key else ""

def setConfig (c : Config) (writes : Bool) (key value : String) : Config := if writes then update c key value else c

def act (c : Config) (b : Body) (o : Outcome) (now : ℤ) : Response × Config :=
  match actionOf b.action with
  | .setup => (.status false (crypto.totpUri o.drawn b.deviceID) o.drawn,setConfig c o.writesSecret (secretKey b.deviceID) o.drawn)
  | .enable =>
    let secret:=getConfig c o.reads (secretKey b.deviceID)
    if secret="" ∨ ValidateTOTP crypto secret b.code now=false then (.invalidCode,c)
    else (.status true "" "",setConfig c o.writesEnabled (enabledKey b.deviceID) "true")
  | .disable =>
    let secret:=getConfig c o.reads (secretKey b.deviceID)
    if secret≠"" ∧ ValidateTOTP crypto secret b.code now=false then (.invalidCode,c)
    else (.status false "" "",
      setConfig (setConfig c o.writesEnabled (enabledKey b.deviceID) "false") o.writesSecret (secretKey b.deviceID) "")
  | .status => (.status (getConfig c o.reads (enabledKey b.deviceID)="true") "" "",c)

def handleDeviceSelfTOTP (c : Config) (r : Request) (o : Outcome) (now : ℤ) : Response × Config :=
  if r.post=false then (.methodNotAllowed,c)
  else match r.body with
    | none => (.invalidJSON,c)
    | some b => if o.bound then act crypto c b o now else (.invalidToken,c)

structure Call where
  request : Request
  outcome : Outcome
  now : ℤ

def Call.by (deviceID : String) (a : Call) (b : Body) : Prop :=
  a.request.post=true ∧ a.request.body=some b ∧ a.outcome.bound=true ∧ b.deviceID=deviceID

structure State where
  config : Config
  proven : Bool

def proves (deviceID secret : String) (a : Call) : Bool :=
  a.request.post&&a.outcome.bound&&a.request.body.any fun b =>
    b.deviceID=deviceID&&ValidateTOTP crypto secret b.code a.now

def step (deviceID secret : String) (s : State) (a : Call) : Option State :=
  some ⟨(handleDeviceSelfTOTP crypto s.config a.request a.outcome a.now).2,s.proven||proves crypto deviceID secret a⟩

def Locked (deviceID secret : String) (s : State) : Prop :=
  s.proven=true ∨ s.config (enabledKey deviceID)="true" ∧ s.config (secretKey deviceID)=secret

structure Harmless (secret : String) (o : Outcome) (a : Action) : Prop where
  setup : a=.setup → o.writesSecret=false ∨ o.drawn=secret
  disable : a=.disable → o.reads=true ∧ secret≠"" ∨ o.writesEnabled=false ∧ (o.writesSecret=false ∨ secret="")

def StepOk (deviceID secret : String) (s : State) (a : Call) : Prop :=
  s.proven=true ∨ proves crypto deviceID secret a=true ∨
    ∀ b, a.by deviceID b → Harmless secret a.outcome (actionOf b.action)

variable {b : Body} {d : String} {s : State} {a : Call}

theorem enabledKey_inj {e : String} (h : enabledKey d=enabledKey e) : d=e :=
  (String.append_right_inj _).mp h

theorem secretKey_inj {e : String} (h : secretKey d=secretKey e) : d=e :=
  (String.append_right_inj _).mp h

theorem prefixes_apart (d e : List Char) (h : "device_totp_enabled_".toList++d="device_totp_secret_".toList++e) :
    False := by
  simp at h

theorem keys_apart (d e : String) (h : enabledKey d=secretKey e) : False := by
  unfold enabledKey secretKey at h
  have hlist:=congrArg String.toList h
  rw [String.toList_append,String.toList_append] at hlist
  exact prefixes_apart _ _ hlist

variable {crypto : Crypto}

theorem setConfig_self (c : Config) (writes : Bool) (key value : String) :
    setConfig c writes key value key = if writes then value else c key := by
  unfold setConfig
  split
  · rw [update_self]
  · rfl

theorem setConfig_ne (c : Config) (writes : Bool) {key key' : String} (value : String) (h : key'≠key) :
    setConfig c writes key value key'=c key' := by
  unfold setConfig
  split
  · rw [update_of_ne h]
  · rfl

theorem act_other (c : Config) (o : Outcome) (now : ℤ) (hd : d≠b.deviceID) :
    (act crypto c b o now).2 (enabledKey d)=c (enabledKey d) ∧ (act crypto c b o now).2 (secretKey d)=c (secretKey d) := by
  have he : enabledKey d≠enabledKey b.deviceID := fun h => hd (enabledKey_inj h)
  have hs : secretKey d≠secretKey b.deviceID := fun h => hd (secretKey_inj h)
  have hes : enabledKey d≠secretKey b.deviceID := fun h => keys_apart _ _ h
  have hse : secretKey d≠enabledKey b.deviceID := fun h => keys_apart _ _ h.symm
  unfold act
  cases actionOf b.action with
  | setup => exact ⟨setConfig_ne _ _ _ hes,setConfig_ne _ _ _ hs⟩
  | enable =>
    dsimp only
    split
    · exact ⟨rfl,rfl⟩
    · exact ⟨setConfig_ne _ _ _ he,setConfig_ne _ _ _ hse⟩
  | disable =>
    dsimp only
    split
    · exact ⟨rfl,rfl⟩
    · dsimp only
      rw [setConfig_ne _ _ _ hes,setConfig_ne _ _ _ he,setConfig_ne _ _ _ hs,setConfig_ne _ _ _ hse]
      exact ⟨rfl,rfl⟩
  | status => exact ⟨rfl,rfl⟩

theorem harmless_setup {o : Outcome} {k : String} : Harmless k o .setup ↔ o.writesSecret=false ∨ o.drawn=k :=
  ⟨fun h => h.setup rfl,fun h => ⟨fun _ => h,(fun hd => nomatch hd)⟩⟩

theorem harmless_disable {o : Outcome} {k : String} : Harmless k o .disable ↔
    o.reads=true ∧ k≠"" ∨ o.writesEnabled=false ∧ (o.writesSecret=false ∨ k="") :=
  ⟨fun h => h.disable rfl,fun h => ⟨(fun hs => nomatch hs),fun _ => h⟩⟩

theorem act_keeps_iff {c : Config} (o : Outcome) (now : ℤ) (he : c (enabledKey b.deviceID)="true")
    (hcode : ValidateTOTP crypto (c (secretKey b.deviceID)) b.code now=false) :
    ((act crypto c b o now).2 (enabledKey b.deviceID)="true" ∧
      (act crypto c b o now).2 (secretKey b.deviceID)=c (secretKey b.deviceID)) ↔
    Harmless (c (secretKey b.deviceID)) o (actionOf b.action) := by
  have hes : enabledKey b.deviceID≠secretKey b.deviceID := fun h => keys_apart _ _ h
  unfold act
  cases actionOf b.action with
  | setup =>
    rw [harmless_setup]
    simp only [setConfig_self,setConfig_ne _ _ _ hes,he,true_and]
    cases o.writesSecret <;> simp
  | enable =>
    refine iff_of_true ?_ ⟨(fun h => nomatch h),(fun h => nomatch h)⟩
    dsimp only
    split
    case isTrue => exact ⟨he,rfl⟩
    case isFalse hread =>
      -- a secret that is read is the one the code is not valid for
      obtain ⟨hne,hvalid⟩:=not_or.mp hread
      cases hr : o.reads with
      | false => exact absurd (by rw [hr]; rfl) hne
      | true =>
        rw [hr] at hvalid
        exact absurd hcode hvalid
  | disable =>
    have hwritten : (setConfig (setConfig c o.writesEnabled (enabledKey b.deviceID) "false") o.writesSecret
          (secretKey b.deviceID) "" (enabledKey b.deviceID)="true" ∧
        setConfig (setConfig c o.writesEnabled (enabledKey b.deviceID) "false") o.writesSecret
          (secretKey b.deviceID) "" (secretKey b.deviceID)=c (secretKey b.deviceID)) ↔
        o.writesEnabled=false ∧ (o.writesSecret=false ∨ c (secretKey b.deviceID)="") := by
      rw [setConfig_ne _ _ _ hes,setConfig_self,setConfig_self,setConfig_ne _ _ _ hes.symm]
      cases o.writesEnabled <;> cases o.writesSecret <;> simp [he,eq_comm (a := "")]
    rw [harmless_disable]
    cases hr : o.reads with
    | false =>
      simp only [getConfig,Bool.false_eq_true,if_false,ne_eq,not_true_eq_false,false_and,false_or]
      exact hwritten
    | true =>
      by_cases hk : c (secretKey b.deviceID)=""
      · simp only [getConfig,if_true,hk,ne_eq,not_true_eq_false,false_and,and_false,if_false,false_or,
          or_true,and_true]
        rw [hk] at hwritten
        simpa using hwritten
      · refine iff_of_true ?_ (Or.inl ⟨rfl,hk⟩)
        simp only [getConfig,if_true,ne_eq,hk,not_false_eq_true,hcode,and_self]
        exact ⟨he,trivial⟩
  | status => exact iff_of_true ⟨he,rfl⟩ ⟨(fun h => nomatch h),(fun h => nomatch h)⟩

variable {deviceID secret : String}

theorem proves_iff (hb : a.by deviceID b) :
    proves crypto deviceID secret a=ValidateTOTP crypto secret b.code a.now := by
  obtain ⟨hpost,hbody,hbound,hid⟩:=hb
  simp [proves,hpost,hbody,hbound,hid]

theorem step_other (hb : ∀ b, ¬ a.by deviceID b) :
    (handleDeviceSelfTOTP crypto s.config a.request a.outcome a.now).2 (enabledKey deviceID)=s.config (enabledKey deviceID) ∧
    (handleDeviceSelfTOTP crypto s.config a.request a.outcome a.now).2 (secretKey deviceID)=s.config (secretKey deviceID) := by
  unfold handleDeviceSelfTOTP
  split
  · exact ⟨rfl,rfl⟩
  case isFalse hpost =>
    cases hbody : a.request.body with
    | none => exact ⟨rfl,rfl⟩
    | some b =>
      dsimp only
      split
      case isTrue hbound =>
        refine act_other _ _ _ fun hid => hb b ⟨?_,hbody,hbound,hid.symm⟩
        simpa using hpost
      case isFalse => exact ⟨rfl,rfl⟩

theorem step_by (hb : a.by deviceID b) :
    handleDeviceSelfTOTP crypto s.config a.request a.outcome a.now=act crypto s.config b a.outcome a.now := by
  obtain ⟨hpost,hbody,hbound,-⟩:=hb
  simp [handleDeviceSelfTOTP,hpost,hbody,hbound]

theorem step_locked_iff (h : Locked deviceID secret s) (a : Call) :
    (∀ t, step crypto deviceID secret s a=some t → Locked deviceID secret t) ↔ StepOk crypto deviceID secret s a := by
  have hall : (∀ t, step crypto deviceID secret s a=some t → Locked deviceID secret t) ↔
      Locked deviceID secret ⟨(handleDeviceSelfTOTP crypto s.config a.request a.outcome a.now).2,
        s.proven||proves crypto deviceID secret a⟩ := by
    simp [step]
  rw [hall]
  by_cases hp : s.proven=true
  · exact iff_of_true (Or.inl (by simp [hp])) (Or.inl hp)
  by_cases hc : proves crypto deviceID secret a=true
  · exact iff_of_true (Or.inl (by simp [hc])) (Or.inr (Or.inl hc))
  obtain ⟨he,hs⟩:=h.resolve_left hp
  -- neither the calls before nor this one have shown a code
  have hlocked (c : Config) : Locked deviceID secret ⟨c,s.proven||proves crypto deviceID secret a⟩ ↔
      c (enabledKey deviceID)="true" ∧ c (secretKey deviceID)=secret := by
    simp [Locked,hp,hc]
  have hok : StepOk crypto deviceID secret s a ↔ ∀ b, a.by deviceID b → Harmless secret a.outcome (actionOf b.action) := by
    simp [StepOk,hp,hc]
  rw [hlocked,hok]
  by_cases hb : ∃ b, a.by deviceID b
  · obtain ⟨b,hb⟩:=hb
    have hcode : ValidateTOTP crypto secret b.code a.now=false := by
      rw [proves_iff hb] at hc
      simpa using hc
    have hid:=hb.2.2.2
    rw [step_by hb]
    rw [← hid] at he hs ⊢
    subst hs
    rw [act_keeps_iff a.outcome a.now he hcode]
    constructor
    · intro hharmless b' hb'
      have hsame:=Option.some.inj (hb.2.1.symm.trans hb'.2.1)
      rw [← hsame]
      exact hharmless
    · intro hall
      exact hall b (hid ▸ hb)
  · have hnone : ∀ b, ¬ a.by deviceID b := fun b hb' => hb ⟨b,hb'⟩
    rw [(step_other hnone).1,(step_other hnone).2]
    exact iff_of_true ⟨he,hs⟩ fun b hb' => (hb ⟨b,hb'⟩).elim

/-- Once the second factor is on it stays on with its secret through every run that shows no code
for it, exactly when each call shows a code or is harmless. -/
theorem locked_iff_harmless (crypto : Crypto) (deviceID : String) (c : Config) (he : c (enabledKey deviceID)="true")
    (calls : List Call) :
    (∀ pre, pre <+: calls → ∀ s, exec (step crypto deviceID (c (secretKey deviceID))) ⟨c,false⟩ pre=some s →
      Locked deviceID (c (secretKey deviceID)) s) ↔
    Along (step crypto deviceID (c (secretKey deviceID))) (StepOk crypto deviceID (c (secretKey deviceID))) ⟨c,false⟩ calls := by
  have hstart : Locked deviceID (c (secretKey deviceID)) ⟨c,false⟩ := Or.inr ⟨he,rfl⟩
  rw [along_reached_iff hstart]
  refine along_iff_of_keep (Locked deviceID (c (secretKey deviceID))) ?_ (fun s a h => step_locked_iff h a) hstart
  intro s a t _ hall ht
  exact hall t ht

def zeros : Crypto := ⟨fun s => some (lit s),fun _ _ => List.replicate 20 0,fun _ _ => ""⟩

def enrolled : Config := fun key =>
  if key=enabledKey "A" then "true" else if key=secretKey "A" then "OLD" else ""

def ask (action code drawn : String) (reads : Bool) : Call :=
  ⟨⟨true,some ⟨"A","token",action,code⟩⟩,⟨true,reads,true,true,drawn⟩,0⟩

theorem enrolled_enabled : enrolled (enabledKey "A")="true" := by decide

/-- A look at the state, two calls with a wrong code, and a setup whose write fails. -/
def refusedCalls : List Call :=
  [ask "status" "" "" true,ask "disable" "123456" "" true,ask "enable" "123456" "" true,
    ⟨⟨true,some ⟨"A","token","setup",""⟩⟩,⟨true,true,true,false,"NEW"⟩,0⟩]

/-- They keep the lock. -/
theorem status_keeps : ∃ s, exec (step zeros "A" (enrolled (secretKey "A"))) ⟨enrolled,false⟩ refusedCalls=some s ∧
    s.proven=false ∧ Locked "A" (enrolled (secretKey "A")) s := by
  refine ⟨_,rfl,by decide,(locked_iff_harmless zeros "A" enrolled enrolled_enabled refusedCalls).mpr ?_ _ List.prefix_rfl _ rfl⟩
  have hharmless : ∀ a∈refusedCalls, ∃ b, a.request.body=some b ∧
      Harmless (enrolled (secretKey "A")) a.outcome (actionOf b.action) := by
    simp only [refusedCalls,List.forall_mem_cons]
    exact ⟨⟨_,rfl,by decide,by decide⟩,⟨_,rfl,by decide,by decide⟩,⟨_,rfl,by decide,by decide⟩,
      ⟨_,rfl,by decide,by decide⟩,fun _ ha => by cases ha⟩
  refine along_of_forall (fun a ha s => .inr (.inr fun b hb => ?_)) _
  obtain ⟨b',hbody,hok⟩:=hharmless a ha
  cases hbody.symm.trans hb.2.1
  exact hok

def unlockedBy (calls : List Call) : Bool :=
  (exec (step zeros "A" "OLD") ⟨enrolled,false⟩ calls).any fun s =>
    !s.proven&&(s.config (enabledKey "A")≠"true"||s.config (secretKey "A")≠"OLD")

/-- A setup replaces the secret without a code, and with the new secret the factor can be turned off. -/
theorem second_factor_bypassed :
    (¬ ∀ (crypto : Crypto) (deviceID : String) (c : Config) (calls : List Call) (s : State),
      c (enabledKey deviceID)="true" →
        exec (step crypto deviceID (c (secretKey deviceID))) ⟨c,false⟩ calls=some s →
          Locked deviceID (c (secretKey deviceID)) s) ∧
    unlockedBy [ask "setup" "" "NEW" true]=true ∧ unlockedBy [ask "disable" "" "" false]=true := by
  have hsetup : unlockedBy [ask "setup" "" "NEW" true]=true := by decide
  refine ⟨fun hall => ?_,hsetup,by decide⟩
  obtain ⟨s,hs,hchanged⟩:=(Option.any_eq_true _ _).mp hsetup
  have hold : enrolled (secretKey "A")="OLD" := by decide
  have hlocked:=hall zeros "A" enrolled [ask "setup" "" "NEW" true] s enrolled_enabled (by rw [hold]; exact hs)
  rw [hold] at hlocked
  simp only [Bool.and_eq_true,Bool.not_eq_true',Bool.or_eq_true,decide_eq_true_eq] at hchanged
  obtain ⟨hproven,hrows⟩:=hchanged
  obtain hp | ⟨he,hk⟩:=hlocked
  · rw [hproven] at hp
    cases hp
  · obtain hne | hne:=hrows
    · exact hne he
    · exact hne hk

end BetterDesk.Device.TotpLock
