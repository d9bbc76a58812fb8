import BetterDesk.Lib.Base64
import BetterDesk.Lib.Exec
import BetterDesk.Signal.AddrMangle
import Mathlib.Data.List.Sublists

/-! # The handshake of a mesh agent (meshcentral/agent_ws.go, auth.go) -/

namespace BetterDesk.MeshCentral.Handshake
open Exec Text List Signal Option

def sha384Size : ℕ := 48

/-- X.509, RSA and SHA-384: the key in a certificate, its signatures, and the node ID it stands for. -/
structure Crypto (Key : Type) where
  rsaKey : Bytes → Option Key
  verify : Key → Bytes → Bytes → Bool
  nodeID : Key → Option String

def readU16 (data : Bytes) (off : ℕ) : ℕ :=
  if data.length<off+2 then 0 else 256*(data.getD off 0).toNat+(data.getD (off+1) 0).toNat

def slice (data : Bytes) (lo hi : ℕ) : Bytes := (data.take hi).drop lo

structure AgentConn where
  meshNodeID : String
  meshGroupID : Bytes
  hostname : Bytes
  serverNonce : Bytes
  agentNonce : Option Bytes
  webHash : Bytes
  receivedCmd : UInt8
  authenticated : Bool
  closed : Bool

def AgentConn.start : AgentConn := ⟨"",[],[],[],none,[],0,false,false⟩

/-- A binary message, with the random nonce, the outcome of `registerAgent`, and that of the
signature and the writes of the answer, should the handler come to them. -/
structure Incoming where
  data : Bytes
  nonce : Option Bytes
  registered : Bool
  answered : Bool

variable {Key : Type} (crypto : Crypto Key) (gwHash : Bytes)

def verifyAgentSignature (certDER signature webHash serverNonce agentNonce : Bytes) : Option String :=
  if webHash.length≠sha384Size ∨ serverNonce.length≠sha384Size ∨ agentNonce.length≠sha384Size then none
  else (crypto.rsaKey certDER).bind fun pub =>
    if crypto.verify pub (webHash++serverNonce++agentNonce) signature then crypto.nodeID pub else none

def base64MeshID (raw : Bytes) : Bytes :=
  (Base64.encode raw).map fun b => if b=45 then 64 else if b=95 then 36 else b

namespace AgentConn
variable (ac : AgentConn) (m : Incoming)

def fail : AgentConn := {ac with closed := true}

def tryCompleteAuth : AgentConn :=
  if ac.meshNodeID="" ∨ ac.meshGroupID=[] ∨ ac.authenticated ∨ ac.receivedCmd &&& 2=0 ∨
    ac.receivedCmd &&& 4=0 then ac
  else
    let ac:={ac with authenticated := true}
    if m.registered&&m.answered then ac else ac.fail

def authRequest : AgentConn :=
  if m.data.length≠98 ∨ ac.receivedCmd &&& 1≠0 then ac
  else
    let ac:={ac with
      receivedCmd := ac.receivedCmd ||| 1
      webHash := slice m.data 2 50
      agentNonce := some (slice m.data 50 98)}
    if gwHash.length=sha384Size ∧ ac.webHash≠gwHash then ac.fail
    else match m.nonce with
      | none => ac.fail
      | some nonce =>
        let ac:={ac with serverNonce := nonce}
        if m.answered then ac else ac.fail

def authVerify : AgentConn :=
  if m.data.length<4 ∨ ac.receivedCmd &&& 2≠0 then ac
  else
    let ac:={ac with receivedCmd := ac.receivedCmd ||| 2}
    let certLen:=readU16 m.data 2
    if m.data.length<4+certLen then ac.fail
    else match ac.agentNonce with
      | none => ac
      | some agentNonce =>
        match verifyAgentSignature crypto (slice m.data 4 (4+certLen)) (m.data.drop (4+certLen)) ac.webHash
          ac.serverNonce agentNonce with
        | none => ac.fail
        | some nodeID => {ac with meshNodeID := nodeID}.tryCompleteAuth m

def authInfo : AgentConn :=
  if m.data.length<72 ∨ ac.receivedCmd &&& 4≠0 then ac
  else
    let meshRaw:=slice m.data 18 66
    let hnLen:=readU16 m.data 70
    {ac with
      receivedCmd := ac.receivedCmd ||| 4
      meshGroupID := if (slice meshRaw 16 32).all (·=0) then hexEncode (slice meshRaw 0 16) else base64MeshID meshRaw
      hostname := if 72 < m.data.length ∧ 72+hnLen ≤ m.data.length then slice m.data 72 (72+hnLen)
        else ac.hostname}.tryCompleteAuth m

def handleAuthBinary : AgentConn :=
  match readU16 m.data 0 with
  | 1 => ac.authRequest gwHash m
  | 2 => ac.authVerify crypto m
  | 3 => ac.authInfo m
  | 4 => {ac with receivedCmd := ac.receivedCmd ||| 8}.tryCompleteAuth m
  | _ => ac

end AgentConn

def cmdCoreModuleHash : ℕ := 11

/-- One message of the loop: texts in braces go to `handleJSON`, and after the handshake the core
is compared or sent. -/
def step (ac : AgentConn) (m : Incoming) : Option AgentConn :=
  if ac.closed then none
  else if m.data.head?=some 123 ∨ m.data.length<2 then some ac
  else if ac.authenticated then
    some (if readU16 m.data 0=cmdCoreModuleHash ∧ m.answered=false then ac.fail else ac)
  else some (ac.handleAuthBinary crypto gwHash m)

/-- The slices of a message that the handlers take, those of the mesh ID among them. -/
def slices (ac : AgentConn) (data : Bytes) : List Slice :=
  let n:=data.length
  if ac.closed ∨ data.head?=some 123 ∨ n<2 then []
  else ⟨n,0,n⟩::(
    if ac.authenticated then
      if readU16 data 0=cmdCoreModuleHash ∧ 2+sha384Size≤n then [⟨n,4,4+sha384Size⟩] else []
    else match readU16 data 0 with
      | 1 => if n≠98 ∨ ac.receivedCmd &&& 1≠0 then [] else [⟨n,2,50⟩,⟨n,50,98⟩]
      | 2 =>
        let certLen:=readU16 data 2
        if n<4 ∨ ac.receivedCmd &&& 2≠0 then []
        else ⟨n,2,n⟩::(if n<4+certLen then [] else [⟨n,4,4+certLen⟩,⟨n,4+certLen,n⟩])
      | 3 =>
        let hnLen:=readU16 data 70
        if n<72 ∨ ac.receivedCmd &&& 4≠0 then []
        else [⟨n,18,66⟩,⟨48,16,32⟩,⟨48,0,16⟩,⟨n,66,n⟩] ++
          (if 72<n then [⟨n,70,n⟩]++(if 72+hnLen≤n then [⟨n,72,72+hnLen⟩] else []) else [])
      | _ => [])

/-- The agent states a certificate hash, the one of the server where it has one, and its nonce; it
is sent a nonce of the server. -/
structure Requests (m : Incoming) (webHash serverNonce agentNonce : Bytes) : Prop where
  command : readU16 m.data 0=1 ∧ m.data.length=98
  webHash : webHash=slice m.data 2 50 ∧ (gwHash.length=sha384Size → webHash=gwHash)
  agentNonce : agentNonce=slice m.data 50 98
  sent : m.nonce=some serverNonce ∧ m.answered=true

/-- The message has a certificate and a signature of `signed` under its key. -/
def Verifies (m : Incoming) (signed : Bytes) : Prop := readU16 m.data 0=2 ∧
  ∃ pub, crypto.rsaKey (slice m.data 4 (4+readU16 m.data 2))=some pub ∧
    crypto.verify pub signed (m.data.drop (4+readU16 m.data 2))=true

def Signed (ms : List Incoming) : Prop := ∃ m₁ m₂ webHash serverNonce agentNonce, [m₁,m₂] <+ ms ∧
  Requests gwHash m₁ webHash serverNonce agentNonce ∧
    Verifies crypto m₂ (webHash++serverNonce++agentNonce)

/-- What a connection has after the messages `ms` goes back to them. -/
structure Known (ms : List Incoming) (ac : AgentConn) : Prop where
  requested : ac.closed=false → ∀ a∈ac.agentNonce, ∃ m∈ms,Requests gwHash m ac.webHash ac.serverNonce a
  verified : ac.meshNodeID≠"" ∨ ac.authenticated=true → Signed crypto gwHash ms

variable {crypto gwHash} {ms : List Incoming} {ac : AgentConn} {m : Incoming}

theorem Signed.later (h : Signed crypto gwHash ms) : Signed crypto gwHash (ms++[m]) :=
  let ⟨m₁,m₂,w,n,a,hsub,hr⟩:=h
  ⟨m₁,m₂,w,n,a,hsub.trans (sublist_append_left _ _),hr⟩

theorem Known.later (h : Known crypto gwHash ms ac) : Known crypto gwHash (ms++[m]) ac where
  requested hc a ha :=
    let ⟨m',hm,hr⟩:=h.requested hc a ha
    ⟨m',mem_append_left _ hm,hr⟩
  verified hv := (h.verified hv).later

theorem Known.fail (h : Known crypto gwHash ms ac) : Known crypto gwHash ms ac.fail where
  requested hc := nomatch hc
  verified := h.verified

theorem Known.tryCompleteAuth (h : Known crypto gwHash ms ac) :
    Known crypto gwHash ms (ac.tryCompleteAuth m) := by
  unfold AgentConn.tryCompleteAuth
  split
  · exact h
  · rename_i hready
    have hdone : Known crypto gwHash ms {ac with authenticated := true} :=
      ⟨h.requested,fun _ => h.verified (.inl fun hn => hready (.inl hn))⟩
    dsimp only
    split
    · exact hdone
    · exact hdone.fail

theorem Known.authRequest (h : Known crypto gwHash ms ac) (hcmd : readU16 m.data 0=1) :
    Known crypto gwHash (ms++[m]) (ac.authRequest gwHash m) := by
  unfold AgentConn.authRequest
  split
  · exact h.later
  · rename_i hlen
    dsimp only
    split
    · exact ⟨fun hc => (nomatch hc),h.later.verified⟩
    · rename_i hweb
      split
      · exact ⟨fun hc => (nomatch hc),h.later.verified⟩
      · rename_i nonce hn
        split
        · rename_i hanswered
          refine ⟨fun _ a ha => ⟨m,mem_append_right _ mem_cons_self,?_⟩,h.later.verified⟩
          cases ha
          refine ⟨⟨hcmd,?_⟩,⟨rfl,fun hg => ?_⟩,rfl,hn,hanswered⟩
          · by_contra hne
            exact hlen (.inl hne)
          · by_contra hne
            exact hweb ⟨hg,hne⟩
        · exact ⟨fun hc => (nomatch hc),h.later.verified⟩

theorem verify_some {cert sig w n a : Bytes} {nodeID : String}
    (h : verifyAgentSignature crypto cert sig w n a=some nodeID) :
    ∃ pub, crypto.rsaKey cert=some pub ∧ crypto.verify pub (w++n++a) sig=true := by
  unfold verifyAgentSignature at h
  split at h
  · cases h
  · obtain ⟨pub,hpub,h⟩:=bind_eq_some_iff.mp h
    split at h
    · rename_i hok
      exact ⟨pub,hpub,hok⟩
    · cases h

theorem Known.authVerify (h : Known crypto gwHash ms ac) (hopen : ac.closed=false) (hcmd : readU16 m.data 0=2) :
    Known crypto gwHash (ms++[m]) (ac.authVerify crypto m) := by
  unfold AgentConn.authVerify
  split
  · exact h.later
  · dsimp only
    split
    · exact ⟨fun hc => (nomatch hc),h.later.verified⟩
    · split
      · exact ⟨h.later.requested,h.later.verified⟩
      · rename_i a ha
        split
        · exact ⟨fun hc => (nomatch hc),h.later.verified⟩
        · rename_i nodeID hver
          -- the request came before, and this message verifies
          obtain ⟨m₁,hm₁,hr⟩:=h.requested hopen a ha
          have hsub : [m₁,m] <+ ms++[m] := (singleton_sublist.mpr hm₁).append (Sublist.refl [m])
          exact Known.tryCompleteAuth ⟨h.later.requested,fun _ =>
            ⟨m₁,m,ac.webHash,ac.serverNonce,a,hsub,hr,hcmd,verify_some hver⟩⟩

theorem Known.step {b : AgentConn} (h : Known crypto gwHash ms ac) (hstep : step crypto gwHash ac m=some b) :
    Known crypto gwHash (ms++[m]) b := by
  unfold Handshake.step at hstep
  split at hstep
  · cases hstep
  · rename_i hopen
    have hopen : ac.closed=false := by simpa using hopen
    split at hstep
    · cases hstep
      exact h.later
    · split at hstep
      · cases hstep
        split
        · exact h.later.fail
        · exact h.later
      · cases hstep
        unfold AgentConn.handleAuthBinary
        split
        · rename_i hcmd
          exact h.authRequest hcmd
        · rename_i hcmd
          exact h.authVerify hopen hcmd
        · unfold AgentConn.authInfo
          split
          · exact h.later
          · exact Known.tryCompleteAuth ⟨h.later.requested,h.later.verified⟩
        · exact Known.tryCompleteAuth ⟨h.later.requested,h.later.verified⟩
        · exact h.later

theorem known_run (h : exec (Handshake.step crypto gwHash) .start ms=some ac) : Known crypto gwHash ms ac := by
  induction ms using List.reverseRecOn generalizing ac with
  | nil =>
    cases h
    exact ⟨fun _ a ha => (by cases ha),fun hv => (by simp [AgentConn.start] at hv)⟩
  | append_singleton ms m ih =>
    rw [exec_append] at h
    obtain ⟨b,hb,hstep⟩:=bind_eq_some_iff.mp h
    obtain ⟨c,hc,hnil⟩:=exec_cons_some hstep
    cases hnil
    exact (ih hb).step hc

/-- The hash of the core ends past the end of the message. -/
def ShortCoreHash (ac : AgentConn) (m : Incoming) : Prop :=
  ac.closed=false ∧ ac.authenticated=true ∧ m.data.head?≠some 123 ∧ readU16 m.data 0=cmdCoreModuleHash ∧
    (m.data.length=50 ∨ m.data.length=51)

instance : Decidable (ShortCoreHash ac m) := inferInstanceAs (Decidable (_ ∧ _))

theorem slices_iff : (∀ x∈slices ac m.data,x.InBounds) ↔ ¬ShortCoreHash ac m := by
  have hin (n lo hi : ℕ) : (⟨n,lo,hi⟩ : Slice).InBounds ↔ lo≤hi ∧ hi≤n := ⟨fun h => ⟨h.1,h.2⟩,fun h => ⟨h.1,h.2⟩⟩
  unfold slices ShortCoreHash
  dsimp only
  split
  · rename_i hskip
    refine iff_of_true (fun x hx => (by cases hx)) fun hs => ?_
    rcases hskip with hc | hb | hn
    · exact absurd hs.1 (by simp [hc])
    · exact hs.2.2.1 hb
    · omega
  · rename_i hgo
    obtain ⟨hopen,hbrace,hn⟩ : ac.closed=false ∧ m.data.head?≠some 123 ∧ 2 ≤ m.data.length := by
      simpa only [not_or,Bool.not_eq_true,not_lt] using hgo
    rw [forall_mem_cons]
    refine (and_iff_right ((hin ..).mpr ⟨Nat.zero_le _,Nat.le_refl _⟩)).trans ?_
    cases hauth : ac.authenticated with
    | true =>
      have hsize : sha384Size=48 := rfl
      simp only [if_true,hopen,hbrace,ne_eq,not_false_eq_true,true_and]
      by_cases hcore : readU16 m.data 0=cmdCoreModuleHash ∧ 2+sha384Size ≤ m.data.length
      · rw [if_pos hcore,forall_mem_singleton,hin]
        simp only [hcore.1,true_and]
        omega
      · rw [if_neg hcore]
        refine iff_of_true (fun x hx => (by cases hx)) fun hs => hcore ⟨hs.1,?_⟩
        omega
    | false =>
      refine iff_of_true ?_ fun hs => (by cases hs.2.1)
      simp only [Bool.false_eq_true,if_false]
      split
      · split
        · exact fun x hx => (by cases hx)
        · simp only [forall_mem_cons,hin,not_mem_nil,false_imp_iff,implies_true,and_true]
          omega
      · split
        · exact fun x hx => (by cases hx)
        · split <;> simp only [forall_mem_cons,hin,not_mem_nil,false_imp_iff,implies_true,and_true] <;> omega
      · split
        · exact fun x hx => (by cases hx)
        · split
          · split <;> simp only [append_nil,cons_append,nil_append,forall_mem_cons,hin,not_mem_nil,false_imp_iff,
              implies_true,and_true] <;> omega
          · simp only [append_nil,forall_mem_cons,hin,not_mem_nil,false_imp_iff,implies_true,and_true]
            omega
      · exact fun x hx => (by cases hx)

/-- An agent is authenticated after it has signed, and the handlers stay inside its messages unless
one of 50 or 51 bytes asks for the core. -/
theorem handshake_sound (h : exec (Handshake.step crypto gwHash) .start ms=some ac) :
    ((ac.authenticated=true → Signed crypto gwHash ms) ∧
      Along (Handshake.step crypto gwHash) (fun c m => ∀ x∈slices c m.data,x.InBounds) .start ms) ↔
    Along (Handshake.step crypto gwHash) (fun c m => ¬ShortCoreHash c m) .start ms := by
  refine (and_iff_right fun ha => (known_run h).verified (.inr ha)).trans ?_
  exact along_iff (fun _ => True) (fun _ _ _ _ _ => trivial) (fun c m _ _ _ => slices_iff) trivial h

/-- The certificate `[7,8]` has the key `1`, which signs what is as long as three hashes with `[9]`. -/
def trusting : Crypto ℕ := ⟨fun cert => if cert=[7,8] then some 1 else none,
  fun pub signed sig => pub=1&&signed.length=3*sha384Size&&sig=[9],fun _ => some "node"⟩

def message (cmd : UInt8) (length : ℕ) : Incoming :=
  ⟨0::cmd::replicate (length-2) 0,some (replicate 48 7),true,true⟩

def handshake : List Incoming := [message 1 98,message 3 72,⟨[0,2,0,2,7,8,9],none,true,true⟩]

theorem handshake_sound_agent : (exec (Handshake.step trusting []) .start handshake).isSome=true ∧
    Signed trusting [] handshake := by
  obtain ⟨ac,hac⟩ : ∃ ac, exec (Handshake.step trusting []) .start handshake=some ac :=
    isSome_iff_exists.mp (by decide)
  have hauth : (exec (Handshake.step trusting []) .start handshake).map AgentConn.authenticated=some true := by
    decide
  rw [hac] at hauth
  refine ⟨by rw [hac]; rfl,((handshake_sound hac).mpr ?_).1 (Option.some.inj hauth)⟩
  decide

theorem core_hash_out_of_bounds : ¬ ∀ (crypto : Crypto ℕ) (gwHash : Bytes) (ms : List Incoming) (ac : AgentConn),
    exec (Handshake.step crypto gwHash) .start ms=some ac → (ac.authenticated=true → Signed crypto gwHash ms) ∧
      Along (Handshake.step crypto gwHash) (fun c m => ∀ x∈slices c m.data,x.InBounds) .start ms := by
  intro h
  obtain ⟨ac,hac⟩ : ∃ ac, exec (Handshake.step trusting []) .start (handshake++[message 11 50])=some ac :=
    isSome_iff_exists.mp (by decide)
  exact absurd (h _ _ _ _ hac).2 (by decide)

end BetterDesk.MeshCentral.Handshake
