import BetterDesk.Policy.Network
import BetterDesk.Relay.SessionLimits

/-! # The host of the relay that is picked (policy/network.go) -/

namespace BetterDesk.Policy.RelayHosts
open Db Text List

def hostOf (relay : Bytes) : Bytes := Relay.ipOf (trimSpace relay)

def hosts (allowed : List Bytes) : List Bytes := (allowed.filter fun entry => trimSpace entry≠[]).map hostOf

def Fits (lists : List (List Bytes)) (host : Bytes) : Prop := ∀ l∈lists,hosts l≠[] → host∈hosts l

instance (lists : List (List Bytes)) (host : Bytes) : Decidable (Fits lists host) :=
  inferInstanceAs (Decidable (∀ l∈lists,_))

def Satisfiable (lists : List (List Bytes)) : Prop := ∃ relay, relay≠[] ∧ Fits lists (hostOf relay)

def Honours (lists : List (List Bytes)) (relay : Bytes) : Prop :=
  Satisfiable lists → Fits lists (hostOf relay) ∧ relay≠[]

/-- The preferred relay fits where an entry of the first list that is not empty is a beginning of
it, and else the first entry of that list does. -/
def Suited (lists : List (List Bytes)) (defaultRelay : Bytes) : Prop := match lists.find? (·≠[]) with
  | none => defaultRelay≠[]
  | some allowed =>
    if admits allowed defaultRelay then Fits lists (hostOf defaultRelay)
    else ∃ first∈allowed.head?, trimSpace first≠[] ∧ Fits lists (hostOf first)

theorem hostOf_trimSpace (relay : Bytes) : hostOf (trimSpace relay)=hostOf relay := by
  rw [hostOf,hostOf,trimSpace_trimSpace]

theorem ne_nil_of_admits {allowed : List Bytes} {relay : Bytes} (h : admits allowed relay=true) : relay≠[] := by
  rintro rfl
  obtain ⟨entry,-,hentry⟩:=any_eq_true.mp h
  simp only [Bool.and_eq_true,decide_eq_true_eq, isPrefixOf_iff_prefix] at hentry
  obtain ⟨hne,hpre⟩:=hentry
  have hnil : trimSpace ([] : Bytes)=[] := by decide
  rw [hnil, prefix_nil] at hpre
  exact hne hpre

theorem allowedFor_next (r : NetworkResolver) (now : ℕ) (id : PeerID) :
    (r.settingsForDevice now id).2.allowedFor now=r.allowedFor now := by
  funext id'
  unfold NetworkResolver.allowedFor
  rw [NetworkResolver.settingsForDevice_again]

theorem allowedRelays_eq (now : ℕ) (r : NetworkResolver) (ids : List PeerID) :
    (allowedRelays now r ids).1=((ids.map (r.allowedFor now)).find? (·≠[])).getD [] := by
  induction ids generalizing r with
  | nil => rfl
  | cons id rest ih =>
    have hnext:=ih (r.settingsForDevice now id).2
    rw [allowedFor_next] at hnext
    unfold allowedRelays
    rw [map_cons]
    by_cases hne : r.allowedFor now id=[]
    · rw [List.find?_cons_of_neg (by simpa using hne),← hnext]
      exact congrArg Prod.fst (if_neg (not_not_intro hne))
    · rw [List.find?_cons_of_pos (by simpa using hne),Option.getD_some]
      exact congrArg Prod.fst (if_pos hne)

theorem resolveRelay_eq (now : ℕ) (r : NetworkResolver) (defaultRelay : Bytes) (ids : List PeerID) :
    (resolveRelay now r defaultRelay ids).1 =
      pick (((ids.map (r.allowedFor now)).find? (·≠[])).getD []) defaultRelay := by
  rw [← allowedRelays_eq]
  unfold resolveRelay pick
  split <;> rename_i heq <;> rw [heq]

theorem pick_fits_iff (lists : List (List Bytes)) (defaultRelay : Bytes) :
    (Fits lists (hostOf (pick ((lists.find? (·≠[])).getD []) defaultRelay)) ∧
        pick ((lists.find? (·≠[])).getD []) defaultRelay≠[]) ↔ Suited lists defaultRelay := by
  unfold Suited
  cases hfind : lists.find? (·≠[]) with
  | none =>
    -- no list names a host
    have hempty : Fits lists (hostOf defaultRelay) := by
      intro l hl hne
      have hnil : l=[] := by simpa using List.find?_eq_none.mp hfind l hl
      rw [hnil] at hne
      exact absurd rfl hne
    exact and_iff_right hempty
  | some allowed =>
    have hne : allowed≠[] := by simpa using List.find?_some hfind
    obtain ⟨first,rest,rfl⟩:=exists_cons_of_ne_nil hne
    dsimp only [Option.getD_some,pick]
    by_cases hadm : admits (first::rest) defaultRelay=true
    · rw [if_pos hadm,if_pos hadm]
      exact and_iff_left (ne_nil_of_admits hadm)
    · rw [if_neg hadm,if_neg hadm,hostOf_trimSpace]
      simp [and_comm]

/-- The relay that is picked honours the lists of all the devices, whatever the tables and the
caches hold, exactly when the entries that are looked at suit. -/
theorem relay_honours_iff (now : ℕ) (r : NetworkResolver) (defaultRelay : Bytes) (ids : List PeerID) :
    Honours (ids.map (r.allowedFor now)) (resolveRelay now r defaultRelay ids).1 ↔
      (Satisfiable (ids.map (r.allowedFor now)) → Suited (ids.map (r.allowedFor now)) defaultRelay) := by
  unfold Honours
  rw [resolveRelay_eq]
  exact imp_congr_right fun _ => pick_fits_iff _ defaultRelay

/-- A resolver with empty caches, where each device has an organization of its own name. -/
def resolverOf (allowed : OrgID → List Bytes) : NetworkResolver where
  tables := {deviceOrg := fun id => .ok id,orgSetting := fun org => .ok ⟨false,allowed org⟩}
  org := fun _ => none
  dev := fun _ => none

/-- An entry that begins the preferred relay, a blank entry in front, and the list of a second device. -/
theorem prefix_blank_and_second_list :
    (¬ ∀ (now : ℕ) (r : NetworkResolver) (defaultRelay : Bytes) (ids : List PeerID),
      Honours (ids.map (r.allowedFor now)) (resolveRelay now r defaultRelay ids).1) ∧
    ¬ Honours [[lit "relay.corp.example"]]
      (resolveRelay 0 (resolverOf fun _ => [lit "relay.corp.example"]) (lit "relay.corp.example.net:21117") ["a"]).1 ∧
    ¬ Honours [[lit " ",lit "relay-1"]]
      (resolveRelay 0 (resolverOf fun _ => [lit " ",lit "relay-1"]) (lit "relay-2") ["a"]).1 ∧
    ¬ Honours [[lit "relay-1",lit "relay-2"],[lit "relay-2"]]
      (resolveRelay 0 (resolverOf fun org => if org="a" then [lit "relay-1",lit "relay-2"] else [lit "relay-2"])
        (lit "relay-3") ["a","b"]).1 := by
  have hprefix : ¬ Honours [[lit "relay.corp.example"]]
      (resolveRelay 0 (resolverOf fun _ => [lit "relay.corp.example"]) (lit "relay.corp.example.net:21117") ["a"]).1 := by
    intro h
    exact absurd (h ⟨lit "relay.corp.example",by decide,by decide⟩).1 (by decide)
  refine ⟨fun h => hprefix ?_, hprefix,fun h => ?_,fun h => ?_⟩
  · exact h 0 (resolverOf fun _ => [lit "relay.corp.example"]) (lit "relay.corp.example.net:21117") ["a"]
  · exact absurd (h ⟨lit "relay-1",by decide,by decide⟩).2 (by decide)
  · exact absurd (h ⟨lit "relay-2",by decide,by decide⟩).1 (by decide)

end BetterDesk.Policy.RelayHosts
