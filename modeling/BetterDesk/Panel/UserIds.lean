import BetterDesk.Panel.SecondRun

/-! # The ids of one account in both tables (web-nodejs/services/userSync.js) -/

namespace BetterDesk.Panel.UserSync
open Numbered List

/-- Both tables; with a shared store there is one. A fresh table hands out `1` first. -/
structure Stores where
  panel : Users
  go : Users
  shared : Bool
  one : shared → go=panel
  positive : ∀ e∈go.rows,0<e.id

variable (js : Builtins) (s : Stores) (api : Api)

/-- `getUserById` throws where `reads` is false. -/
def Stores.getUserById (reads : Bool) (id : ℤ) : Option Account :=
  if reads then s.panel.rows.find? fun e => e.id=id else none

/-- `goUser?.id || localUser.id`. -/
def goIdOr (goUser : Option Account) (localUser : Account) : ℤ := match goUser with
  | some goUser => if goUser.id=0 then localUser.id else goUser.id
  | none => localUser.id

/-- `localUserId` is `none` where `Number` of the argument is no integer. -/
def resolveGoUserId (reads : Bool) (localUserId : Option ℤ) : Option ℤ := do
  let id ← localUserId
  if id≤0 then none
  else
    let localUser ← s.getUserById reads id
    if s.shared then some localUser.id
    else some (goIdOr (findGoUserByUsername js api s.go localUser.row.username) localUser)

def Stores.Asked (reads : Bool) (localUserId : Option ℤ) (u : Account) : Prop :=
  ∃ id, localUserId=some id ∧ 0 < id ∧ s.getUserById reads id=some u

def SameName (u e : Account) : Prop := normalizeUsername js e.row.username=normalizeUsername js u.row.username

/-- The answer is the id of an account on the server with the name of the asked one. -/
def NoOtherUser (reads : Bool) (localUserId answer : Option ℤ) : Prop := ∀ id, answer=some id →
  ∃ u, s.Asked reads localUserId u ∧ ∃ e∈s.go.rows,e.id=id ∧ SameName js u e

/-- The server lists an account with the name, or its account with the id of the panel has
that name. -/
def Recognised (u : Account) : Prop :=
  s.shared ∨
  (api.getUsers=.listed ∧ u.row.username≠"" ∧ ∃ e∈s.go.rows,SameName js u e) ∨
  ∃ e∈s.go.rows,e.id=u.id ∧ SameName js u e

variable {js s api} {reads : Bool} {localUserId : Option ℤ} {u : Account}

theorem Stores.Asked.mem (h : s.Asked reads localUserId u) : u∈s.panel.rows := by
  obtain ⟨id,-,-,hu⟩:=h
  unfold getUserById at hu
  split at hu
  · exact mem_of_find?_eq_some hu
  · simp at hu

theorem Stores.Asked.unique {v : Account} (h : s.Asked reads localUserId u) (h' : s.Asked reads localUserId v) :
    u=v := by
  obtain ⟨id,hid,-,hu⟩:=h
  obtain ⟨id',hid',-,hv⟩:=h'
  have he : id=id' := Option.some.inj (hid.symm.trans hid')
  rw [he,hv] at hu
  exact (Option.some.inj hu).symm

theorem resolveGoUserId_some {id : ℤ} :
    resolveGoUserId js s api reads localUserId=some id ↔ ∃ u, s.Asked reads localUserId u ∧
      id=if s.shared then u.id else goIdOr (findGoUserByUsername js api s.go u.row.username) u := by
  cases localUserId with
  | none => simp [resolveGoUserId,Stores.Asked]
  | some i =>
    by_cases hi : i≤0
    · have hn : ¬0 < i := by omega
      simp [resolveGoUserId,Stores.Asked,hi,hn]
    · have hp : 0 < i := by omega
      cases hu : s.getUserById reads i with
      | none => simp [resolveGoUserId,Stores.Asked,hi,hu]
      | some u =>
        simp only [resolveGoUserId,Stores.Asked,hi,hu,Option.bind_eq_bind,Option.bind_some,if_false]
        cases s.shared <;> simp [hp,hu,eq_comm]

theorem findGoUserByUsername_some {go : Users} {name : String} {e : Account}
    (h : findGoUserByUsername js api go name=some e) :
    e∈go.rows ∧ normalizeUsername js e.row.username=normalizeUsername js name := by
  unfold findGoUserByUsername at h
  split at h
  · simp at h
  · have hm:=mem_of_find?_eq_some h
    have hp:=find?_some h
    refine ⟨?_,by simpa using hp⟩
    cases ha : api.getUsers <;> simp_all [readGoUsersFromApi,listGoUsers]

theorem findGoUserByUsername_none {go : Users} (h : findGoUserByUsername js api go u.row.username=none)
    (hl : api.getUsers=.listed) (hn : u.row.username≠"") : ∀ e∈go.rows,¬SameName js u e := by
  intro e he hs
  simp only [findGoUserByUsername,hn,if_false,readGoUsersFromApi,listGoUsers,hl] at h
  have hne:=find?_eq_none.mp h e he
  exact hne (by simpa [SameName] using hs)

theorem goIdOr_right (hs : s.shared=false) :
    (∃ e∈s.go.rows,e.id=goIdOr (findGoUserByUsername js api s.go u.row.username) u ∧ SameName js u e) ↔
      Recognised js s api u := by
  cases hf : findGoUserByUsername js api s.go u.row.username with
  | none =>
    constructor
    · intro h
      exact .inr (.inr h)
    · intro h
      rcases h with h | ⟨hl,hn,e,he,hse⟩ | h
      · simp [hs] at h
      · exact absurd hse (findGoUserByUsername_none hf hl hn e he)
      · exact h
  | some g =>
    obtain ⟨hg,hname⟩:=findGoUserByUsername_some hf
    have hp:=s.positive g hg
    have hid : goIdOr (some g) u=g.id := by simp [goIdOr,show g.id≠0 by omega]
    constructor
    · intro _
      unfold findGoUserByUsername at hf
      split at hf
      · simp at hf
      · refine .inr (.inl ⟨?_,‹_›,g,hg,hname⟩)
        cases ha : api.getUsers <;> simp_all [readGoUsersFromApi,listGoUsers]
    · intro _
      exact ⟨g,hg,hid.symm,hname⟩

/-- An answer confuses nobody exactly if the asked account is recognised. -/
theorem resolveGoUserId_right :
    NoOtherUser js s reads localUserId (resolveGoUserId js s api reads localUserId) ↔
      ∀ u, s.Asked reads localUserId u → Recognised js s api u := by
  constructor
  · intro h u hu
    cases hs : s.shared with
    | true => exact .inl hs
    | false =>
      obtain ⟨v,hv,he⟩:=h _ (resolveGoUserId_some.mpr ⟨u,hu,rfl⟩)
      rw [← hu.unique hv] at he
      simp only [hs,Bool.false_eq_true,if_false] at he
      exact (goIdOr_right hs).mp he
  · intro h id hid
    obtain ⟨u,hu,rfl⟩:=resolveGoUserId_some.mp hid
    refine ⟨u,hu,?_⟩
    cases hs : s.shared with
    | true => exact ⟨u,by rw [s.one hs]; exact hu.mem,by simp,rfl⟩
    | false =>
      simp only [Bool.false_eq_true,if_false]
      exact (goIdOr_right hs).mpr (h u hu)

def officeStores : Stores where
  panel := davePanel
  go := officeGo
  shared := false
  one := nofun
  positive := by decide

/-- `dave` of the panel is not on the server: with or without its list he comes to the id of `bob`. -/
theorem dave_taken_for_bob :
    ¬NoOtherUser latin officeStores true (some 2) (resolveGoUserId latin officeStores (officeApi .failed) true (some 2)) ∧
      ¬NoOtherUser latin officeStores true (some 2)
        (resolveGoUserId latin officeStores (officeApi .listed) true (some 2)) := by
  have hdave : officeStores.getUserById true 2=some (officeUser 2 "dave" "viewer") := by decide
  have hnone : ∀ e∈officeStores.go.rows,¬SameName latin (officeUser 2 "dave" "viewer") e := by
    unfold SameName
    decide
  have hlost (answer : Option ℤ) (h : answer=some 2) : ¬NoOtherUser latin officeStores true (some 2) answer := by
    intro hright
    obtain ⟨u,⟨id,hid,-,hu⟩,e,he,-,hsame⟩:=hright 2 h
    obtain rfl:=Option.some.inj hid
    rw [hdave] at hu
    obtain rfl:=Option.some.inj hu
    exact hnone e he hsame
  exact ⟨hlost _ (by decide),hlost _ (by decide)⟩

end BetterDesk.Panel.UserSync
