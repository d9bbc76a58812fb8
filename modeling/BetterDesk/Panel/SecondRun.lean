import BetterDesk.Panel.Reconciliation

/-! # The runs of the reconciliation -/

namespace BetterDesk.Panel.UserSync
open Numbered List

variable (js : Builtins) (api : Api) {panel go : Users}

def SameNames (panel go : Users) : Prop := ∀ n, Known js panel n ↔ Known js go n

/-- Each name of the server is known to the panel or restored, and each name of the panel is
known to the server or sent to it. -/
def NamesMeet (panel go : Users) : Prop :=
  (∀ g∈go.rows,Known js panel (normalizeUsername js g.row.username) ∨
    ∃ a∈go.rows,normalizeUsername js a.row.username=normalizeUsername js g.row.username ∧
      restorable js a=true ∧ ¬ Crowded js panel go a) ∧
  ∀ e∈panel.rows,Known js go (normalizeUsername js e.row.username) ∨
    api.getUsers ≠ .failed ∧ ∃ a∈panel.rows,
      normalizeUsername js a.row.username=normalizeUsername js e.row.username ∧ Accepted api a.row.username

theorem rows_backfillFromGo (now : String) (panel go : Users) : (backfillFromGo js now panel go).rows =
    (restoreUsers js now panel go).rows.map fun e =>
      ⟨e.id,syncedAll js (restoreUsers js now panel go).rows (restorableUsers js go) e⟩ :=
  rows_syncExistingAuthFromGo js _ _ _

variable {e : Account} {now : String}

theorem mem_restoreUsers (h : e∈(restoreUsers js now panel go).rows) :
    e∈panel.rows ∨ ∃ g∈missingOnPanel js panel go, e.row=restoredRow now g.row := by
  rcases (restored_all js [] _ _ rfl (restored_nil js now panel go)).from_go e h with h | ⟨g,hg,hrow,-⟩
  · exact .inl h
  · exact .inr ⟨g,hg,hrow⟩

theorem restoreUsers_keeps (h : e∈panel.rows) : e∈(restoreUsers js now panel go).rows :=
  (restored_all js [] _ _ rfl (restored_nil js now panel go)).keeps e h

theorem known_backfillFromGo (now n : String) : Known js (backfillFromGo js now panel go) n ↔
    Known js (restoreUsers js now panel go) n := by
  unfold Known
  rw [rows_backfillFromGo]
  constructor
  · rintro ⟨a,ha,hn⟩
    obtain ⟨e,he,rfl⟩:=mem_map.mp ha
    rw [(syncedAll_keeps js _ _ e).1] at hn
    exact ⟨e,he,hn⟩
  · rintro ⟨e,he,hn⟩
    refine ⟨_,mem_map_of_mem he,?_⟩
    rw [(syncedAll_keeps js _ _ e).1]
    exact hn

theorem mem_panel_of_unknown (he : e∈(backfillFromGo js now panel go).rows)
    (h : ¬ Known js go (normalizeUsername js e.row.username)) : ∃ a∈panel.rows,a.row.username=e.row.username := by
  rw [rows_backfillFromGo] at he
  obtain ⟨a,ha,rfl⟩:=mem_map.mp he
  rw [(syncedAll_keeps js _ _ a).1] at h ⊢
  rcases mem_restoreUsers js ha with ha | ⟨g,hg,hrow⟩
  · exact ⟨a,ha,rfl⟩
  · refine absurd ⟨g,((mem_missingOnPanel js).mp hg).1,?_⟩ h
    rw [hrow]
    exact (normalizeUsername_trim js g.row.username).symm

theorem sameNames_iff (panel go : Users) :
    SameNames js (reconcile js api panel go).1 (reconcile js api panel go).2 ↔ NamesMeet js api panel go := by
  have hcreated:=backfillFromNode_created js api (backfillFromGo js api.now panel go) go
  have hpanel (n : String) : Known js (reconcile js api panel go).1 n ↔ _ :=
    (known_backfillFromGo js api.now n).trans (known_restoreUsers js api.now n)
  constructor
  · intro hsame
    constructor
    · intro g hg
      rcases (hpanel _).mp ((hsame _).mpr ⟨g,hcreated.keeps g hg,rfl⟩) with h | ⟨a,ha,hn,hrest,hcrowd⟩
      · exact .inl h
      · exact .inr ⟨a,ha,hn,hrest,hcrowd⟩
    · intro e he
      by_cases hknown : Known js go (normalizeUsername js e.row.username)
      · exact .inl hknown
      obtain ⟨a,ha,hn⟩:=(hsame _).mp ((hpanel _).mpr (.inl ⟨e,he,rfl⟩))
      rcases hcreated.from_panel a ha with ha | ⟨u,hu,hacc,hrow⟩
      · exact absurd ⟨a,ha,hn⟩ hknown
      · split at hu
        · exact absurd hu not_mem_nil
        · rename_i hget
          obtain ⟨b,hb,hname,-⟩:=mem_missingOnGo js api hu
          have hbn : normalizeUsername js b.row.username=normalizeUsername js e.row.username := by
            rw [← hn,hrow,← hname]
            rfl
          obtain ⟨c,hc,hcb⟩:=mem_panel_of_unknown js hb (by rw [hbn]; exact hknown)
          refine .inr ⟨hget,c,hc,by rw [hcb,hbn],?_⟩
          rw [hcb,← hname]
          exact hacc
  · rintro ⟨hgo,hnode⟩ n
    constructor
    · intro hk
      rcases (hpanel n).mp hk with ⟨e,he,hn⟩ | ⟨g,hg,hn,-,-⟩
      · rcases hnode e he with ⟨a,ha,hna⟩ | ⟨hget,a,ha,hna,hacc⟩
        · exact ⟨a,hcreated.keeps a ha,hna.trans hn⟩
        · by_cases hknown : Known js go n
          · obtain ⟨b,hb,hbn⟩:=hknown
            exact ⟨b,hcreated.keeps b hb,hbn⟩
          · obtain ⟨a',ha',hname⟩ : ∃ a'∈(backfillFromGo js api.now panel go).rows,
                a'.row.username=a.row.username := by
              rw [rows_backfillFromGo]
              exact ⟨_,mem_map_of_mem (restoreUsers_keeps js ha),(syncedAll_keeps js _ _ a).1⟩
            obtain ⟨u,hu,hun⟩:=missingOnGo_of_unknown js api ha' (by rw [hname,hna,hn]; exact hknown)
            rw [if_neg hget] at hcreated
            obtain ⟨b,hb,hbn⟩:=hcreated.named u hu (by rw [hun,hname]; exact hacc)
            exact ⟨b,hb,by rw [hbn,hun,hname,hna,hn]⟩
      · exact ⟨g,hcreated.keeps g hg,hn⟩
    · rintro ⟨a,ha,hn⟩
      rcases hcreated.from_panel a ha with ha | ⟨u,hu,-,hrow⟩
      · rcases hgo a ha with h | ⟨b,hb,hbn,hrest,hcrowd⟩
        · exact (hpanel n).mpr (.inl (by rw [← hn]; exact h))
        · exact (hpanel n).mpr (.inr ⟨b,hb,hbn.trans hn,hrest,hcrowd⟩)
      · split at hu
        · exact absurd hu not_mem_nil
        · obtain ⟨b,hb,hname,-⟩:=mem_missingOnGo js api hu
          refine ⟨b,hb,?_⟩
          rw [← hn,hrow,← hname]
          rfl

theorem unknown_backfillFromGo (now n : String) (hpanel : ¬ Known js panel n) (hgo : ¬ Known js go n) :
    ¬ Known js (backfillFromGo js now panel go) n := by
  rw [known_backfillFromGo,known_restoreUsers]
  rintro (h | ⟨g,hg,hn,-⟩)
  · exact hpanel h
  · exact hgo ⟨g,hg,hn⟩

def User.secrets (u : User) : String × Option String × Option String × Option String :=
  (u.passwordHash,u.role,u.totpSecret,u.totpRecoveryCodes)

/-- Each account is still there, with its hash, role, TOTP secret and recovery codes. -/
def Kept (before after : Users) : Prop :=
  ∀ e∈before.rows, ∃ a∈after.rows,a.id=e.id ∧ a.row.secrets=e.row.secrets

instance (before after : Users) : Decidable (Kept before after) :=
  inferInstanceAs (Decidable (∀ e∈before.rows, ∃ a∈after.rows,_))

def Quiet (panel go : Users) : Prop :=
  Kept panel (reconcile js api panel go).1 ∧ Kept go (reconcile js api panel go).2

/-- Of the users of the server that the update sees as different, the last has the role that
the account has. -/
def RolesSettled (panel go : Users) : Prop :=
  ∀ e∈panel.rows,LastOfName js panel e →
    ∀ g, (differing js (restorableUsers js go) e).getLast?=some g → e.row.role=some (normalizeRole g.row.role)

theorem eq_panel_of_name {a : Account} (ha : a∈(restoreUsers js now panel go).rows)
    (he : e∈panel.rows) (hn : normalizeUsername js a.row.username=normalizeUsername js e.row.username) :
    a∈panel.rows := by
  rcases mem_restoreUsers js ha with ha | ⟨g,hg,hrow⟩
  · exact ha
  · refine absurd ⟨e,he,?_⟩ ((mem_missingOnPanel js).mp hg).2.2
    rw [← hn,hrow]
    exact normalizeUsername_trim js g.row.username

theorem lastOfName_restoreUsers (now : String) (he : e∈panel.rows) :
    LastOfName js (restoreUsers js now panel go) e ↔ LastOfName js panel e := by
  constructor
  · intro h a ha hn
    exact h a (restoreUsers_keeps js ha) hn
  · intro h a ha hn
    exact h a (eq_panel_of_name js ha he hn) hn

theorem secrets_syncedAll_iff (localUsers gs : List Account) (e : Account) :
    (syncedAll js localUsers gs e).secrets=e.row.secrets ↔ (syncedAll js localUsers gs e).role=e.row.role := by
  obtain ⟨-,hhash,hsecret,hcodes⟩:=syncedAll_keeps js localUsers gs e
  simp [User.secrets,hhash,hsecret,hcodes]

theorem quiet_iff (panel go : Users) : Quiet js api panel go ↔ RolesSettled js panel go := by
  have hgo : Kept go (reconcile js api panel go).2 := fun e he =>
    ⟨e,(backfillFromNode_created js api _ go).keeps e he,rfl,rfl⟩
  have hrow (e : Account) (he : e∈panel.rows) :
      (∃ a∈(reconcile js api panel go).1.rows, a.id=e.id ∧ a.row.secrets=e.row.secrets) ↔
        (syncedAll js (restoreUsers js api.now panel go).rows (restorableUsers js go) e).role=e.row.role := by
    have hrows : (reconcile js api panel go).1.rows=_ := rows_backfillFromGo js api.now panel go
    rw [hrows,← secrets_syncedAll_iff]
    constructor
    · rintro ⟨a,ha,hid,hsecrets⟩
      obtain ⟨b,hb,rfl⟩:=mem_map.mp ha
      rwa [Table.eq_of_id _ hb (restoreUsers_keeps js he) hid] at hsecrets
    · intro h
      exact ⟨_,mem_map_of_mem (restoreUsers_keeps js he),rfl,h⟩
  constructor
  · rintro ⟨hpanel,-⟩ e he hlast g hg
    have hrole:=(hrow e he).mp (hpanel e he)
    rw [syncedAll_role js _ (restoreUsers_keeps js he) ((lastOfName_restoreUsers js api.now he).mpr hlast),hg] at hrole
    exact hrole.symm
  · intro hsettled
    refine ⟨fun e he => (hrow e he).mpr ?_,hgo⟩
    by_cases hlast : LastOfName js panel e
    · rw [syncedAll_role js _ (restoreUsers_keeps js he) ((lastOfName_restoreUsers js api.now he).mpr hlast)]
      cases hg : (differing js (restorableUsers js go) e).getLast? with
      | none => rfl
      | some g => exact (hsettled e he hlast g hg).symm
    · rw [syncedAll_of_not_last js _ (restoreUsers_keeps js he)
        fun h => hlast ((lastOfName_restoreUsers js api.now he).mp h)]

structure OneRole (panel go : Users) : Prop where
  server : ∀ g∈go.rows, ∀ g'∈go.rows,restorable js g=true → restorable js g'=true →
    normalizeUsername js g.row.username=normalizeUsername js g'.row.username →
      normalizeRole g.row.role=normalizeRole g'.row.role
  names : ∀ e∈panel.rows, ∀ e'∈panel.rows,
    normalizeUsername js e.row.username=normalizeUsername js e'.row.username → e=e'
  valid : ∀ e∈panel.rows,
    (∃ g∈go.rows,restorable js g=true ∧
      normalizeUsername js g.row.username=normalizeUsername js e.row.username) ∨
      e.row.role=some (normalizeRole e.row.role)

def Follows (go : Users) (e : Account) : Prop :=
  ∃ g∈go.rows,restorable js g=true ∧
    normalizeUsername js g.row.username=normalizeUsername js e.row.username ∧
      e.row.role=some (normalizeRole g.row.role)

structure Alone (panel go : Users) (e : Account) : Prop where
  unknown : ¬ ∃ g∈go.rows,restorable js g=true ∧
    normalizeUsername js g.row.username=normalizeUsername js e.row.username
  valid : e.row.role=some (normalizeRole e.row.role)
  origin : ∃ a∈panel.rows,a.id=e.id ∧ a.row.username=e.row.username

theorem not_differs {u g : User} (h : differs js u g=false) : u.role=some (normalizeRole g.role) := by
  simp only [differs,Bool.or_eq_false_iff,decide_eq_false_iff_not,not_not] at h
  exact h.1.2

theorem role_backfillFromGo (h : OneRole js panel go) (now : String)
    (he : e∈(backfillFromGo js now panel go).rows) : Follows js go e ∨ Alone js panel go e := by
  rw [rows_backfillFromGo] at he
  obtain ⟨a,ha,rfl⟩:=mem_map.mp he
  have hname:=(syncedAll_keeps js (restoreUsers js now panel go).rows (restorableUsers js go) a).1
  have hrestored (g : Account) (hg : g∈missingOnPanel js panel go) (hrow : a.row=restoredRow now g.row) :
      g∈go.rows ∧ restorable js g=true ∧
        normalizeUsername js g.row.username=normalizeUsername js a.row.username := by
    obtain ⟨hgo,hrest,-⟩:=(mem_missingOnPanel js).mp hg
    refine ⟨hgo,hrest,?_⟩
    rw [hrow]
    exact (normalizeUsername_trim js g.row.username).symm
  by_cases hlast : LastOfName js (restoreUsers js now panel go) a
  · have hrole:=syncedAll_role js _ ha hlast (restorableUsers js go)
    cases hd : (differing js (restorableUsers js go) a).getLast? with
    | some g =>
      rw [hd] at hrole
      obtain ⟨hin,hcond⟩:=mem_filter.mp (mem_of_getLast? hd)
      obtain ⟨hgo,hrest⟩:=mem_filter.mp hin
      rw [Bool.and_eq_true,decide_eq_true_eq] at hcond
      exact .inl ⟨g,hgo,hrest,by rw [hname]; exact hcond.1,hrole⟩
    | none =>
      rw [hd] at hrole
      by_cases hknown : ∃ g∈go.rows,restorable js g=true ∧
          normalizeUsername js g.row.username=normalizeUsername js a.row.username
      · obtain ⟨g,hgo,hrest,hn⟩:=hknown
        have hnone:=filter_eq_nil_iff.mp (List.getLast?_eq_none_iff.mp hd) g
          (mem_filter.mpr ⟨hgo,hrest⟩)
        have hsame : a.row.role=some (normalizeRole g.row.role) := not_differs js (by simpa [hn] using hnone)
        exact .inl ⟨g,hgo,hrest,by rw [hname]; exact hn,hrole.trans hsame⟩
      · rcases mem_restoreUsers js ha with hpanel | ⟨g,hg,hrow⟩
        · refine .inr ⟨by rw [hname]; exact hknown,?_,a,hpanel,rfl,hname.symm⟩
          have hvalid:=(h.valid a hpanel).resolve_left hknown
          dsimp only
          rw [hrole]
          exact hvalid
        · exact absurd ⟨g,hrestored g hg hrow⟩ hknown
  · have hrow':=syncedAll_of_not_last js _ ha hlast (restorableUsers js go)
    rcases mem_restoreUsers js ha with hpanel | ⟨g,hg,hrow⟩
    · refine absurd (fun b hb hn => ?_) hlast
      rw [h.names b (eq_panel_of_name js hb hpanel hn) a hpanel hn]
    · obtain ⟨hgo,hrest,hn⟩:=hrestored g hg hrow
      refine .inl ⟨g,hgo,hrest,by rw [hname]; exact hn,?_⟩
      dsimp only
      rw [hrow',hrow]
      rfl

theorem role_of_same_name (h : OneRole js panel go) (now : String) {a : Account}
    (ha : a∈(backfillFromGo js now panel go).rows) (he : e∈(backfillFromGo js now panel go).rows)
    (hn : normalizeUsername js a.row.username=normalizeUsername js e.row.username) :
    e.row.role=some (normalizeRole a.row.role) := by
  rcases role_backfillFromGo js h now ha with ⟨g,hg,hrest,hga,hrole⟩ | ha'
  · rcases role_backfillFromGo js h now he with ⟨g',hg',hrest',hge,hrole'⟩ | he'
    · rw [hrole',hrole,normalizeRole_normalizeRole]
      exact congrArg some (h.server g' hg' g hg hrest' hrest (by rw [hge,hga,hn]))
    · exact absurd ⟨g,hg,hrest,hga.trans hn⟩ he'.unknown
  · rcases role_backfillFromGo js h now he with ⟨g',hg',hrest',hge,-⟩ | he'
    · exact absurd ⟨g',hg',hrest',hge.trans hn.symm⟩ ha'.unknown
    · obtain ⟨b,hb,hid,hbn⟩:=ha'.origin
      obtain ⟨c,hc,hid',hcn⟩:=he'.origin
      have hbc : b=c := h.names b hb c hc (by rw [hbn,hcn,hn])
      rw [Table.eq_of_id _ ha he (by rw [← hid,← hid',hbc])]
      exact he'.valid

theorem rolesSettled_reconcile (h : OneRole js panel go) :
    RolesSettled js (reconcile js api panel go).1 (reconcile js api panel go).2 := by
  intro e he _ g hg
  obtain ⟨hin,hcond⟩:=mem_filter.mp (mem_of_getLast? hg)
  obtain ⟨hgo,hrest⟩:=mem_filter.mp hin
  rw [Bool.and_eq_true,decide_eq_true_eq] at hcond
  rcases (backfillFromNode_created js api _ go).from_panel g hgo with hgo | ⟨u,hu,-,hrow⟩
  · rcases role_backfillFromGo js h api.now he with ⟨g',hg',hrest',hn,hrole⟩ | halone
    · rw [hrole]
      exact congrArg some (h.server g' hg' g hgo hrest' hrest (hn.trans hcond.1.symm))
    · exact absurd ⟨g,hgo,hrest,hcond.1⟩ halone.unknown
  · split at hu
    · exact absurd hu not_mem_nil
    · obtain ⟨a,ha,hname,hrole⟩:=mem_missingOnGo js api hu
      have hn : normalizeUsername js a.row.username=normalizeUsername js e.row.username := by
        rw [← hcond.1,hrow,← hname]
        rfl
      have hga : g.row.role=some (normalizeRole a.row.role) := by
        rw [hrow,← hrole]
        rfl
      rw [hga,normalizeRole_normalizeRole]
      exact role_of_same_name js h api.now ha he hn

/-- When a reported deletion is sound, and that such an account is not restored. -/
theorem stores_reconciled : (∀ go username, DeletionSound js api go username ↔ Deletable js api go username) ∧
      (∀ panel go n, ¬ Known js panel n → ¬ Known js go n → ¬ Known js (reconcile js api panel go).1 n) ∧
      (∀ panel go, SameNames js (reconcile js api panel go).1 (reconcile js api panel go).2 ↔
        NamesMeet js api panel go) ∧ (∀ panel go, Quiet js api panel go ↔ RolesSettled js panel go) ∧
      ∀ again panel go, OneRole js panel go →
        Quiet js again (reconcile js api panel go).1 (reconcile js api panel go).2 :=
  ⟨deletionSound_iff js api,fun _ _ n => unknown_backfillFromGo js api.now n,sameNames_iff js api,quiet_iff js api,
    fun again _ _ h => (quiet_iff js again _ _).mpr (rolesSettled_reconcile js api h)⟩

theorem isWhiteSpace_toLower (c : Char) : isWhiteSpace c.toLower=isWhiteSpace c := by
  rcases Text.toLower_cases c with h | h
  · rw [h]
  · have hall : (((List.range' 65 26).map Char.ofNat).all fun c => isWhiteSpace c.toLower=isWhiteSpace c)=true := by
      decide
    exact decide_eq_true_eq.mp (all_eq_true.mp hall c h)

def latin : Builtins where
  toLowerCase s := String.ofList (s.toList.map Char.toLower)
  trim_toLowerCase s := by
    have hcomp : isWhiteSpace ∘ Char.toLower=isWhiteSpace := funext isWhiteSpace_toLower
    rw [trim,trim,String.toList_ofList,String.toList_ofList]
    simp only [List.rdropWhile,dropWhile_map,← map_reverse,hcomp]
  dateParse _ := none

def officeApi (getUsers : UsersAnswer) : Api where
  getUsers := getUsers
  postUser _ := .done
  deleteUser _ := .done
  placeholderHash username := "random " ++ username
  now := "2026-01-01T00:00:00.000Z"

def officeUser (id : ℤ) (username role : String) : Account :=
  ⟨id,⟨username,"hash of " ++ username,some role,some "local",none,none,none,false,none⟩⟩

def officeGo : Users where
  rows := [officeUser 1 "admin" "admin",officeUser 2 "bob" "operator",officeUser 3 "carol" "viewer"]
  last := 3
  sorted := by decide
  bounded := by decide
  unique := by decide

def twinGo : Users where
  rows := [officeUser 1 "admin" "admin",officeUser 2 "Bob" "operator",officeUser 3 "bob" "viewer"]
  last := 3
  sorted := by decide
  bounded := by decide
  unique := by decide

def davePanel : Users where
  rows := [officeUser 1 "admin" "admin",officeUser 2 "dave" "viewer"]
  last := 2
  sorted := by decide
  bounded := by decide
  unique := by decide

def bobPanel : Users where
  rows := [officeUser 1 "admin" "admin",officeUser 2 "bob" "viewer"]
  last := 2
  sorted := by decide
  bounded := by decide
  unique := by decide

theorem office_settled : Quiet latin (officeApi .listed) (reconcile latin (officeApi .listed) davePanel officeGo).1
    (reconcile latin (officeApi .listed) davePanel officeGo).2 :=
  (stores_reconciled latin (officeApi .listed)).2.2.2.2 _ _ _
    ⟨by decide,by decide,by decide⟩

/-- The list of the server is not available: the deletion of `bob` is reported and he is still there. -/
theorem left_behind_and_unsettled : ¬ DeletionSound latin (officeApi .failed) officeGo "bob" ∧
      ¬ SameNames latin (reconcile latin (officeApi .listed) davePanel officeGo).1
        (reconcile latin (officeApi .listed) davePanel officeGo).2 ∧
      ¬ Quiet latin (officeApi .listed) (reconcile latin (officeApi .listed) bobPanel twinGo).1
        (reconcile latin (officeApi .listed) bobPanel twinGo).2 := by
  refine ⟨?_,?_,?_⟩
  · intro h
    have hleft : Known latin (mirrorDelete latin (officeApi .failed) officeGo "bob").2
        (normalizeUsername latin "bob") := by
      decide
    exact h (by decide) hleft
  · intro h
    have hgo : Known latin (reconcile latin (officeApi .listed) davePanel officeGo).2 "carol" := by
      decide
    have hpanel : ¬ Known latin (reconcile latin (officeApi .listed) davePanel officeGo).1 "carol" := by
      decide
    exact hpanel ((h "carol").mpr hgo)
  · intro h
    have hchanged : ¬ Kept (reconcile latin (officeApi .listed) bobPanel twinGo).1
        (reconcile latin (officeApi .listed) (reconcile latin (officeApi .listed) bobPanel twinGo).1
          (reconcile latin (officeApi .listed) bobPanel twinGo).2).1 := by
      decide
    exact hchanged h.1

end BetterDesk.Panel.UserSync
