import BetterDesk.Panel.UserSync

/-! # What the two user tables agree on -/

namespace BetterDesk.Panel.UserSync
open Numbered List

variable (js : Builtins) (api : Api) {panel go : Users}

def DeletionSound (go : Users) (username : String) : Prop :=
  (mirrorDelete js api go username).1.ok=true →
    ¬ Known js (mirrorDelete js api go username).2 (normalizeUsername js username)

def Refuses (id : ℤ) : Prop := id=0 ∨ api.deleteUser id ≠ .done

instance (id : ℤ) : Decidable (Refuses api id) := inferInstanceAs (Decidable (_ ∨ _))

def Deletable (go : Users) (username : String) : Prop :=
  ¬ Known js go (normalizeUsername js username) ∨
    username≠"" ∧ api.getUsers=.listed ∧
      ∀ e, (go.rows.find? fun e => normalizeUsername js e.row.username=normalizeUsername js username)=some e →
        Refuses api e.id ∨
          ∀ a∈go.rows,normalizeUsername js a.row.username=normalizeUsername js username → a=e

variable {username : String} {e : Account}

theorem findGoUserByUsername_listed (hname : username≠"") (hget : api.getUsers=.listed) :
    findGoUserByUsername js api go username =
      go.rows.find? fun e => normalizeUsername js e.row.username=normalizeUsername js username := by
  simp [findGoUserByUsername,readGoUsersFromApi,listGoUsers,hname,hget]

theorem findGoUserByUsername_unlisted (hget : api.getUsers ≠ .listed) :
    findGoUserByUsername js api go username=none := by
  cases hanswer : api.getUsers with
  | listed => exact absurd hanswer hget
  | failed | notAnArray => simp [findGoUserByUsername,readGoUsersFromApi,listGoUsers,hanswer]

theorem mirrorDelete_absent (h : findGoUserByUsername js api go username=none) :
    (mirrorDelete js api go username).1.ok=true ∧ (mirrorDelete js api go username).2=go := by
  by_cases hname : username=""
  · simp [mirrorDelete,hname,DeleteResult.ok]
  · simp [mirrorDelete,hname,h,DeleteResult.ok]

theorem mirrorDelete_present (hname : username≠"") (h : findGoUserByUsername js api go username=some e) :
    ((mirrorDelete js api go username).1.ok=true ↔ ¬ Refuses api e.id) ∧
      ((mirrorDelete js api go username).1.ok=true → (mirrorDelete js api go username).2=go.erase e.id) := by
  by_cases hid : e.id=0
  · simp [mirrorDelete,hname,h,safeApiId,Refuses,hid,DeleteResult.ok]
  · cases hreply : api.deleteUser e.id with
    | done | refused | lost => simp [mirrorDelete,hname,h,safeApiId,Refuses,hid,hreply,DeleteResult.ok]

theorem deletionSound_iff (go : Users) (username : String) :
    DeletionSound js api go username ↔ Deletable js api go username := by
  by_cases hlisted : username≠"" ∧ api.getUsers=.listed
  · obtain ⟨hname,hget⟩:=hlisted
    have hfind : findGoUserByUsername js api go username=_ := findGoUserByUsername_listed js api hname hget
    cases hf : findGoUserByUsername js api go username with
    | none =>
      have hunknown : ¬ Known js go (normalizeUsername js username) := by
        rw [hfind,List.find?_eq_none] at hf
        rintro ⟨a,ha,hn⟩
        exact hf a ha (by simpa using hn)
      refine iff_of_true (fun _ => ?_) (.inl hunknown)
      rw [(mirrorDelete_absent js api hf).2]
      exact hunknown
    | some e =>
      obtain ⟨hok,herase⟩:=mirrorDelete_present js api hname hf
      have he : e∈go.rows ∧ normalizeUsername js e.row.username=normalizeUsername js username := by
        rw [hfind] at hf
        exact ⟨mem_of_find?_eq_some hf,by simpa using List.find?_some hf⟩
      rw [hfind] at hf
      constructor
      · intro hsound
        refine .inr ⟨hname,hget,fun a ha => ?_⟩
        cases hf.symm.trans ha
        by_cases href : Refuses api e.id
        · exact .inl href
        · refine .inr fun b hb hn => ?_
          by_contra hne
          have hleft:=hsound (hok.mpr href)
          rw [herase (hok.mpr href)] at hleft
          exact hleft ⟨b,Table.mem_erase.mpr ⟨hb,fun hid => hne (go.eq_of_id hb he.1 hid)⟩,hn⟩
      · rintro (hunknown | ⟨-,-,hdel⟩) hdone
        · exact absurd ⟨e,he.1,he.2⟩ hunknown
        · rw [herase hdone]
          rintro ⟨b,hb,hn⟩
          obtain ⟨hb,hid⟩:=Table.mem_erase.mp hb
          rcases hdel e hf with href | honly
          · exact hok.mp hdone href
          · exact hid (by rw [honly b hb hn])
  · have hnone : findGoUserByUsername js api go username=none := by
      by_cases hname : username=""
      · simp [findGoUserByUsername,hname]
      · exact findGoUserByUsername_unlisted js api fun hget => hlisted ⟨hname,hget⟩
    obtain ⟨hok,hsame⟩:=mirrorDelete_absent js api hnone
    rw [DeletionSound,hsame,Deletable]
    constructor
    · intro hsound
      exact .inl (hsound hok)
    · rintro (hunknown | ⟨hname,hget,-⟩) -
      · exact hunknown
      · exact absurd ⟨hname,hget⟩ hlisted

def renumbered (panel : Users) (g : Account) : Bool := g.id≤0||decide (panel.Holds g.id)

def firstOfName (missing : List Account) (g : Account) : Bool :=
  missing.all fun a => !(a.id<g.id)||trim a.row.username≠trim g.row.username

def freshIds (panel : Users) (missing done : List Account) : ℕ :=
  done.countP fun g => renumbered panel g&&firstOfName missing g

def Crowded (panel go : Users) (g : Account) : Prop :=
  max panel.last 0<g.id ∧
    g.id ≤ max panel.last 0+freshIds panel (missingOnPanel js panel go) (missingOnPanel js panel go)

theorem missingOnPanel_sorted (panel go : Users) : (missingOnPanel js panel go).Pairwise fun a b => a.id<b.id :=
  (go.sorted.filter _).filter _

theorem mem_missingOnPanel {g : Account} : g∈missingOnPanel js panel go ↔
    g∈go.rows ∧ restorable js g=true ∧ ¬ Known js panel (normalizeUsername js g.row.username) := by
  simp only [missingOnPanel,restorableUsers,mem_filter,Bool.not_eq_true',decide_eq_false_iff_not,and_assoc]

theorem le_of_renumbered {g : Account} (h : renumbered panel g=true) : g.id ≤ max panel.last 0 := by
  simp only [renumbered,Bool.or_eq_true,decide_eq_true_eq] at h
  rcases h with h | ⟨e,he,hid⟩
  · omega
  · have := panel.bounded e he
    omega

/-- What holds after the missing users `done` have been worked through. -/
structure Restored (now : String) (panel go : Users) (done : List Account) (s : Restoring) : Prop where
  keeps : ∀ a∈panel.rows,a∈s.panel.rows
  from_go : ∀ a∈s.panel.rows,a∈panel.rows ∨
    ∃ g∈done,a.row=restoredRow now g.row ∧ ¬ Crowded js panel go g
  named : ∀ g∈done,¬ Crowded js panel go g → s.panel.Names (trim g.row.username)
  known : ∀ x, panel.Holds x → x∈s.localIds
  learned : ∀ x∈s.localIds,panel.Holds x ∨ ∃ g∈done,g.id=x
  ids : ∀ x, s.panel.Holds x → panel.Holds x ∨ (∃ g∈done,g.id=x) ∨
    max panel.last 0<x ∧ x ≤ max panel.last 0+freshIds panel (missingOnPanel js panel go) done
  fresh : ∀ x, max panel.last 0<x →
    x ≤ max panel.last 0+freshIds panel (missingOnPanel js panel go) done → s.panel.Holds x
  last : (∀ g∈done,g.id ≤ max panel.last 0) →
    max s.panel.last 0=max panel.last 0+freshIds panel (missingOnPanel js panel go) done

theorem restored_nil (now : String) (panel go : Users) :
    Restored js now panel go [] ⟨panel,panel.rows.map Keyed.id⟩ where
  keeps _ h := h
  from_go _ h := .inl h
  named _ h := absurd h not_mem_nil
  known x h := mem_map.mpr h
  learned x h := .inl (mem_map.mp h)
  ids x h := .inl h
  fresh x h h' := by simp only [freshIds,countP_nil] at h'; omega
  last _ := by simp [freshIds]

theorem freshIds_concat (panel : Users) (missing done : List Account) (g : Account) :
    freshIds panel missing (done++[g]) =
      freshIds panel missing done+(renumbered panel g&&firstOfName missing g).toNat := by
  rw [freshIds,countP_append,countP_singleton,freshIds]
  cases renumbered panel g&&firstOfName missing g <;> rfl

section Step
variable {js} {now : String} {done rest : List Account} {g : Account} {s : Restoring}

theorem Restored.skip (hr : Restored js now panel go done s)
    (hname : ¬ Crowded js panel go g → s.panel.Names (trim g.row.username))
    (hcount : (renumbered panel g&&firstOfName (missingOnPanel js panel go) g)=false) :
    Restored js now panel go (done++[g]) s := by
  have hfresh:=freshIds_concat panel (missingOnPanel js panel go) done g
  rw [hcount,Bool.toNat_false,Nat.add_zero] at hfresh
  constructor
  · exact hr.keeps
  · intro a ha
    rcases hr.from_go a ha with h | ⟨b,hb,h⟩
    · exact .inl h
    · exact .inr ⟨b,mem_append_left _ hb,h⟩
  · intro a ha hcrowd
    rcases mem_append.mp ha with ha | ha
    · exact hr.named a ha hcrowd
    · rw [mem_singleton.mp ha] at hcrowd ⊢
      exact hname hcrowd
  · exact hr.known
  · intro x hx
    rcases hr.learned x hx with h | ⟨b,hb,h⟩
    · exact .inl h
    · exact .inr ⟨b,mem_append_left _ hb,h⟩
  · intro x hx
    rw [hfresh]
    rcases hr.ids x hx with h | ⟨b,hb,h⟩ | h
    · exact .inl h
    · exact .inr (.inl ⟨b,mem_append_left _ hb,h⟩)
    · exact .inr (.inr h)
  · rw [hfresh]
    exact hr.fresh
  · intro h
    rw [hfresh]
    exact hr.last fun a ha => h a (mem_append_left _ ha)

theorem Restored.add {panel' : Users} {id : ℤ} {localIds : List ℤ} (hr : Restored js now panel go done s)
    (hrows : ∀ a, a∈panel'.rows ↔ a=⟨id,restoredRow now g.row⟩ ∨ a∈s.panel.rows)
    (hcrowd : ¬ Crowded js panel go g)
    (hknown : ∀ x∈s.localIds,x∈localIds) (hlearned : ∀ x∈localIds,x∈s.localIds ∨ x=g.id)
    (hid : id=g.id ∧ (renumbered panel g&&firstOfName (missingOnPanel js panel go) g)=false ∨
      id=max panel.last 0+freshIds panel (missingOnPanel js panel go) done+1 ∧
        (renumbered panel g&&firstOfName (missingOnPanel js panel go) g)=true)
    (hlast : (∀ a∈done,a.id ≤ max panel.last 0) → g.id ≤ max panel.last 0 →
      max panel'.last 0=max panel.last 0+freshIds panel (missingOnPanel js panel go) (done++[g])) :
    Restored js now panel go (done++[g]) ⟨panel',localIds⟩ := by
  have hfresh:=freshIds_concat panel (missingOnPanel js panel go) done g
  have hin : g∈done++[g] := mem_append_right _ mem_cons_self
  constructor
  · intro a ha
    exact (hrows a).mpr (.inr (hr.keeps a ha))
  · intro a ha
    rcases (hrows a).mp ha with ha | ha
    · exact .inr ⟨g,hin,by rw [ha],hcrowd⟩
    · rcases hr.from_go a ha with h | ⟨b,hb,h⟩
      · exact .inl h
      · exact .inr ⟨b,mem_append_left _ hb,h⟩
  · intro a ha hca
    rcases mem_append.mp ha with ha | ha
    · obtain ⟨e,he,hn⟩:=hr.named a ha hca
      exact ⟨e,(hrows e).mpr (.inr he),hn⟩
    · rw [mem_singleton.mp ha]
      exact ⟨_,(hrows _).mpr (.inl rfl),rfl⟩
  · intro x hx
    exact hknown x (hr.known x hx)
  · intro x hx
    rcases hlearned x hx with hx | hx
    · rcases hr.learned x hx with h | ⟨b,hb,h⟩
      · exact .inl h
      · exact .inr ⟨b,mem_append_left _ hb,h⟩
    · exact .inr ⟨g,hin,hx.symm⟩
  · rintro x ⟨e,he,hx⟩
    rcases (hrows e).mp he with he | he
    · rw [he] at hx
      rcases hid with ⟨hid,-⟩ | ⟨hid,hcount⟩
      · exact .inr (.inl ⟨g,hin,by rw [← hx,hid]⟩)
      · rw [hfresh,hcount,Bool.toNat_true]
        refine .inr (.inr ?_)
        dsimp only at hx
        omega
    · rcases hr.ids x ⟨e,he,hx⟩ with h | ⟨b,hb,h⟩ | h
      · exact .inl h
      · exact .inr (.inl ⟨b,mem_append_left _ hb,h⟩)
      · rw [hfresh]
        refine .inr (.inr ?_)
        omega
  · intro x hlow hhigh
    by_cases hold : x ≤ max panel.last 0+freshIds panel (missingOnPanel js panel go) done
    · obtain ⟨e,he,hx⟩:=hr.fresh x hlow hold
      exact ⟨e,(hrows e).mpr (.inr he),hx⟩
    · refine ⟨_,(hrows _).mpr (.inl rfl),?_⟩
      rw [hfresh] at hhigh
      rcases hid with ⟨-,hcount⟩ | ⟨hid,hcount⟩
      · rw [hcount,Bool.toNat_false] at hhigh
        omega
      · rw [hcount,Bool.toNat_true] at hhigh
        dsimp only
        omega
  · intro h
    exact hlast (fun a ha => h a (mem_append_left _ ha)) (h g hin)

variable (hsplit : missingOnPanel js panel go=done++g::rest)
include hsplit

theorem before_of_split : (∀ a∈done,a.id<g.id) ∧ ∀ a∈rest,g.id<a.id := by
  have hsorted:=missingOnPanel_sorted js panel go
  rw [hsplit,pairwise_append,pairwise_cons] at hsorted
  exact ⟨fun a ha => hsorted.2.2 a ha g mem_cons_self,hsorted.2.1.1⟩

theorem mem_done_of_lt {a : Account} (ha : a∈missingOnPanel js panel go) (h : a.id<g.id) : a∈done := by
  obtain ⟨-,hafter⟩:=before_of_split hsplit
  rw [hsplit,mem_append,mem_cons] at ha
  rcases ha with ha | ha | ha
  · exact ha
  · rw [ha] at h
    omega
  · have := hafter a ha
    omega

theorem crowded_iff_of_split (hnew : renumbered panel g=false) : Crowded js panel go g ↔
    max panel.last 0<g.id ∧ g.id ≤ max panel.last 0+freshIds panel (missingOnPanel js panel go) done := by
  obtain ⟨-,hafter⟩:=before_of_split hsplit
  refine and_congr_right fun hbeyond => ?_
  have hrest : rest.countP (fun a => renumbered panel a&&firstOfName (missingOnPanel js panel go) a)=0 := by
    rw [countP_eq_zero]
    intro a ha hcount
    have := hafter a ha
    have := le_of_renumbered (Bool.and_eq_true _ _ ▸ hcount).1
    omega
  have htotal : freshIds panel (missingOnPanel js panel go) (missingOnPanel js panel go) =
      freshIds panel (missingOnPanel js panel go) done := by
    conv_lhs => rw [freshIds,hsplit]
    rw [countP_append,countP_cons,← hsplit,hrest,hnew]
    rfl
  rw [htotal]

theorem Restored.step (hr : Restored js now panel go done s) :
    Restored js now panel go (done++[g]) (restoreUser now s g) := by
  obtain ⟨hbefore,-⟩:=before_of_split hsplit
  have hmissing : g∈missingOnPanel js panel go := by
    rw [hsplit]
    exact mem_append_right _ mem_cons_self
  obtain ⟨-,-,hunknown⟩:=(mem_missingOnPanel js).mp hmissing
  have htaken (h : s.panel.Names (trim g.row.username)) :
      ∃ a∈done,trim a.row.username=trim g.row.username := by
    obtain ⟨e,he,hn⟩:=h
    rcases hr.from_go e he with he | ⟨a,ha,hrow,-⟩
    · exact absurd ⟨e,he,by rw [hn,normalizeUsername_trim]⟩ hunknown
    · exact ⟨a,ha,by rw [← hn,hrow]; rfl⟩
  cases hnew : renumbered panel g with
  | true =>
    have hle:=le_of_renumbered hnew
    have hsmall (a : Account) (ha : a∈done) : a.id ≤ max panel.last 0 := by
      have := hbefore a ha
      omega
    have hcond : ¬ (0<g.id ∧ g.id∉s.localIds) := by
      rintro ⟨hpos,hout⟩
      simp only [renumbered,Bool.or_eq_true,decide_eq_true_eq] at hnew
      rcases hnew with hneg | hold
      · omega
      · exact hout (hr.known _ hold)
    have hcrowd : ¬ Crowded js panel go g := fun h => by
      have := h.1
      omega
    rw [restoreUser,if_neg hcond]
    cases hins : s.panel.insert (restoredRow now g.row) with
    | none =>
      have hnames : s.panel.Names (trim g.row.username) := Table.insert_eq_none_iff.mp hins
      refine hr.skip (fun _ => hnames) ?_
      obtain ⟨a,ha,hn⟩:=htaken hnames
      have hnot : firstOfName (missingOnPanel js panel go) g=false := by
        rw [firstOfName,all_eq_false]
        refine ⟨a,?_,by simp [hbefore a ha,hn]⟩
        rw [hsplit]
        exact mem_append_left _ ha
      rw [hnot,Bool.and_false]
    | some panel' =>
      obtain ⟨hrows,hl⟩:=Table.insert_spec hins
      have hfirst : firstOfName (missingOnPanel js panel go) g=true := by
        rw [firstOfName,all_eq_true]
        intro a ha
        by_cases hlt : a.id<g.id
        · have hdone:=mem_done_of_lt hsplit ha hlt
          have hne : trim a.row.username≠trim g.row.username := by
            intro hn
            have hnames:=hr.named a hdone fun h => by
              have := hsmall a hdone
              have := h.1
              omega
            rw [hn] at hnames
            exact absurd (Table.insert_eq_none_iff.mpr hnames) (by rw [hins]; exact Option.some_ne_none _)
          simp [hne]
        · simp [hlt]
      have hcount : (renumbered panel g&&firstOfName (missingOnPanel js panel go) g)=true := by
        rw [hnew,hfirst]
        rfl
      have hbase:=hr.last hsmall
      refine hr.add hrows hcrowd (fun _ h => h) (fun _ h => .inl h) (.inr ⟨by omega,hcount⟩) fun _ _ => ?_
      rw [freshIds_concat,hcount,Bool.toNat_true]
      omega
  | false =>
    have hcount : (renumbered panel g&&firstOfName (missingOnPanel js panel go) g)=false := by
      rw [hnew]
      rfl
    have hcrowd_iff:=crowded_iff_of_split hsplit hnew
    simp only [renumbered,Bool.or_eq_false_iff,decide_eq_false_iff_not] at hnew
    obtain ⟨hpos,hfree⟩:=hnew
    have hnotdone : ¬ ∃ a∈done,a.id=g.id := by
      rintro ⟨a,ha,hid⟩
      have := hbefore a ha
      omega
    have hcond : 0<g.id ∧ g.id∉s.localIds := by
      refine ⟨by omega,fun hin => ?_⟩
      rcases hr.learned _ hin with h | h
      · exact hfree h
      · exact hnotdone h
    rw [restoreUser,if_pos hcond]
    cases hins : s.panel.insertAt g.id (restoredRow now g.row) with
    | none =>
      refine hr.skip (fun hcrowd => ?_) hcount
      rcases Table.insertAt_eq_none_iff.mp hins with hholds | hnames
      · rcases hr.ids _ hholds with h | h | h
        · exact absurd h hfree
        · exact absurd h hnotdone
        · exact absurd (hcrowd_iff.mpr h) hcrowd
      · exact hnames
    | some panel' =>
      obtain ⟨hrows,hl⟩:=Table.insertAt_spec hins
      have hcrowd : ¬ Crowded js panel go g := by
        intro h
        obtain ⟨hlow,hhigh⟩:=hcrowd_iff.mp h
        have hnone:=Table.insertAt_eq_none_iff (r := restoredRow now g.row).mpr (.inl (hr.fresh _ hlow hhigh))
        rw [hins] at hnone
        cases hnone
      refine hr.add hrows hcrowd (fun _ h => mem_cons_of_mem _ h) (fun x h => ?_) (.inl ⟨rfl,hcount⟩)
        fun hdone hle => ?_
      · rcases mem_cons.mp h with h | h
        · exact .inr h
        · exact .inl h
      · have hbase:=hr.last hdone
        rw [freshIds_concat,hcount,Bool.toNat_false]
        omega

end Step

theorem restored_all {now : String} (done rest : List Account) (s : Restoring)
    (hsplit : missingOnPanel js panel go=done++rest) (hr : Restored js now panel go done s) :
    Restored js now panel go (missingOnPanel js panel go) (rest.foldl (restoreUser now) s) := by
  induction rest generalizing done s with
  | nil =>
    rw [append_nil] at hsplit
    rw [hsplit]
    exact hr
  | cons g rest ih =>
    refine ih (done++[g]) _ ?_ (hr.step hsplit)
    rw [hsplit,append_assoc]
    rfl

theorem known_restoreUsers (now : String) (n : String) : Known js (restoreUsers js now panel go) n ↔
    Known js panel n ∨ ∃ g∈go.rows,normalizeUsername js g.row.username=n ∧ restorable js g=true ∧
      ¬ Crowded js panel go g := by
  have hr:=restored_all js [] _ _ rfl (restored_nil js now panel go)
  constructor
  · rintro ⟨e,he,hn⟩
    rcases hr.from_go e he with he | ⟨g,hg,hrow,hcrowd⟩
    · exact .inl ⟨e,he,hn⟩
    · obtain ⟨hgo,hrest,-⟩:=(mem_missingOnPanel js).mp hg
      refine .inr ⟨g,hgo,?_,hrest,hcrowd⟩
      rw [← hn,hrow]
      exact (normalizeUsername_trim js g.row.username).symm
  · rintro (⟨e,he,hn⟩ | ⟨g,hg,hn,hrest,hcrowd⟩)
    · exact ⟨e,hr.keeps e he,hn⟩
    · by_cases hk : Known js panel n
      · obtain ⟨e,he,hne⟩:=hk
        exact ⟨e,hr.keeps e he,hne⟩
      · obtain ⟨e,he,hname⟩:=hr.named g ((mem_missingOnPanel js).mpr ⟨hg,hrest,by rwa [hn]⟩) hcrowd
        exact ⟨e,he,by rw [hname,normalizeUsername_trim,hn]⟩

def LastOfName (users : Users) (e : Account) : Prop :=
  ∀ a∈users.rows,normalizeUsername js a.row.username=normalizeUsername js e.row.username → a.id≤e.id

theorem localByName_eq_some (users : Users) {n : String} : localByName js users.rows n=some e ↔
      e∈users.rows ∧ normalizeUsername js e.row.username=n ∧ LastOfName js users e := by
  have hsorted : users.rows.reverse.Pairwise fun a b => b.id<a.id := pairwise_reverse.mpr users.sorted
  have hspec {a : Account} (h : localByName js users.rows n=some a) :
      a∈users.rows ∧ normalizeUsername js a.row.username=n ∧ LastOfName js users a := by
    obtain ⟨hn,before,after,hsplit,hbefore⟩:=List.find?_eq_some_iff_append.mp h
    have hmem : a∈users.rows := mem_reverse.mp (mem_of_find?_eq_some h)
    rw [decide_eq_true_eq] at hn
    refine ⟨hmem,hn,fun b hb hname => ?_⟩
    rw [← mem_reverse,hsplit,mem_append,mem_cons] at hb
    rw [hsplit,pairwise_append,pairwise_cons] at hsorted
    rcases hb with hb | hb | hb
    · have := hbefore b hb
      simp [hname,hn] at this
    · rw [hb]
    · have := hsorted.2.1.1 b hb
      omega
  constructor
  · exact hspec
  · rintro ⟨he,hn,hlast⟩
    cases hf : localByName js users.rows n with
    | none =>
      have hno:=List.find?_eq_none.mp hf e (mem_reverse.mpr he)
      simp [hn] at hno
    | some a =>
      obtain ⟨ha,hna,hlasta⟩:=hspec hf
      have h1:=hlast a ha (by rw [hna,hn])
      have h2:=hlasta e he (by rw [hna,hn])
      rw [users.eq_of_id ha he (by omega)]

/-- What the update for the user `g` of the server makes of a row. -/
def synced (localUsers : List Account) (g e : Account) : User :=
  match localByName js localUsers (normalizeUsername js g.row.username) with
  | none => e.row
  | some a =>
    if differs js a.row g.row&&e.id=a.id then
      e.row.syncedTo g.row (shouldSyncLastLogin js a.row.lastLogin g.row.lastLogin)
    else e.row

theorem rows_syncFromGo (localUsers : List Account) (users : Users) (g : Account) :
    (syncFromGo js localUsers users g).rows=users.rows.map fun e => ⟨e.id,synced js localUsers g e⟩ := by
  unfold syncFromGo synced
  cases localByName js localUsers (normalizeUsername js g.row.username) with
  | none => simp
  | some a =>
    by_cases hd : differs js a.row g.row=true
    · simp only [hd,if_true,Bool.true_and,Table.modify,decide_eq_true_eq]
      refine map_congr_left fun e _ => ?_
      split <;> rfl
    · simp [hd]

def syncedAll (localUsers gs : List Account) (e : Account) : User :=
  gs.foldl (fun u g => synced js localUsers g ⟨e.id,u⟩) e.row

theorem rows_syncExistingAuthFromGo (localUsers gs : List Account) (users : Users) :
    (syncExistingAuthFromGo js users gs localUsers).rows =
      users.rows.map fun e => ⟨e.id,syncedAll js localUsers gs e⟩ :=
  Table.rows_foldl (fun users g => rows_syncFromGo js localUsers users g) gs users

theorem synced_keeps (localUsers : List Account) (g e : Account) :
    (synced js localUsers g e).username=e.row.username ∧
      (synced js localUsers g e).passwordHash=e.row.passwordHash ∧
      (synced js localUsers g e).totpSecret=e.row.totpSecret ∧
      (synced js localUsers g e).totpRecoveryCodes=e.row.totpRecoveryCodes := by
  unfold synced
  cases localByName js localUsers (normalizeUsername js g.row.username) with
  | none => exact ⟨rfl,rfl,rfl,rfl⟩
  | some a =>
    dsimp only
    split <;> exact ⟨rfl,rfl,rfl,rfl⟩

theorem syncedAll_keeps (localUsers gs : List Account) (e : Account) :
    (syncedAll js localUsers gs e).username=e.row.username ∧
      (syncedAll js localUsers gs e).passwordHash=e.row.passwordHash ∧
      (syncedAll js localUsers gs e).totpSecret=e.row.totpSecret ∧
      (syncedAll js localUsers gs e).totpRecoveryCodes=e.row.totpRecoveryCodes := by
  obtain ⟨id,u⟩:=e
  induction gs generalizing u with
  | nil => exact ⟨rfl,rfl,rfl,rfl⟩
  | cons g gs ih =>
    have hstep:=synced_keeps js localUsers g ⟨id,u⟩
    have hrest:=ih (synced js localUsers g ⟨id,u⟩)
    refine ⟨hrest.1.trans hstep.1,hrest.2.1.trans hstep.2.1,hrest.2.2.1.trans hstep.2.2.1,?_⟩
    exact hrest.2.2.2.trans hstep.2.2.2

def differing (gs : List Account) (e : Account) : List Account :=
  gs.filter fun g => normalizeUsername js g.row.username=normalizeUsername js e.row.username &&
    differs js e.row g.row

theorem syncedAll_role (users : Users) (he : e∈users.rows) (hlast : LastOfName js users e)
    (gs : List Account) : (syncedAll js users.rows gs e).role =
      ((differing js gs e).getLast?.map fun g => some (normalizeRole g.row.role)).getD e.row.role := by
  induction gs using List.reverseRecOn with
  | nil => rfl
  | append_singleton gs g ih =>
    have hlookup (a : Account) : localByName js users.rows (normalizeUsername js g.row.username)=some a ∧ e.id=a.id ↔
        a=e ∧ normalizeUsername js g.row.username=normalizeUsername js e.row.username := by
      rw [localByName_eq_some]
      constructor
      · rintro ⟨⟨ha,hn,-⟩,hid⟩
        have hae:=users.eq_of_id ha he hid.symm
        exact ⟨hae,by rw [← hn,hae]⟩
      · rintro ⟨rfl,hn⟩
        exact ⟨⟨he,hn.symm,hlast⟩,rfl⟩
    rw [syncedAll,foldl_append,foldl_cons,foldl_nil,← syncedAll,differing,filter_append,
      ← differing,filter_singleton,synced]
    by_cases hn : normalizeUsername js g.row.username=normalizeUsername js e.row.username
    · rw [((hlookup e).mpr ⟨rfl,hn⟩).1]
      by_cases hd : differs js e.row g.row=true
      · simp [hn,hd,User.syncedTo]
      · simp [hn,hd,ih]
    · cases hl : localByName js users.rows (normalizeUsername js g.row.username) with
      | none => simp [hn,ih]
      | some a =>
        have hid : e.id≠a.id := fun hid => hn ((hlookup a).mp ⟨hl,hid⟩).2
        simp [hn,hid,ih]

theorem syncedAll_of_not_last (users : Users) (he : e∈users.rows)
    (hlast : ¬ LastOfName js users e) (gs : List Account) : syncedAll js users.rows gs e=e.row := by
  induction gs using List.reverseRecOn with
  | nil => rfl
  | append_singleton gs g ih =>
    rw [syncedAll,foldl_append,foldl_cons,foldl_nil,← syncedAll,ih,synced]
    cases hl : localByName js users.rows (normalizeUsername js g.row.username) with
    | none => rfl
    | some a =>
      obtain ⟨ha,-,halast⟩:=(localByName_eq_some js users).mp hl
      have hid : e.id≠a.id := fun hid => hlast (users.eq_of_id ha he hid.symm ▸ halast)
      simp [hid]

def Accepted (username : String) : Prop := (api.postUser username).carriedOut=true ∧ username≠""

instance (username : String) : Decidable (Accepted api username) := inferInstanceAs (Decidable (_ ∧ _))

def placeholderRow (username : String) (role : Option String) : User :=
  goUserRow username (api.placeholderHash username) (normalizeRole role) "local" api.now

structure Created (go : Users) (us : List ListedUser) (go' : Users) : Prop where
  keeps : ∀ e∈go.rows,e∈go'.rows
  from_panel : ∀ e∈go'.rows,e∈go.rows ∨
    ∃ u∈us,Accepted api u.username ∧ e.row=placeholderRow api u.username u.role
  named : ∀ u∈us,Accepted api u.username → go'.Names u.username

theorem postUser_created (go : Users) (u : ListedUser) : Created api go [u] (postUser api go u.username u.role) := by
  by_cases ha : Accepted api u.username
  · have hcond : ((api.postUser u.username).carriedOut&&u.username≠"")=true := by
      rw [ha.1,Bool.true_and,decide_eq_true_eq]
      exact ha.2
    rw [postUser,if_pos hcond]
    cases hins : go.insert (placeholderRow api u.username u.role) with
    | none =>
      have hnames : go.Names u.username := Table.insert_eq_none_iff.mp hins
      rw [placeholderRow] at hins
      rw [hins]
      constructor
      · exact fun _ h => h
      · exact fun _ h => .inl h
      · intro v hv _
        rw [mem_singleton.mp hv]
        exact hnames
    | some go' =>
      obtain ⟨hrows,-⟩:=Table.insert_spec hins
      rw [placeholderRow] at hins
      rw [hins]
      constructor
      · exact fun e h => (hrows e).mpr (.inr h)
      · intro e h
        rcases (hrows e).mp h with h | h
        · exact .inr ⟨u,mem_cons_self,ha,by rw [h]⟩
        · exact .inl h
      · intro v hv _
        rw [mem_singleton.mp hv]
        exact ⟨_,(hrows _).mpr (.inl rfl),rfl⟩
  · have hcond : ¬ ((api.postUser u.username).carriedOut&&u.username≠"")=true := by
      rw [Bool.and_eq_true,decide_eq_true_eq]
      exact ha
    rw [postUser,if_neg hcond]
    constructor
    · exact fun _ h => h
    · exact fun _ h => .inl h
    · intro v hv hacc
      rw [mem_singleton.mp hv] at hacc
      exact absurd hacc ha

theorem Created.trans {api} {go go' go'' : Users} {us vs : List ListedUser} (h : Created api go us go')
    (h' : Created api go' vs go'') : Created api go (us++vs) go'' := by
  constructor
  · intro e he
    exact h'.keeps e (h.keeps e he)
  · intro e he
    rcases h'.from_panel e he with he | ⟨u,hu,hrow⟩
    · rcases h.from_panel e he with he | ⟨u,hu,hrow⟩
      · exact .inl he
      · exact .inr ⟨u,mem_append_left _ hu,hrow⟩
    · exact .inr ⟨u,mem_append_right _ hu,hrow⟩
  · intro u hu hacc
    rcases mem_append.mp hu with hu | hu
    · obtain ⟨e,he,hn⟩:=h.named u hu hacc
      exact ⟨e,h'.keeps e he,hn⟩
    · exact h'.named u hu hacc

theorem createGoUser_foldl (us : List ListedUser) (hus : ∀ u∈us,u.passwordHash=none) (go : Users) :
    Created api go us (us.foldl (createGoUser api) go) := by
  induction us generalizing go with
  | nil => exact ⟨fun _ h => h,fun _ h => .inl h,fun _ h => absurd h not_mem_nil⟩
  | cons u us ih =>
    have hempty : trim (u.passwordHash.getD "")="" := by
      rw [hus u mem_cons_self]
      rfl
    have hhead : createGoUser api go u=postUser api go u.username u.role := by
      rw [createGoUser,if_pos hempty]
    rw [foldl_cons,hhead]
    exact (postUser_created api go u).trans (ih (fun v hv => hus v (mem_cons_of_mem _ hv)) _)

theorem mirrorTotp_foldl (us : List ListedUser) (hus : ∀ u∈us,u.totpSecret=none) (go : Users) :
    us.foldl (mirrorTotp js) go=go := by
  induction us with
  | nil => rfl
  | cons u us ih =>
    have hnone : localUserHasTotp u=false := by
      rw [localUserHasTotp,hus u mem_cons_self,Option.getD_none]
      have hempty : trim "" = "" := rfl
      simp [hempty]
    rw [foldl_cons,mirrorTotp,if_neg (by simp [hnone])]
    exact ih fun v hv => hus v (mem_cons_of_mem _ hv)

theorem backfillFromNode_eq (panel go : Users) : backfillFromNode js api (getAllUsers panel) go =
    if api.getUsers=.failed then go
    else (missingOnGo js (readGoUsersFromApi api go) (getAllUsers panel)).foldl (createGoUser api) go := by
  have hsecret (u : ListedUser) (hu : u∈getAllUsers panel) : u.totpSecret=none := by
    obtain ⟨e,-,rfl⟩:=mem_map.mp hu
    rfl
  unfold backfillFromNode
  by_cases hempty : getAllUsers panel=[]
  · rw [if_pos hempty,hempty,missingOnGo,filter_nil,foldl_nil,ite_self]
  · rw [if_neg hempty]
    cases hget : api.getUsers with
    | failed => rfl
    | notAnArray | listed => exact mirrorTotp_foldl js _ hsecret _

theorem backfillFromNode_created (panel go : Users) :
    Created api go (if api.getUsers=.failed then []
        else missingOnGo js (readGoUsersFromApi api go) (getAllUsers panel))
      (backfillFromNode js api (getAllUsers panel) go) := by
  rw [backfillFromNode_eq]
  split
  · exact createGoUser_foldl api [] (fun _ h => absurd h not_mem_nil) go
  · refine createGoUser_foldl api _ (fun u hu => ?_) go
    obtain ⟨e,-,rfl⟩:=mem_map.mp (mem_of_mem_filter hu)
    rfl

theorem mem_missingOnGo {u : ListedUser} (h : u∈missingOnGo js (readGoUsersFromApi api go) (getAllUsers panel)) :
    ∃ e∈panel.rows,u.username=e.row.username ∧ u.role=e.row.role := by
  obtain ⟨e,he,rfl⟩:=mem_map.mp (mem_of_mem_filter h)
  exact ⟨e,he,rfl,rfl⟩

theorem missingOnGo_of_unknown (he : e∈panel.rows) (h : ¬ Known js go (normalizeUsername js e.row.username)) :
    ∃ u∈missingOnGo js (readGoUsersFromApi api go) (getAllUsers panel), u.username=e.row.username := by
  refine ⟨_,mem_filter.mpr ⟨mem_map_of_mem he,?_⟩,rfl⟩
  rw [decide_eq_true_eq]
  intro hin
  obtain ⟨a,ha,hlower⟩:=mem_map.mp hin
  have hrow : a∈go.rows := by
    cases hget : api.getUsers with
    | listed => simpa [readGoUsersFromApi,listGoUsers,hget] using ha
    | failed | notAnArray => simp [readGoUsersFromApi,listGoUsers,hget] at ha
  exact h ⟨a,hrow,normalizeUsername_of_toLowerCase js hlower⟩

end BetterDesk.Panel.UserSync
