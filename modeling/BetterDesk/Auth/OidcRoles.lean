import BetterDesk.Auth.Roles

/-! # Roles from the groups of an identity provider (auth/oidc.go, auth/ldap.go) -/

namespace BetterDesk.Auth.Oidc
open Text List Nat

/-- The fields of `OIDCConfig` that decide the role. -/
structure RoleConfig where
  defaultRole : Role
  groupRoleMap : String

def unifyLines : List Char → List Char
  | '\r':: '\n'::t => '|'::unifyLines t
  | c::t => (if c = '\n' then '|' else c)::unifyLines t
  | [] => []

/-- An entry is split at its last `=`, which does not come first. -/
def groupRole (entry : List Char) : Option (String × Role) :=
  match (trimString (String.ofList entry)).toList.reverse.span (· ≠ '=') with
  | (role,_::dn) =>
    let dn:=trimString (String.ofList dn.reverse)
    let role:=trimString (String.ofList role.reverse)
    if dn≠"" ∧ role≠"" ∧ validRole role then some (dn,role) else none
  | (_,[]) => none

/-- The last entry of a group comes first, as it overwrites the others. -/
def parseGroupRoleMap (raw : String) : List (String × Role) :=
  (((unifyLines raw.toList).splitOnP (· = '|')).filterMap groupRole).reverse

def roleLevel (role : Role) : ℕ :=
  let role:=lowerString role
  if role="super_admin" ∨ role="admin" then 5
  else if role="server_admin" then 4
  else if role="global_admin" then 4
  else if role="operator" then 2
  else if role="viewer" then 1
  else if role="pro" then 0
  else 0

structure Best where
  role : Role
  level : ℕ
  matched : Bool

def Best.take (b : Best) (role : Role) : Best :=
  if b.level<roleLevel role then ⟨role,roleLevel role,true⟩ else {b with matched := true}

def Best.visit (roleMap : List (String × Role)) (b : Best) (group : String) : Best := match roleMap.lookup group with
  | some role => b.take role
  | none => b

namespace RoleConfig
variable (cfg : RoleConfig)

def initial : Best := ⟨cfg.defaultRole,roleLevel cfg.defaultRole,false⟩

def resolveRoleWithSource (groups : List String) : Role × Bool :=
  if groups=[] ∨ cfg.groupRoleMap="" then (cfg.defaultRole,false)
  else
    let roleMap:=parseGroupRoleMap cfg.groupRoleMap
    if roleMap=[] then (cfg.defaultRole,false)
    else
      let best:=groups.foldl (Best.visit roleMap) cfg.initial
      (best.role,best.matched)

def mappedRoles (groups : List String) : List Role := groups.filterMap fun g => (parseGroupRoleMap cfg.groupRoleMap).lookup g

structure Resolved (groups : List String) : Prop where
  highest : cfg.mappedRoles groups≠[] → (cfg.resolveRoleWithSource groups).1∈cfg.mappedRoles groups ∧
    ∀ r∈cfg.mappedRoles groups, roleLevel r≤roleLevel (cfg.resolveRoleWithSource groups).1
  anyOrder : ∀ groups' : List String, groups'.Perm groups → cfg.resolveRoleWithSource groups'=cfg.resolveRoleWithSource groups
  source : (cfg.resolveRoleWithSource groups).2=true ↔ (cfg.resolveRoleWithSource groups).1∈cfg.mappedRoles groups

/-- No group is mapped; or one is mapped to the default role and none higher; or the highest
level is above that of the default role and only one role has it. -/
def Decided (groups : List String) : Prop :=
  cfg.mappedRoles groups=[] ∨
  (cfg.defaultRole∈cfg.mappedRoles groups ∧ ∀ r∈cfg.mappedRoles groups, roleLevel r≤roleLevel cfg.defaultRole) ∨
  ∃ best∈cfg.mappedRoles groups, roleLevel cfg.defaultRole<roleLevel best ∧
    ∀ r∈cfg.mappedRoles groups, r=best ∨ roleLevel r<roleLevel best

end RoleConfig

namespace Best
variable {b : Best}

theorem take_level (hb : b.level=roleLevel b.role) (r : Role) : (b.take r).level=roleLevel (b.take r).role := by
  unfold take
  split
  · rfl
  · exact hb

theorem foldl_matched (roles : List Role) (b : Best) :
    (roles.foldl take b).matched=true ↔ b.matched=true ∨ roles≠[] := by
  induction roles generalizing b with
  | nil => simp
  | cons r roles ih =>
    have htake : (b.take r).matched=true := by
      unfold take
      split <;> rfl
    simp [ih,htake]

theorem foldl_role (roles : List Role) (hb : b.level=roleLevel b.role) :
    ((roles.foldl take b).role=b.role ∧ ∀ r∈roles,roleLevel r≤roleLevel b.role) ∨
      ((roles.foldl take b).role∈roles ∧ roleLevel b.role<roleLevel (roles.foldl take b).role ∧
        ∀ r∈roles,roleLevel r≤roleLevel (roles.foldl take b).role) := by
  induction roles generalizing b with
  | nil => simp
  | cons r roles ih =>
    have hnext:=ih (take_level hb r)
    rw [foldl_cons]
    by_cases hlt : b.level<roleLevel r
    · have htake : b.take r=⟨r,roleLevel r,true⟩ := if_pos hlt
      rw [hb] at hlt
      rw [htake] at hnext ⊢
      rcases hnext with ⟨hsame,hle⟩ | ⟨hmem,hgt,hle⟩
      · simp only at hsame hle
        rw [hsame]
        exact .inr ⟨mem_cons_self,hlt,by simpa using hle⟩
      · simp only at hgt
        exact .inr ⟨mem_cons_of_mem _ hmem,hlt.trans hgt,by simpa using ⟨hgt.le,hle⟩⟩
    · have htake : b.take r={b with matched := true} := if_neg hlt
      rw [hb] at hlt
      rw [htake] at hnext ⊢
      rcases hnext with ⟨hsame,hle⟩ | ⟨hmem,hgt,hle⟩
      · exact .inl ⟨hsame,by simpa using ⟨Nat.le_of_not_lt hlt,hle⟩⟩
      · simp only at hgt
        refine .inr ⟨mem_cons_of_mem _ hmem,hgt,?_⟩
        simpa using ⟨(Nat.le_of_not_lt hlt).trans hgt.le,hle⟩

end Best

namespace RoleConfig
variable {cfg : RoleConfig} {groups groups' : List String}

theorem resolve_eq (cfg : RoleConfig) (groups : List String) : cfg.resolveRoleWithSource groups =
    (((cfg.mappedRoles groups).foldl Best.take cfg.initial).role,((cfg.mappedRoles groups).foldl Best.take cfg.initial).matched) := by
  have hloop : groups.foldl (Best.visit (parseGroupRoleMap cfg.groupRoleMap)) cfg.initial =
      (cfg.mappedRoles groups).foldl Best.take cfg.initial := by
    unfold mappedRoles
    rw [foldl_filterMap]
    congr 1
    funext b g
    unfold Best.visit
    cases (parseGroupRoleMap cfg.groupRoleMap).lookup g <;> rfl
  have hnone (h : parseGroupRoleMap cfg.groupRoleMap=[]) : cfg.mappedRoles groups=[] := by
    unfold mappedRoles
    rw [h]
    exact filterMap_eq_nil_iff.mpr fun _ _ => rfl
  unfold resolveRoleWithSource
  split
  · rename_i h
    have hmapped : cfg.mappedRoles groups=[] := by
      rcases h with h | h
      · rw [h]
        rfl
      · exact hnone (by rw [h]; decide)
    rw [hmapped]
    rfl
  · dsimp only
    split
    · rename_i h
      rw [hnone h]
      rfl
    · rw [hloop]

theorem source_iff : (cfg.resolveRoleWithSource groups).2=true ↔ cfg.mappedRoles groups≠[] := by
  rw [resolve_eq,Best.foldl_matched]
  simp [initial]

theorem role_default (h : ∀ r∈cfg.mappedRoles groups, roleLevel r≤roleLevel cfg.defaultRole) :
    (cfg.resolveRoleWithSource groups).1=cfg.defaultRole := by
  rw [resolve_eq]
  rcases Best.foldl_role (b := cfg.initial) (cfg.mappedRoles groups) rfl with ⟨hsame,-⟩ | ⟨hmem,hgt,-⟩
  · exact hsame
  · exact absurd (h _ hmem) (not_le.mpr hgt)

theorem role_only {best : Role} (hmem : best∈cfg.mappedRoles groups) (hgt : roleLevel cfg.defaultRole<roleLevel best)
    (honly : ∀ r∈cfg.mappedRoles groups, r=best ∨ roleLevel r<roleLevel best) :
    (cfg.resolveRoleWithSource groups).1=best := by
  rw [resolve_eq]
  rcases Best.foldl_role (b := cfg.initial) (cfg.mappedRoles groups) rfl with ⟨-,hle⟩ | ⟨hin,-,hle⟩
  · exact absurd (hle best hmem) (not_le.mpr hgt)
  · exact (honly _ hin).resolve_right (not_lt.mpr (hle best hmem))

theorem role_first {g : String} {r : Role} (hr : (parseGroupRoleMap cfg.groupRoleMap).lookup g=some r)
    (hgt : roleLevel cfg.defaultRole<roleLevel r) (hle : ∀ r'∈cfg.mappedRoles groups, roleLevel r'≤roleLevel r) :
    (cfg.resolveRoleWithSource (g::groups)).1=r := by
  have hmapped : cfg.mappedRoles (g::groups)=r::cfg.mappedRoles groups := filterMap_cons_some hr
  rw [resolve_eq,hmapped,foldl_cons]
  have htake : cfg.initial.take r=⟨r,roleLevel r,true⟩ := if_pos hgt
  rw [htake]
  rcases Best.foldl_role (b := ⟨r,roleLevel r,true⟩) (cfg.mappedRoles groups) rfl with ⟨hsame,-⟩ | ⟨hmem,hgt',-⟩
  · exact hsame
  · exact absurd (hle _ hmem) (not_le.mpr hgt')

theorem mem_mappedRoles_perm (h : groups'.Perm groups) (r : Role) : r∈cfg.mappedRoles groups' ↔ r∈cfg.mappedRoles groups :=
  (h.filterMap _).mem_iff

theorem resolved_of_role {role : Role} (hmem : role∈cfg.mappedRoles groups)
    (hle : ∀ r∈cfg.mappedRoles groups, roleLevel r≤roleLevel role)
    (hrole : ∀ groups' : List String, groups'.Perm groups → (cfg.resolveRoleWithSource groups').1=role) : cfg.Resolved groups := by
  have hsource {groups' : List String} (hp : groups'.Perm groups) : (cfg.resolveRoleWithSource groups').2=true :=
    source_iff.mpr (ne_nil_of_mem ((mem_mappedRoles_perm hp role).mpr hmem))
  have hself:=hrole groups (.refl _)
  refine ⟨fun _ => hself ▸ ⟨hmem,hle⟩,fun groups' hp => ?_,iff_of_true (hsource (.refl _)) (hself ▸ hmem)⟩
  exact Prod.ext ((hrole groups' hp).trans hself.symm) ((hsource hp).trans (hsource (.refl _)).symm)

theorem decided_of_resolved (h : cfg.Resolved groups) : cfg.Decided groups := by
  by_cases hnone : cfg.mappedRoles groups=[]
  · exact .inl hnone
  · obtain ⟨hmem,hle⟩:=h.highest hnone
    by_cases hgt : roleLevel cfg.defaultRole<roleLevel (cfg.resolveRoleWithSource groups).1
    · refine .inr (.inr ⟨_,hmem,hgt,fun r hr => or_iff_not_imp_right.mpr fun hlt => ?_⟩)
      have heq:=Nat.le_antisymm (hle r hr) (Nat.le_of_not_lt hlt)
      -- the group of another highest role could come first
      obtain ⟨g,hg,hlookup⟩:=mem_filterMap.mp hr
      have hperm:=(perm_cons_erase hg).symm
      rw [← congrArg Prod.fst (h.anyOrder _ hperm)]
      refine (role_first hlookup (heq ▸ hgt) fun r' hr' => ?_).symm
      obtain ⟨g',hg',hlookup'⟩:=mem_filterMap.mp hr'
      exact (hle r' (mem_filterMap.mpr ⟨g',mem_of_mem_erase hg',hlookup'⟩)).trans heq.ge
    · have hrole : (cfg.resolveRoleWithSource groups).1=cfg.defaultRole :=
        role_default fun r hr => (hle r hr).trans (Nat.le_of_not_lt hgt)
      rw [hrole] at hmem hle
      exact .inr (.inl ⟨hmem,hle⟩)

/-- The groups decide the role, in any order, exactly when no higher default role outlasts them and
no two roles are the highest. -/
theorem resolved_iff (cfg : RoleConfig) (groups : List String) : cfg.Resolved groups ↔ cfg.Decided groups := by
  constructor
  · exact decided_of_resolved
  · intro h
    rcases h with hnone | ⟨hmem,hle⟩ | ⟨best,hmem,hgt,honly⟩
    · have hnone' {groups' : List String} (hp : groups'.Perm groups) : cfg.resolveRoleWithSource groups'=(cfg.defaultRole,false) := by
        have hmapped : cfg.mappedRoles groups'=[] := by
          apply eq_nil_iff_forall_not_mem.mpr
          intro r hr
          rw [mem_mappedRoles_perm hp,hnone] at hr
          cases hr
        rw [resolve_eq,hmapped]
        rfl
      refine ⟨fun h => absurd hnone h,fun groups' hp => (hnone' hp).trans (hnone' (.refl _)).symm,?_⟩
      rw [hnone' (.refl _),hnone]
      simp
    · exact resolved_of_role hmem hle fun groups' hp =>
        role_default fun r hr => hle r ((mem_mappedRoles_perm hp r).mp hr)
    · refine resolved_of_role hmem (fun r hr => ?_) fun groups' hp =>
        role_only ((mem_mappedRoles_perm hp best).mpr hmem) hgt fun r hr => honly r ((mem_mappedRoles_perm hp r).mp hr)
      rcases honly r hr with rfl | hlt
      · exact le_refl _
      · exact hlt.le

def staff : RoleConfig := ⟨"operator","users=viewer|ops=operator"⟩

/-- The group is mapped to a lower role than the default one, which is returned as that of the group. -/
theorem default_returned_as_mapped : ¬ ∀ (cfg : RoleConfig) (groups : List String), cfg.Resolved groups := by
  intro h
  have hbest:=((h staff ["users"]).highest (by decide)).1
  revert hbest
  decide

end RoleConfig

end BetterDesk.Auth.Oidc
