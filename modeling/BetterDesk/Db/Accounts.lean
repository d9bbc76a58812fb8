import BetterDesk.Db.Store
import BetterDesk.Lib.Table

/-! # Rows of the accounts (db/sqlite.go) -/

namespace BetterDesk.Db
open List

structure Keyed (users : List User) : Prop where
  ids : (users.map User.id).Nodup
  usernames : (users.map User.username).Nodup

/-- The row of `user` is replaced. -/
structure Replaced (users users' : List User) (user u : User) : Prop where
  stored : user∈users
  id : u.id=user.id
  username : u.username=user.username
  rows : users'=users.map fun v => if v.id=user.id then u else v

section
variable {users users' : List User} {user u : User}

theorem replaced_map (hkeys : Keyed users) (huser : user∈users) (hid : u.id=user.id) :
    Replaced users (users.map fun v => if v.id=u.id then {u.stored with username := v.username} else v) user
      {u.stored with username := user.username} := by
  refine ⟨huser,hid,rfl,map_congr_left fun v hv => ?_⟩
  rw [hid]
  split
  · rename_i hvid
    rw [Table.eq_of_key hkeys.ids hv huser hvid]
  · rfl

theorem Replaced.keyed (h : Replaced users users' user u) (hkeys : Keyed users) : Keyed users' := by
  have hsame (v : User) (hv : v∈users) : (if v.id=user.id then u else v).id=v.id ∧
      (if v.id=user.id then u else v).username=v.username := by
    split
    · rename_i hid
      rw [Table.eq_of_key hkeys.ids hv h.stored hid]
      exact ⟨h.id,h.username⟩
    · exact ⟨rfl,rfl⟩
  rw [h.rows]
  refine ⟨?_,?_⟩
  · rw [Table.map_key fun v hv => (hsame v hv).1]
    exact hkeys.ids
  · rw [Table.map_key fun v hv => (hsame v hv).2]
    exact hkeys.usernames

theorem Replaced.new_mem (h : Replaced users users' user u) : u∈users' := by
  rw [h.rows]
  exact mem_map.mpr ⟨user,h.stored,if_pos rfl⟩

theorem Replaced.other_mem (h : Replaced users users' user u) {v : User} (hv : v∈users) (hid : v.id≠user.id) :
    v∈users' := by
  rw [h.rows]
  exact mem_map.mpr ⟨v,hv,if_neg hid⟩

theorem Replaced.mem (h : Replaced users users' user u) {w : User} (hw : w∈users') : w=u ∨ w∈users := by
  rw [h.rows] at hw
  obtain ⟨v,hv,rfl⟩:=mem_map.mp hw
  split
  · exact .inl rfl
  · exact .inr hv

theorem Store.updateUser_replaced {s s' : Store} (h : s.updateUser u=.ok s') (hkeys : Keyed s.users)
    (huser : user∈s.users) (hid : u.id=user.id) : Replaced s.users s'.users user {u.stored with username := user.username} := by
  obtain ⟨-,rfl⟩:=Store.ask_ok h
  exact replaced_map hkeys huser hid

theorem Store.createUser_ok {s s' : Store} (h : s.createUser u=.ok s') : (∀ v∈s.users,v.username≠u.username) ∧
    s'.users=s.users++[{u.stored with isServerAdmin := false,totpRecoveryCodes := ""}] := by
  unfold Store.createUser at h
  split at h
  · cases h
  · rename_i hno
    cases h
    refine ⟨fun v hv hname => hno (.inr (any_eq_true.mpr ⟨v,hv,by simpa using hname⟩)),rfl⟩

theorem Keyed.append (hkeys : Keyed users) (hid : ∀ v∈users,v.id≠u.id) (hname : ∀ v∈users,v.username≠u.username) :
    Keyed (users++[u]) :=
  ⟨Table.nodup_append_key hkeys.ids hid,Table.nodup_append_key hkeys.usernames hname⟩

theorem Keyed.filter (hkeys : Keyed users) (p : User → Bool) : Keyed (users.filter p) :=
  ⟨Table.nodup_filter_key hkeys.ids p,Table.nodup_filter_key hkeys.usernames p⟩

end

end BetterDesk.Db
