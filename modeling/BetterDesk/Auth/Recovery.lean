import BetterDesk.Lib.JsonStrings
import BetterDesk.Lib.Table

/-! # Recovery codes (auth/recovery.go) -/

namespace BetterDesk.Auth
open Text JsonStrings

def normalizeRecoveryCode (code : String) : String :=
  String.ofList ((code.toList.filter fun c => c∉['-', ' ', '\t', '\n', '\r']).map fun c =>
    if 97≤c.toNat ∧ c.toNat≤122 then Char.ofNat (c.toNat-32) else c)

def consumeRecoveryCode (compareHash : String → String → Bool) (stored code : String) : Option String :=
  let stored:=trimString stored
  if stored="" then none
  else match unmarshal stored with
    | none => none
    | some hashes =>
      let normalized:=normalizeRecoveryCode code
      if normalized="" then none
      else if hashes.any fun h => compareHash h normalized then
        some (marshal (hashes.eraseP fun h => compareHash h normalized))
      else none

def codesLeft (compareHash : String → String → Bool) (stored normalized : String) : ℕ :=
  ((unmarshal (trimString stored)).getD []).countP fun h => compareHash h normalized

variable {compareHash : String → String → Bool} {stored code left : String}

theorem consumeRecoveryCode_some (h : consumeRecoveryCode compareHash stored code=some left) :
    ∃ hashes, unmarshal (trimString stored)=some hashes ∧
      (∃ x∈hashes,compareHash x (normalizeRecoveryCode code)=true) ∧
      left=marshal (hashes.eraseP fun x => compareHash x (normalizeRecoveryCode code)) := by
  unfold consumeRecoveryCode at h
  dsimp only at h
  split at h
  · cases h
  · split at h
    · cases h
    · rename_i hashes hread
      split at h
      · cases h
      · split at h
        · rename_i hany
          exact ⟨hashes,hread,List.any_eq_true.mp hany,(Option.some.inj h).symm⟩
        · cases h

theorem codesLeft_marshal (l : List String) (normalized : String) :
    codesLeft compareHash (marshal l) normalized=l.countP fun x => compareHash x normalized := by
  unfold codesLeft
  rw [trimString_marshal,unmarshal_marshal]
  rfl

theorem codesLeft_consumed (h : consumeRecoveryCode compareHash stored code=some left) :
    codesLeft compareHash left (normalizeRecoveryCode code)+1 =
      codesLeft compareHash stored (normalizeRecoveryCode code) := by
  obtain ⟨hashes,hread,⟨x,hx,hmatch⟩,rfl⟩:=consumeRecoveryCode_some h
  have hstored : codesLeft compareHash stored (normalizeRecoveryCode code) =
      hashes.countP fun x => compareHash x (normalizeRecoveryCode code) := by
    unfold codesLeft
    rw [hread]
    rfl
  rw [codesLeft_marshal,hstored,Table.countP_eraseP hx hmatch]

theorem codesLeft_le (h : consumeRecoveryCode compareHash stored code=some left) (normalized : String) :
    codesLeft compareHash left normalized≤codesLeft compareHash stored normalized := by
  obtain ⟨hashes,hread,-,rfl⟩:=consumeRecoveryCode_some h
  have hstored : codesLeft compareHash stored normalized=hashes.countP fun x => compareHash x normalized := by
    unfold codesLeft
    rw [hread]
    rfl
  rw [codesLeft_marshal,hstored]
  exact List.Sublist.countP_le List.eraseP_sublist

end BetterDesk.Auth
