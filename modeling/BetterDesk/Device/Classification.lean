import BetterDesk.Device.Identity
import BetterDesk.Lib.Exec

/-! # Who counts as a support agent -/

namespace BetterDesk.Device
open Db Text Signal Exec List

def treatsAsSupport (identity : VerifiedDeviceIdentity) (row : Row) : Bool :=
  (connectionModeEligibility identity row).2||equalFoldString row.deviceType supportClass

def markedSupport (identity : VerifiedDeviceIdentity) (row : Row) : Bool :=
  treatsAsSupport identity row||isInboundOnlyDeviceType row.deviceType ||
    lowerString (trimString row.deviceType)∈passiveTypes

structure Alike (identity : VerifiedDeviceIdentity) (row : Row) : Prop where
  signal : treatsAsSupport identity row=isInboundOnlyPeer row
  grants : treatsAsSupport identity row=isPassiveSupportPeer row

structure Uniform (s : Devices) : Prop where
  alike : ∀ id row, s.getPeer id=some row → Alike (s.identity id) row

structure Durable (s t : Devices) : Prop where
  stays : ∀ id row row', s.getPeer id=some row → markedSupport (s.identity id) row=true →
    t.getPeer id=some row' → isInboundOnlyPeer row'=true

structure Kept (s : Devices) (a : Action) : Prop where
  uniform : Uniform (a.message.handle a.env s)
  durable : a.message.authenticated=false → Durable s (a.message.handle a.env s)

def exactTag (row : Row) : Bool := (tagFields row.tags).any fun tag => lowerString tag∈passiveTags

/-- A tag that only the signal server reads. -/
def variantTag (row : Row) : Bool :=
  (tagFields row.tags).any fun tag => isInboundOnlyDeviceType tag&&lowerString tag∉passiveTags

def exactSpelling (row : Row) : Bool := lowerString (trimString row.deviceType)∈passiveTypes||exactTag row

def variantSpelling (row : Row) : Bool :=
  (isInboundOnlyDeviceType row.deviceType&&lowerString (trimString row.deviceType)∉passiveTypes)||variantTag row

def joinedSpelling (row : Row) : Bool :=
  (tagFields row.tags).any fun tag => '|'∈tag.toList &&
    (tag.toList.splitOnP fun c => c = '|').any fun piece => lowerString (String.ofList piece)∈passiveTags

def VerifiedDeviceIdentity.marks (identity : VerifiedDeviceIdentity) : Bool :=
  identity.productSKU=supportClass||(identity.productSKU=""&&identity.connMode=incomingOnly)

def marks (identity : VerifiedDeviceIdentity) (row : Row) : Bool :=
  identity.marks||equalFoldString row.deviceType supportClass

/-- An agent is spelled out for both, or as a variant and joined at once, and it is marked. -/
def agrees (identity : VerifiedDeviceIdentity) (row : Row) : Bool :=
  (exactSpelling row||variantSpelling row==joinedSpelling row) &&
    (marks identity row==(exactSpelling row||variantSpelling row))

theorem isInboundOnlyDeviceType_of_name {deviceType : String}
    (h : lowerString (trimString deviceType)∈passiveTypes) : isInboundOnlyDeviceType deviceType=true := by
  have hnames : ∀ name∈passiveTypes,
      (name.toList.filter fun c => c ≠ '-'&&c ≠ '_'&&c ≠ ' ')="osagent".toList ∨
        (name.toList.filter fun c => c ≠ '-'&&c ≠ '_'&&c ≠ ' ')="supportagent".toList := by decide
  unfold isInboundOnlyDeviceType
  rw [Bool.or_eq_true,decide_eq_true_eq,decide_eq_true_eq]
  exact hnames _ h

theorem isInboundOnlyDeviceType_of_tag {tag : String} (h : lowerString tag∈passiveTags) :
    isInboundOnlyDeviceType tag=true := by
  have hclean : (passiveTags.all fun name => name.toList.all fun c => isSpace c=false)=true := by decide
  have hname:=all_eq_true.mp (all_eq_true.mp hclean _ h)
  have htrim : trimString tag=tag :=
    trimString_eq_self (not_space_of_lowerString fun c hc => decide_eq_true_eq.mp (hname c hc))
  refine isInboundOnlyDeviceType_of_name ?_
  rw [htrim]
  exact mem_cons_of_mem _ h

theorem any_or_variant {l : List String} {p q : String → Bool} (h : ∀ x, q x=true → p x=true) :
    l.any p=(l.any q||l.any fun x => p x&&!q x) := by
  rw [Bool.eq_iff_iff,Bool.or_eq_true,any_eq_true,any_eq_true,any_eq_true]
  constructor
  · rintro ⟨x,hx,hp⟩
    cases hq : q x with
    | true => exact .inl ⟨x,hx,hq⟩
    | false => exact .inr ⟨x,hx,by rw [hp,hq]; rfl⟩
  · rintro (⟨x,hx,hq⟩ | ⟨x,hx,hpq⟩)
    · exact ⟨x,hx,h x hq⟩
    · exact ⟨x,hx,(Bool.and_eq_true_iff.mp hpq).1⟩

theorem isInboundOnlyPeer_eq (row : Row) : isInboundOnlyPeer row=(exactSpelling row||variantSpelling row) := by
  have htags : (tagFields row.tags).any isInboundOnlyDeviceType =
      ((tagFields row.tags).any (fun tag => lowerString tag∈passiveTags) ||
        (tagFields row.tags).any fun tag => isInboundOnlyDeviceType tag&&lowerString tag∉passiveTags) := by
    rw [any_or_variant fun tag h => isInboundOnlyDeviceType_of_tag (decide_eq_true_eq.mp h)]
    simp
  rw [isInboundOnlyPeer,exactSpelling,variantSpelling,htags,exactTag,variantTag]
  by_cases h : lowerString (trimString row.deviceType)∈passiveTypes
  · simp [h,isInboundOnlyDeviceType_of_name h]
  · simp only [h,decide_false,Bool.false_or,not_false_eq_true,decide_true,Bool.and_true]
    exact Bool.or_left_comm ..

theorem isTagSeparator_lower (c : Char) :
    (isTagSeparator (lowerChar c)||decide (lowerChar c = '|'))=(isTagSeparator c||decide (c = '|')) := by
  rcases lowerChar_cases c with h | h
  · rw [h]
  · have hall : ((Char.ofNat 0x212A::Char.ofNat 0x130::(List.range' 65 26).map Char.ofNat).all fun c =>
        (isTagSeparator (lowerChar c)||decide (lowerChar c = '|')) ==
          (isTagSeparator c||decide (c = '|')))=true := by decide
    exact beq_iff_eq.mp (all_eq_true.mp hall c h)

theorem mem_tagFields {tags tag : String} : tag∈tagFields tags ↔
    ∃ field∈tags.toList.splitOnP isTagSeparator, field≠[] ∧ tag=String.ofList field := by
  unfold tagFields
  rw [mem_filterMap]
  refine exists_congr fun field => and_congr_right fun _ => ?_
  by_cases h : field=[]
  · simp [h]
  · simp [h,eq_comm]

theorem grantTags_eq (tags : String) : ((lowerString tags).toList.splitOnP fun c => isTagSeparator c||c = '|') =
      ((tags.toList.splitOnP isTagSeparator).flatMap (List.splitOnP fun c => c = '|')).map
        (List.map lowerChar) := by
  rw [lowerString_toList,splitOnP_map,← splitOnP_or]
  simp only [isTagSeparator_lower]

theorem exists_grantTag {tags : String} :
    (∃ field∈(lowerString tags).toList.splitOnP fun c => isTagSeparator c||c = '|',
      field≠[] ∧ String.ofList field∈passiveTags) ↔
      ∃ tag∈tagFields tags, ∃ piece∈tag.toList.splitOnP fun c => c = '|',
        lowerString (String.ofList piece)∈passiveTags := by
  have hne : String.ofList []∉passiveTags := by decide
  have hlower (piece : List Char) : String.ofList (piece.map lowerChar)=lowerString (String.ofList piece) :=
    String.toList_injective (by rw [lowerString_toList,String.toList_ofList,String.toList_ofList])
  rw [grantTags_eq]
  constructor
  · rintro ⟨field,hfield,-,hname⟩
    obtain ⟨piece,hpiece,rfl⟩:=mem_map.mp hfield
    obtain ⟨outer,houter,hsplit⟩:=mem_flatMap.mp hpiece
    rw [hlower] at hname
    refine ⟨String.ofList outer,mem_tagFields.mpr ⟨outer,houter,?_,rfl⟩,piece,?_,hname⟩
    · rintro rfl
      cases mem_singleton.mp hsplit
      exact hne hname
    · rwa [String.toList_ofList]
  · rintro ⟨tag,htag,piece,hpiece,hname⟩
    obtain ⟨outer,houter,-,rfl⟩:=mem_tagFields.mp htag
    rw [String.toList_ofList] at hpiece
    refine ⟨piece.map lowerChar,mem_map_of_mem (mem_flatMap.mpr ⟨outer,houter,hpiece⟩),?_,?_⟩
    · intro hnil
      rw [← hlower,hnil] at hname
      exact hne hname
    · rwa [hlower]

theorem isPassiveSupportPeer_eq (row : Row) : isPassiveSupportPeer row=(exactSpelling row||joinedSpelling row) := by
  have htags : (((lowerString row.tags).toList.splitOnP fun c => isTagSeparator c||c = '|').filter
      (fun field => field≠[])).any (fun field => String.ofList field∈passiveTags) =
        ((tagFields row.tags).any (fun tag => lowerString tag∈passiveTags)||joinedSpelling row) := by
    rw [Bool.eq_iff_iff]
    simp only [joinedSpelling,any_eq_true,mem_filter,Bool.or_eq_true,Bool.and_eq_true,
      decide_eq_true_eq,and_assoc]
    rw [exists_grantTag]
    constructor
    · rintro ⟨tag,htag,piece,hpiece,hname⟩
      by_cases hbar : '|'∈tag.toList
      · exact .inr ⟨tag,htag,hbar,piece,hpiece,hname⟩
      · rw [splitOnP_eq_singleton fun c hc => decide_eq_false fun he : c = '|' => hbar (he ▸ hc),
          mem_singleton] at hpiece
        rw [hpiece,String.ofList_toList] at hname
        exact .inl ⟨tag,htag,hname⟩
    · rintro (⟨tag,htag,hname⟩ | ⟨tag,htag,-,hpiece⟩)
      · have hbar : '|'∉tag.toList := by
          intro hmem
          have hin : lowerChar '|'∈(lowerString tag).toList := by
            rw [lowerString_toList]
            exact mem_map_of_mem hmem
          exact (by decide : ∀ name∈passiveTags,lowerChar '|'∉name.toList) _ hname hin
        refine ⟨tag,htag,tag.toList,?_,by rwa [String.ofList_toList]⟩
        rw [splitOnP_eq_singleton fun c hc => decide_eq_false fun he : c = '|' => hbar (he ▸ hc)]
        exact mem_singleton_self _
      · exact ⟨tag,htag,hpiece⟩
  rw [isPassiveSupportPeer,htags,exactSpelling,exactTag,Bool.or_assoc]

theorem treatsAsSupport_eq (identity : VerifiedDeviceIdentity) (row : Row) :
    treatsAsSupport identity row=marks identity row := by
  unfold treatsAsSupport connectionModeEligibility marks VerifiedDeviceIdentity.marks
  by_cases hsku : identity.productSKU=supportClass
  · simp [hsku]
  · rw [if_neg hsku,decide_eq_false hsku,Bool.false_or]
    split
    · rename_i h
      rcases h with ⟨hnone,hmode | hfold⟩
      · simp [hnone,hmode]
      · simp [hfold]
    · rename_i h
      have hmode : (identity.productSKU=""&&identity.connMode=incomingOnly : Bool)=false := by
        rw [Bool.and_eq_false_iff,decide_eq_false_iff_not,decide_eq_false_iff_not]
        exact not_and_or.mp fun hboth => h ⟨hboth.1,.inl hboth.2⟩
      rw [hmode]
      split <;> rfl

theorem alike_iff_agrees (identity : VerifiedDeviceIdentity) (row : Row) :
    Alike identity row ↔ agrees identity row=true := by
  have hiff : Alike identity row ↔ treatsAsSupport identity row=isInboundOnlyPeer row ∧
      treatsAsSupport identity row=isPassiveSupportPeer row := ⟨fun h => ⟨h.1,h.2⟩,fun h => ⟨h.1,h.2⟩⟩
  rw [hiff,treatsAsSupport_eq,isInboundOnlyPeer_eq,isPassiveSupportPeer_eq,agrees]
  cases marks identity row <;> cases exactSpelling row <;> cases variantSpelling row <;>
    cases joinedSpelling row <;> decide

end BetterDesk.Device
