import BetterDesk.Policy.ClientIP
import BetterDesk.Security.BlocklistDecisions

/-! # A blocklist written to its file and read back (security/blocklist.go) -/

namespace BetterDesk.Security
open Text Policy Signal List

def Blocklist.lineItem (line : Bytes) : Option (BlockType × Bytes) :=
  (Blocklist.lineEntry line).map fun e => (e.type,e.value)

def valueOf (line : Bytes) : Bytes := trimSpace (line.takeWhile (·≠44))

def itemOf (value : Bytes) : BlockType × Bytes :=
  if lit "id:" <+: value then (.id,value.drop 3) else if 47∈value then (.cidr,value) else (.ip,value)

theorem comma_no_space : ∀ r∈spaceRunes,44∉r := by decide

theorem before_comma {a c : Bytes} (h : 44∉a) : (a++44::c).takeWhile (·≠44)=a := by
  rw [takeWhile_append_of_pos,takeWhile_cons_of_neg (by simp),append_nil]
  intro b hb
  simp only [decide_eq_true_eq]
  rintro rfl
  exact h hb

theorem all_before_comma {line : Bytes} (h : 44∉line) : line.takeWhile (·≠44)=line := by
  rw [takeWhile_eq_self_iff]
  intro b hb
  simp only [decide_eq_true_eq]
  rintro rfl
  exact h hb

theorem not_mem_trimLeft {b : UInt8} {a : Bytes} (h : b∉a) : b∉trimLeft a :=
  fun hmem => h ((dropWords_suffix _ _ _).subset hmem)

theorem head_trimSpace (a : Bytes) : (trimSpace a).head?=(trimLeft a).head? := by
  obtain ⟨rest,hrest⟩ := trimSpace_prefix a
  cases htrim : trimSpace a with
  | nil => rw [trimSpace_eq_nil htrim]
  | cons b t =>
    rw [htrim] at hrest
    rw [← hrest]
    rfl

namespace Blocklist

theorem lineEntry_comma {a c : Bytes} (h : 44∉a) : lineItem (a++44::c) =
    if (trimSpace a).head?=some 35 then none else some (itemOf (trimSpace a)) := by
  obtain ⟨c',htrim⟩:=trimSpace_at (a := a) (c := c) comma_no_space
  have hcut : cut 44 (trimLeft a++44::c')=some (trimLeft a,c') := cut_first (not_mem_trimLeft h)
  have hhead : (trimLeft a++44::c').head?=some 35 ↔ (trimSpace a).head?=some 35 := by
    rw [head_trimSpace]
    cases trimLeft a with
    | nil => simp
    | cons b t => simp
  unfold lineItem lineEntry
  dsimp only
  rw [htrim,hcut]
  simp only [trimSpace_trimLeft]
  by_cases hcomment : (trimSpace a).head?=some 35
  · rw [if_pos (.inr (hhead.mpr hcomment)),if_pos hcomment]
    rfl
  · rw [if_neg (not_or.mpr ⟨by simp,fun hmark => hcomment (hhead.mp hmark)⟩),if_neg hcomment]
    unfold itemOf
    split
    · rfl
    · split
      · rfl
      · rfl

variable {line v reason front value : Bytes} {e : BlockEntry}

theorem lineEntry_whole (h : 44∉line) : lineItem line =
    if trimSpace line=[] ∨ (trimSpace line).head?=some 35 then none else some (itemOf (trimSpace line)) := by
  have hcut : cut 44 (trimSpace line)=none := cut_none fun hmem => h (mem_of_mem_trimSpace hmem)
  unfold lineItem lineEntry
  dsimp only
  rw [hcut]
  dsimp only
  split
  · rfl
  · unfold itemOf
    split
    · rfl
    · split
      · rfl
      · rfl

theorem lineItem_eq (line : Bytes) : lineItem line =
    if valueOf line=[] ∧ 44∉line ∨ (valueOf line).head?=some 35 then none else some (itemOf (valueOf line)) := by
  by_cases hcomma : 44∈line
  · obtain ⟨a,c,rfl,ha⟩:=eq_append_cons_of_mem hcomma
    rw [lineEntry_comma ha,valueOf,before_comma ha]
    simp
  · rw [lineEntry_whole hcomma,valueOf,all_before_comma hcomma]
    simp [hcomma]

theorem lineItem_some {item : BlockType × Bytes} (h : lineItem line=some item) :
    (valueOf line).head?≠some 35 ∧ item=itemOf (valueOf line) := by
  rw [lineItem_eq] at h
  split at h
  · cases h
  · rename_i hread
    simp only [not_or] at hread
    exact ⟨hread.2,(Option.some.inj h).symm⟩

theorem trimSpace_valueOf (line : Bytes) : trimSpace (valueOf line)=valueOf line := trimSpace_trimSpace _

theorem comma_not_mem_valueOf (line : Bytes) : 44∉valueOf line := fun h => by
  simpa using mem_takeWhile_imp (mem_of_mem_trimSpace h)

def ReadsBack (e : BlockEntry) : Prop := match e.type with
  | .id => 44∉e.value ∧ trimSpace (lit "id:" ++ e.value)=lit "id:" ++ e.value
  | .cidr => True
  | .ip => 44∉e.value ∧ 47∉e.value ∧ trimSpace e.value=e.value ∧ e.value.head?≠some 35 ∧
      ¬ lit "id:" <+: e.value ∧ (e.value=[] → e.reason≠[])

instance (e : BlockEntry) : Decidable (ReadsBack e) := by
  unfold ReadsBack
  cases e.type with
  | id | ip => exact inferInstanceAs (Decidable (_ ∧ _))
  | cidr => exact inferInstanceAs (Decidable True)

def OneLine (e : BlockEntry) : Prop := 10∉entryLine e ∧ (entryLine e).length<65536

instance (e : BlockEntry) : Decidable (OneLine e) := inferInstanceAs (Decidable (_ ∧ _))

theorem entryLine_eq (h : (if e.type=.id then lit "id:" else [])++e.value=front) :
    entryLine e=front ∨ ∃ c, entryLine e=front++44::c := by
  unfold entryLine
  rw [h]
  split
  · exact .inr ⟨e.reason,rfl⟩
  · exact .inl (append_nil _)

theorem valueOf_entryLine (h : (if e.type=.id then lit "id:" else [])++e.value=front)
    (hcomma : 44∉front) : valueOf (entryLine e)=trimSpace front := by
  rcases entryLine_eq h with hline | ⟨c,hline⟩
  · rw [hline,valueOf,all_before_comma hcomma]
  · rw [hline,valueOf,before_comma hcomma]

theorem entryLine_no_comma (h : (if e.type=.id then lit "id:" else [])++e.value=front) (hcomma : 44∉front) :
    44∉entryLine e ↔ e.reason=[] := by
  unfold entryLine
  rw [h]
  by_cases hreason : e.reason=[]
  · simp [hreason,hcomma]
  · simp [hreason]

theorem itemOf_id (h : itemOf value=(.id,v)) : value=lit "id:" ++ v := by
  unfold itemOf at h
  split at h
  · rename_i hprefix
    obtain ⟨rest,rfl⟩ := hprefix
    simp only [Prod.mk.injEq,true_and] at h
    rw [← h]
    rfl
  · split at h
    · cases h
    · cases h

theorem itemOf_ip (h : itemOf value=(.ip,v)) : value=v ∧ ¬ lit "id:" <+: v ∧ 47∉v := by
  unfold itemOf at h
  split at h
  · cases h
  · split at h
    · cases h
    · rename_i hid hslash
      simp only [Prod.mk.injEq,true_and] at h
      subst h
      exact ⟨rfl,hid,hslash⟩

theorem readsBack_of_id (h : lineItem line=some (.id,v)) : ReadsBack ⟨v,.id,reason⟩ := by
  have hvalue:=itemOf_id (lineItem_some h).2.symm
  have hcomma:=comma_not_mem_valueOf line
  rw [hvalue] at hcomma
  constructor
  · exact fun hmem => hcomma (mem_append_right _ hmem)
  · rw [← hvalue]
    exact trimSpace_valueOf line

theorem readsBack_of_ip (h : lineItem line=some (.ip,v)) (hne : v=[] → reason≠[]) : ReadsBack ⟨v,.ip,reason⟩ := by
  obtain ⟨hcomment,hitem⟩:=lineItem_some h
  obtain ⟨hvalue,hid,hslash⟩:=itemOf_ip hitem.symm
  have hcomma:=comma_not_mem_valueOf line
  have htrim:=trimSpace_valueOf line
  rw [hvalue] at hcomment hcomma htrim
  exact ⟨hcomma,hslash,htrim,hcomment,hid,hne⟩

theorem lineItem_id (htype : e.type=.id) (h : ReadsBack e) : lineItem (entryLine e)=some (.id,e.value) := by
  have hfront : (if e.type=.id then lit "id:" else [])++e.value=lit "id:" ++ e.value := by rw [if_pos htype]
  rw [ReadsBack,htype] at h
  have hcomma : 44∉lit "id:" ++ e.value := by
    intro hmem
    rcases mem_append.mp hmem with hmem | hmem
    · revert hmem
      decide
    · exact h.1 hmem
  have hhead : (lit "id:" ++ e.value).head?=some 105 := rfl
  have hread : ¬ (lit "id:" ++ e.value=[] ∧ 44∉entryLine e ∨ (lit "id:" ++ e.value).head?=some 35) := by
    rintro (⟨hblank,-⟩ | hcomment)
    · rw [hblank] at hhead
      cases hhead
    · rw [hhead] at hcomment
      revert hcomment
      decide
  rw [lineItem_eq,valueOf_entryLine hfront hcomma,h.2,if_neg hread]
  unfold itemOf
  rw [if_pos (prefix_append _ _)]
  rfl

theorem lineItem_ip (htype : e.type=.ip) (h : ReadsBack e) : lineItem (entryLine e)=some (.ip,e.value) := by
  have hfront : (if e.type=.id then lit "id:" else [])++e.value=e.value := by
    rw [if_neg (by simp [htype])]
    rfl
  rw [ReadsBack,htype] at h
  obtain ⟨hcomma,hslash,htrim,hcomment,hid,hne⟩:=h
  have hread : ¬ (e.value=[] ∧ 44∉entryLine e ∨ e.value.head?=some 35) := by
    rintro (⟨hblank,hno⟩ | hmark)
    · exact hne hblank ((entryLine_no_comma hfront hcomma).mp hno)
    · exact hcomment hmark
  rw [lineItem_eq,valueOf_entryLine hfront hcomma,htrim,if_neg hread,itemOf,if_neg hid,if_neg hslash]

theorem parseCIDR_chars {net : IPNet} (h : parseCIDR value=some net) :
    47∈value ∧ ∀ b∈value,b=47 ∨ isAddressChar b := by
  obtain ⟨⟨addr,mask⟩,hcut,h⟩:=Option.bind_eq_some_iff.mp h
  obtain ⟨ip,hip,h⟩:=Option.bind_eq_some_iff.mp h
  split at h
  · rename_i hmask
    obtain ⟨rfl,-⟩:=cut_eq hcut
    refine ⟨by simp,?_⟩
    intro b hb
    rcases mem_append.mp hb with hb | hb
    · exact .inr (parseIP_chars hip b hb)
    · rcases mem_cons.mp hb with hb | hb
      · exact .inl hb
      · exact .inr (address_of_hex (isHex_of_isDigit (all_eq_true.mp hmask.2.1 b hb)))
  · cases h

theorem plain_of_addressChar {b : UInt8} (h : b=47 ∨ isAddressChar b) : plainByte b := by
  have hall : ∀ n<256, (UInt8.ofNat n=47 ∨ isAddressChar (UInt8.ofNat n)) → plainByte (UInt8.ofNat n) := by
    decide +kernel
  have hb:=hall b.toNat b.toNat_lt
  rw [UInt8.ofNat_toNat] at hb
  exact hb h

theorem no_prefix_of_chars (h : ∀ b∈v,b=47 ∨ isAddressChar b) : ¬ lit "id:" <+: v := by
  rintro ⟨rest,rfl⟩
  have hi:=h 105 (mem_append_left _ (by decide))
  revert hi
  decide

theorem no_comment_of_chars (h : ∀ b∈v,b=47 ∨ isAddressChar b) : v.head?≠some 35 := by
  intro hhead
  have hmark:=h 35 (mem_of_mem_head? hhead)
  revert hmark
  decide

theorem lineItem_cidr (ne : NetworkEntry) : lineItem (entryLine ne.entry)=some (.cidr,ne.entry.value) := by
  obtain ⟨hslash,hchars⟩:=parseCIDR_chars ne.parsed
  have hplain : ∀ b∈ne.entry.value,plainByte b := fun b hb => plain_of_addressChar (hchars b hb)
  have hfront : (if ne.entry.type=.id then lit "id:" else [])++ne.entry.value=ne.entry.value := by
    rw [if_neg (by simp [ne.type_eq])]
    rfl
  have hne : ne.entry.value≠[] := ne_nil_of_mem hslash
  rw [lineItem_eq,valueOf_entryLine hfront (no_comma hplain),trimSpace_plain hplain,
    if_neg (by simp [hne,no_comment_of_chars hchars]),itemOf,if_neg (no_prefix_of_chars hchars),if_pos hslash]

theorem readsBack_of_address {a : IP} (h : parseIP v=some a) : ReadsBack ⟨v,.ip,reason⟩ := by
  have hchars : ∀ b∈v,b=47 ∨ isAddressChar b := fun b hb => .inr (parseIP_chars h b hb)
  have hplain : ∀ b∈v,plainByte b := fun b hb => plain_of_addressChar (hchars b hb)
  refine ⟨no_comma hplain,?_,trimSpace_plain hplain,no_comment_of_chars hchars,no_prefix_of_chars hchars,?_⟩
  · intro hslash
    have hchar:=parseIP_chars h 47 hslash
    revert hchar
    decide
  · rintro rfl
    have hblank : parseIP []=none := by decide
    rw [hblank] at h
    cases h

/-- `SplitHostPort` takes the text apart and leaves no such host. -/
def NeverAsked (host : Bytes) : Prop := (Relay.splitHost host).isSome ∧ (91∈host ∨ 93∈host)

instance (host : Bytes) : Decidable (NeverAsked host) := inferInstanceAs (Decidable (_ ∧ _))

theorem neverAsked_iff (host : Bytes) : NeverAsked host ↔ ∀ text, Relay.ipOf text≠host := by
  constructor
  · rintro ⟨hsplit,hbrackets⟩ text rfl
    unfold Relay.ipOf at hsplit hbrackets
    cases hs : Relay.splitHost text with
    | none => simp [hs] at hsplit
    | some part =>
      rw [hs,Option.getD_some] at hbrackets
      obtain ⟨port,-,hform | hform⟩:=splitHost_form hs
      · rename_i hopen hclose
        rw [hform] at hopen hclose
        rcases hbrackets with h | h
        · exact hopen (mem_append_left _ h)
        · exact hclose (mem_append_left _ h)
      · rename_i hopen hclose
        rcases hbrackets with h | h
        · exact hopen (mem_append_left _ h)
        · exact hclose (mem_append_left _ h)
  · intro h
    unfold NeverAsked
    by_contra hno
    simp only [not_and_or,not_or] at hno
    rcases hno with hwhole | ⟨hopen,hclose⟩
    · have hnone : Relay.splitHost host=none := by simpa using hwhole
      exact h host (by rw [Relay.ipOf,hnone]; rfl)
    · exact h _ (by rw [Relay.ipOf,splitHost_brackets hopen hclose]; rfl)

theorem NeverAsked.head {host : Bytes} (h : NeverAsked host) : host.head?=some 91 := by
  obtain ⟨hsplit,hbrackets⟩:=h
  obtain ⟨part,hs⟩:=Option.isSome_iff_exists.mp hsplit
  obtain ⟨port,-,hform | hform⟩:=splitHost_form hs
  · rename_i hopen hclose
    exact absurd hbrackets (not_or.mpr ⟨hopen,hclose⟩)
  · rw [hform]
    rfl

theorem bracket_no_space : ∀ r∈spaceRunes, ∀ b∈r,b≠91 := by decide +kernel

theorem valueOf_bracket (h : line.head?=some 91) : (valueOf line).head?=some 91 := by
  obtain ⟨rest,rfl⟩ : ∃ rest, line=91::rest := by
    cases line with
    | nil => cases h
    | cons b rest => exact ⟨rest,by rw [List.head?_cons] at h; rw [Option.some.inj h]⟩
  have hfirst : (91::rest).takeWhile (·≠44)=91::rest.takeWhile (·≠44) := rfl
  have hclean : ∀ r∈spaceRunes,¬ r <+: 91::rest.takeWhile (·≠44) := by
    intro r hr hp
    obtain ⟨b,bs,rfl⟩:=exists_cons_of_ne_nil (spaceRunes_ne r hr)
    obtain ⟨_,heq⟩:=hp
    simp only [cons_append,cons.injEq] at heq
    exact bracket_no_space _ hr b mem_cons_self heq.1
  rw [valueOf,hfirst,head_trimSpace,trimLeft,dropWords_eq_self hclean]
  rfl

theorem lineItem_bracket {item : BlockType × Bytes} (h : line.head?=some 91) (hitem : lineItem line=some item) :
    item.2.head?=some 91 ∧ item.1 ≠ .id ∧ parseCIDR item.2=none ∧ parseIP item.2=none := by
  have hhead:=valueOf_bracket h
  obtain ⟨-,rfl⟩:=lineItem_some hitem
  have hid : ¬ lit "id:" <+: valueOf line := by
    rintro ⟨rest,hrest⟩
    have hi : (lit "id:" ++ rest).head?=some 105 := rfl
    rw [← hrest,hi] at hhead
    revert hhead
    decide
  have hmem : 91∈valueOf line := mem_of_mem_head? hhead
  have hnet : parseCIDR (valueOf line)=none := by
    cases hp : parseCIDR (valueOf line) with
    | none => rfl
    | some net =>
      exact absurd ((parseCIDR_chars hp).2 91 hmem) (by decide)
  have hip : parseIP (valueOf line)=none := parseIP_eq_none hmem (by decide)
  unfold itemOf
  rw [if_neg hid]
  split
  · exact ⟨hhead,by simp,hnet,hip⟩
  · exact ⟨hhead,by simp,hnet,hip⟩

section Load
variable (b : Blocklist)

def Holds (item : BlockType × Bytes) : Prop := match item.1 with
  | .id => (b.ids.load item.2).isSome
  | .ip => (b.ips.load item.2).isSome
  | .cidr => ∃ ne∈b.networks,ne.entry.value=item.2

def Valid (item : BlockType × Bytes) : Prop := item.1=.cidr → (parseCIDR item.2).isSome

theorem store_isSome {m : SyncMap Bytes BlockEntry} {k k' : Bytes} {e : BlockEntry} :
    ((m.store k e).load k').isSome ↔ (m.load k').isSome ∨ k'=k := by
  by_cases h : k'=k
  · simp [h]
  · rw [SyncMap.load_store_of_ne _ _ h]
    simp [h]

theorem add_cidr {e : BlockEntry} (htype : e.type=.cidr) (v : Bytes) :
    (b.add e).Holds (.cidr,v) ↔ b.Holds (.cidr,v) ∨ v=e.value ∧ (parseCIDR v).isSome := by
  unfold add
  simp only [htype]
  unfold blockCIDR
  split
  · rename_i hnone
    simp only [Option.getD_none,iff_self_or]
    rintro ⟨rfl,hsome⟩
    simp [hnone] at hsome
  · rename_i net hnet
    simp only [Holds,Option.getD_some,mem_append,mem_singleton]
    constructor
    · rintro ⟨ne,hne | rfl,hv⟩
      · exact .inl ⟨ne,hne,hv⟩
      · exact .inr ⟨hv.symm,by rw [← hv,hnet]; rfl⟩
    · rintro (⟨ne,hne,hv⟩ | ⟨rfl,-⟩)
      · exact ⟨ne,.inl hne,hv⟩
      · exact ⟨_,.inr rfl,rfl⟩

theorem add_holds (e : BlockEntry) (item : BlockType × Bytes) :
    (b.add e).Holds item ↔ b.Holds item ∨ item=(e.type,e.value) ∧ Valid item := by
  obtain ⟨type,v⟩:=item
  cases htype : e.type with
  | id =>
    have hadd : b.add e=b.blockID e.value e.reason := by simp only [add,htype]
    rw [hadd]
    cases type with
    | id => simp [Holds,blockID,store_isSome,Valid]
    | ip | cidr => simp [Holds,blockID]
  | ip =>
    have hadd : b.add e=b.blockIP e.value e.reason := by simp only [add,htype]
    rw [hadd]
    cases type with
    | id | cidr => simp [Holds,blockIP]
    | ip => simp [Holds,blockIP,store_isSome,Valid]
  | cidr =>
    cases type with
    | cidr => simp [b.add_cidr htype,Valid]
    | id =>
      have hmaps : (b.add e).ids=b.ids := by
        simp only [add,htype,blockCIDR]
        split
        · rfl
        · rfl
      simp [Holds,hmaps]
    | ip =>
      have hmaps : (b.add e).ips=b.ips := by
        simp only [add,htype,blockCIDR]
        split
        · rfl
        · rfl
      simp [Holds,hmaps]

theorem foldl_holds (es : List BlockEntry) (item : BlockType × Bytes) :
    (es.foldl add b).Holds item ↔ b.Holds item ∨ ∃ e∈es,item=(e.type,e.value) ∧ Valid item := by
  induction es generalizing b with
  | nil => simp
  | cons e es ih =>
    rw [foldl_cons,ih,add_holds,exists_mem_cons_iff,or_assoc]

theorem loadFromFile_holds (text : Bytes) (item : BlockType × Bytes) :
    (newBlocklist.loadFromFile text).Holds item ↔ (∃ line∈scanLines text, lineItem line=some item) ∧ Valid item := by
  have hempty : ¬ newBlocklist.Holds item := by
    unfold Holds
    split
    · simp [newBlocklist,SyncMap.load]
    · simp [newBlocklist,SyncMap.load]
    · simp [newBlocklist]
  rw [loadFromFile,foldl_holds]
  simp only [hempty,false_or,mem_filterMap,lineItem,Option.map_eq_some_iff]
  constructor
  · rintro ⟨e,⟨line,hline,he⟩,hitem,hvalid⟩
    exact ⟨⟨line,hline,e,he,hitem.symm⟩,hvalid⟩
  · rintro ⟨⟨line,hline,e,he,hitem⟩,hvalid⟩
    exact ⟨e,⟨line,hline,he⟩,hitem.symm,hvalid⟩

theorem covered_iff (a : IP) : b.Covered a ↔ ∃ v net, b.Holds (.cidr,v) ∧ parseCIDR v=some net ∧ a.within net := by
  constructor
  · rintro ⟨ne,hne,hin⟩
    exact ⟨ne.entry.value,ne.net,⟨ne,hne,rfl⟩,ne.parsed,hin⟩
  · rintro ⟨v,net,⟨ne,hne,rfl⟩,hparse,hin⟩
    have hnet:=ne.parsed
    rw [hparse] at hnet
    exact ⟨ne,hne,by rw [← Option.some.inj hnet]; exact hin⟩

theorem isIPBlocked_eq (text : Bytes) : b.isIPBlocked text ↔
    b.Holds (.ip,Relay.ipOf text) ∨ ∃ a, parseIP (Relay.ipOf text)=some a ∧ b.Covered a := by
  unfold isIPBlocked Holds
  dsimp only
  split
  · rename_i hlisted
    simp [hlisted]
  · rename_i hlisted
    cases hparse : parseIP (Relay.ipOf text) with
    | none => simp [hlisted]
    | some a => simp [hlisted,Covered]

end Load

def entries (b : Blocklist) : List BlockEntry :=
  b.ips.map Prod.snd++b.networks.map NetworkEntry.entry++b.ids.map Prod.snd

theorem lineItem_return (line : Bytes) :
    lineItem (if line.getLast?=some 13 then line.dropLast else line)=lineItem line := by
  split
  · rename_i hlast
    have hline : line.dropLast++[13]=line := dropLast_append_getLast? 13 hlast
    have htrim : trimSpace line=trimSpace line.dropLast := by
      conv_lhs => rw [← hline]
      exact trimSpace_return _
    unfold lineItem lineEntry
    rw [htrim]
  · rfl

theorem scanLines_fileText {es : List BlockEntry} (h : ∀ e∈es,OneLine e) :
    scanLines (fileText es)=(header++es.map entryLine).map fun line =>
      if line.getLast?=some 13 then line.dropLast else line := by
  have hheader : ∀ line∈header,10∉line ∧ line.length<65536 := by decide
  have hall : ∀ line∈header++es.map entryLine, 10∉line ∧ line.length<65536 := by
    intro line hline
    rcases mem_append.mp hline with hline | hline
    · exact hheader line hline
    · obtain ⟨e,he,rfl⟩:=mem_map.mp hline
      exact h e he
  unfold scanLines fileText
  rw [splitOn_lines fun line hline => (hall line hline).1]
  dsimp only
  rw [if_pos (by simp),dropLast_concat,takeWhile_eq_self_iff.mpr]
  intro line hline
  simpa using (hall line hline).2

theorem reload_holds {b : Blocklist} {text : Bytes} (h : b.saveToFile text) (hline : ∀ e∈b.entries,OneLine e)
    (item : BlockType × Bytes) : (newBlocklist.loadFromFile text).Holds item ↔
      (∃ e∈b.entries,lineItem (entryLine e)=some item) ∧ Valid item := by
  obtain ⟨ips,ids,hips,hids,rfl⟩:=h
  have hmem : ∀ e, e∈ips++b.networks.map NetworkEntry.entry++ids ↔ e∈b.entries := by
    intro e
    unfold entries
    rw [mem_append,mem_append,mem_append,mem_append,hips.mem_iff,hids.mem_iff]
  have hheader : ∀ line∈header,lineItem line=none := by decide
  rw [loadFromFile_holds,scanLines_fileText fun e he => hline e ((hmem e).mp he)]
  apply and_congr_left
  intro _
  constructor
  · rintro ⟨line,hline,hitem⟩
    obtain ⟨raw,hraw,rfl⟩:=mem_map.mp hline
    rw [lineItem_return] at hitem
    rcases mem_append.mp hraw with hraw | hraw
    · rw [hheader raw hraw] at hitem
      cases hitem
    · obtain ⟨e,he,rfl⟩:=mem_map.mp hraw
      exact ⟨e,(hmem e).mp he,hitem⟩
  · rintro ⟨e,he,hitem⟩
    refine ⟨_,mem_map_of_mem (mem_append_right _ (mem_map_of_mem ((hmem e).mpr he))),?_⟩
    rw [lineItem_return]
    exact hitem

def SameDecisions (b b' : Blocklist) : Prop :=
  (∀ text, b'.isIPBlocked text=b.isIPBlocked text) ∧ ∀ id, b'.isIDBlocked id=b.isIDBlocked id

/-- IDs and addresses read back. -/
def Readable (b : Blocklist) : Prop :=
  (∀ x∈b.ids,ReadsBack x.2) ∧ ∀ x∈b.ips,ReadsBack x.2 ∨ NeverAsked x.1 ∧
    ∀ v, lineItem (entryLine x.2)=some (.ip,v) → NeverAsked v ∨ (b.ips.load v).isSome

section RoundTrip
variable {b : Blocklist} {text : Bytes}

theorem mem_entries {e : BlockEntry} (h : e∈b.entries) :
    (∃ x∈b.ips,x.2=e) ∨ (∃ ne∈b.networks,ne.entry=e) ∨ ∃ x∈b.ids,x.2=e := by
  rcases mem_append.mp h with h | h
  · rcases mem_append.mp h with h | h
    · exact .inl (mem_map.mp h)
    · exact .inr (.inl (mem_map.mp h))
  · exact .inr (.inr (mem_map.mp h))

variable {x : Bytes × BlockEntry}

theorem ip_mem_entries (h : x∈b.ips) : x.2∈b.entries :=
  mem_append_left _ (mem_append_left _ (mem_map_of_mem h))

theorem network_mem_entries {ne : NetworkEntry} (h : ne∈b.networks) : ne.entry∈b.entries :=
  mem_append_left _ (mem_append_right _ (mem_map_of_mem h))

theorem id_mem_entries (h : x∈b.ids) : x.2∈b.entries :=
  mem_append_right _ (mem_map_of_mem h)

theorem holds_ip (h : x∈b.ips) : b.Holds (.ip,x.1) := by
  show (b.ips.load x.1).isSome
  rw [SyncMap.load_of_mem b.ips_keys h]
  rfl

theorem holds_id (h : x∈b.ids) : b.Holds (.id,x.1) := by
  show (b.ids.load x.1).isSome
  rw [SyncMap.load_of_mem b.ids_keys h]
  rfl

theorem ip_of_holds {v : Bytes} (h : b.Holds (.ip,v)) : ∃ x∈b.ips,x.1=v := by
  obtain ⟨e,he⟩:=Option.isSome_iff_exists.mp h
  exact ⟨_,SyncMap.mem_of_load he,rfl⟩

theorem id_of_holds {v : Bytes} (h : b.Holds (.id,v)) : ∃ x∈b.ids,x.1=v := by
  obtain ⟨e,he⟩:=Option.isSome_iff_exists.mp h
  exact ⟨_,SyncMap.mem_of_load he,rfl⟩

theorem entryLine_bracket (hx : x∈b.ips) (h : NeverAsked x.1) : (entryLine x.2).head?=some 91 := by
  obtain ⟨hvalue,htype⟩:=b.ips_filed x hx
  have hhead:=h.head
  unfold entryLine
  rw [if_neg (by simp [htype]),hvalue]
  cases hv : x.1 with
  | nil =>
    rw [hv] at hhead
    cases hhead
  | cons c rest =>
    rw [hv] at hhead
    exact hhead

theorem kept (h : b.saveToFile text) (hline : ∀ e∈b.entries,OneLine e) (hread : b.Readable)
    {item : BlockType × Bytes} (hitem : b.Holds item) (hasked : item.1=.ip → ¬ NeverAsked item.2) :
    (newBlocklist.loadFromFile text).Holds item := by
  rw [reload_holds h hline]
  obtain ⟨type,v⟩:=item
  cases type with
  | id =>
    obtain ⟨x,hx,rfl⟩:=id_of_holds hitem
    obtain ⟨hvalue,htype⟩:=b.ids_filed x hx
    have hback:=lineItem_id htype (hread.1 x hx)
    rw [hvalue] at hback
    exact ⟨⟨x.2,id_mem_entries hx,hback⟩,by simp [Valid]⟩
  | ip =>
    obtain ⟨x,hx,rfl⟩:=ip_of_holds hitem
    obtain ⟨hvalue,htype⟩:=b.ips_filed x hx
    rcases hread.2 x hx with hgood | ⟨hnever,-⟩
    · have hback:=lineItem_ip htype hgood
      rw [hvalue] at hback
      exact ⟨⟨x.2,ip_mem_entries hx,hback⟩,by simp [Valid]⟩
    · exact absurd hnever (hasked rfl)
  | cidr =>
    obtain ⟨ne,hne,hv⟩:=hitem
    simp only at hv
    subst hv
    exact ⟨⟨ne.entry,network_mem_entries hne,lineItem_cidr ne⟩,fun _ => by rw [ne.parsed]; rfl⟩

theorem nothing_new (h : b.saveToFile text) (hline : ∀ e∈b.entries,OneLine e) (hread : b.Readable)
    {item : BlockType × Bytes} (hitem : (newBlocklist.loadFromFile text).Holds item)
    (hasked : item.1=.ip → ¬ NeverAsked item.2) : b.Holds item := by
  obtain ⟨⟨e,he, hsays⟩,hvalid⟩:=(reload_holds h hline item).mp hitem
  rcases mem_entries he with ⟨x,hx,rfl⟩ | ⟨ne,hne,rfl⟩ | ⟨x,hx,rfl⟩
  · obtain ⟨hvalue,htype⟩:=b.ips_filed x hx
    rcases hread.2 x hx with hgood | ⟨hnever,hturns⟩
    · rw [lineItem_ip htype hgood,hvalue] at hsays
      cases hsays
      exact holds_ip hx
    · obtain ⟨-,hid,hnet,-⟩:=lineItem_bracket (entryLine_bracket hx hnever) hsays
      obtain ⟨type,v⟩:=item
      cases type with
      | id => exact absurd rfl hid
      | ip => exact (hturns v hsays).resolve_left (hasked rfl)
      | cidr =>
        have hparse:=hvalid rfl
        rw [hnet] at hparse
        cases hparse
  · rw [lineItem_cidr ne] at hsays
    cases hsays
    exact ⟨ne,hne,rfl⟩
  · obtain ⟨hvalue,htype⟩:=b.ids_filed x hx
    rw [lineItem_id htype (hread.1 x hx),hvalue] at hsays
    cases hsays
    exact holds_id hx

theorem sameDecisions_of_readable (h : b.saveToFile text) (hline : ∀ e∈b.entries,OneLine e) (hread : b.Readable) :
    b.SameDecisions (newBlocklist.loadFromFile text) := by
  have hagree : ∀ item : BlockType × Bytes, (item.1=.ip → ¬ NeverAsked item.2) →
      ((newBlocklist.loadFromFile text).Holds item ↔ b.Holds item) :=
    fun item hasked => ⟨fun hi => nothing_new h hline hread hi hasked,fun hi => kept h hline hread hi hasked⟩
  constructor
  · intro ipStr
    have hasked : ¬ NeverAsked (Relay.ipOf ipStr) := fun hnever => (neverAsked_iff _).mp hnever ipStr rfl
    have hcovered : ∀ a, (newBlocklist.loadFromFile text).Covered a ↔ b.Covered a := by
      intro a
      rw [covered_iff,covered_iff]
      simp only [hagree (.cidr,_) (by simp)]
    rw [Bool.eq_iff_iff,isIPBlocked_eq,isIPBlocked_eq,hagree _ fun _ => hasked]
    simp only [hcovered]
  · intro id
    rw [Bool.eq_iff_iff]
    exact hagree (.id,id) (by simp)

section Necessary
variable (h : b.saveToFile text) (hline : ∀ e∈b.entries,OneLine e)
  (hsame : b.SameDecisions (newBlocklist.loadFromFile text))
include h hline hsame

variable {x : Bytes × BlockEntry}

theorem id_readsBack (hx : x∈b.ids) : ReadsBack x.2 := by
  have hblocked : (newBlocklist.loadFromFile text).Holds (.id,x.1) := by
    show (newBlocklist.loadFromFile text).isIDBlocked x.1
    rw [hsame.2]
    exact holds_id hx
  obtain ⟨⟨e,-, hsays⟩,-⟩:=(reload_holds h hline _).mp hblocked
  obtain ⟨hvalue,htype⟩:=b.ids_filed x hx
  have hback : ReadsBack ⟨_,.id,x.2.reason⟩ := readsBack_of_id hsays
  rw [← hvalue,← htype] at hback
  exact hback

theorem asked_readsBack (hx : x∈b.ips) (hasked : ¬ NeverAsked x.1) :
    ReadsBack x.2 ∨ x.1=[] ∧ x.2.reason=[] ∧ (newBlocklist.loadFromFile text).Holds (.ip,[]) := by
  obtain ⟨hvalue,htype⟩:=b.ips_filed x hx
  have hentry : x.2=⟨x.1,.ip,x.2.reason⟩ := by rw [← hvalue,← htype]
  obtain ⟨ipStr,hhost⟩ : ∃ ipStr, Relay.ipOf ipStr=x.1 := by
    rw [neverAsked_iff] at hasked
    simpa using hasked
  have hblocked : (newBlocklist.loadFromFile text).isIPBlocked ipStr := by
    rw [hsame.1,isIPBlocked_eq,hhost]
    exact .inl (holds_ip hx)
  rw [isIPBlocked_eq,hhost] at hblocked
  rcases hblocked with hholds | ⟨a,ha,-⟩
  · obtain ⟨⟨e,-, hsays⟩,-⟩:=(reload_holds h hline _).mp hholds
    by_cases hblank : x.1=[] ∧ x.2.reason=[]
    · rw [hblank.1] at hholds
      exact .inr ⟨hblank.1,hblank.2,hholds⟩
    · left
      rw [hentry]
      exact readsBack_of_ip hsays fun hnil hreason => hblank ⟨hnil,hreason⟩
  · left
    rw [hentry]
    exact readsBack_of_address ha

theorem ip_readsBack (hx : x∈b.ips) (hasked : ¬ NeverAsked x.1) : ReadsBack x.2 := by
  rcases asked_readsBack h hline hsame hx hasked with hback | ⟨hnil,hreason,hholds⟩
  · exact hback
  · exfalso
    obtain ⟨⟨e,he, hsays⟩,-⟩:=(reload_holds h hline _).mp hholds
    rcases mem_entries he with ⟨y,hy,rfl⟩ | ⟨ne,-,rfl⟩ | ⟨y,hy,rfl⟩
    · obtain ⟨hvalue,htype⟩:=b.ips_filed y hy
      by_cases hkey : y.1=[]
      · have hsame : y.2=x.2 := by
          have hx':=SyncMap.load_of_mem b.ips_keys hx
          have hy':=SyncMap.load_of_mem b.ips_keys hy
          rw [hkey] at hy'
          rw [hnil,hy'] at hx'
          exact Option.some.inj hx'
        have hline : entryLine y.2=[] := by
          unfold entryLine
          rw [if_neg (by simp [htype]),hvalue,hkey,hsame,hreason]
          rfl
        rw [hline] at hsays
        cases hsays
      · by_cases hnever : NeverAsked y.1
        · have hhead:=(lineItem_bracket (entryLine_bracket hy hnever) hsays).1
          cases hhead
        · rcases asked_readsBack h hline hsame hy hnever with hback | ⟨hnil',-⟩
          · rw [lineItem_ip htype hback,hvalue] at hsays
            simp only [Option.some.injEq,Prod.mk.injEq,true_and] at hsays
            exact hkey hsays
          · exact hkey hnil'
    · rw [lineItem_cidr ne] at hsays
      cases hsays
    · have hback:=lineItem_id (b.ids_filed y hy).2 (id_readsBack h hline hsame hy)
      rw [hback] at hsays
      cases hsays

theorem readable_of_sameDecisions : b.Readable := by
  refine ⟨fun x hx => id_readsBack h hline hsame hx,fun x hx => ?_⟩
  by_cases hnever : NeverAsked x.1
  · refine .inr ⟨hnever,fun v hsays => ?_⟩
    by_cases hv : NeverAsked v
    · exact .inl hv
    · right
      obtain ⟨ipStr,hhost⟩ : ∃ ipStr, Relay.ipOf ipStr=v := by
        rw [neverAsked_iff] at hv
        simpa using hv
      have hholds : (newBlocklist.loadFromFile text).Holds (.ip,v) :=
        (reload_holds h hline _).mpr ⟨⟨x.2,ip_mem_entries hx, hsays⟩,by simp [Valid]⟩
      have hblocked : b.isIPBlocked ipStr := by
        rw [← hsame.1,isIPBlocked_eq,hhost]
        exact .inl hholds
      rw [isIPBlocked_eq,hhost] at hblocked
      rcases hblocked with hlisted | ⟨a,ha,-⟩
      · exact hlisted
      · have hnone:=(lineItem_bracket (entryLine_bracket hx hnever) hsays).2.2.2
        simp only [hnone] at ha
        cases ha
  · exact .inl (ip_readsBack h hline hsame hx hnever)

end Necessary

end RoundTrip

/-- Where each entry takes one line, whatever the order of the lines, the file brings the same
decisions back exactly when the entries read back. -/
theorem save_load_iff (b : Blocklist) (text : Bytes) (h : b.saveToFile text) (hline : ∀ e∈b.entries,OneLine e) :
    b.SameDecisions (newBlocklist.loadFromFile text) ↔ b.Readable :=
  ⟨readable_of_sameDecisions h hline,sameDecisions_of_readable h hline⟩

theorem saveToFile_entries (b : Blocklist) : b.saveToFile (fileText b.entries) :=
  ⟨_,_,List.Perm.rfl,List.Perm.rfl,rfl⟩

end Blocklist

def regularList : Blocklist :=
  (((newBlocklist.blockIP (lit "8.8.8.8") (lit "test dns")).blockID (lit "MYDEV") (lit "stolen, 2024")).blockCIDR
    (lit "10.0.0.0/8") []).getD newBlocklist

theorem save_load_regular : regularList.networks.length=1 ∧
    regularList.SameDecisions (newBlocklist.loadFromFile (Blocklist.fileText regularList.entries)) := by
  have hips : ∀ x∈regularList.ips,Blocklist.ReadsBack x.2 := by decide
  have hids : ∀ x∈regularList.ids,Blocklist.ReadsBack x.2 := by decide
  have hiff:=regularList.save_load_iff _ regularList.saveToFile_entries (by decide)
  exact ⟨by decide,hiff.mpr ⟨hids,fun x hx => .inl (hips x hx)⟩⟩

def commaInID : Blocklist := newBlocklist.blockID (lit "LAB,2") []

def slashInIP : Blocklist := newBlocklist.blockIP (lit "10.0.0.0/8") []

def newlineInReason : Blocklist := newBlocklist.blockIP (lit "10.0.0.1") (lit "scan\n10.0.0.2")

/-- An ID with a comma is lost and another ID is blocked. -/
theorem save_load_differs :
    ¬ (∀ (b : Blocklist) text, b.saveToFile text → b.SameDecisions (newBlocklist.loadFromFile text)) ∧
    (commaInID.isIDBlocked (lit "LAB,2")=true ∧
      (newBlocklist.loadFromFile (Blocklist.fileText commaInID.entries)).isIDBlocked (lit "LAB,2")=false ∧
      (newBlocklist.loadFromFile (Blocklist.fileText commaInID.entries)).isIDBlocked (lit "LAB")=true) ∧
    (slashInIP.isIPBlocked (lit "10.1.2.3")=false ∧
      (newBlocklist.loadFromFile (Blocklist.fileText slashInIP.entries)).isIPBlocked (lit "10.1.2.3")=true) ∧
    newlineInReason.isIPBlocked (lit "10.0.0.2")=false ∧
      (newBlocklist.loadFromFile (Blocklist.fileText newlineInReason.entries)).isIPBlocked (lit "10.0.0.2")=true := by
  refine ⟨fun h => ?_,by decide⟩
  have hids:=(h commaInID _ commaInID.saveToFile_entries).2 (lit "LAB,2")
  exact absurd hids (by decide)

end BetterDesk.Security
