import BetterDesk.Policy.AddressParts
import BetterDesk.Security.Blocklist

/-! # What a blocklist decides about an address (security/blocklist.go) -/

namespace BetterDesk.Security
open Text Policy Signal List

def withoutBrackets (t : Bytes) : Bytes := match t with
  | 91::inner => if inner.getLast?=some 93 ∧ 58∈inner then inner.dropLast else t
  | _ => t

def withoutZone (t : Bytes) : Bytes := match cut 37 t with
  | some (addr,zone) => if zone≠[] ∧ 58∈addr then addr else t
  | none => t

def denotedHost (host : Bytes) : Option IP := parseIP (withoutZone (withoutBrackets host))

def denoted (text : Bytes) : Option IP := denotedHost (Relay.ipOf text)

example : denoted (lit "[FE80::1%eth0]:21116")=parseIP (lit "fe80::1") ∧
    denoted (lit "[::ffff:10.0.0.7]")=some (.v4 0x0A000007) ∧
    denoted (lit "10.0.0.7:5")=some (.v4 0x0A000007) := by decide

def Decorated (host : Bytes) : Prop := host.head?=some 91 ∨ 37∈host

instance (host : Bytes) : Decidable (Decorated host) := inferInstanceAs (Decidable (_ ∨ _))

theorem withoutZone_plain {t : Bytes} (h : 37∉t) : withoutZone t=t := by
  unfold withoutZone
  split
  · rename_i addr zone hcut
    obtain ⟨rfl,-⟩:=cut_eq hcut
    simp at h
  · rfl

theorem withoutBrackets_plain {t : Bytes} (h : t.head?≠some 91) : withoutBrackets t=t := by
  unfold withoutBrackets
  split
  · simp at h
  · rfl

variable {host : Bytes} {a : IP}

theorem parseIP_host (h : denotedHost host=some a) : parseIP host = if Decorated host then none else some a := by
  split
  · rename_i hdec
    rcases hdec with hopen | hzone
    · exact parseIP_eq_none (mem_of_mem_head? hopen) (by decide)
    · exact parseIP_eq_none hzone (by decide)
  · rename_i hplain
    simp only [Decorated,not_or] at hplain
    rw [denotedHost,withoutBrackets_plain hplain.1,withoutZone_plain hplain.2] at h
    exact h

theorem withoutZone_prefix (t : Bytes) : withoutZone t <+: t := by
  unfold withoutZone
  split
  · rename_i addr zone hcut
    obtain ⟨rfl,-⟩:=cut_eq hcut
    split
    · exact prefix_append _ _
    · exact prefix_rfl
  · exact prefix_rfl

theorem denotedHost_colons (h : denotedHost host=some a) (hopen : host.head?≠some 91)
    (hcolon : 58∈host) : 2≤host.count 58 := by
  rw [denotedHost,withoutBrackets_plain hopen] at h
  have hle : (withoutZone host).count 58≤host.count 58 := ( withoutZone_prefix host).sublist.count_le 58
  have hmem : 58∈withoutZone host := by
    unfold withoutZone
    split
    · split
      · rename_i hzone
        exact hzone.2
      · exact hcolon
    · exact hcolon
  rcases parseIP_colons h with hno | htwo
  · exact absurd hmem hno
  · omega

theorem splitHost_denoted (h : denotedHost host=some a) : Relay.splitHost host=none := by
  cases hs : Relay.splitHost host with
  | none => rfl
  | some part =>
    exfalso
    obtain ⟨port,hport,hform | hform⟩:=splitHost_form hs
    · rename_i hpart hopen _
      have hhead : host.head?≠some 91 := fun hhead => hopen (mem_of_mem_head? hhead)
      have htwo:=denotedHost_colons h hhead (by simp [hform])
      rw [hform,count_append,count_cons_self,count_eq_zero_of_not_mem hpart,
        count_eq_zero_of_not_mem hport] at htwo
      omega
    · rename_i hopen hclose
      -- the last byte belongs to the port
      have hlast : (part++93::58::port).getLast?≠some 93 := by
        intro hl
        have hparts : part++93::58::port=part++[93]++58::port := by simp
        rw [hparts,List.getLast?_append_of_ne_nil _ (cons_ne_nil _ _)] at hl
        have hmem:=mem_of_getLast? hl
        simp at hmem hclose
        exact hclose.2 hmem
      have hsame : withoutBrackets host=host := by
        rw [hform]
        simp only [cons_append,withoutBrackets]
        rw [if_neg (fun hb => hlast hb.1)]
      have hbracket : (91 : UInt8)∈withoutZone host := by
        unfold withoutZone
        split
        · rename_i addr zone hcut
          obtain ⟨heq,-⟩:=cut_eq hcut
          split
          · cases addr with
            | nil =>
              rw [hform] at heq
              simp at heq
            | cons c addr =>
              rw [hform] at heq
              simp only [cons_append,cons.injEq] at heq
              rw [← heq.1]
              exact mem_cons_self
          · simp [hform]
        · simp [hform]
      rw [denotedHost,hsame,parseIP_eq_none hbracket (by decide)] at h
      cases h

theorem denoted_of_denotedHost (h : denotedHost host=some a) : denoted host=some a := by
  rw [denoted,Relay.ipOf,splitHost_denoted h]
  exact h

namespace Blocklist
variable (b : Blocklist)

def Covered (a : IP) : Prop := ∃ ne∈b.networks,a.within ne.net

def Named (a : IP) : Prop := ∃ x∈b.ips,denoted x.1=some a

def Denied (a : IP) : Prop := b.Named a ∨ b.Covered a

instance (a : IP) : Decidable (b.Covered a) := inferInstanceAs (Decidable (∃ ne∈b.networks,_))
instance (a : IP) : Decidable (b.Named a) := inferInstanceAs (Decidable (∃ x∈b.ips,_))
instance (a : IP) : Decidable (b.Denied a) := inferInstanceAs (Decidable (_ ∨ _))

def AsWritten (text : Bytes) (a : IP) : Prop :=
  let host:=Relay.ipOf text
  (∃ x∈b.ips,x.1=host) ∨ (if Decorated host then ¬ b.Named a ∧ ¬ b.Covered a else b.Named a → b.Covered a)

instance (text : Bytes) (a : IP) : Decidable (b.AsWritten text a) := by
  unfold AsWritten
  infer_instance

theorem load_isSome (host : Bytes) : (b.ips.load host).isSome ↔ ∃ x∈b.ips,x.1=host := by
  constructor
  · intro h
    obtain ⟨e,he⟩:=Option.isSome_iff_exists.mp h
    exact ⟨_,SyncMap.mem_of_load he,rfl⟩
  · rintro ⟨x,hx,rfl⟩
    rw [SyncMap.load_of_mem b.ips_keys hx]
    rfl

theorem isIPBlocked_iff {text : Bytes} {a : IP} (h : denoted text=some a) :
    b.isIPBlocked text ↔ (∃ x∈b.ips,x.1=Relay.ipOf text) ∨ ¬ Decorated (Relay.ipOf text) ∧ b.Covered a := by
  unfold isIPBlocked
  rw [← b.load_isSome]
  simp only [parseIP_host h]
  by_cases hlisted : (b.ips.load (Relay.ipOf text)).isSome
  · simp [hlisted]
  · by_cases hdec : Decorated (Relay.ipOf text)
    · simp [hlisted,hdec]
    · simp [hlisted,hdec,Covered]

theorem isIPBlocked_denied_iff {text : Bytes} {a : IP} (h : denoted text=some a) :
    (b.isIPBlocked text ↔ b.Denied a) ↔ b.AsWritten text a := by
  have hnamed : (∃ x∈b.ips,x.1=Relay.ipOf text) → b.Named a := by
    rintro ⟨x,hx,heq⟩
    exact ⟨x,hx,by rw [heq]; exact denoted_of_denotedHost h⟩
  rw [b.isIPBlocked_iff h]
  unfold AsWritten Denied
  by_cases hlisted : ∃ x∈b.ips,x.1=Relay.ipOf text
  · simp [hlisted,hnamed hlisted]
  · by_cases hdec : Decorated (Relay.ipOf text)
    · simp [hlisted,hdec]
    · by_cases hcov : b.Covered a
      · simp [hlisted,hdec,hcov]
      · simp [hlisted,hdec,hcov]

theorem unblockIP_gone {ip : Bytes} (h : (b.unblockIP ip).1=true) : ∀ x∈(b.unblockIP ip).2.ips, x.1≠ip := by
  unfold unblockIP at h ⊢
  split at h
  · rename_i hlisted
    rw [if_pos hlisted]
    exact fun x hx => (SyncMap.of_mem_delete hx).2
  · cases h

theorem unblockCIDR_gone_iff {cidr : Bytes} (h : (b.unblockCIDR cidr).1=true) :
    (∀ ne∈(b.unblockCIDR cidr).2.networks, ne.entry.value≠cidr) ↔
      b.networks.countP (fun ne => ne.entry.value=cidr)=1 := by
  unfold unblockCIDR at h ⊢
  split at h
  · rename_i hany
    rw [if_pos hany]
    obtain ⟨ne,hne,hvalue⟩:=any_eq_true.mp hany
    obtain ⟨first,before,after,hbefore,hfirst,hlist,herase⟩:=exists_of_eraseP (p := fun ne => ne.entry.value=cidr) hne hvalue
    have hzero : before.countP (fun ne => ne.entry.value=cidr)=0 := countP_eq_zero.mpr hbefore
    dsimp only
    rw [herase,hlist,countP_append,hzero,countP_cons,if_pos hfirst]
    have hafter : after.countP (fun ne => ne.entry.value=cidr)=0 ↔ ∀ ne∈after,ne.entry.value≠cidr := by
      rw [countP_eq_zero]
      simp
    constructor
    · intro hgone
      rw [hafter.mpr fun ne hmem => hgone ne (mem_append_right _ hmem)]
    · intro hone ne hmem
      rcases mem_append.mp hmem with hmem | hmem
      · simpa using hbefore ne hmem
      · exact hafter.mp (by omega) ne hmem
  · cases h

/-- The decision follows the address where the texts allow it. -/
theorem decides_by_address :
    (∀ text a, denoted text=some a → ((b.isIPBlocked text ↔ b.Denied a) ↔ b.AsWritten text a)) ∧
    (∀ ip, (b.unblockIP ip).1=true → ∀ x∈(b.unblockIP ip).2.ips, x.1≠ip) ∧ ∀ cidr, (b.unblockCIDR cidr).1=true →
      ((∀ ne∈(b.unblockCIDR cidr).2.networks, ne.entry.value≠cidr) ↔
        b.networks.countP (fun ne => ne.entry.value=cidr)=1) :=
  ⟨fun _ _ h => b.isIPBlocked_denied_iff h,fun _ h => b.unblockIP_gone h,fun _ h => b.unblockCIDR_gone_iff h⟩

end Blocklist

def oneAddress : Blocklist := newBlocklist.blockIP (lit "10.0.0.1") []

def oneNetwork : Blocklist := (newBlocklist.blockCIDR (lit "fe80::/10") []).getD newBlocklist

def networkTwice : Blocklist := (oneNetwork.blockCIDR (lit "fe80::/10") []).getD newBlocklist

theorem decides_by_address_once :
    ((oneAddress.isIPBlocked (lit "10.0.0.1:5") ↔ oneAddress.Denied (.v4 0x0A000001)) ∧
      ∀ x∈(oneAddress.unblockIP (lit "10.0.0.1")).2.ips, x.1≠lit "10.0.0.1") ∧
    ∀ ne∈(oneNetwork.unblockCIDR (lit "fe80::/10")).2.networks, ne.entry.value≠lit "fe80::/10" :=
  ⟨⟨(oneAddress.decides_by_address.1 _ _ (by decide)).mpr (by decide),
      oneAddress.decides_by_address.2.1 _ (by decide)⟩,
    (oneNetwork.decides_by_address.2.2 _ (by decide)).mpr (by decide)⟩

/-- The mapped text of a blocked address, the text with a zone of one in a blocked network, and a
network that was added twice and removed once. -/
theorem decides_by_text :
    ¬ (∀ (b : Blocklist) text a, denoted text=some a → (b.isIPBlocked text ↔ b.Denied a)) ∧
    ¬ (∀ (b : Blocklist) cidr, (b.unblockCIDR cidr).1=true →
      ∀ ne∈(b.unblockCIDR cidr).2.networks, ne.entry.value≠cidr) ∧
    (oneAddress.isIPBlocked (lit "10.0.0.1:21116")=true ∧
      denoted (lit "[::ffff:10.0.0.1]:21116")=denoted (lit "10.0.0.1:21116") ∧
      oneAddress.isIPBlocked (lit "[::ffff:10.0.0.1]:21116")=false) ∧
    (oneNetwork.isIPBlocked (lit "[fe80::1]:21116")=true ∧
      oneNetwork.isIPBlocked (lit "[fe80::1%eth0]:21116")=false) ∧
    (networkTwice.unblockCIDR (lit "fe80::/10")).1=true ∧
      (networkTwice.unblockCIDR (lit "fe80::/10")).2.isIPBlocked (lit "fe80::1")=true := by
  refine ⟨fun h => ?_,fun h => ?_,by decide⟩
  · have hmapped:=h oneAddress (lit "[::ffff:10.0.0.1]:21116") (.v4 0x0A000001) (by decide)
    exact absurd (hmapped.mpr (by decide)) (by decide)
  · exact absurd (h networkTwice (lit "fe80::/10") (by decide)) (by decide)

end BetterDesk.Security
