import BetterDesk.Policy.AddressText

/-! # Blocked addresses and devices (security/blocklist.go) -/

namespace BetterDesk.Security
open Text Policy Signal

def bitLen (addr : Bytes) : ℕ := if addr.find? (fun b => b=46 ∨ b=58)=some 46 then 32 else 128

/-- The first `ones` bits. The bits of a mapped address count from the front of its 16 bytes. -/
def network (ip : IP) (bits ones : ℕ) : IPNet := match ip with
  | .v4 a => if bits-ones≤32 then ⟨.v4 a,bits-ones⟩ else ⟨.v6 (0xFFFF*2^32+a),bits-ones⟩
  | .v6 a => ⟨.v6 a,bits-ones⟩

/-- `net.ParseCIDR`, its network. -/
def parseCIDR (t : Bytes) : Option IPNet :=
  (cut 47 t).bind fun (addr,mask) => (parseIP addr).bind fun ip =>
    if mask≠[] ∧ mask.all isDigit ∧ decimalValue mask≤bitLen addr then
      some (network ip (bitLen addr) (decimalValue mask))
    else none

example : parseCIDR (lit "10.0.0.0/8")=some ⟨.v4 0x0A000000,24⟩ ∧
    parseCIDR (lit "::ffff:10.0.0.0/104")=some ⟨.v4 0x0A000000,24⟩ ∧
    parseCIDR (lit "fe80::%eth0/10")=none ∧ parseCIDR (lit "10.0.0.0/33")=none := by decide

inductive BlockType
  | ip
  | id
  | cidr
  deriving DecidableEq

structure BlockEntry where
  value : Bytes
  type : BlockType
  reason : Bytes

structure NetworkEntry where
  net : IPNet
  entry : BlockEntry
  parsed : parseCIDR entry.value=some net
  type_eq : entry.type=.cidr

structure Blocklist where
  ips : SyncMap Bytes BlockEntry
  ids : SyncMap Bytes BlockEntry
  networks : List NetworkEntry
  ips_filed : ∀ x∈ips,x.2.value=x.1 ∧ x.2.type=.ip
  ids_filed : ∀ x∈ids,x.2.value=x.1 ∧ x.2.type=.id
  ips_keys : (ips.map Prod.fst).Nodup
  ids_keys : (ids.map Prod.fst).Nodup

def newBlocklist : Blocklist where
  ips := []
  ids := []
  networks := []
  ips_filed := by simp
  ids_filed := by simp
  ips_keys := List.nodup_nil
  ids_keys := List.nodup_nil

theorem filed_store {m : SyncMap Bytes BlockEntry} {type : BlockType}
    (h : ∀ x∈m,x.2.value=x.1 ∧ x.2.type=type) (value reason : Bytes) :
    ∀ x∈m.store value ⟨value,type,reason⟩, x.2.value=x.1 ∧ x.2.type=type := by
  intro x hx
  rcases SyncMap.mem_store hx with rfl | hx
  · exact ⟨rfl,rfl⟩
  · exact h x hx

theorem filed_delete {m : SyncMap Bytes BlockEntry} {type : BlockType}
    (h : ∀ x∈m,x.2.value=x.1 ∧ x.2.type=type) (value : Bytes) :
    ∀ x∈m.delete value, x.2.value=x.1 ∧ x.2.type=type := fun x hx => h x (SyncMap.mem_delete hx)

namespace Blocklist
variable (b : Blocklist)

def isIPBlocked (ipStr : Bytes) : Bool :=
  -- the port is stripped if there is one
  let host:=Relay.ipOf ipStr
  if (b.ips.load host).isSome then true
  else match parseIP host with
    | none => false
    | some ip => b.networks.any fun ne => ip.within ne.net

def isIDBlocked (id : Bytes) : Bool := (b.ids.load id).isSome

def blockIP (ip reason : Bytes) : Blocklist :=
  { b with
    ips := b.ips.store ip ⟨ip,.ip,reason⟩
    ips_filed := filed_store b.ips_filed ip reason
    ips_keys := SyncMap.nodup_store b.ips_keys ip _}

def blockID (id reason : Bytes) : Blocklist :=
  { b with
    ids := b.ids.store id ⟨id,.id,reason⟩
    ids_filed := filed_store b.ids_filed id reason
    ids_keys := SyncMap.nodup_store b.ids_keys id _}

def blockCIDR (cidr reason : Bytes) : Option Blocklist :=
  match h : parseCIDR cidr with
  | none => none
  | some net => some {b with networks := b.networks++[⟨net,⟨cidr,.cidr,reason⟩,h,rfl⟩]}

def unblockIP (ip : Bytes) : Bool × Blocklist :=
  if (b.ips.load ip).isSome then
    (true,{b with
      ips := b.ips.delete ip
      ips_filed := filed_delete b.ips_filed ip
      ips_keys := SyncMap.nodup_delete b.ips_keys ip})
  else (false,b)

def unblockID (id : Bytes) : Bool × Blocklist :=
  if (b.ids.load id).isSome then
    (true,{b with
      ids := b.ids.delete id
      ids_filed := filed_delete b.ids_filed id
      ids_keys := SyncMap.nodup_delete b.ids_keys id})
  else (false,b)

def unblockCIDR (cidr : Bytes) : Bool × Blocklist :=
  if b.networks.any fun ne => ne.entry.value=cidr then
    (true,{b with networks := b.networks.eraseP fun ne => ne.entry.value=cidr})
  else (false,b)

/-- `bufio.Scanner`: it stops at a line that does not fit its buffer. -/
def scanLines (text : Bytes) : List Bytes :=
  let lines:=text.splitOn 10
  let lines := if lines.getLast?=some [] then lines.dropLast else lines
  (lines.takeWhile fun line => line.length<65536).map fun line =>
    if line.getLast?=some 13 then line.dropLast else line

def lineEntry (line : Bytes) : Option BlockEntry :=
  let line:=trimSpace line
  if line=[] ∨ line.head?=some 35 then none
  else
    let (value,reason) := match cut 44 line with
      | some (value,reason) => (trimSpace value,trimSpace reason)
      | none => (line,[])
    if lit "id:" <+: value then some ⟨value.drop 3,.id,reason⟩
    else if 47∈value then some ⟨value,.cidr,reason⟩
    else some ⟨value,.ip,reason⟩

def add (e : BlockEntry) : Blocklist := match e.type with
  | .id => b.blockID e.value e.reason
  | .cidr => (b.blockCIDR e.value e.reason).getD b
  | .ip => b.blockIP e.value e.reason

def loadFromFile (text : Bytes) : Blocklist := ((scanLines text).filterMap lineEntry).foldl add b

def entryLine (e : BlockEntry) : Bytes :=
  (if e.type=.id then lit "id:" else [])++e.value++(if e.reason≠[] then 44::e.reason else [])

def header : List Bytes :=
  [lit "# BetterDesk Blocklist (auto-generated)",lit "# Format: IP, CIDR, or id:DEVICE_ID [,reason]",[]]

def fileText (entries : List BlockEntry) : Bytes :=
  (header++entries.map entryLine).flatMap fun line => line++[10]

/-- `SaveToFile`: what the file may hold, by the order in which the maps are met. -/
def saveToFile (text : Bytes) : Prop :=
  ∃ ips ids, ips.Perm (b.ips.map Prod.snd) ∧ ids.Perm (b.ids.map Prod.snd) ∧
    text=fileText (ips++b.networks.map NetworkEntry.entry++ids)

end Blocklist

end BetterDesk.Security
