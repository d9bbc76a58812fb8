import BetterDesk.Relay.SessionLimits
import BetterDesk.Signal.Server

/-! # Addresses as text (package net) -/

namespace BetterDesk.Policy
open Text Signal

def joinHostPort (host port : Bytes) : Bytes :=
  if 58∈host then 91::host++93::58::port else host++58::port

/-- `net.SplitHostPort`: the port is what follows the last colon. -/
def splitHostPort (hostport : Bytes) : Option (Bytes × Bytes) :=
  (Relay.splitHost hostport).map fun host => (host,(hostport.reverse.takeWhile (·≠58)).reverse)

def isDigit (b : UInt8) : Bool := 48≤b ∧ b≤57

def decimalValue (t : Bytes) : ℕ := t.foldl (fun n b => 10*n+(b.toNat-48)) 0

def octet (t : Bytes) : Option ℕ :=
  if t≠[] ∧ t.all isDigit ∧ (t.head?=some 48 → t.length=1) ∧ decimalValue t≤255 then
    some (decimalValue t)
  else none

def parseIPv4Fields (t : Bytes) : Option ℕ := match (t.splitOn 46).mapM octet with
  | some [a,b,c,d] => some (((a*256+b)*256+c)*256+d)
  | _ => none

def isHex (b : UInt8) : Bool := (hexValue b).isSome

def hexNumber (t : Bytes) : ℕ := t.foldl (fun n b => 16*n+((hexValue b).getD 0).toNat) 0

/-- The loop of `parseIPv6`: the groups read, and how many stand before the `::`. -/
def parseGroups : ℕ → Bytes → List ℕ → Option ℕ → Option (List ℕ × Option ℕ)
  | 0, _, _, _ => none
  | fuel+1, s, groups, ellipsis =>
    let digits:=s.takeWhile isHex
    let read:=groups++[hexNumber digits]
    if digits=[] ∨ 4<digits.length then none
    else match s.dropWhile isHex with
      | [] => some (read,ellipsis)
      | 46::_ =>
        -- a dotted address may only be the last two groups
        if ellipsis=none ∧ groups.length≠6 then none
        else if 6<groups.length then none
        else (parseIPv4Fields s).map fun v => (groups++[v/65536,v%65536],ellipsis)
      | [58] => none
      | 58::58::more =>
        if ellipsis.isSome then none
        else if more=[] then some (read,some read.length)
        else parseGroups fuel more read (some read.length)
      | 58::more => parseGroups fuel more read ellipsis
      | _ => none

def ofGroups (groups : List ℕ) : IP :=
  let value:=groups.foldl (fun n g => n*65536+g) 0
  if value/2^32=0xFFFF then .v4 (value%2^32) else .v6 value

def parseIPv6 (t : Bytes) : Option IP :=
  let parsed := match t with
    | [58,58] => some ([],some 0)
    | 58::58::s => parseGroups 8 s [] (some 0)
    | _ => parseGroups 8 t [] none
  parsed.bind fun p => match p.2 with
    | none => if p.1.length=8 then some (ofGroups p.1) else none
    | some k =>
      if p.1.length<8 then
        some (ofGroups (p.1.take k++List.replicate (8-p.1.length) 0++p.1.drop k))
      else none

/-- `net.ParseIP`. -/
def parseIP (t : Bytes) : Option IP :=
  if 37∈t then none
  else match t.find? fun b => b=46 ∨ b=58 with
    | some 46 => (parseIPv4Fields t).map .v4
    | some _ => parseIPv6 t
    | none => none

def digitsText (base n : ℕ) : Bytes := (Nat.toDigits base n).map fun c => c.toNat.toUInt8

def groupsOf (value : ℕ) : List ℕ := (List.range 8).map fun i => value/65536^(7-i)%65536

def zeroRun (groups : List ℕ) : ℕ × ℕ :=
  (List.range 8).foldl (fun best i =>
    let n:=((groups.drop i).takeWhile (·=0)).length
    if 2≤n ∧ best.2<n then (i,n) else best) (8,0)

/-- `IP.String`. -/
def ipText : IP → Bytes
  | .v4 a => [46].intercalate ((List.range 4).map fun i => digitsText 10 (a/256^(3-i)%256))
  | .v6 a =>
    let groups:=groupsOf a
    let texts:=groups.map (digitsText 16)
    match zeroRun groups with
    | (_,0) => [58].intercalate texts
    | (start,n) =>
      [58].intercalate (texts.take start)++[58,58]++[58].intercalate (texts.drop (start+n))

example : parseIP (lit "::ffff:10.0.0.7")=some (.v4 0x0A000007) ∧
    (parseIP (lit "2001:DB8:0:0:1::2")).map ipText=some (lit "2001:db8::1:0:0:2") ∧
    parseIP (lit "fe80::1%eth0")=none ∧ parseIP (lit "10.0.0.07")=none := by decide

end BetterDesk.Policy
