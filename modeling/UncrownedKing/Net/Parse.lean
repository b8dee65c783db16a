import UncrownedKing.Net.Addr

/-!
# Addresses from text

The strict address parser of the standard library. A reader that fails has
consumed nothing.
-/

namespace UncrownedKing.Net

abbrev Reader (α : Type) := List Char → Option (α × List Char)

def readGivenChar (target : Char) : Reader Unit
  | [] => none
  | c :: rest => if c = target then some ((), rest) else none

def toDigit (radix : Nat) (c : Char) : Option Nat :=
  let value :=
    if '0' ≤ c ∧ c ≤ '9' then some (c.toNat - '0'.toNat)
    else if 'a' ≤ c ∧ c ≤ 'z' then some (c.toNat - 'a'.toNat + 10)
    else if 'A' ≤ c ∧ c ≤ 'Z' then some (c.toNat - 'A'.toNat + 10)
    else none
  value.filter (· < radix)

def readDigits (radix maxDigits : Nat) : Nat → Nat → List Char → Option (Nat × Nat × List Char)
  | result, count, [] => some (result, count, [])
  | result, count, c :: rest =>
    match toDigit radix c with
    | none => some (result, count, c :: rest)
    | some digit =>
      if count + 1 > maxDigits then none
      else readDigits radix maxDigits (result * radix + digit) (count + 1) rest

def readNumber (radix maxDigits limit : Nat) (allowZeroPrefix : Bool) : Reader Nat := fun s => do
  let (result, count, rest) ← readDigits radix maxDigits 0 0 s
  if count = 0 then none
  else if !allowZeroPrefix && s.head? = some '0' && count > 1 then none
  else if result < limit then some (result, rest)
  else none

def readSeparator (sep : Char) (index : Nat) (inner : Reader α) : Reader α := fun s =>
  if index > 0 then (readGivenChar sep s).bind fun (_, s) => inner s else inner s

def readOctet (index : Nat) : Reader UInt8 := fun s =>
  (readSeparator '.' index (readNumber 10 3 256 false) s).map fun (n, s) => (UInt8.ofNat n, s)

def readIpv4Addr : Reader Ipv4Addr := fun s => do
  let (o0, s) ← readOctet 0 s
  let (o1, s) ← readOctet 1 s
  let (o2, s) ← readOctet 2 s
  let (o3, s) ← readOctet 3 s
  some (.new o0 o1 o2 o3, s)

def groupOfOctets (high low : UInt8) : UInt16 := high.toUInt16 <<< 8 ||| low.toUInt16

def readGroups : (i room : Nat) → List Char → List UInt16 × Bool × List Char
  | _, 0, s => ([], false, s)
  | i, room + 1, s =>
    -- an embedded address needs two groups
    match if room > 0 then readSeparator ':' i readIpv4Addr s else none with
    | some (ip, s) => ([groupOfOctets ip.o0 ip.o1, groupOfOctets ip.o2 ip.o3], true, s)
    | none =>
      match readSeparator ':' i (readNumber 16 4 65536 true) s with
      | none => ([], false, s)
      | some (group, s) =>
        let (groups, ipv4, s) := readGroups (i + 1) room s
        (UInt16.ofNat group :: groups, ipv4, s)

def Ipv6Addr.ofGroups (groups : List UInt16) : Ipv6Addr :=
  .new (groups.getD 0 0) (groups.getD 1 0) (groups.getD 2 0) (groups.getD 3 0)
    (groups.getD 4 0) (groups.getD 5 0) (groups.getD 6 0) (groups.getD 7 0)

def readIpv6Addr : Reader Ipv6Addr := fun s =>
  let (head, headIpv4, s) := readGroups 0 8 s
  if head.length = 8 then some (.ofGroups head, s)
  else if headIpv4 then none
  else do
    let (_, s) ← readGivenChar ':' s
    let (_, s) ← readGivenChar ':' s
    -- `::` stands for one group at least
    let (tail, _, s) := readGroups 0 (8 - (head.length + 1)) s
    let zeros := List.replicate (8 - head.length - tail.length) 0
    some (.ofGroups (head ++ zeros ++ tail), s)

/-- A text that starts with an IPv4 address is not tried as IPv6. -/
def IpAddr.fromStr (text : List Char) : Option IpAddr :=
  let read : Option (IpAddr × List Char) :=
    match readIpv4Addr text with
    | some (ip, rest) => some (.v4 ip, rest)
    | none => (readIpv6Addr text).map fun (ip, rest) => (.v6 ip, rest)
  match read with
  | some (ip, []) => some ip
  | _ => none

def parseU8 (text : List Char) : Option UInt8 :=
  let digits := match text with
    | '+' :: rest => rest
    | _ => text
  if digits.isEmpty then none
  else
    let number := digits.foldlM (fun n c => do
      let digit ← toDigit 10 c
      if n * 10 + digit < 256 then some (n * 10 + digit) else none) 0
    number.map UInt8.ofNat

end UncrownedKing.Net
