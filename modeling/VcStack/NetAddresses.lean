import Mathlib.Algebra.Group.Nat.Defs
import VcStack.Text

/-!
The part of Go's net package that the address management uses. An address is
the number written by the 16 bytes of its To16 form, so an IPv4 address and its
IPv4-mapped form are one number, as they are one address for String, Equal,
Contains and To4.
-/

namespace VcStack.NetAddresses

open Text

def v4Lead : Nat := 0xffff * 2 ^ 32

def is4 (ip : Nat) : Bool := ip / 2 ^ 32 == 0xffff

/-- The mask of a network has `ones` leading ones in 32 or 128 bits. -/
structure IPNet where
  ip : Nat
  bits : Nat
  ones : Nat
  deriving DecidableEq

def IPNet.host (network : IPNet) : Nat := network.bits - network.ones

def IPNet.masked (network : IPNet) : Nat :=
  network.ip / 2 ^ network.host * 2 ^ network.host

def IPNet.contains (network : IPNet) (ip : Nat) : Bool :=
  is4 ip == is4 network.ip && ip / 2 ^ network.host == network.ip / 2 ^ network.host

def number (digits : List Nat) (radix : Nat) : Nat :=
  digits.foldl (fun total digit => total * radix + digit) 0

def digitValue (char : Char) : Option Nat :=
  if '0' ≤ char ∧ char ≤ '9' then some (char.toNat - '0'.toNat)
  else if 'a' ≤ char ∧ char ≤ 'f' then some (char.toNat - 'a'.toNat + 10)
  else if 'A' ≤ char ∧ char ≤ 'F' then some (char.toNat - 'A'.toNat + 10)
  else none

/-- The digits of a non-empty text that has only digits of the radix. -/
def digits (radix : Nat) (text : List Char) : Option (List Nat) :=
  if text.isEmpty then none
  else text.mapM fun char => (digitValue char).filter (· < radix)

def decimal (text : List Char) : Option Nat := (digits 10 text).map (number · 10)

/-- A field of an IPv4 address has no leading zero and is at most 255. -/
def octet (text : List Char) : Option Nat :=
  if text.head? == some '0' && 1 < text.length then none
  else (decimal text).filter (· ≤ 255)

def parseIPv4 (text : List Char) : Option Nat :=
  match (text.splitOn '.').mapM octet with
  | some [first, second, third, fourth] => some (number [first, second, third, fourth] 256)
  | _ => none

structure Groups where
  groups : List Nat := []
  ellipsis : Option Nat := none
  rest : List Char := []

/-- The loop of netip's parseIPv6 over the groups there is still room for. -/
def parseGroups : Nat → Groups → Option Groups
  | 0, read => some read
  | room + 1, read =>
    let hex := read.rest.takeWhile fun char => (digitValue char).isSome
    let after := read.rest.dropWhile fun char => (digitValue char).isSome
    match (digits 16 hex).filter (·.length ≤ 4) with
    | none => none
    | some group =>
      let groups := read.groups ++ [number group 16]
      match after with
      | [] => some {read with groups := groups, rest := []}
      | '.' :: _ =>
        -- An IPv4 tail fills the last two groups.
        if read.ellipsis.isNone && read.groups.length != 6 || room == 0 then none
        else (parseIPv4 read.rest).map fun tail =>
          {read with groups := read.groups ++ [tail / 2 ^ 16, tail % 2 ^ 16], rest := []}
      | [':'] => none
      | [':', ':'] =>
        if read.ellipsis.isSome then none
        else some {groups := groups, ellipsis := some groups.length}
      | ':' :: ':' :: more =>
        if read.ellipsis.isSome then none
        else parseGroups room {groups := groups, ellipsis := some groups.length, rest := more}
      | ':' :: more => parseGroups room {read with groups := groups, rest := more}
      | _ => none

def expand (read : Groups) : Option (List Nat) :=
  if !read.rest.isEmpty then none
  else match read.ellipsis with
    | none => if read.groups.length == 8 then some read.groups else none
    | some place =>
      if read.groups.length < 8 then
        some (read.groups.take place ++ List.replicate (8 - read.groups.length) 0 ++
          read.groups.drop place)
      else none

def parseIPv6 (text : List Char) : Option Nat :=
  let read : Option Groups := match text with
    | [':', ':'] => some {ellipsis := some 0}
    | ':' :: ':' :: rest => parseGroups 8 {ellipsis := some 0, rest := rest}
    | _ => parseGroups 8 {rest := text}
  -- A zone would follow a percent sign, which no group contains.
  (read.bind expand).map (number · (2 ^ 16))

/-- An address and the number of bits it was written in. -/
def parseAddr (text : List Char) : Option (Nat × Nat) :=
  match text.find? fun char => char == '.' || char == ':' || char == '%' with
  | some '.' => (parseIPv4 text).map fun ip => (v4Lead + ip, 32)
  | some ':' => (parseIPv6 text).map fun ip => (ip, 128)
  | _ => none

def parseIP (text : String) : Option Nat := (parseAddr text.toList).map (·.1)

def parseCIDR (text : String) : Except String IPNet :=
  let network := do
    let pieces ← cut '/' text.toList
    let address ← parseAddr pieces.1
    let ones ← (decimal pieces.2).filter (· ≤ address.2)
    let written : IPNet := {ip := address.1, bits := address.2, ones := ones}
    pure {written with ip := written.masked}
  match network with
  | some network => .ok network
  | none => .error ("invalid CIDR address: " ++ text)

def places (radix count value : Nat) : List Nat :=
  (List.range count).reverse.map fun place => value / radix ^ place % radix

def join (separator : String) (parts : List String) : String := separator.intercalate parts

def hexText (group : Nat) : String := String.ofList (Nat.toDigits 16 group)

/-- The first of the longest runs of at least two zero groups. -/
def zeroRun (groups : List Nat) : Option (Nat × Nat) :=
  (List.range groups.length).foldl (fun best start =>
    let length := ((groups.drop start).takeWhile (· == 0)).length
    if 2 ≤ length ∧ (best.map (·.2)).getD 0 < length then some (start, length) else best) none

def addressText (ip : Nat) : String :=
  if is4 ip then join "." ((places 256 4 ip).map toString)
  else
    let groups := places (2 ^ 16) 8 ip
    match zeroRun groups with
    | none => join ":" (groups.map hexText)
    | some (start, length) =>
      join ":" ((groups.take start).map hexText) ++ "::" ++
        join ":" ((groups.drop (start + length)).map hexText)

example : parseCIDR "192.168.1.77/24" = .ok ⟨v4Lead + 0xc0a80100, 32, 24⟩ := by decide

example : (parseIP "2001:DB8::a:0:0:1").map addressText = some "2001:db8::a:0:0:1" := by decide

end VcStack.NetAddresses
