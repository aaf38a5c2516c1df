import DnsPolicy.Address
import DnsPolicy.Text.Digits

/-! Writing addresses. The longest run of two or more zero groups, the first of equals, becomes `::`.
Only an IPv4-mapped address has a dotted tail. -/
namespace DnsPolicy.Address
open DnsPolicy.Text

def dotted (a b c d : UInt8) : List Char :=
  List.intercalate ['.'] ([a,b,c,d].map fun octet => decimal octet.toNat)

def colons (groups : List UInt16) : List Char :=
  List.intercalate [':'] (groups.map fun group => hexadecimal group.toNat)

def leadingZeros (groups : List UInt16) : Nat := (groups.takeWhile (· == 0)).length

/-- Start and length of the longest run of zero groups, the first of equals. -/
def longestZeros : List UInt16 → Nat × Nat
  | [] => (0,0)
  | group :: rest =>
    let here := leadingZeros (group :: rest)
    let (start,length) := longestZeros rest
    if here < length then (start + 1,length) else (0,here)

def writeGroups (groups : List UInt16) : List Char :=
  let (start,length) := longestZeros groups
  if 2 ≤ length then
    colons (groups.take start) ++ [':',':'] ++ colons (groups.drop (start + length))
  else colons groups

def write : Address → List Char
  | .v4 a b c d => dotted a b c d
  | .v6 groups =>
    match groups.toList with
    | [0,0,0,0,0,0xffff,high,low] =>
      "::ffff:".toList ++
        dotted (.ofNat (high.toNat / 256)) (.ofNat (high.toNat % 256))
          (.ofNat (low.toNat / 256)) (.ofNat (low.toNat % 256))
    | groups => writeGroups groups

def toText (address : Address) : String := String.ofList address.write

end DnsPolicy.Address
