import DnsPolicy.Address
import DnsPolicy.Text.Digits
import DnsPolicy.Text.Pieces

/-! Reading addresses. An octet has one to three digits and no leading zero, a group one to four
hexadecimal digits, and `::` stands for one group of zeros or more. -/
namespace DnsPolicy.Address
open DnsPolicy.Text

def octet? (text : List Char) : Option UInt8 :=
  match number? 10 text with
  | none => none
  | some n =>
    if text.length ≤ 3 ∧ n < 256 ∧ (text.head? = some '0' → text.length = 1) then some (.ofNat n)
    else none

def dotted? (text : List Char) : Option (UInt8 × UInt8 × UInt8 × UInt8) :=
  match text.splitOn '.' with
  | [a,b,c,d] => do return (← octet? a,← octet? b,← octet? c,← octet? d)
  | _ => none

def group? (text : List Char) : Option UInt16 :=
  if text.length ≤ 4 then (number? 16 text).map .ofNat else none

def dottedGroups : UInt8 × UInt8 × UInt8 × UInt8 → List UInt16
  | (a,b,c,d) => [.ofNat (256 * a.toNat + b.toNat),.ofNat (256 * c.toNat + d.toNat)]

/-- Groups that were written between colons. The last place may hold a dotted tail if `tail`. -/
def groupsOf? (tail : Bool) : List (List Char) → Option (List UInt16)
  | [] => some []
  | [last] =>
    match group? last with
    | some g => some [g]
    | none => if tail then (dotted? last).map dottedGroups else none
  | part :: rest => do return (← group? part) :: (← groupsOf? tail rest)

def groups? (tail : Bool) (text : List Char) : Option (List UInt16) :=
  if text.isEmpty then some [] else groupsOf? tail (text.splitOn ':')

def cutDouble? : List Char → Option (List Char × List Char)
  | ':' :: ':' :: rest => some ([],rest)
  | [] => none
  | c :: rest => (cutDouble? rest).map fun (front,back) => (c :: front,back)

def ofGroups? (groups : List UInt16) : Option Address :=
  if h : groups.length = 8 then some (.v6 ⟨groups.toArray,by simp [h]⟩) else none

def sixteen? (text : List Char) : Option Address :=
  match cutDouble? text with
  | none => (groups? true text).bind ofGroups?
  | some (front,back) =>
    match groups? false front, groups? true back with
    | some head, some tail =>
      let gap := 8 - head.length - tail.length
      if 0 < gap then ofGroups? (head ++ List.replicate gap 0 ++ tail) else none
    | _, _ => none

def read? (text : List Char) : Option Address :=
  match dotted? text with
  | some (a,b,c,d) => some (.v4 a b c d)
  | none => sixteen? text

def parse? (text : String) : Option Address := read? text.toList

end DnsPolicy.Address
