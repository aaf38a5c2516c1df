import DnsPolicy.Unicode.Folding

/-! Sets of characters, built from ranges by the set operations and by closing under case. -/
namespace DnsPolicy.Regex
open DnsPolicy.Unicode

inductive CharSet where
  | oneOf (chars : List Char)
  | range (first last : Char)
  | table (ranges : Ranges)
  | union (left right : CharSet)
  | inter (left right : CharSet)
  | compl (set : CharSet)
  /-- All characters that differ from a member in case only. -/
  | folded (set : CharSet)
  | foldedAscii (set : CharSet)

namespace CharSet

def contains : CharSet → Char → Bool
  | .oneOf chars, c => chars.contains c
  | .range first last, c => first ≤ c && c ≤ last
  | .table ranges, c => ranges.contains c
  | .union left right, c => left.contains c || right.contains c
  | .inter left right, c => left.contains c && right.contains c
  | .compl set, c => !set.contains c
  | .folded set, c => (caseOrbit c).any set.contains
  | .foldedAscii set, c => set.contains c || set.contains c.toLower || set.contains c.toUpper

def empty : CharSet := .oneOf []

def any : CharSet := .compl empty

def notLineFeed : CharSet := .compl (.oneOf ['\n'])

def notLineBreak : CharSet := .compl (.oneOf ['\n','\r'])

def ascii : CharSet := .range '\x00' '\x7f'

def without (left right : CharSet) : CharSet := .inter left (.compl right)

def exactlyOne (left right : CharSet) : CharSet :=
  .union (without left right) (without right left)

def negateIf (negated : Bool) (set : CharSet) : CharSet := if negated then .compl set else set

/-- No byte above ASCII is in the set. -/
def isAscii (set : CharSet) : Bool :=
  (List.range 128).all fun n => !set.contains (Char.ofNat (128 + n))

end CharSet

end DnsPolicy.Regex
