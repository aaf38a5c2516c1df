import DnsPolicy.Address.Reader
import DnsPolicy.Rule.HostRule
import DnsPolicy.Rule.NetworkRule

/-! Rules, and the lines of a rule list. -/
namespace DnsPolicy
open Text

inductive Rule where
  | network (rule : NetworkRule)
  | host (rule : HostRule)

namespace Rule

def text : Rule → String
  | .network rule => rule.text
  | .host rule => rule.text

def listId : Rule → Int
  | .network rule => rule.listId
  | .host rule => rule.listId

def cosmeticMarks : List (List Char) :=
  ["##","#@#","#?#","#$#","#%#","#@$#"].map String.toList

/-- Blank lines, comments and rules about pages say nothing about hosts. -/
def isSilent (line : List Char) : Bool :=
  line.isEmpty || line.head? == some '!' || line.head? == some '#'
    || cosmeticMarks.any (mentions · line)

/-- Reads a line. One that starts with an address is a host rule. -/
def parseLine (line : List Char) (listId : Int) : Except RuleFault (Option Rule) :=
  let line := trim line
  if isSilent line then .ok none
  else
    match (words line).head?.bind Address.read? with
    | some address => (HostRule.parse line address listId).map fun rule => some (.host rule)
    | none => (NetworkRule.parse line listId).map fun rule => some (.network rule)

end Rule

end DnsPolicy
