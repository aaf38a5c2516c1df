import DnsPolicy.Rule.Fault
import DnsPolicy.Text.Pieces

/-! Restriction of a rule to the clients that carry certain tags. -/
namespace DnsPolicy
open Text

structure ClientTags where
  /-- A client must carry one of these, if there are any. -/
  permitted : List String := []
  restricted : List String := []
deriving DecidableEq, Repr

namespace ClientTags

def add (tags : ClientTags) (tag : List Char) : Option ClientTags :=
  match trim tag with
  | [] => none
  | ['~'] => none
  | '~' :: tag => some { tags with restricted := tags.restricted ++ [String.ofList tag] }
  | tag => some { tags with permitted := tags.permitted ++ [String.ofList tag] }

def parse (value : List Char) : Except RuleFault ClientTags :=
  match (value.splitOn '|').foldlM add {} with
  | some tags => .ok tags
  | none => .error (.badModifier (String.ofList ("ctag=".toList ++ value)))

def allows (tags : ClientTags) (client : List String) : Bool :=
  !tags.restricted.any client.contains
    && (tags.permitted.isEmpty || tags.permitted.any client.contains)

end ClientTags

end DnsPolicy
