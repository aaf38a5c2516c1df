import DnsPolicy.Rule.ClientTags
import DnsPolicy.Rule.Pattern
import DnsPolicy.Text.Quoted

/-! Network rules: a pattern that blocks hosts or, behind `@@`, allows them, and modifiers behind a
dollar sign. -/
namespace DnsPolicy
open Text

structure NetworkRule where
  text : String
  listId : Int
  allow : Bool
  important : Bool
  tags : Option ClientTags
  pattern : Pattern

structure Modifiers where
  important : Bool := false
  tags : Option ClientTags := none

namespace Modifiers

def add (modifiers : Modifiers) (text : List Char) : Except RuleFault Modifiers :=
  let text := trim text
  match cut? '=' text with
  | none =>
    if text = "important".toList then .ok { modifiers with important := true }
    else .error (.badModifier (String.ofList text))
  | some (name,value) =>
    if name = "ctag".toList then
      (ClientTags.parse value).map fun tags => { modifiers with tags := some tags }
    else .error (.badModifier (String.ofList text))

/-- Reads modifiers between commas. Of several tag lists the last counts. -/
def parse (text : List Char) : Except RuleFault Modifiers :=
  (text.splitOn ',').foldlM add {}

end Modifiers

namespace NetworkRule

def cutClosing? : List Char → Option (List Char × List Char)
  | [] => none
  | c :: rest =>
    match cutClosing? rest with
    | some (front,back) => some (c :: front,back)
    | none =>
      match c, rest with
      | '/', '$' :: back => some (['/'],back)
      | _, _ => none

/-- The pattern of a rule and its modifiers. Within a regular expression the dollar sign is an anchor,
so there only one right behind the closing slash counts. -/
def cutModifiers : List Char → List Char × Option (List Char)
  | '/' :: rest =>
    match cutClosing? rest with
    | some (front,back) => ('/' :: front,some back)
    | none => ('/' :: rest,none)
  | body =>
    match cut? '$' body with
    | some (front,back) => (front,some back)
    | none => (body,none)

def cutAllow (text : List Char) : Bool × List Char :=
  match text with
  | '@' :: '@' :: rest => (true,rest)
  | text => (false,text)

def parse (text : List Char) (listId : Int) : Except RuleFault NetworkRule := do
  let text := trim text
  let (allow,body) := cutAllow text
  let (pattern,modifiers) := cutModifiers body
  let found ← match modifiers with
    | none => pure {}
    | some modifiers => Modifiers.parse modifiers
  return {
    text := String.ofList text
    listId
    allow
    important := found.important
    tags := found.tags
    pattern := ← Pattern.parse pattern }

def covers (rule : NetworkRule) (host : String) (client : List String) : Bool :=
  (match rule.tags with
    | none => true
    | some tags => tags.allows client) && rule.pattern.covers host

/-- Important blocking rules come before allowing rules and these before other blocking rules. -/
def rank (rule : NetworkRule) : Nat :=
  if rule.allow then 2 else if rule.important then 3 else 1

/-- Of several rules for a host the one with the highest priority decides: by rank, and within a rank
rules for tagged clients come first. -/
def priority (rule : NetworkRule) : Nat := 2 * rule.rank + if rule.tags.isSome then 1 else 0

def shown (rule : NetworkRule) : String :=
  "NetworkRule \x7b text: " ++ quote rule.text ++ ", list_id: "
    ++ String.ofList (decimalInt rule.listId) ++ " \x7d"

end NetworkRule

end DnsPolicy
