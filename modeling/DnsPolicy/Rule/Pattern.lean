import DnsPolicy.Hostname
import DnsPolicy.Regex.Parser
import DnsPolicy.Rule.Fault

/-! Which hosts a network rule is about. -/
namespace DnsPolicy
open Text

inductive Pattern where
  | domain (name : String)
  | exact (name : String)
  | search (regex : Regex)

namespace Pattern

/-- `host` is `name`, or ends in `name` behind a dot. -/
def isBelow (name host : List Char) : Bool := host == name || ('.' :: name).isSuffixOf host

def covers : Pattern → String → Bool
  | .domain name, host => isBelow name.toList host.toList
  | .exact name, host => host == name
  | .search regex, host => regex.finds host.toList

def source? (text : List Char) : Option (List Char) :=
  match text with
  | '/' :: rest => if 2 ≤ rest.length ∧ rest.getLast? = some '/' then some rest.dropLast else none
  | _ => none

/-- Whether the bars in front of a name stand for a whole host, and the name behind them. -/
def cutBars : List Char → Bool × List Char
  | '|' :: '|' :: rest => (false,rest)
  | '|' :: rest => (true,rest)
  | text => (false,text)

/-- Reads an expression with something in front of it that is not told where it cannot be read. -/
def compile (front source : List Char) : Except RuleFault Pattern :=
  match Regex.parse? (front ++ source) with
  | some regex => .ok (.search regex)
  | none => .error (.badRegex (String.ofList source))

/-- The expression for a name with asterisks: any run of characters for each of them, all else as it
stands there, and in front the start of the host or, unless it is for the whole host, a dot. -/
def wildcardSource (whole : Bool) (name : List Char) : List Char :=
  let body := List.intercalate ".*".toList ((name.splitOn '*').map Regex.escape)
  (if whole then "^".toList else "(^|\\.)".toList) ++ body ++ "$".toList

def ofName (whole : Bool) (name : List Char) : Except RuleFault Pattern :=
  if name.contains '*' then compile [] (wildcardSource whole name)
  else if whole then .ok (.exact (String.ofList name))
  else .ok (.domain (String.ofList name))

def parse (text : List Char) : Except RuleFault Pattern :=
  match source? text with
  | some source => compile "(?i)".toList source
  | none =>
    let (whole,rest) := cutBars text
    let name := Unicode.lower (trimEndWhile (fun c => c == '^' || c == '|') rest)
    if name.isEmpty then .error .emptyPattern
    else if !Hostname.isPattern name || name.head? == some '.' then
      .error (.badPattern (String.ofList text))
    else ofName whole name

end Pattern

end DnsPolicy
