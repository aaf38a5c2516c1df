import DnsPolicy.Rule.Fault
import DnsPolicy.Text.Quoted
import DnsPolicy.Text.Utf8

/-! What can go wrong outside of a single rule. -/
namespace DnsPolicy
open Text

inductive RewriteFault where
  | badDomain (domain : String)
  | emptyAnswer (domain : String)
  | badAnswer (answer : String)
deriving DecidableEq, Repr

def RewriteFault.message : RewriteFault → String
  | .badDomain domain => "bad domain " ++ quote domain
  | .emptyAnswer domain => "empty answer for " ++ quote domain
  | .badAnswer answer => "bad answer " ++ quote answer

inductive Failure where
  /-- A list file is not UTF-8. -/
  | badBytes (fault : Utf8Fault)
  | missingFile
  | unreadable (reason : String)
  | notText
  /-- The reason that settings cannot be read, in which the message would end, is not kept. -/
  | badSettings
  /-- A line of a list, counted from one, is not a rule. -/
  | badLine (listId : Int) (line : Nat) (fault : RuleFault)
  | badRule (fault : RuleFault)
  | badRewrite (fault : RewriteFault)
  | lookup (name : String) (reason : String)
  | closed
deriving DecidableEq, Repr

def Failure.message : Failure → String
  | .badBytes fault => "IO error: " ++ fault.message
  | .missingFile => "IO error: No such file or directory (os error 2)"
  | .unreadable reason => "IO error: " ++ reason
  | .notText => "IO error: stream did not contain valid UTF-8"
  | .badSettings => "YAML parsing error: "
  | .badLine listId line fault =>
    "rule list " ++ String.ofList (decimalInt listId) ++ ", line " ++ String.ofList (decimal line)
      ++ ": " ++ fault.message
  | .badRule fault => "invalid rule: " ++ fault.message
  | .badRewrite fault => "invalid rewrite entry: " ++ fault.message
  | .lookup name reason => name ++ " lookup failed: " ++ reason
  | .closed => "filter is closed"

end DnsPolicy
