import DnsPolicy.Failure
import DnsPolicy.Rule

/-! Lists of rules: where they come from, their text, and the rules on their lines. -/
namespace DnsPolicy
open Text

/-- What there is at a path. A file can be there and still not be read. -/
inductive File where
  | missing
  | unreadable (reason : String)
  | bytes (contents : List UInt8)
deriving DecidableEq, Repr

structure ListSource where
  id : Int
  text : String := ""
  file : File := .missing
deriving DecidableEq, Repr

structure RuleList where
  id : Int
  contents : String
  fileBacked : Bool
deriving DecidableEq, Repr

namespace RuleList

/-- A list without a file, or with an empty one, is empty. -/
def load (source : ListSource) : Except Failure RuleList :=
  if source.id = 0 then .ok ⟨0,source.text,false⟩
  else
    match source.file with
    | .missing | .bytes [] => .ok ⟨source.id,"",false⟩
    | .unreadable reason => .error (.unreadable reason)
    | .bytes bytes =>
      match decode bytes with
      | .ok contents => .ok ⟨source.id,contents,true⟩
      | .error fault => .error (.badBytes fault)

def rulesFrom (id : Int) (line : Nat) : List (List Char) → Except Failure (List Rule)
  | [] => .ok []
  | text :: rest =>
    match Rule.parseLine text id with
    | .error fault => .error (.badLine id line fault)
    | .ok found => (rulesFrom id (line + 1) rest).map (found.toList ++ ·)

def rules (list : RuleList) : Except Failure (List Rule) :=
  rulesFrom list.id 1 (lines list.contents.toList)

end RuleList

end DnsPolicy
