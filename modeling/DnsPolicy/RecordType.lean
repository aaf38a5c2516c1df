import DnsPolicy.Text.Digits
import DnsPolicy.Text.Pieces

/-! The query types a decision is made for. -/
namespace DnsPolicy
open Text

inductive RecordType where
  | a
  | aaaa
  | cname
  | other (code : UInt16)
deriving DecidableEq, Repr

namespace RecordType

def ofCode (code : UInt16) : RecordType :=
  if code = 1 then .a else if code = 28 then .aaaa else if code = 5 then .cname else .other code

def code : RecordType → UInt16
  | .a => 1
  | .aaaa => 28
  | .cname => 5
  | .other code => code

def name : RecordType → String
  | .a => "A"
  | .aaaa => "AAAA"
  | .cname => "CNAME"
  | .other code => "TYPE" ++ String.ofList (decimal code.toNat)

/-- The upper-case form of a character as far as it lies within ASCII. Any other character is kept,
since no mnemonic can come of it. -/
def upperAscii (c : Char) : List Char :=
  match c with
  | 'ı' => ['I']
  | 'ſ' => ['S']
  | 'ß' => ['S','S']
  | 'ﬀ' => ['F','F']
  | 'ﬁ' => ['F','I']
  | 'ﬂ' => ['F','L']
  | 'ﬃ' => ['F','F','I']
  | 'ﬄ' => ['F','F','L']
  | 'ﬅ' => ['S','T']
  | 'ﬆ' => ['S','T']
  | c => [c.toUpper]

/-- A code of sixteen bits in decimal, with a plus sign in front if one likes. -/
def code? (text : List Char) : Option UInt16 :=
  let digits := (after? ['+'] text).getD text
  match number? 10 digits with
  | some n => if n < 65536 then some (.ofNat n) else none
  | none => none

def ofUpper? (text : List Char) : Option RecordType :=
  if text = "A".toList then some .a
  else if text = "AAAA".toList then some .aaaa
  else if text = "CNAME".toList then some .cname
  else if text = "MX".toList then some (.other 15)
  else if text = "TXT".toList then some (.other 16)
  else if text = "HTTPS".toList then some (.other 65)
  else (after? "TYPE".toList text).bind fun digits => (code? digits).map ofCode

def parse? (text : String) : Option RecordType := ofUpper? (text.toList.flatMap upperAscii)

end RecordType

end DnsPolicy
