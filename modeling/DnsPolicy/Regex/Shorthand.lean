import DnsPolicy.Regex.CharSet
import DnsPolicy.Unicode.Blank
import DnsPolicy.Unicode.Category
import DnsPolicy.Unicode.Word

/-! Character classes with names: digits, blanks and word characters, and the classes of ASCII. -/
namespace DnsPolicy.Regex
open DnsPolicy.Unicode

inductive Shorthand where
  | digit
  | blank
  | word
deriving DecidableEq

def Shorthand.set (unicode : Bool) : Shorthand → CharSet
  | .digit => if unicode then .table decimalNumber else .range '0' '9'
  | .blank => if unicode then .table blankRanges else .oneOf ['\t','\n','\x0b','\x0c','\r',' ']
  | .word =>
    if unicode then .table wordRanges
    else .table [(0x30,0x39),(0x41,0x5a),(0x5f,0x5f),(0x61,0x7a)]

def asciiClass? (name : List Char) : Option CharSet :=
  match String.ofList name with
  | "alnum" => some (.table [(0x30,0x39),(0x41,0x5a),(0x61,0x7a)])
  | "alpha" => some (.table [(0x41,0x5a),(0x61,0x7a)])
  | "ascii" => some (.table [(0x00,0x7f)])
  | "blank" => some (.table [(0x09,0x09),(0x20,0x20)])
  | "cntrl" => some (.table [(0x00,0x1f),(0x7f,0x7f)])
  | "digit" => some (.table [(0x30,0x39)])
  | "graph" => some (.table [(0x21,0x7e)])
  | "lower" => some (.table [(0x61,0x7a)])
  | "print" => some (.table [(0x20,0x7e)])
  | "punct" => some (.table [(0x21,0x2f),(0x3a,0x40),(0x5b,0x60),(0x7b,0x7e)])
  | "space" => some (.table [(0x09,0x0d),(0x20,0x20)])
  | "upper" => some (.table [(0x41,0x5a)])
  | "word" => some (.table [(0x30,0x39),(0x41,0x5a),(0x5f,0x5f),(0x61,0x7a)])
  | "xdigit" => some (.table [(0x30,0x39),(0x41,0x46),(0x61,0x66)])
  | _ => none

end DnsPolicy.Regex
