import DnsPolicy.Unicode.Unprintable
import DnsPolicy.Text.Digits

/-! Texts shown between quotes, so that every character can be told from its neighbours. -/
namespace DnsPolicy.Text
open DnsPolicy.Unicode

def quoteChar (c : Char) : List Char :=
  match c with
  | '\x00' => ['\\','0']
  | '\t' => ['\\','t']
  | '\n' => ['\\','n']
  | '\r' => ['\\','r']
  | '"' => ['\\','"']
  | '\\' => ['\\','\\']
  | c =>
    if isUnprintable c then ['\\','u','{'] ++ hexadecimal c.toNat ++ ['}'] else [c]

def quoted (text : List Char) : List Char :=
  ['"'] ++ text.flatMap quoteChar ++ ['"']

def quote (text : String) : String := String.ofList (quoted text.toList)

end DnsPolicy.Text
