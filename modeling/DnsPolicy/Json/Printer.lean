import DnsPolicy.Json
import DnsPolicy.Text.Digits

/-! Writing JSON values without spaces. -/
namespace DnsPolicy.Json
open DnsPolicy.Text

def hexDigit (n : Nat) : Char := Nat.digitChar (n % 16)

def escape (c : Char) : List Char :=
  match c with
  | '"' => ['\\','"']
  | '\\' => ['\\','\\']
  | '\x08' => ['\\','b']
  | '\x0c' => ['\\','f']
  | '\n' => ['\\','n']
  | '\r' => ['\\','r']
  | '\t' => ['\\','t']
  | c =>
    if c.toNat < 0x20 then ['\\','u','0','0',hexDigit (c.toNat / 16),hexDigit c.toNat]
    else [c]

def writeString (content : List Char) : List Char :=
  '"' :: (content.flatMap escape ++ ['"'])

mutual

def write : Json → List Char
  | .null => "null".toList
  | .bool true => "true".toList
  | .bool false => "false".toList
  | .number literal => literal
  | .string content => writeString content.toList
  | .broken => "\"\\ud800\"".toList
  | .array items => '[' :: (writeItems items ++ [']'])
  | .object fields => '{' :: (writeFields fields ++ ['}'])

def writeItems : List Json → List Char
  | [] => []
  | [item] => write item
  | item :: more => write item ++ ',' :: writeItems more

def writeFields : List (String × Json) → List Char
  | [] => []
  | [(name,item)] => writeString name.toList ++ ':' :: write item
  | (name,item) :: more =>
    writeString name.toList ++ ':' :: (write item ++ ',' :: writeFields more)

end

end DnsPolicy.Json
