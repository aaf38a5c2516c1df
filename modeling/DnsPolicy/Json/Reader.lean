import DnsPolicy.Json
import DnsPolicy.Text.Digits
import DnsPolicy.Text.Pieces

/-! Reading JSON values. Every reader takes its part off the front of the text. -/
namespace DnsPolicy.Json
open DnsPolicy.Text

def isSpace (c : Char) : Bool := c == ' ' || c == '\t' || c == '\n' || c == '\r'

def skip (text : List Char) : List Char := text.dropWhile isSpace

inductive Piece where
  | char (c : Char)
  | unit (n : Nat)
deriving DecidableEq

def unit? (a b c d : Char) : Option Nat := number? 16 [a,b,c,d]

def escaped? : Char → Option Char
  | '"' => some '"'
  | '\\' => some '\\'
  | '/' => some '/'
  | 'b' => some '\x08'
  | 'f' => some '\x0c'
  | 'n' => some '\n'
  | 'r' => some '\r'
  | 't' => some '\t'
  | _ => none

def pieces? : List Char → Option (List Piece × List Char)
  | [] => none
  | '"' :: rest => some ([],rest)
  | '\\' :: 'u' :: a :: b :: c :: d :: rest =>
    match unit? a b c d with
    | none => none
    | some n => (pieces? rest).map fun (more,rest) => (.unit n :: more,rest)
  | '\\' :: c :: rest =>
    match escaped? c with
    | none => none
    | some e => (pieces? rest).map fun (more,rest) => (.char e :: more,rest)
  | c :: rest =>
    if c.toNat < 0x20 || c == '\\' then none
    else (pieces? rest).map fun (more,rest) => (.char c :: more,rest)

def isHigh (n : Nat) : Bool := 0xd800 ≤ n && n < 0xdc00

def isLow (n : Nat) : Bool := 0xdc00 ≤ n && n < 0xe000

/-- The text the pieces make up: a high surrogate must have a low one behind it. -/
def join? : List Piece → Option (List Char)
  | [] => some []
  | .char c :: rest => (join? rest).map (c :: ·)
  | .unit n :: .unit m :: rest =>
    if isHigh n && isLow m then
      (join? rest).map (Char.ofNat (0x10000 + (n - 0xd800) * 0x400 + (m - 0xdc00)) :: ·)
    else if isHigh n || isLow n then none
    else (join? (.unit m :: rest)).map (Char.ofNat n :: ·)
  | .unit n :: rest =>
    if isHigh n || isLow n then none else (join? rest).map (Char.ofNat n :: ·)

def digits? (text : List Char) : Option (List Char × List Char) :=
  let digits := text.takeWhile Char.isDigit
  if digits.isEmpty then none else some (digits,text.dropWhile Char.isDigit)

/-- A whole part: zero alone, or digits that do not start with zero. -/
def whole? (text : List Char) : Option (List Char × List Char) :=
  match digits? text with
  | some ('0' :: _ :: _,_) => none
  | found => found

def fraction? : List Char → Option (List Char × List Char)
  | '.' :: rest => (digits? rest).map fun (digits,rest) => ('.' :: digits,rest)
  | text => some ([],text)

def signedDigits? : List Char → Option (List Char × List Char)
  | '+' :: rest => (digits? rest).map fun (digits,rest) => ('+' :: digits,rest)
  | '-' :: rest => (digits? rest).map fun (digits,rest) => ('-' :: digits,rest)
  | text => digits? text

def exponent? : List Char → Option (List Char × List Char)
  | 'e' :: rest => (signedDigits? rest).map fun (digits,rest) => ('e' :: digits,rest)
  | 'E' :: rest => (signedDigits? rest).map fun (digits,rest) => ('E' :: digits,rest)
  | text => some ([],text)

def unsigned? (text : List Char) : Option (List Char × List Char) := do
  let (whole,rest) ← whole? text
  let (fraction,rest) ← fraction? rest
  let (exponent,rest) ← exponent? rest
  return (whole ++ fraction ++ exponent,rest)

def number? : List Char → Option (List Char × List Char)
  | '-' :: rest => (unsigned? rest).map fun (literal,rest) => ('-' :: literal,rest)
  | text => unsigned? text

def ofPieces (pieces : List Piece) : Json :=
  match join? pieces with
  | some content => .string (String.ofList content)
  | none => .broken

def ofFields (fields : List (List Piece × Json)) : Json :=
  match fields.mapM fun (name,item) => (join? name).map fun name => (String.ofList name,item) with
  | some fields => .object fields
  | none => .broken

mutual

def value? : Nat → List Char → Option (Json × List Char)
  | 0, _ => none
  | fuel + 1, text =>
    match skip text with
    | '"' :: rest => (pieces? rest).map fun (found,rest) => (ofPieces found,rest)
    | '[' :: rest =>
      match skip rest with
      | ']' :: rest => some (.array [],rest)
      | rest => (items? fuel rest).map fun (items,rest) => (.array items,rest)
    | '{' :: rest =>
      match skip rest with
      | '}' :: rest => some (.object [],rest)
      | rest => (fields? fuel rest).map fun (fields,rest) => (ofFields fields,rest)
    | 'n' :: 'u' :: 'l' :: 'l' :: rest => some (.null,rest)
    | 't' :: 'r' :: 'u' :: 'e' :: rest => some (.bool true,rest)
    | 'f' :: 'a' :: 'l' :: 's' :: 'e' :: rest => some (.bool false,rest)
    | rest => (number? rest).map fun (literal,rest) => (.number literal,rest)

def items? : Nat → List Char → Option (List Json × List Char)
  | 0, _ => none
  | fuel + 1, text =>
    match value? fuel text with
    | none => none
    | some (item,rest) =>
      match skip rest with
      | ']' :: rest => some ([item],rest)
      | ',' :: rest => (items? fuel rest).map fun (items,rest) => (item :: items,rest)
      | _ => none

def fields? : Nat → List Char → Option (List (List Piece × Json) × List Char)
  | 0, _ => none
  | fuel + 1, text =>
    match skip text with
    | '"' :: rest =>
      match pieces? rest with
      | none => none
      | some (name,rest) =>
        match skip rest with
        | ':' :: rest =>
          match value? fuel rest with
          | none => none
          | some (item,rest) =>
            match skip rest with
            | '}' :: rest => some ([(name,item)],rest)
            | ',' :: rest =>
              (fields? fuel rest).map fun (fields,rest) => ((name,item) :: fields,rest)
            | _ => none
        | _ => none
    | _ => none

end

def read? (text : List Char) : Option Json :=
  match value? (2 * text.length + 2) text with
  | some (json,rest) => if (skip rest).isEmpty then some json else none
  | none => none

end DnsPolicy.Json
