import DnsPolicy.Text.Digits
import DnsPolicy.Text.Pieces

/-! What a plain scalar says: nothing, a truth value, a number, or a text. -/
namespace DnsPolicy.Yaml
open DnsPolicy.Text

def isNull (text : List Char) : Bool :=
  text.isEmpty || ["null","Null","NULL","~"].contains (String.ofList text)

def bool? (text : List Char) : Option Bool :=
  if ["true","True","TRUE"].contains (String.ofList text) then some true
  else if ["false","False","FALSE"].contains (String.ofList text) then some false
  else none

def cutSign (text : List Char) : List Char :=
  match text with
  | '+' :: rest => rest
  | '-' :: rest => rest
  | text => text

/-- A number that starts with a zero it does not need is a text. -/
def hasLoneZero (text : List Char) : Bool :=
  match cutSign text with
  | '0' :: d :: rest => d.isDigit && rest.all Char.isDigit
  | _ => false

def natural? (text : List Char) : Option Nat :=
  match text with
  | '0' :: 'x' :: digits => number? 16 digits
  | '0' :: 'o' :: digits => number? 8 digits
  | '0' :: 'b' :: digits => number? 2 digits
  | digits => number? 10 digits

def integer? (text : List Char) : Option Int :=
  if hasLoneZero text then none
  else
    match text with
    | '-' :: rest =>
      (natural? rest).bind fun n => if n ≤ Nat.pow 2 127 then some (-(n : Int)) else none
    | '+' :: rest => (natural? rest).bind fun n => if n < Nat.pow 2 128 then some (n : Int) else none
    | rest => (natural? rest).bind fun n => if n < Nat.pow 2 128 then some (n : Int) else none

/-- A number of thirty-two bits. It has no minus sign, not even in front of zero. -/
def word? (text : List Char) : Option UInt32 :=
  match text, integer? text with
  | '-' :: _, _ | _, none => none
  | _, some n => if n < 4294967296 then some (.ofNat n.toNat) else none

def mantissa? (text : List Char) : Option (Nat × Nat × List Char) :=
  let whole := text.takeWhile Char.isDigit
  let rest := text.drop whole.length
  let (places,rest) :=
    match rest with
    | '.' :: more => (more.takeWhile Char.isDigit,more.dropWhile Char.isDigit)
    | rest => ([],rest)
  if whole.isEmpty && places.isEmpty then none
  else some (ofDigits 10 (whole ++ places),places.length,rest)

def exponent? (text : List Char) : Option Int :=
  match text with
  | [] => some 0
  | c :: rest =>
    if c = 'e' ∨ c = 'E' then
      match rest with
      | '-' :: digits => (number? 10 digits).map fun n => -(n : Int)
      | '+' :: digits => (number? 10 digits).map Int.ofNat
      | digits => (number? 10 digits).map Int.ofNat
    else none

/-- The least number that is rounded to infinity: halfway behind the greatest finite one. -/
def overflow : Nat := Nat.pow 2 1024 - Nat.pow 2 970

/-- Whether `m · 10 ^ e` is below the numbers that are rounded to infinity. More places than `m` has
digits make no difference. -/
def isFinite (m : Nat) (e : Int) : Bool :=
  if e < 0 then m < overflow * Nat.pow 10 (min (-e).toNat m.log2)
  else m == 0 || (e < 400 && m * Nat.pow 10 e.toNat < overflow)

def isFloat (text : List Char) : Bool :=
  let unsigned := match text with
    | '+' :: rest => rest
    | text => text
  let named := [".inf",".Inf",".INF"].contains (String.ofList unsigned)
    || ["-.inf","-.Inf","-.INF",".nan",".NaN",".NAN"].contains (String.ofList text)
  let digits :=
    match text with
    | '-' :: rest => rest
    | _ => unsigned
  named ||
    match mantissa? digits with
    | none => false
    | some (m,places,rest) =>
      match exponent? rest with
      | none => false
      | some e => isFinite m (e - places)

def readsAsText (text : List Char) : Bool :=
  !isNull text && (bool? text).isNone && (integer? text).isNone && !hasLoneZero text
    && !isFloat text

def standsPlain (text : List Char) : Bool :=
  let isSpace := fun c : Char => c == ' ' || c == '\t'
  let rec colons : List Char → Bool
    | [] => true
    | ':' :: rest => !rest.isEmpty && !isSpace (rest.headD ' ') && colons rest
    | c :: rest => (c != ' ' || rest.head? != some '#') && colons rest
  match text with
  | [] => false
  | c :: rest =>
    !",[]\x7b\x7d#&*!|>'\"%@\x60".toList.contains c
      && !((c == '-' || c == '?') && (rest.isEmpty || isSpace (rest.headD ' ')))
      && !(["---".toList,"...".toList].contains (text.take 3))
      && !isSpace c && !isSpace (text.getLast?.getD ' ') && colons text

/-- A text without line breaks as a scalar: plain if it is read back so, else in single quotes. -/
def writeText (text : List Char) : List Char :=
  if readsAsText text && standsPlain text then text
  else '\'' :: text.flatMap (fun c => if c = '\'' then ['\'','\''] else [c]) ++ ['\'']

end DnsPolicy.Yaml
