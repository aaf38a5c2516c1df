/-! Decoding of UTF-8, with the place and the length of the first bad sequence. -/
namespace DnsPolicy.Text

/-- Where bytes stop being UTF-8: `at` bytes before it are good. The bad sequence has `length`
bytes, or the bytes end inside a sequence that could still become good. -/
inductive Utf8Fault where
  | invalid (length : Nat) (start : Nat)
  | incomplete (start : Nat)
deriving DecidableEq, Repr

def Utf8Fault.message : Utf8Fault → String
  | .invalid length start =>
    "invalid utf-8 sequence of " ++ toString length ++ " bytes from index " ++ toString start
  | .incomplete start => "incomplete utf-8 byte sequence from index " ++ toString start

def isTail (b : UInt8) : Bool := 0x80 ≤ b && b ≤ 0xbf

/-- Whether `second` may follow the leading byte `lead`. The bounds leave out long forms,
surrogates and numbers above the last code point. -/
def isSecond (lead second : UInt8) : Bool :=
  if lead = 0xe0 then 0xa0 ≤ second && second ≤ 0xbf
  else if lead = 0xed then 0x80 ≤ second && second ≤ 0x9f
  else if lead = 0xf0 then 0x90 ≤ second && second ≤ 0xbf
  else if lead = 0xf4 then 0x80 ≤ second && second ≤ 0x8f
  else isTail second

def sequenceLength (lead : UInt8) : Nat :=
  if lead < 0x80 then 1
  else if 0xc2 ≤ lead && lead ≤ 0xdf then 2
  else if 0xe0 ≤ lead && lead ≤ 0xef then 3
  else if 0xf0 ≤ lead && lead ≤ 0xf4 then 4
  else 0

def codePoint (lead : UInt8) (tails : List UInt8) : Nat :=
  let low :=
    match tails.length with
    | 0 => lead.toNat
    | 1 => lead.toNat % 32
    | 2 => lead.toNat % 16
    | _ => lead.toNat % 8
  tails.foldl (fun n b => 64 * n + b.toNat % 64) low

-- The cases of the match lie deeper than the default depth once more of the library is around.
set_option maxRecDepth 2000 in
def decodeFrom (start : Nat) : List UInt8 → Except Utf8Fault (List Char)
  | [] => .ok []
  | lead :: rest =>
    match sequenceLength lead, rest with
    | 1, rest => do return Char.ofNat lead.toNat :: (← decodeFrom (start + 1) rest)
    | 2, [] => .error (.incomplete start)
    | 2, b :: rest =>
      if isTail b then
        do return Char.ofNat (codePoint lead [b]) :: (← decodeFrom (start + 2) rest)
      else .error (.invalid 1 start)
    | 3, [] => .error (.incomplete start)
    | 3, [b] => if isSecond lead b then .error (.incomplete start) else .error (.invalid 1 start)
    | 3, b :: c :: rest =>
      if !isSecond lead b then .error (.invalid 1 start)
      else if !isTail c then .error (.invalid 2 start)
      else do return Char.ofNat (codePoint lead [b,c]) :: (← decodeFrom (start + 3) rest)
    | 4, [] => .error (.incomplete start)
    | 4, [b] => if isSecond lead b then .error (.incomplete start) else .error (.invalid 1 start)
    | 4, [b,c] =>
      if !isSecond lead b then .error (.invalid 1 start)
      else if isTail c then .error (.incomplete start)
      else .error (.invalid 2 start)
    | 4, b :: c :: d :: rest =>
      if !isSecond lead b then .error (.invalid 1 start)
      else if !isTail c then .error (.invalid 2 start)
      else if !isTail d then .error (.invalid 3 start)
      else do return Char.ofNat (codePoint lead [b,c,d]) :: (← decodeFrom (start + 4) rest)
    | _, _ => .error (.invalid 1 start)

def decode (bytes : List UInt8) : Except Utf8Fault String :=
  (decodeFrom 0 bytes).map String.ofList

end DnsPolicy.Text
