import DnsPolicy.Regex

/-! How much space an expression takes when every repetition is written out, in bytes and by rule of
thumb. -/
namespace DnsPolicy.Regex

/-- The space of a choice between characters. Within ASCII it is a single state. -/
def choiceCost (chars : List Char) : Nat :=
  match chars with
  | [c] => 32 * c.utf8Size
  | chars =>
    if chars.all fun c => c.toNat < 128 then 64 + 8 * chars.length
    else chars.foldl (fun cost c => cost + 4 + 32 * c.utf8Size) 64

def CharSet.cost : CharSet → Nat
  | .oneOf chars => choiceCost chars.eraseDups
  | .range _ _ => 80
  | .table ranges => 80 * ranges.length
  | .union left right => left.cost + right.cost
  | .inter left right => left.cost + right.cost
  | .compl set => 600 + set.cost
  | .folded set => 2 * set.cost
  | .foldedAscii set => set.cost

def joint : Nat := 40

def cost : Regex → Nat
  | .empty => joint
  | .char set => set.cost
  | .anchor _ => joint
  | .seq first second => first.cost + second.cost
  | .either left right => left.cost + right.cost + joint
  | .repeated body least none => max 1 least * body.cost + joint
  | .repeated body least (some most) => most * body.cost + (most - least + 1) * joint

end DnsPolicy.Regex
