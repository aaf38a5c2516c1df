/-! Sets of characters written as sorted ranges of code points, and maps written as runs. -/
namespace DnsPolicy.Unicode

/-- Ascending, disjoint ranges of code points, both ends included. -/
abbrev Ranges := List (Nat × Nat)

def Ranges.has : Ranges → Nat → Bool
  | [], _ => false
  | (lo,hi) :: rest, n => lo ≤ n && (n ≤ hi || Ranges.has rest n)

def Ranges.contains (ranges : Ranges) (c : Char) : Bool := ranges.has c.toNat

/-- The code points `first, first + every, …, last`, each sent to the one `shift` further on. -/
structure Run where
  first : Nat
  last : Nat
  every : Nat
  shift : Int

def Run.covers (run : Run) (n : Nat) : Bool :=
  run.first ≤ n && n ≤ run.last && (n - run.first) % run.every == 0

def Run.apply (runs : List Run) (c : Char) : Char :=
  match runs.find? (fun run => run.covers c.toNat) with
  | none => c
  | some run => Char.ofNat (c.toNat + run.shift).toNat

def Run.preimage (run : Run) (c : Char) : Option Char :=
  let n := (c.toNat - run.shift).toNat
  if run.covers n then some (Char.ofNat n) else none

end DnsPolicy.Unicode
