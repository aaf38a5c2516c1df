import DnsPolicy.Regex.CharSet
import DnsPolicy.Unicode.Word

/-! Regular expressions over texts, and a matcher that follows all ways through a text at once.
A text of `n` characters has `n + 1` places: in front of each character and behind the last. A set
of places is a list of that many booleans, and an expression turns the places where a match may
start into those where it may end. -/
namespace DnsPolicy
open Unicode

namespace Regex

/-- What a place must look like. With `unicode` unset only ASCII has word characters. -/
inductive Anchor where
  | textStart
  | textEnd
  | lineStart
  | lineEnd
  | breakStart
  | breakEnd
  | wordEdge (unicode : Bool)
  | noWordEdge (unicode : Bool)
  | wordStart (unicode : Bool)
  | wordEnd (unicode : Bool)
  | wordStartHalf (unicode : Bool)
  | wordEndHalf (unicode : Bool)
deriving DecidableEq

structure Place where
  before : Option Char
  after : Option Char

def isWordSide (unicode : Bool) : Option Char → Bool
  | none => false
  | some c => if unicode then isWord c else c.isAlphanum || c == '_'

def Anchor.holds (place : Place) : Anchor → Bool
  | .textStart => place.before.isNone
  | .textEnd => place.after.isNone
  | .lineStart => place.before.isNone || place.before == some '\n'
  | .lineEnd => place.after.isNone || place.after == some '\n'
  | .breakStart =>
    place.before.isNone || place.before == some '\n'
      || (place.before == some '\r' && place.after != some '\n')
  | .breakEnd =>
    place.after.isNone || place.after == some '\r'
      || (place.after == some '\n' && place.before != some '\r')
  | .wordEdge u => isWordSide u place.before != isWordSide u place.after
  | .noWordEdge u => isWordSide u place.before == isWordSide u place.after
  | .wordStart u => !isWordSide u place.before && isWordSide u place.after
  | .wordEnd u => isWordSide u place.before && !isWordSide u place.after
  | .wordStartHalf u => !isWordSide u place.before
  | .wordEndHalf u => !isWordSide u place.after

end Regex

inductive Regex where
  | empty
  | char (set : Regex.CharSet)
  | anchor (mark : Regex.Anchor)
  | seq (first second : Regex)
  | either (left right : Regex)
  /-- At least `least` matches one behind the other, and at most `most` if there is a bound. -/
  | repeated (body : Regex) (least : Nat) (most : Option Nat)

namespace Regex

def placesAfter (before : Option Char) : List Char → List Place
  | [] => [⟨before,none⟩]
  | c :: rest => ⟨before,some c⟩ :: placesAfter (some c) rest

def places (text : List Char) : List Place := placesAfter none text

def advance (set : CharSet) (text : List Char) (starts : List Bool) : List Bool :=
  false :: List.zipWith (fun here c => here && set.contains c) starts text

/-- Applies `f` up to `n` times and stops early where nothing changes any more. -/
def times (f : List Bool → List Bool) : Nat → List Bool → List Bool
  | 0, starts => starts
  | n + 1, starts =>
    let next := f starts
    if next = starts then starts else times f n next

def reach (f : List Bool → List Bool) : Nat → List Bool → List Bool
  | 0, starts => starts
  | n + 1, starts =>
    let next := List.zipWith (· || ·) starts (f starts)
    if next = starts then starts else reach f n next

/-- The places where matches end that start at one of the given places. -/
def ends (text : List Char) (around : List Place) : Regex → List Bool → List Bool
  | .empty, starts => starts
  | .char set, starts => advance set text starts
  | .anchor mark, starts => List.zipWith (fun here place => here && mark.holds place) starts around
  | .seq first second, starts => ends text around second (ends text around first starts)
  | .either left right, starts =>
    List.zipWith (· || ·) (ends text around left starts) (ends text around right starts)
  | .repeated body least most, starts =>
    let more :=
      match most with
      | none => text.length + 1
      | some most => min (most - least) (text.length + 1)
    reach (ends text around body) more (times (ends text around body) least starts)

def finds (regex : Regex) (text : List Char) : Bool :=
  let around := places text
  (ends text around regex (around.map fun _ => true)).any id

end Regex

end DnsPolicy
