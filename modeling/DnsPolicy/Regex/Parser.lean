import DnsPolicy.Regex
import DnsPolicy.Regex.Cost
import DnsPolicy.Regex.Shorthand
import DnsPolicy.Regex.Property
import DnsPolicy.Text.Digits
import DnsPolicy.Text.Pieces

/-! Reading regular expressions. A reader takes its part off the front of the source and gives nothing
where the source is not a regular expression. -/
namespace DnsPolicy.Regex
open DnsPolicy.Text DnsPolicy.Unicode

structure Flags where
  caseless : Bool := false
  multiline : Bool := false
  dotAll : Bool := false
  lazy : Bool := false
  unicode : Bool := true
  crlf : Bool := false
  verbose : Bool := false

abbrev Change := Char × Bool

def Flags.set (flags : Flags) : Change → Flags
  | ('i',on) => { flags with caseless := on }
  | ('m',on) => { flags with multiline := on }
  | ('s',on) => { flags with dotAll := on }
  | ('U',on) => { flags with lazy := on }
  | ('u',on) => { flags with unicode := on }
  | ('R',on) => { flags with crlf := on }
  | ('x',on) => { flags with verbose := on }
  | _ => flags

def isFlag (c : Char) : Bool := "imsUuRx".toList.contains c

/-- In a comment everything up to the line feed is passed over. -/
def skipVerbose : Bool → List Char → List Char
  | _, [] => []
  | true, c :: rest => skipVerbose (c != '\n') rest
  | false, c :: rest =>
    if isBlank c then skipVerbose false rest
    else if c == '#' then skipVerbose true rest
    else c :: rest

def Flags.skip (flags : Flags) (source : List Char) : List Char :=
  if flags.verbose then skipVerbose false source else source

structure Fragment where
  regex : Regex
  depth : Nat
  repeats : Bool := true

/-- A character in the source. One that was written with two hexadecimal digits may also stand for a
byte. -/
structure Literal where
  char : Char
  byte : Bool := false

inductive Escape where
  | literal (literal : Literal)
  | set (shorthand : Shorthand) (negated : Bool)
  | property (set : CharSet) (negated : Bool)
  | anchor (mark : Anchor)

def isMeta (c : Char) : Bool := "\\.+*?()|[]\x7b\x7d^$#&-~".toList.contains c

def escape (text : List Char) : List Char := text.flatMap fun c => if isMeta c then ['\\',c] else [c]

/-- A backslash takes the meaning from any character of ASCII but letters, digits and angles. -/
def isEscapable (c : Char) : Bool :=
  isMeta c || (c.toNat < 0x80 && !c.isAlphanum && c != '<' && c != '>')

def scalar? (n : Nat) : Option Char := if n.isValidChar then some (Char.ofNat n) else none

def isHex (c : Char) : Bool := isDigitOf 16 c

def hexDigits? (flags : Flags) : Nat → List Char → Option (List Char × List Char)
  | 0, source => some ([],source)
  | count + 1, source =>
    match flags.skip source with
    | [] => none
    | c :: rest =>
      if isHex c then (hexDigits? flags count rest).map fun (digits,rest) => (c :: digits,rest)
      else none

/-- What stands in front of the closing brace, without the blanks and comments between its characters,
and what follows the brace. -/
def braced? (flags : Flags) : Bool → List Char → Option (List Char × List Char)
  | _, [] => none
  | true, c :: rest => braced? flags (c != '\n') rest
  | false, c :: rest =>
    if c = '}' then some ([],rest)
    else if flags.verbose && isBlank c then braced? flags false rest
    else if flags.verbose && c = '#' then braced? flags true rest
    else (braced? flags false rest).map fun (inside,rest) => (c :: inside,rest)

def bracedHex? (flags : Flags) (source : List Char) : Option (List Char × List Char) := do
  let (digits,rest) ← braced? flags false source
  if digits.all isHex && !digits.isEmpty then return (digits,rest) else none

def codePoint? (flags : Flags) (kind : Char) (source : List Char) :
    Option (Literal × List Char) := do
  match flags.skip source with
  | '{' :: rest =>
    let (digits,rest) ← bracedHex? flags rest
    return ({ char := ← scalar? (ofDigits 16 digits) },rest)
  | source =>
    let count := if kind = 'x' then 2 else if kind = 'u' then 4 else 8
    let (digits,rest) ← hexDigits? flags count source
    return ({ char := ← scalar? (ofDigits 16 digits), byte := kind == 'x' },rest)

def property? (flags : Flags) (source : List Char) : Option (CharSet × List Char) := do
  match flags.skip source with
  | '{' :: rest =>
    let (name,rest) ← braced? flags false rest
    return (← propertySet? name,rest)
  | c :: rest => if c = '\\' then none else return (← propertySet? [c],rest)
  | [] => none

/-- A word boundary of a special kind, named in braces. A brace with something else in it is left to
be read as a repetition. -/
def wordBoundary? (flags : Flags) (source : List Char) : Option (Anchor × List Char) :=
  let plain := some (Anchor.wordEdge flags.unicode,source)
  match source with
  | '{' :: rest =>
    let inside := flags.skip rest
    let isLetter := fun c : Char => c.isAlpha || c == '-'
    match inside with
    | [] => none
    | c :: _ =>
      if !isLetter c then plain
      else
        match String.ofList (inside.takeWhile isLetter), inside.dropWhile isLetter with
        | "start", '}' :: rest => some (.wordStart flags.unicode,rest)
        | "end", '}' :: rest => some (.wordEnd flags.unicode,rest)
        | "start-half", '}' :: rest => some (.wordStartHalf flags.unicode,rest)
        | "end-half", '}' :: rest => some (.wordEndHalf flags.unicode,rest)
        | _, _ => none
  | _ => plain

def escape? (flags : Flags) : List Char → Option (Escape × List Char)
  | [] => none
  | c :: rest =>
    let literal := fun char : Char => some (Escape.literal { char },rest)
    let set := fun (shorthand : Shorthand) negated => some (Escape.set shorthand negated,rest)
    match c with
    | 'x' | 'u' | 'U' => (codePoint? flags c rest).map fun (found,rest) => (.literal found,rest)
    | 'p' | 'P' => (property? flags rest).map fun (found,rest) => (.property found (c == 'P'),rest)
    | 'd' => set .digit false
    | 'D' => set .digit true
    | 's' => set .blank false
    | 'S' => set .blank true
    | 'w' => set .word false
    | 'W' => set .word true
    | 'a' => literal '\x07'
    | 'f' => literal '\x0c'
    | 't' => literal '\t'
    | 'n' => literal '\n'
    | 'r' => literal '\r'
    | 'v' => literal '\x0b'
    | 'A' => some (.anchor .textStart,rest)
    | 'z' => some (.anchor .textEnd,rest)
    | 'b' => (wordBoundary? flags rest).map fun (mark,rest) => (.anchor mark,rest)
    | 'B' => some (.anchor (.noWordEdge flags.unicode),rest)
    | '<' => some (.anchor (.wordStart flags.unicode),rest)
    | '>' => some (.anchor (.wordEnd flags.unicode),rest)
    | c => if isEscapable c then literal c else none

/-- The set of a literal. Without Unicode a byte above ASCII is no part of a text. -/
def Flags.literalSet? (flags : Flags) (found : Literal) : Option CharSet :=
  let c := found.char
  if flags.unicode then some (.oneOf (if flags.caseless then caseOrbit c else [c]))
  else if c.toNat < 0x80 then
    some (.oneOf (if flags.caseless then [c,c.toLower,c.toUpper] else [c]))
  else if found.byte then none
  else some (.oneOf [c])

def Flags.classSet? (flags : Flags) (set : CharSet) : Option CharSet :=
  if flags.unicode then some set else if set.isAscii then some (.inter set .ascii) else none

def Flags.fold (flags : Flags) (set : CharSet) : CharSet :=
  if !flags.caseless then set else if flags.unicode then .folded set else .foldedAscii set

def Flags.dot? (flags : Flags) : Option CharSet :=
  if !flags.unicode then none
  else if flags.dotAll then some .any
  else if flags.crlf then some .notLineBreak
  else some .notLineFeed

def Flags.lineStart (flags : Flags) : Anchor :=
  if !flags.multiline then .textStart else if flags.crlf then .breakStart else .lineStart

def Flags.lineEnd (flags : Flags) : Anchor :=
  if !flags.multiline then .textEnd else if flags.crlf then .breakEnd else .lineEnd

def Flags.property? (flags : Flags) (set : CharSet) (negated : Bool) : Option CharSet :=
  if flags.unicode then some (.negateIf negated (flags.fold set)) else none

inductive ClassItem where
  | literal (literal : Literal)
  | set (set : CharSet)

def classItem? (flags : Flags) : List Char → Option (ClassItem × List Char)
  | [] => none
  | '\\' :: rest => do
    let (found,rest) ← escape? flags rest
    match found with
    | .literal c => return (.literal c,rest)
    | .set shorthand negated =>
      return (.set (.negateIf negated (shorthand.set flags.unicode)),rest)
    | .property set negated => return (.set (← flags.property? set negated),rest)
    | .anchor _ => none
  | c :: rest => some (.literal { char := c },rest)

def Flags.classLiteral? (flags : Flags) (found : Literal) : Option Char :=
  if flags.unicode || found.char.toNat < 0x80 || found.byte then some found.char else none

def classRange? (flags : Flags) (source : List Char) : Option (CharSet × List Char) := do
  let (first,rest) ← classItem? flags source
  let rest := flags.skip rest
  let single : Option (CharSet × List Char) :=
    match first with
    | .literal c => (flags.classLiteral? c).map fun c => (.oneOf [c],rest)
    | .set set => some (set,rest)
  match rest with
  | [] => none
  | '-' :: more =>
    match flags.skip more with
    | [] => none
    | ']' :: _ => single
    | '-' :: _ => single
    | more =>
      let (second,rest) ← classItem? flags more
      match first, second with
      | .literal a, .literal b =>
        let a ← flags.classLiteral? a
        let b ← flags.classLiteral? b
        if a ≤ b then return (.range a b,rest) else none
      | _, _ => none
  | _ => single

def asciiItem? : List Char → Option (CharSet × Bool × List Char)
  | ':' :: rest =>
    let negated := rest.head? == some '^'
    let rest := if negated then rest.drop 1 else rest
    match cut? ':' rest with
    | some (name,']' :: rest) => (asciiClass? name).map fun set => (set,negated,rest)
    | _ => none
  | _ => none

inductive ClassOp where
  | intersection
  | difference
  | symmetric

def ClassOp.apply (flags : Flags) (left right : CharSet) : ClassOp → CharSet
  | .intersection => .inter (flags.fold left) (flags.fold right)
  | .difference => .without (flags.fold left) (flags.fold right)
  | .symmetric => .exactlyOne (flags.fold left) (flags.fold right)

structure ClassLeft where
  operand : Option (CharSet × ClassOp) := none

def ClassLeft.close (flags : Flags) (left : ClassLeft) (right : CharSet) : CharSet :=
  match left.operand with
  | none => right
  | some (set,op) => op.apply flags set right

/-- Hyphens at the start of a class stand for themselves. -/
def leadingHyphens (flags : Flags) : Nat → List Char → Nat × List Char
  | 0, source => (0,source)
  | fuel + 1, source =>
    match source with
    | '-' :: rest =>
      let (count,rest) := leadingHyphens flags fuel (flags.skip rest)
      (count + 1,rest)
    | source => (0,source)

mutual

def class? (flags : Flags) : Nat → List Char → Option (CharSet × Nat × List Char)
  | 0, _ => none
  | fuel + 1, source =>
    let source := flags.skip source
    let negated := source.head? == some '^'
    let source := if negated then flags.skip (source.drop 1) else source
    let (hyphens,source) := leadingHyphens flags source.length source
    let start : CharSet := if hyphens = 0 then .empty else .oneOf ['-']
    let opened : CharSet × List Char :=
      match source with
      | ']' :: rest => if hyphens = 0 then (.oneOf [']'],rest) else (start,source)
      | source => (start,source)
    (classItems? flags fuel {} opened.1 opened.2).map fun (set,depth,rest) =>
      (.negateIf negated (flags.fold set),depth + 1,rest)

/-- The items up to the closing bracket. `seen` is the union of those of the current operand. -/
def classItems? (flags : Flags) :
    Nat → ClassLeft → CharSet → List Char → Option (CharSet × Nat × List Char)
  | 0, _, _, _ => none
  | fuel + 1, left, seen, source =>
    let operate := fun (op : ClassOp) rest =>
      (classItems? flags fuel ⟨some (left.close flags seen,op)⟩ .empty rest).map
        fun (set,depth,rest) => (set,depth + 1,rest)
    match flags.skip source with
    | [] => none
    | '[' :: rest =>
      match asciiItem? rest with
      | some (set,negated,rest) =>
        classItems? flags fuel left (.union seen (.negateIf negated (flags.fold set))) rest
      | none =>
        match class? flags fuel rest with
        | none => none
        | some (set,inner,rest) =>
          (classItems? flags fuel left (.union seen set) rest).map
            fun (set,depth,rest) => (set,max depth inner,rest)
    | ']' :: rest => some (left.close flags seen,0,rest)
    | '&' :: '&' :: rest => operate .intersection rest
    | '-' :: '-' :: rest => operate .difference rest
    | '~' :: '~' :: rest => operate .symmetric rest
    | source =>
      match classRange? flags source with
      | none => none
      | some (set,rest) => classItems? flags fuel left (.union seen set) rest

end

def changes? : Bool → List Change → List Char → Option (List Change × List Char)
  | _, _, [] => none
  | negated, seen, c :: rest =>
    if c = ':' ∨ c = ')' then
      if negated && (seen.getLast?.map (·.2)).getD true then none else some (seen,c :: rest)
    else if c = '-' then if negated then none else changes? true seen rest
    else if isFlag c && !seen.any (·.1 == c) then changes? negated (seen ++ [(c,!negated)]) rest
    else none

inductive Opening where
  | group (changes : List Change)
  | named (name : List Char)
  | flags (changes : List Change)

def isNameStart (c : Char) : Bool := c == '_' || CharSet.alphabetic.contains c

def isNameRest (c : Char) : Bool :=
  isNameStart c || (unions numbers).contains c || c == '.' || c == '[' || c == ']'

def groupName? (source : List Char) : Option (List Char × List Char) :=
  match cut? '>' source with
  | some (c :: name,rest) =>
    if isNameStart c && name.all isNameRest then some (c :: name,rest) else none
  | _ => none

/-- What follows an opening bracket. Looking ahead and behind is not to be had. -/
def opening? (flags : Flags) (source : List Char) : Option (Opening × List Char) :=
  match flags.skip source with
  | '?' :: 'P' :: '<' :: rest => (groupName? rest).map fun (name,rest) => (.named name,rest)
  | '?' :: '<' :: rest => (groupName? rest).map fun (name,rest) => (.named name,rest)
  | '?' :: rest =>
    match changes? false [] rest with
    | some (changes,':' :: rest) => some (.group changes,rest)
    | some ([],')' :: _) => none
    | some (changes,')' :: rest) => some (.flags changes,rest)
    | _ => none
  | rest => some (.group [],rest)

def count? (source : List Char) : Option (Nat × List Char) :=
  let source := source.dropWhile isBlank
  let digits := source.takeWhile Char.isDigit
  let n := ofDigits 10 digits
  if digits.isEmpty || 4294967296 ≤ n then none
  else some (n,(source.dropWhile Char.isDigit).dropWhile isBlank)

def bounds? (flags : Flags) (source : List Char) : Option (Nat × Option Nat × List Char) := do
  let (least,rest) ← count? (flags.skip source)
  match rest with
  | '}' :: rest => return (least,some least,rest)
  | ',' :: rest =>
    match flags.skip rest with
    | '}' :: rest => return (least,none,rest)
    | rest =>
      let (most,rest) ← count? rest
      match rest with
      | '}' :: rest => if least ≤ most then return (least,some most,rest) else none
      | _ => none
  | _ => none

def skipPreference : List Char → List Char
  | '?' :: rest => rest
  | rest => rest

def repeatLast? (least : Nat) (most : Option Nat) : List Fragment → Option (List Fragment)
  | part :: parts =>
    if part.repeats then
      some ({ regex := .repeated part.regex least most, depth := part.depth + 1 } :: parts)
    else none
  | [] => none

def primitive? (flags : Flags) : List Char → Option (Regex × List Char)
  | [] => none
  | '\\' :: rest => do
    let (found,rest) ← escape? flags rest
    match found with
    | .literal c => return (.char (← flags.literalSet? c),rest)
    | .set shorthand negated =>
      let set := CharSet.negateIf negated (shorthand.set flags.unicode)
      return (.char (← flags.classSet? set),rest)
    | .property set negated => return (.char (← flags.property? set negated),rest)
    | .anchor mark => return (.anchor mark,rest)
  | '.' :: rest => flags.dot?.map fun set => (.char set,rest)
  | '^' :: rest => some (.anchor flags.lineStart,rest)
  | '$' :: rest => some (.anchor flags.lineEnd,rest)
  | c :: rest => (flags.literalSet? { char := c }).map fun set => (.char set,rest)

/-- One part behind the other; `parts` is in reverse. -/
def sequence (parts : List Fragment) : Fragment :=
  match parts with
  | [] => { regex := .empty, depth := 0 }
  | [part] => part
  | parts =>
    { regex := parts.foldl (fun rest part => .seq part.regex rest) .empty
      depth := parts.foldl (fun depth part => max depth part.depth) 0 + 1 }

def choice (last : Fragment) (branches : List Fragment) : Fragment :=
  match branches with
  | [] => last
  | branches =>
    { regex := branches.foldl (fun rest part => .either part.regex rest) last.regex
      depth := branches.foldl (fun depth part => max depth part.depth) last.depth + 1 }

structure Frame where
  flags : Flags
  parts : List Fragment := []
  branches : List Fragment := []

def Frame.push (frame : Frame) (part : Fragment) : Frame := { frame with parts := part :: frame.parts }

def Frame.close (frame : Frame) : Fragment := choice (sequence frame.parts) frame.branches

structure Progress where
  frame : Frame
  outer : List Frame := []
  names : List (List Char) := []

namespace Progress

def push (progress : Progress) (part : Fragment) : Progress :=
  { progress with frame := progress.frame.push part }

def enter (progress : Progress) (flags : Flags) : Progress :=
  { progress with frame := { flags }, outer := progress.frame :: progress.outer }

def open? (progress : Progress) (source : List Char) : Option (Progress × List Char) :=
  let flags := progress.frame.flags
  match opening? flags source with
  | none => none
  | some (.flags changes,rest) =>
    let frame := { progress.frame with flags := changes.foldl Flags.set flags }
    let progress := { progress with frame }
    some (progress.push { regex := .empty, depth := 0, repeats := false },rest)
  | some (.named name,rest) =>
    if progress.names.contains name then none
    else some ({ progress with names := name :: progress.names }.enter flags,rest)
  | some (.group changes,rest) => some (progress.enter (changes.foldl Flags.set flags),rest)

def close? (progress : Progress) : Option Progress :=
  match progress.outer with
  | [] => none
  | frame :: outer =>
    let part := progress.frame.close
    some { progress with
      frame := frame.push { regex := part.regex, depth := part.depth + 1 }
      outer }

def branch (progress : Progress) : Progress :=
  let frame := progress.frame
  { progress with
    frame := { frame with parts := [], branches := sequence frame.parts :: frame.branches } }

def repeat? (progress : Progress) (least : Nat) (most : Option Nat) (source : List Char) :
    Option (Progress × List Char) :=
  (repeatLast? least most progress.frame.parts).map fun parts =>
    ({ progress with frame := { progress.frame with parts } },skipPreference source)

def bracket? (progress : Progress) (source : List Char) : Option (Progress × List Char) := do
  let flags := progress.frame.flags
  let (set,depth,rest) ← class? flags (2 * source.length + 2) source
  return (progress.push { regex := .char (← flags.classSet? set), depth },rest)

def step? (progress : Progress) : List Char → Option (Progress × List Char)
  | '(' :: rest => progress.open? rest
  | ')' :: rest => progress.close?.map fun progress => (progress,rest)
  | '|' :: rest => some (progress.branch,rest)
  | '[' :: rest => progress.bracket? rest
  | '?' :: rest => progress.repeat? 0 (some 1) rest
  | '*' :: rest => progress.repeat? 0 none rest
  | '+' :: rest => progress.repeat? 1 none rest
  | '{' :: rest =>
    (bounds? progress.frame.flags rest).bind fun (least,most,rest) =>
      progress.repeat? least most rest
  | source =>
    (primitive? progress.frame.flags source).map fun (regex,rest) =>
      (progress.push { regex, depth := 0 },rest)

/-- Reads to the end, where no group may be open. The fuel bounds the number of steps. -/
def finish? : Nat → Progress → List Char → Option Fragment
  | 0, _, _ => none
  | fuel + 1, progress, source =>
    match progress.frame.flags.skip source with
    | [] => if progress.outer.isEmpty then some progress.frame.close else none
    | source =>
      match progress.step? source with
      | none => none
      | some (progress,rest) => finish? fuel progress rest

end Progress

def depthLimit : Nat := 250

/-- Expressions that take more space than this once they are unfolded are refused. -/
def costLimit : Nat := 10 * 1048576

def parse? (source : List Char) : Option Regex :=
  match Progress.finish? (source.length + 1) { frame := { flags := {} } } source with
  | some part =>
    if part.depth ≤ depthLimit ∧ part.regex.cost ≤ costLimit then some part.regex else none
  | none => none

end DnsPolicy.Regex
