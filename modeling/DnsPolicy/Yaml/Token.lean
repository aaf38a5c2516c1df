import DnsPolicy.Text.Digits

/-! Tokens of YAML texts, and scanning a text into tokens. Block structure is told by indentation, so
the scanner keeps the columns of the blocks that are open and adds tokens where they start and end.
A text may turn out to be a key only when its colon is seen; until then its place is remembered. -/
namespace DnsPolicy.Yaml
open DnsPolicy.Text

inductive Style where
  | plain
  | quoted
  | literal
  | folded
deriving DecidableEq, Repr

inductive Token where
  | version (major minor : Nat)
  | tagHandle (handle meaning : String)
  | documentStart
  | documentEnd
  | blockSequenceStart
  | blockMappingStart
  | blockEnd
  | flowSequenceStart
  | flowSequenceEnd
  | flowMappingStart
  | flowMappingEnd
  | blockEntry
  | flowEntry
  | key
  | value
  | alias_ (name : String)
  | anchor (name : String)
  | tag (handle suffix : String)
  | scalar (text : String) (style : Style)
deriving DecidableEq, Repr

structure Mark where
  index : Nat := 0
  line : Nat := 0
  column : Nat := 0
deriving DecidableEq, Repr

def Mark.next (mark : Mark) : Mark :=
  { mark with index := mark.index + 1, column := mark.column + 1 }

def Mark.skip (mark : Mark) (count : Nat) : Mark :=
  { mark with index := mark.index + count, column := mark.column + count }

def Mark.nextLine (mark : Mark) : Mark :=
  { index := mark.index + 1, line := mark.line + 1, column := 0 }

structure Cursor where
  mark : Mark
  rest : List Char

def isBreak (c : Char) : Bool :=
  c == '\n' || c == '\r' || c == '\u0085' || c == '\u2028' || c == '\u2029'

def isSpace (c : Char) : Bool := c == ' ' || c == '\t'

def startsBlank : List Char → Bool
  | [] => true
  | c :: _ => isSpace c || isBreak c

/-- How a line break is kept: only the separators of lines and paragraphs stay as they are. -/
def keptBreak (c : Char) : Char := if c == '\u2028' || c == '\u2029' then c else '\n'

def cutBreak? : List Char → Option (Char × List Char)
  | '\r' :: '\n' :: rest => some ('\n',rest)
  | c :: rest => if isBreak c then some (keptBreak c,rest) else none
  | [] => none

def isDocumentMark (mark : Mark) (text : List Char) : Bool :=
  mark.column == 0
    && match text with
      | '-' :: '-' :: '-' :: rest => startsBlank rest
      | '.' :: '.' :: '.' :: rest => startsBlank rest
      | _ => false

def isAllowed (c : Char) : Bool :=
  let n := c.toNat
  n == 0x09 || n == 0x0a || n == 0x0d || (0x20 ≤ n && n ≤ 0x7e) || n == 0x85
    || (0xa0 ≤ n && n ≤ 0xd7ff) || (0xe000 ≤ n && n ≤ 0xfffd) || 0x10000 ≤ n

/-- Passes over spaces, comments and line breaks. Gives back whether a key may start there. -/
def toNextToken (inFlow : Bool) : Bool → Bool → Mark → List Char → Bool × Cursor
  | _, keyAllowed, mark, [] => (keyAllowed,⟨mark,[]⟩)
  | _, keyAllowed, mark, '\r' :: '\n' :: rest =>
    toNextToken inFlow false (keyAllowed || !inFlow) mark.nextLine rest
  | comment, keyAllowed, mark, c :: rest =>
    if isBreak c then toNextToken inFlow false (keyAllowed || !inFlow) mark.nextLine rest
    else if comment then toNextToken inFlow true keyAllowed mark.next rest
    else if c == '\ufeff' && mark.column == 0 then toNextToken inFlow false keyAllowed mark.next rest
    else if c == ' ' || (c == '\t' && (inFlow || !keyAllowed)) then
      toNextToken inFlow false keyAllowed mark.next rest
    else if c == '#' then toNextToken inFlow true keyAllowed mark.next rest
    else (keyAllowed,⟨mark,c :: rest⟩)

/-! ### Scalars -/

inductive Gap where
  | spaces (reversed : List Char)
  | breaks (first : Option Char) (reversed : List Char)

def Gap.addSpace (gap : Gap) (c : Char) : Gap :=
  match gap with
  | .spaces reversed => .spaces (c :: reversed)
  | .breaks first reversed => .breaks first reversed

def Gap.addBreak (gap : Gap) (c : Char) : Gap :=
  match gap with
  | .spaces _ => .breaks (some c) []
  | .breaks first reversed => .breaks first (c :: reversed)

/-- What a gap leaves in the scalar, in reverse: a single line feed becomes a space, and of more than
one the first is lost. -/
def Gap.fold : Gap → List Char
  | .spaces reversed => reversed
  | .breaks (some '\n') [] => [' ']
  | .breaks (some '\n') reversed => reversed
  | .breaks (some c) reversed => reversed ++ [c]
  | .breaks none reversed => reversed

def Gap.isEmpty : Gap → Bool
  | .spaces [] => true
  | _ => false

def Gap.isBreaks : Gap → Bool
  | .spaces _ => false
  | .breaks .. => true

/-- A plain scalar goes on here. -/
def continuesPlain (inFlow : Bool) (mark : Mark) (gap : Gap) (indent : Int) (text : List Char) :
    Bool :=
  (gap.isEmpty
      || (!(!inFlow && (mark.column : Int) < indent) && !isDocumentMark mark text
        && text.head? != some '#'))
    && match text with
      | [] => false
      | ':' :: rest => !startsBlank rest
      | c :: _ => !(inFlow && [',','[',']','{','}'].contains c)

/-- Reads a plain scalar, which is held in reverse. Gives back whether it was followed by a line
break. -/
def plain? (inFlow : Bool) (indent : Int) :
    Gap → List Char → Mark → List Char → Option (List Char × Bool × Cursor)
  | gap, seen, mark, [] => some (seen.reverse,gap.isBreaks,⟨mark,[]⟩)
  | gap, seen, mark, '\r' :: '\n' :: rest =>
    plain? inFlow indent (gap.addBreak '\n') seen mark.nextLine rest
  | gap, seen, mark, c :: rest =>
    if isSpace c then
      if gap.isBreaks && (mark.column : Int) < indent && c == '\t' then none
      else plain? inFlow indent (gap.addSpace c) seen mark.next rest
    else if isBreak c then
      plain? inFlow indent (gap.addBreak (keptBreak c)) seen mark.nextLine rest
    else if !continuesPlain inFlow mark gap indent (c :: rest) then
      some (seen.reverse,gap.isBreaks,⟨mark,c :: rest⟩)
    else if inFlow && c == ':' && [',','?','[',']','{','}'].contains (rest.headD ' ') then none
    else plain? inFlow indent (.spaces []) (c :: (gap.fold ++ seen)) mark.next rest

def singleQuoted? : Gap → List Char → Mark → List Char → Option (List Char × Cursor)
  | _, _, _, [] => none
  | gap, seen, mark, '\'' :: '\'' :: rest =>
    singleQuoted? (.spaces []) ('\'' :: (gap.fold ++ seen)) (mark.skip 2) rest
  | gap, seen, mark, '\'' :: rest => some ((gap.fold ++ seen).reverse,⟨mark.next,rest⟩)
  | gap, seen, mark, '\r' :: '\n' :: rest =>
    singleQuoted? (gap.addBreak '\n') seen mark.nextLine rest
  | gap, seen, mark, c :: rest =>
    if isDocumentMark mark (c :: rest) then none
    else if isSpace c then singleQuoted? (gap.addSpace c) seen mark.next rest
    else if isBreak c then singleQuoted? (gap.addBreak (keptBreak c)) seen mark.nextLine rest
    else singleQuoted? (.spaces []) (c :: (gap.fold ++ seen)) mark.next rest

def escaped? : Char → Option Char
  | '0' => some '\x00'
  | 'a' => some '\x07'
  | 'b' => some '\x08'
  | 't' => some '\t'
  | '\t' => some '\t'
  | 'n' => some '\n'
  | 'v' => some '\x0b'
  | 'f' => some '\x0c'
  | 'r' => some '\r'
  | 'e' => some '\x1b'
  | ' ' => some ' '
  | '"' => some '"'
  | '/' => some '/'
  | '\\' => some '\\'
  | 'N' => some '\u0085'
  | '_' => some '\u00a0'
  | 'L' => some '\u2028'
  | 'P' => some '\u2029'
  | _ => none

def hexCount? : Char → Option Nat
  | 'x' => some 2
  | 'u' => some 4
  | 'U' => some 8
  | _ => none

def codePoint? (digits : List Char) : Option Char := do
  let n ← number? 16 digits
  if n.isValidChar then return Char.ofNat n else none

def doubleQuoted? : Nat → Gap → List Char → Mark → List Char → Option (List Char × Cursor)
  | 0, _, _, _, _ => none
  | _, _, _, _, [] => none
  | fuel + 1, gap, seen, mark, c :: rest =>
    let put := fun (e : Char) (count : Nat) rest =>
      doubleQuoted? fuel (.spaces []) (e :: (gap.fold ++ seen)) (mark.skip count) rest
    if c == '"' then some ((gap.fold ++ seen).reverse,⟨mark.next,rest⟩)
    else if isDocumentMark mark (c :: rest) then none
    else
      match cutBreak? (c :: rest) with
      | some (kept,rest) => doubleQuoted? fuel (gap.addBreak kept) seen mark.nextLine rest
      | none =>
        if isSpace c then doubleQuoted? fuel (gap.addSpace c) seen mark.next rest
        else if c != '\\' then put c 1 rest
        else
          match cutBreak? rest with
          | some (_,rest) =>
            doubleQuoted? fuel (.breaks none []) (gap.fold ++ seen) mark.nextLine rest
          | none =>
            match rest with
            | [] => none
            | e :: rest =>
              match hexCount? e with
              | some count =>
                if rest.length < count then none
                else (codePoint? (rest.take count)).bind fun e => put e (count + 2) (rest.drop count)
              | none => (escaped? e).bind fun e => put e 2 rest

inductive Chomp where
  | clip
  | strip
  | keep
deriving DecidableEq

structure BlockHeader where
  chomp : Chomp := .clip
  indent : Option Nat := none

def blockHeader? : List Char → Option (BlockHeader × List Char)
  | '0' :: _ => none
  | text =>
    let chomp? : Char → Option Chomp := fun c =>
      if c = '+' then some .keep else if c = '-' then some .strip else none
    match text with
    | [] => some ({},[])
    | c :: rest =>
      match chomp? c with
      | some chomp =>
        match rest with
        | [] => some ({ chomp },[])
        | d :: more =>
          if d = '0' then none
          else if d.isDigit then some ({ chomp, indent := some (digitValue d) },more)
          else some ({ chomp },rest)
      | none =>
        if c.isDigit then
          let indent := some (digitValue c)
          match rest with
          | [] => some ({ indent },[])
          | d :: more =>
            match chomp? d with
            | some chomp => some ({ chomp, indent },more)
            | none => some ({ indent },rest)
        else some ({},text)

structure BlockBreaks where
  reversed : List Char := []
  widest : Nat := 0

/-- Passes over empty lines, and over spaces up to the indentation if that is known. -/
def blockBreaks? (indent : Option Nat) :
    BlockBreaks → Mark → List Char → Option (BlockBreaks × Cursor)
  | found, mark, [] => some ({ found with widest := max found.widest mark.column },⟨mark,[]⟩)
  | found, mark, '\r' :: '\n' :: rest =>
    blockBreaks? indent
      { reversed := '\n' :: found.reversed, widest := max found.widest mark.column }
      mark.nextLine rest
  | found, mark, c :: rest =>
    let inside := match indent with
      | none => true
      | some n => mark.column < n
    if inside && c == ' ' then blockBreaks? indent found mark.next rest
    else if inside && c == '\t' then none
    else
      let found := { found with widest := max found.widest mark.column }
      if isBreak c then
        blockBreaks? indent { found with reversed := keptBreak c :: found.reversed } mark.nextLine
          rest
      else some (found,⟨mark,c :: rest⟩)

/-- The lines of a block scalar, which is held in reverse. `ending` is the line break of the line
before, and `more` those of the empty lines behind it. -/
def blockLines? (literal : Bool) (chomp : Chomp) (indent : Nat) :
    Nat → List Char → Option Char → BlockBreaks → Bool → Cursor → Option (List Char × Cursor)
  | 0, _, _, _, _, _ => none
  | fuel + 1, seen, ending, more, leadingBlank, cursor =>
    if cursor.mark.column ≠ indent || cursor.rest.isEmpty then
      let seen := if chomp = .strip then seen else ending.toList ++ seen
      let seen := if chomp = .keep then more.reversed ++ seen else seen
      some (seen.reverse,cursor)
    else
      let blank := match cursor.rest with
        | c :: _ => isSpace c
        | [] => false
      let joined :=
        if !literal && ending == some '\n' && !leadingBlank && !blank then
          if more.reversed.isEmpty then [' '] else []
        else ending.toList
      let line := cursor.rest.takeWhile (fun c => !isBreak c)
      let seen := line.reverse ++ (more.reversed ++ (joined ++ seen))
      let mark := cursor.mark.skip line.length
      match cutBreak? (cursor.rest.dropWhile (fun c => !isBreak c)) with
      | none =>
        match blockBreaks? (some indent) {} mark [] with
        | none => none
        | some (more,cursor) => blockLines? literal chomp indent fuel seen none more blank cursor
      | some (kept,rest) =>
        match blockBreaks? (some indent) {} mark.nextLine rest with
        | none => none
        | some (more,cursor) =>
          blockLines? literal chomp indent fuel seen (some kept) more blank cursor

def block? (literal : Bool) (parent : Int) (cursor : Cursor) : Option (List Char × Cursor) := do
  let (header,rest) ← blockHeader? cursor.rest
  let rest := rest.dropWhile isSpace
  let rest := if rest.head? == some '#' then rest.dropWhile (fun c => !isBreak c) else rest
  let used := cursor.rest.length - rest.length
  let start : Cursor ←
    match cutBreak? rest with
    | some (_,rest) => some ⟨(cursor.mark.skip used).nextLine,rest⟩
    | none => if rest.isEmpty then some ⟨cursor.mark.skip used,[]⟩ else none
  let given := header.indent.map fun n => if 0 ≤ parent then parent.toNat + n else n
  let (breaks,cursor) ← blockBreaks? given {} start.mark start.rest
  let indent := given.getD (max (max breaks.widest (parent + 1).toNat) 1)
  blockLines? literal header.chomp indent (start.rest.length + 2) [] none breaks false cursor

/-! ### Anchors, tags and directives -/

def isNameChar (c : Char) : Bool := c.isAlphanum || c == '_' || c == '-'

def anchorName? (text : List Char) : Option (List Char × List Char) :=
  let name := text.takeWhile isNameChar
  let rest := text.dropWhile isNameChar
  let ends := startsBlank rest || "?:,]\x7d%@\x60".toList.contains (rest.headD ' ')
  if !name.isEmpty && ends then some (name,rest) else none

def isTagChar (c : Char) : Bool := isNameChar c || ";/?:@&=+$.%!~*'()".toList.contains c

def tag? (inFlow : Bool) (text : List Char) : Option (List Char × List Char × List Char) := do
  let (handle,suffix,rest) ←
    match text with
    | '<' :: more =>
      let inside := more.takeWhile (fun c => isTagChar c || c == ',' || c == '[' || c == ']')
      match more.drop inside.length with
      | '>' :: rest => if inside.isEmpty then none else some ([],inside,rest)
      | _ => none
    | _ =>
      let word := text.takeWhile isTagChar
      let rest := text.dropWhile isTagChar
      let name := word.takeWhile isNameChar
      match word.drop name.length with
      | '!' :: suffix =>
        if suffix.isEmpty then none else some ('!' :: (name ++ ['!']),suffix,rest)
      | _ => if word.isEmpty then some ([],['!'],rest) else some (['!'],word,rest)
  if startsBlank rest || (inFlow && rest.head? == some ',') then return (handle,suffix,rest)
  else none

def directive? (text : List Char) : Option (Token × List Char) := do
  let name := text.takeWhile isNameChar
  let rest := (text.drop name.length).dropWhile isSpace
  if !startsBlank (text.drop name.length) then none
  let (token,rest) ←
    match String.ofList name with
    | "YAML" =>
      let major := rest.takeWhile Char.isDigit
      match rest.drop major.length with
      | '.' :: more =>
        let minor := more.takeWhile Char.isDigit
        if major.isEmpty || minor.isEmpty || 9 < major.length || 9 < minor.length then none
        else some (Token.version (ofDigits 10 major) (ofDigits 10 minor),more.drop minor.length)
      | _ => none
    | "TAG" =>
      let handle := rest.takeWhile (fun c => isNameChar c || c == '!')
      let more := rest.drop handle.length
      let meaning := (more.dropWhile isSpace).takeWhile
        (fun c => isTagChar c || c == ',' || c == '[' || c == ']')
      if handle.head? != some '!' || handle.getLast? != some '!' || !startsBlank more
          || meaning.isEmpty then none
      else
        some (.tagHandle (String.ofList handle) (String.ofList meaning),
          (more.dropWhile isSpace).drop meaning.length)
    | _ => none
  if !startsBlank rest then none
  let rest := rest.dropWhile isSpace
  let rest := if rest.head? == some '#' then rest.dropWhile (fun c => !isBreak c) else rest
  match rest with
  | [] => return (token,[])
  | c :: _ => if isBreak c then return (token,rest) else none

/-! ### The scanner -/

structure PossibleKey where
  /-- Nothing but a key makes sense there. -/
  required : Bool
  position : Nat
  mark : Mark

structure Scanner where
  cursor : Cursor
  tokens : List Token := []
  count : Nat := 0
  /-- Column of the innermost block; minus one outside of all. -/
  indent : Int := -1
  outer : List Int := []
  keyAllowed : Bool := true
  possible : Option PossibleKey := none
  levels : List (Option PossibleKey) := []

namespace Scanner

def inFlow (s : Scanner) : Bool := !s.levels.isEmpty

def emit (s : Scanner) (token : Token) : Scanner :=
  { s with tokens := token :: s.tokens, count := s.count + 1 }

def emitAt (s : Scanner) (position : Nat) (token : Token) : Scanner :=
  let behind := s.count - position
  { s with
    tokens := s.tokens.take behind ++ token :: s.tokens.drop behind
    count := s.count + 1 }

def advance (s : Scanner) (count : Nat) : Scanner :=
  { s with cursor := ⟨s.cursor.mark.skip count,s.cursor.rest.drop count⟩ }

/-- A key stands on one line and is not longer than 1024 characters. -/
def isStale (mark : Mark) (key : PossibleKey) : Bool :=
  key.mark.line < mark.line || key.mark.index + 1024 < mark.index

def staleKey? (mark : Mark) : Option PossibleKey → Option (Option PossibleKey)
  | none => some none
  | some key =>
    if isStale mark key then if key.required then none else some none else some (some key)

def dropStale? (s : Scanner) : Option Scanner := do
  return { s with
    possible := ← staleKey? s.cursor.mark s.possible
    levels := ← s.levels.mapM (staleKey? s.cursor.mark) }

def dropKey? (s : Scanner) : Option Scanner :=
  match s.possible with
  | some key => if key.required then none else some { s with possible := none }
  | none => some s

def saveKey? (s : Scanner) : Option Scanner :=
  if s.keyAllowed then do
    let required := !s.inFlow && s.indent == (s.cursor.mark.column : Int)
    let s ← s.dropKey?
    return { s with possible := some { required, position := s.count, mark := s.cursor.mark } }
  else some s

/-- Closes the blocks that start right of `column`. -/
def unroll (column : Int) : List Int → Scanner → Scanner
  | [], s => s
  | next :: outer, s =>
    if s.inFlow || s.indent ≤ column then s
    else unroll column outer { s.emit .blockEnd with indent := next, outer }

def unrollTo (s : Scanner) (column : Int) : Scanner := unroll column s.outer s

/-- Opens a block at `column`, unless one is open there. -/
def roll (s : Scanner) (column : Nat) (position : Nat) (token : Token) : Scanner :=
  if s.inFlow || (column : Int) ≤ s.indent then s
  else { s.emitAt position token with indent := column, outer := s.indent :: s.outer }

def leaveBlocks? (s : Scanner) : Option Scanner := do
  let s ← (s.unrollTo (-1)).dropKey?
  return { s with keyAllowed := false }

def openFlow? (s : Scanner) (token : Token) : Option Scanner := do
  let s ← s.saveKey?
  return ({ s with levels := s.possible :: s.levels, possible := none, keyAllowed := true }.emit
    token).advance 1

def closeFlow? (s : Scanner) (token : Token) : Option Scanner := do
  let s ← s.dropKey?
  let s := match s.levels with
    | [] => { s with possible := none }
    | key :: levels => { s with possible := key, levels }
  return ({ s with keyAllowed := false }.emit token).advance 1

def flowEntry? (s : Scanner) : Option Scanner := do
  let s ← s.dropKey?
  return ({ s with keyAllowed := true }.emit .flowEntry).advance 1

/-- An entry of a block sequence or an explicit key: in a block either may open one. -/
def indicator? (s : Scanner) (opening token : Token) (keyAllowed : Bool) : Option Scanner := do
  if !s.inFlow && !s.keyAllowed then none
  let s := s.roll s.cursor.mark.column s.count opening
  let s ← s.dropKey?
  return ({ s with keyAllowed }.emit token).advance 1

def value? (s : Scanner) : Option Scanner :=
  match s.possible with
  | some key =>
    let s := s.emitAt key.position .key
    let s := s.roll key.mark.column key.position .blockMappingStart
    some (({ s with possible := none, keyAllowed := false }.emit .value).advance 1)
  | none =>
    if !s.inFlow && !s.keyAllowed then none
    else
      let keyAllowed := !s.inFlow
      let s := s.roll s.cursor.mark.column s.count .blockMappingStart
      some (({ s with keyAllowed }.emit .value).advance 1)

def node? (s : Scanner) (read : Option (Token × Cursor)) : Option Scanner := do
  let s ← s.saveKey?
  let (token,cursor) ← read
  return { s.emit token with cursor, keyAllowed := false }

def named? (s : Scanner) (token : String → Token) : Option Scanner := do
  let (name,rest) ← anchorName? (s.cursor.rest.drop 1)
  s.node? (some (token (String.ofList name),⟨s.cursor.mark.skip (name.length + 1),rest⟩))

def tagged? (s : Scanner) : Option Scanner := do
  let (handle,suffix,rest) ← tag? s.inFlow (s.cursor.rest.drop 1)
  let used := s.cursor.rest.length - rest.length
  s.node? (some (.tag (String.ofList handle) (String.ofList suffix),
    ⟨s.cursor.mark.skip used,rest⟩))

def blockScalar? (s : Scanner) (literal : Bool) : Option Scanner := do
  let s ← s.dropKey?
  let (text,cursor) ← block? literal s.indent ⟨s.cursor.mark.next,s.cursor.rest.drop 1⟩
  let style := if literal then Style.literal else .folded
  return { s.emit (.scalar (String.ofList text) style) with cursor, keyAllowed := true }

def quoted? (s : Scanner) (read : Mark → List Char → Option (List Char × Cursor)) :
    Option Scanner :=
  s.node? ((read s.cursor.mark.next (s.cursor.rest.drop 1)).map
    fun (text,cursor) => (.scalar (String.ofList text) .quoted,cursor))

def plainScalar? (s : Scanner) : Option Scanner := do
  let s ← s.saveKey?
  let (text,broken,cursor) ←
    plain? s.inFlow (s.indent + 1) (.spaces []) [] s.cursor.mark s.cursor.rest
  return { s.emit (.scalar (String.ofList text) .plain) with cursor, keyAllowed := broken }

/-- The characters that no plain scalar starts with, unless what follows makes up for it. -/
def isIndicator (c : Char) : Bool := "-?:,[]\x7b\x7d#&*!|>'\"%@\x60".toList.contains c

def startsPlain (inFlow : Bool) : List Char → Bool
  | [] => false
  | c :: rest =>
    !(isSpace c || isIndicator c) || (c == '-' && !isSpace (rest.headD 'a'))
      || (!inFlow && (c == '?' || c == ':') && !startsBlank rest)

def directive (s : Scanner) : Option Scanner := do
  let s ← s.leaveBlocks?
  let (token,rest) ← directive? (s.cursor.rest.drop 1)
  let used := s.cursor.rest.length - rest.length
  return { s.emit token with cursor := ⟨s.cursor.mark.skip used,rest⟩ }

def token? (s : Scanner) : Option Scanner :=
  if s.cursor.mark.column == 0 && s.cursor.rest.head? == some '%' then s.directive
  else if isDocumentMark s.cursor.mark s.cursor.rest then do
    let s ← s.leaveBlocks?
    let token :=
      if s.cursor.rest.head? == some '-' then Token.documentStart else .documentEnd
    return (s.emit token).advance 3
  else
    match s.cursor.rest with
    | '[' :: _ => s.openFlow? .flowSequenceStart
    | '{' :: _ => s.openFlow? .flowMappingStart
    | ']' :: _ => s.closeFlow? .flowSequenceEnd
    | '}' :: _ => s.closeFlow? .flowMappingEnd
    | ',' :: _ => s.flowEntry?
    | '*' :: _ => s.named? .alias_
    | '&' :: _ => s.named? .anchor
    | '!' :: _ => s.tagged?
    | '\'' :: _ => s.quoted? (singleQuoted? (.spaces []) [])
    | '"' :: rest => s.quoted? (doubleQuoted? (rest.length + 1) (.spaces []) [])
    | text =>
      let next := startsBlank (text.drop 1)
      let c := text.headD ' '
      if c == '-' && next then s.indicator? .blockSequenceStart .blockEntry true
      else if c == '?' && (s.inFlow || next) then s.indicator? .blockMappingStart .key (!s.inFlow)
      else if c == ':' && (s.inFlow || next) then s.value?
      else if c == '|' && !s.inFlow then s.blockScalar? true
      else if c == '>' && !s.inFlow then s.blockScalar? false
      else if startsPlain s.inFlow text then s.plainScalar?
      else none

def approach? (s : Scanner) : Option Scanner := do
  let (keyAllowed,cursor) :=
    toNextToken s.inFlow false s.keyAllowed s.cursor.mark s.cursor.rest
  let s ← { s with keyAllowed, cursor }.dropStale?
  return s.unrollTo s.cursor.mark.column

def run? : Nat → Scanner → Option (List Token)
  | 0, _ => none
  | fuel + 1, s => do
    let s ← s.approach?
    if s.cursor.rest.isEmpty then
      let s ← s.leaveBlocks?
      return s.tokens.reverse
    else
      run? fuel (← s.token?)

end Scanner

def Token.scan? (text : List Char) : Option (List Token) :=
  let text := if text.head? == some '\ufeff' then text.drop 1 else text
  if text.all isAllowed then Scanner.run? (text.length + 2) { cursor := ⟨{},text⟩ } else none

end DnsPolicy.Yaml
