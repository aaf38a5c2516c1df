import DnsPolicy.Yaml.Token

/-! YAML documents as trees. An alias stands for the node that its anchor names; within that node it
stands for the circle it closes. -/
namespace DnsPolicy.Yaml

inductive Node where
  | scalar (text : String) (style : Style) (tag : Option String)
  | sequence (items : List Node)
  | mapping (pairs : List (Node × Node))
  /-- An alias within the node that it stands for. -/
  | circle

structure Context where
  handles : List String := ["","!","!!"]
  anchors : List (String × Nat) := []
  named : Array Node := #[]

def Node.nothing (tag : Option String) : Node := .scalar "" .plain tag

structure Properties where
  anchor : Option String := none
  tag : Option String := none

def Properties.isEmpty (p : Properties) : Bool := p.anchor.isNone && p.tag.isNone

def tagText (handle suffix : String) : String :=
  if handle == "!!" then "tag:yaml.org,2002:" ++ suffix else handle ++ suffix

def properties? (handles : List String) : List Token → Option (Properties × List Token)
  | .anchor name :: .tag handle suffix :: rest =>
    if handles.contains handle then
      some ({ anchor := some name, tag := some (tagText handle suffix) },rest)
    else none
  | .tag handle suffix :: .anchor name :: rest =>
    if handles.contains handle then
      some ({ anchor := some name, tag := some (tagText handle suffix) },rest)
    else none
  | .anchor name :: rest => some ({ anchor := some name },rest)
  | .tag handle suffix :: rest =>
    if handles.contains handle then some ({ tag := some (tagText handle suffix) },rest) else none
  | rest => some ({},rest)

/-- Where a node stands: within brackets, in a block, or as part of a block mapping, where a sequence
need not be indented. -/
inductive Position where
  | flow
  | block
  | mappingPart
deriving DecidableEq

def Context.find? (context : Context) (name : String) : Option Node :=
  (context.anchors.lookup name).bind (context.named[·]?)

def Context.enter (context : Context) (p : Properties) : Context :=
  match p.anchor with
  | some name =>
    { context with
      anchors := (name,context.named.size) :: context.anchors
      named := context.named.push .circle }
  | none => context

def Context.leave (context : Context) (p : Properties) (place : Nat) (node : Node) : Context :=
  if p.anchor.isSome then { context with named := context.named.setIfInBounds place node }
  else context

mutual

def node? : Nat → Position → Context → List Token → Option (Node × Context × List Token)
  | 0, _, _, _ => none
  | fuel + 1, position, context, tokens =>
    match tokens with
    | .alias_ name :: rest => (context.find? name).map fun node => (node,context,rest)
    | tokens =>
      match properties? context.handles tokens with
      | none => none
      | some (p,tokens) =>
        let place := context.named.size
        let context := context.enter p
        let close := fun (found : Option (Node × Context × List Token)) =>
          found.map fun (node,context,rest) => (node,context.leave p place node,rest)
        let sequence := fun (found : Option (List Node × Context × List Token)) =>
          close (found.map fun (items,context,rest) => (.sequence items,context,rest))
        let mapping := fun (found : Option (List (Node × Node) × Context × List Token)) =>
          close (found.map fun (pairs,context,rest) => (.mapping pairs,context,rest))
        match tokens, position with
        | .blockEntry :: _, .mappingPart => sequence (looseItems? fuel context tokens)
        | .scalar text style :: rest, _ => close (some (.scalar text style p.tag,context,rest))
        | .flowSequenceStart :: rest, _ => sequence (flowItems? fuel true context rest)
        | .flowMappingStart :: rest, _ => mapping (flowPairs? fuel true context rest)
        | .blockSequenceStart :: rest, .block => sequence (blockItems? fuel context rest)
        | .blockSequenceStart :: rest, .mappingPart => sequence (blockItems? fuel context rest)
        | .blockMappingStart :: rest, .block => mapping (blockPairs? fuel context rest)
        | .blockMappingStart :: rest, .mappingPart => mapping (blockPairs? fuel context rest)
        | rest, _ =>
          if p.isEmpty then none else close (some (.nothing p.tag,context,rest))

def maybeNode? : Nat → Position → (Token → Bool) → Context → List Token →
    Option (Node × Context × List Token)
  | 0, _, _, _, _ => none
  | fuel + 1, position, follows, context, tokens =>
    match tokens with
    | [] => none
    | token :: _ =>
      if follows token then some (.nothing none,context,tokens)
      else node? fuel position context tokens

def blockItems? : Nat → Context → List Token → Option (List Node × Context × List Token)
  | 0, _, _ => none
  | fuel + 1, context, tokens =>
    match tokens with
    | .blockEntry :: rest =>
      match maybeNode? fuel .block (fun t => t == .blockEntry || t == .blockEnd) context rest with
      | none => none
      | some (node,context,rest) =>
        (blockItems? fuel context rest).map fun (items,after) => (node :: items,after)
    | .blockEnd :: rest => some ([],context,rest)
    | _ => none

/-- Entries of a sequence that is not indented. It ends where no entry follows. -/
def looseItems? : Nat → Context → List Token → Option (List Node × Context × List Token)
  | 0, _, _ => none
  | fuel + 1, context, tokens =>
    match tokens with
    | .blockEntry :: rest =>
      let follows := fun t => t == .blockEntry || t == .key || t == .value || t == .blockEnd
      match maybeNode? fuel .block follows context rest with
      | none => none
      | some (node,context,rest) =>
        (looseItems? fuel context rest).map fun (items,after) => (node :: items,after)
    | rest => some ([],context,rest)

def blockPairs? : Nat → Context → List Token → Option (List (Node × Node) × Context × List Token)
  | 0, _, _ => none
  | fuel + 1, context, tokens =>
    let follows := fun t => t == .key || t == .value || t == .blockEnd
    match tokens with
    | .key :: rest =>
      match maybeNode? fuel .mappingPart follows context rest with
      | none => none
      | some (key,context,.value :: rest) =>
        match maybeNode? fuel .mappingPart follows context rest with
        | none => none
        | some (value,context,rest) =>
          (blockPairs? fuel context rest).map fun (pairs,after) => ((key,value) :: pairs,after)
      | some (key,context,rest) =>
        (blockPairs? fuel context rest).map
          fun (pairs,after) => ((key,.nothing none) :: pairs,after)
    | .blockEnd :: rest => some ([],context,rest)
    | _ => none

def flowValue? : Nat → (Token → Bool) → Context → List Token → Option (Node × Context × List Token)
  | 0, _, _, _ => none
  | fuel + 1, follows, context, tokens =>
    match tokens with
    | .value :: rest => maybeNode? fuel .flow follows context rest
    | rest => some (.nothing none,context,rest)

def flowItems? : Nat → Bool → Context → List Token → Option (List Node × Context × List Token)
  | 0, _, _, _ => none
  | fuel + 1, first, context, tokens =>
    match tokens, first with
    | .flowSequenceEnd :: rest, _ => some ([],context,rest)
    | .flowEntry :: rest, false => flowItem? fuel context rest
    | rest, true => flowItem? fuel context rest
    | _, false => none

/-- One item and those behind it. A pair without braces is a mapping of its own. -/
def flowItem? : Nat → Context → List Token → Option (List Node × Context × List Token)
  | 0, _, _ => none
  | fuel + 1, context, tokens =>
    let ends := fun t => t == .flowEntry || t == .flowSequenceEnd
    match tokens with
    | .flowSequenceEnd :: rest => some ([],context,rest)
    | .key :: rest =>
      match maybeNode? fuel .flow (fun t => t == .value || ends t) context rest with
      | none => none
      | some (key,context,rest) =>
        match flowValue? fuel ends context rest with
        | none => none
        | some (value,context,rest) =>
          (flowItems? fuel false context rest).map
            fun (items,after) => (.mapping [(key,value)] :: items,after)
    | rest =>
      match node? fuel .flow context rest with
      | none => none
      | some (node,context,rest) =>
        (flowItems? fuel false context rest).map fun (items,after) => (node :: items,after)

def flowPairs? : Nat → Bool → Context → List Token →
    Option (List (Node × Node) × Context × List Token)
  | 0, _, _, _ => none
  | fuel + 1, first, context, tokens =>
    match tokens, first with
    | .flowMappingEnd :: rest, _ => some ([],context,rest)
    | .flowEntry :: rest, false => flowPair? fuel context rest
    | rest, true => flowPair? fuel context rest
    | _, false => none

def flowPair? : Nat → Context → List Token → Option (List (Node × Node) × Context × List Token)
  | 0, _, _ => none
  | fuel + 1, context, tokens =>
    let ends := fun t => t == .flowEntry || t == .flowMappingEnd
    match tokens with
    | .flowMappingEnd :: rest => some ([],context,rest)
    | .key :: rest =>
      match maybeNode? fuel .flow (fun t => t == .value || ends t) context rest with
      | none => none
      | some (key,context,rest) =>
        match flowValue? fuel ends context rest with
        | none => none
        | some (value,context,rest) =>
          (flowPairs? fuel false context rest).map
            fun (pairs,after) => ((key,value) :: pairs,after)
    | rest =>
      match node? fuel .flow context rest with
      | none => none
      | some (key,context,rest) =>
        (flowPairs? fuel false context rest).map
          fun (pairs,after) => ((key,.nothing none) :: pairs,after)

end

/-- The directives of a document: at most one version, and handles that differ. -/
def directives? : Bool → List String → List Token → Option (List String × List Token)
  | versioned, handles, .version major minor :: rest =>
    if versioned || major != 1 || (minor != 1 && minor != 2) then none
    else directives? true handles rest
  | versioned, handles, .tagHandle handle _ :: rest =>
    if handles.contains handle then none else directives? versioned (handle :: handles) rest
  | _, handles, rest => some (handles,rest)

def isDirective : Token → Bool
  | .version .. | .tagHandle .. => true
  | _ => false

def marked? (fuel : Nat) (context : Context) (tokens : List Token) :
    Option (Node × List Token) :=
  match tokens with
  | [] => some (.nothing none,[])
  | token :: _ =>
    if isDirective token || token == .documentStart || token == .documentEnd then
      some (.nothing none,tokens)
    else (node? fuel .block context tokens).map fun (node,_,rest) => (node,rest)

/-- The only document of a text, if it has one. More than one are refused. -/
def document? (tokens : List Token) : Option (Option Node) := do
  let fuel := 3 * tokens.length + 3
  let (node,rest) ←
    match tokens with
    | [] => return none
    | token :: _ =>
      if isDirective token || token == .documentStart then do
        let (handles,rest) ← directives? false [] tokens
        match rest with
        | .documentStart :: rest => marked? fuel { handles := handles ++ ["","!","!!"] } rest
        | _ => none
      else (node? fuel .block {} tokens).map fun (node,_,rest) => (node,rest)
  if rest.all (· == .documentEnd) then return some node else none

def Node.read? (text : String) : Option (Option Node) :=
  (Token.scan? text.toList).bind document?

end DnsPolicy.Yaml
