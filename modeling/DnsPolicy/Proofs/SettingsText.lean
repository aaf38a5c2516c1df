import DnsPolicy.Proofs.SettingsEdits
import DnsPolicy.Proofs.SettingsTokens

/-! Settings that are written as a text and read back are the same, as long as their rewrites are in
normal form. -/
namespace DnsPolicy.Settings
open Text Yaml

/-! ### From tokens to the tree -/

variable {text : String} {style : Style} {rest : List Token} {context : Context} {fuel : Nat}

private theorem node?_scalar (position : Position) :
    node? (fuel + 1) position context (.scalar text style :: rest) =
      some (.scalar text style none,context,rest) := by
  cases position <;> rfl

private theorem maybeNode?_of_node {position : Position} {follows : Token → Bool} {token : Token}
    {found : Node × Context × List Token} (here : follows token = false)
    (read : node? fuel position context (token :: rest) = some found) :
    maybeNode? (fuel + 1) position follows context (token :: rest) = some found := by
  rw [maybeNode?]
  simp only [here,Bool.false_eq_true,if_false,read]

private theorem maybeNode?_scalar (position : Position) {follows : Token → Bool}
    (here : follows (.scalar text style) = false) :
    maybeNode? (fuel + 2) position follows context (.scalar text style :: rest) =
      some (.scalar text style none,context,rest) := maybeNode?_of_node here (node?_scalar position)

/-- The tokens that may stand where a part of a block mapping would. -/
def endsPart (token : Token) : Bool := token == .key || token == .value || token == .blockEnd

private theorem blockPairs?_field {value : List Token} {node : Node}
    (read : maybeNode? (fuel + 2) .mappingPart endsPart context (value ++ rest) = some (node,context,rest)) :
    blockPairs? (fuel + 3) context (fieldTokens name value ++ rest) =
      (blockPairs? (fuel + 2) context rest).map fun (pairs,after) =>
        ((.scalar name .plain none,node) :: pairs,after) := by
  have key : maybeNode? (fuel + 2) .mappingPart endsPart context
      (.scalar name .plain :: .value :: (value ++ rest)) =
      some (.scalar name .plain none,context,.value :: (value ++ rest)) :=
    maybeNode?_scalar .mappingPart rfl
  unfold endsPart at key read
  rw [fieldTokens,List.cons_append,List.cons_append,List.cons_append,blockPairs?]
  simp only [key,read]

private theorem blockPairs?_end : blockPairs? (fuel + 1) context (.blockEnd :: rest) =
    some ([],context,rest) := by
  rw [blockPairs?]

/-- The node of a text that is written plain where it can be. -/
def textNode (text : String) : Node := .scalar text (writtenStyle text.toList) none

def rewriteNode (rewrite : Rewrite) : Node :=
  .mapping [(.scalar "domain" .plain none,textNode rewrite.domain),
    (.scalar "answer" .plain none,textNode rewrite.answer)]

private theorem node?_mapping {tokens : List Token} {pairs : List (Node × Node)}
    (read : blockPairs? fuel context tokens = some (pairs,context,rest)) :
    node? (fuel + 1) .block context (.blockMappingStart :: tokens) = some (.mapping pairs,context,rest) := by
  rw [node?]
  · simp only [properties?,Context.enter,read]
    rfl
  · intro name rest alias_
    cases alias_

private theorem maybeNode?_text (text : String) :
    maybeNode? (fuel + 2) .mappingPart endsPart context ([textToken text] ++ rest) =
      some (textNode text,context,rest) := maybeNode?_scalar .mappingPart rfl

private theorem node?_rewrite (rewrite : Rewrite) :
    node? (fuel + 6) .block context (.blockMappingStart :: (fieldTokens "domain" [textToken rewrite.domain] ++
      (fieldTokens "answer" [textToken rewrite.answer] ++ .blockEnd :: rest))) =
      some (rewriteNode rewrite,context,rest) := by
  apply node?_mapping
  rw [blockPairs?_field (maybeNode?_text _),blockPairs?_field (maybeNode?_text _),blockPairs?_end]
  rfl

private theorem looseItems?_entries (entries : List Rewrite) :
    looseItems? (fuel + entries.length + 8) context (entries.flatMap rewriteTokens ++ .blockEnd :: rest) =
      some (entries.map rewriteNode,context,.blockEnd :: rest) := by
  induction entries with
  | nil =>
    rw [List.flatMap_nil,List.nil_append,looseItems?]
    · rfl
    · intro rest entry
      cases entry
  | cons entry entries ih =>
    have first : maybeNode? (fuel + entries.length + 8) .block
        (fun t => t == .blockEntry || t == .key || t == .value || t == .blockEnd) context
        (.blockMappingStart :: (fieldTokens "domain" [textToken entry.domain] ++
          (fieldTokens "answer" [textToken entry.answer] ++ .blockEnd ::
            (entries.flatMap rewriteTokens ++ .blockEnd :: rest)))) =
        some (rewriteNode entry,context,entries.flatMap rewriteTokens ++ .blockEnd :: rest) := by
      have enough : fuel + entries.length + 8 = fuel + entries.length + 1 + 6 + 1 := by omega
      rw [enough]
      exact maybeNode?_of_node rfl (node?_rewrite entry)
    have tokens : (entry :: entries).flatMap rewriteTokens ++ .blockEnd :: rest =
        .blockEntry :: .blockMappingStart :: (fieldTokens "domain" [textToken entry.domain] ++
          (fieldTokens "answer" [textToken entry.answer] ++ .blockEnd ::
            (entries.flatMap rewriteTokens ++ .blockEnd :: rest))) := by
      simp [rewriteTokens]
    rw [tokens,List.length_cons,← Nat.add_assoc,Nat.add_right_comm _ 1 8,looseItems?]
    simp only [first,ih]
    rfl

private theorem node?_entries {tokens : List Token} {items : List Node}
    (read : looseItems? fuel context (.blockEntry :: tokens) = some (items,context,rest)) :
    node? (fuel + 1) .mappingPart context (.blockEntry :: tokens) = some (.sequence items,context,rest) := by
  rw [node?]
  · simp only [properties?,Context.enter,read]
    rfl
  · intro name rest alias_
    cases alias_

def rewritesNode (table : RewriteTable) : Node := .sequence (table.entries.map rewriteNode)

private theorem maybeNode?_rewrites (table : RewriteTable) :
    maybeNode? (fuel + table.entries.length + 10) .mappingPart endsPart context
      (rewritesTokens table ++ .blockEnd :: rest) = some (rewritesNode table,context,.blockEnd :: rest) := by
  have items : looseItems? (fuel + table.entries.length + 8) context
      (table.entries.flatMap rewriteTokens ++ .blockEnd :: rest) =
      some (table.entries.map rewriteNode,context,.blockEnd :: rest) := looseItems?_entries table.entries
  rw [rewritesTokens,rewritesNode]
  cases entries : table.entries with
  | nil => rfl
  | cons entry more =>
    rw [entries] at items
    exact maybeNode?_of_node rfl (node?_entries items)

def plainPair (field : String × List Char) : Node × Node :=
  (.scalar field.1 .plain none,.scalar (String.ofList field.2) .plain none)

private theorem blockPairs?_plain {fields : List (String × List Char)} {pairs : List (Node × Node)}
    {after : List Token} (read : blockPairs? (fuel + 2) context rest = some (pairs,context,after)) :
    blockPairs? (fuel + fields.length + 2) context (fields.flatMap plainTokens ++ rest) =
      some (fields.map plainPair ++ pairs,context,after) := by
  induction fields with
  | nil => exact read
  | cons field fields ih =>
    have tokens : (field :: fields).flatMap plainTokens ++ rest = fieldTokens field.1
        [.scalar (String.ofList field.2) .plain] ++ (fields.flatMap plainTokens ++ rest) := by
      simp [plainTokens]
    have value : maybeNode? (fuel + fields.length + 2) .mappingPart endsPart context
        ([.scalar (String.ofList field.2) .plain] ++ (fields.flatMap plainTokens ++ rest)) =
        some (.scalar (String.ofList field.2) .plain none,context,fields.flatMap plainTokens ++ rest) :=
      maybeNode?_scalar .mappingPart rfl
    have enough : fuel + (fields.length + 1) + 2 = fuel + fields.length + 3 := by omega
    rw [tokens,List.length_cons,enough,blockPairs?_field value,ih]
    rfl

def settingsNode (settings : Settings) : Node :=
  .mapping ((plainFields settings).map plainPair ++
    [(.scalar "rewrites" .plain none,rewritesNode settings.rewrites)])

/-- There is one step for each field and each rewrite, and some more for the last of them. -/
theorem node?_settings (settings : Settings) (enough : settings.rewrites.entries.length + 19 ≤ fuel) :
    node? fuel .block {} (settingsTokens settings) = some (settingsNode settings,{},[]) := by
  obtain ⟨fuel,rfl⟩ : ∃ less, fuel =
      less + settings.rewrites.entries.length + 9 + (plainFields settings).length + 2 + 1 := by
    refine ⟨fuel - (settings.rewrites.entries.length + 19),?_⟩
    have fields : (plainFields settings).length = 7 := rfl
    omega
  have last : blockPairs? (fuel + settings.rewrites.entries.length + 9 + 2) {}
      (fieldTokens "rewrites" (rewritesTokens settings.rewrites) ++ [.blockEnd]) =
      some ([(.scalar "rewrites" .plain none,rewritesNode settings.rewrites)],{},[]) := by
    rw [blockPairs?_field (maybeNode?_rewrites settings.rewrites),blockPairs?_end]
    rfl
  exact node?_mapping (blockPairs?_plain last)

private theorem length_le_settingsTokens (settings : Settings) :
    settings.rewrites.entries.length + 19 ≤ 3 * (settingsTokens settings).length + 3 := by
  have rewrites : settings.rewrites.entries.length ≤ (rewritesTokens settings.rewrites).length := by
    rw [rewritesTokens]
    split
    next none => simp [List.isEmpty_iff.mp none]
    next =>
      induction settings.rewrites.entries with
      | nil => simp
      | cons entry entries ih =>
        rw [List.flatMap_cons,List.length_append,List.length_cons]
        have one : 1 ≤ (rewriteTokens entry).length := by simp [rewriteTokens]
        omega
  have plain : ((plainFields settings).flatMap plainTokens).length = 28 := rfl
  simp only [settingsTokens,fieldTokens,List.length_cons,List.length_append,plain]
  omega

private theorem document?_block {tokens : List Token} {node : Node}
    (read : node? (3 * (Token.blockMappingStart :: tokens).length + 3) .block {} (.blockMappingStart :: tokens) =
      some (node,{},[])) : document? (.blockMappingStart :: tokens) = some (some node) := by
  rw [document?.eq_def]
  simp [isDirective] at read ⊢
  simp [read]

private theorem read?_toYaml {settings : Settings}
    (writable : ∀ entry ∈ settings.rewrites.entries, IsWritable entry) :
    Node.read? settings.toYaml = some (some (settingsNode settings)) := by
  rw [Node.read?,scan?_toYaml writable,Option.bind_some]
  exact document?_block (node?_settings settings (length_le_settingsTokens settings))

/-! ### From the tree to settings -/

private theorem bool?_yamlBool (value : Bool) :
    bool? (.scalar (String.ofList (yamlBool value)) .plain none) = some value := by
  cases value <;> decide

private theorem word?_yamlWord (n : UInt32) :
    word? (.scalar (String.ofList (yamlWord n)) .plain none) = some n := by
  change Yaml.word? (String.ofList (yamlWord n)).toList = some n
  rw [String.toList_ofList,yamlWord,word?_decimal]

private theorem rewrite?_rewriteNode (rewrite : Rewrite) :
    rewrite? (rewriteNode rewrite) = some rewrite := by
  simp [rewrite?,rewriteNode,textNode,record?,field?,string?]

private theorem rewrites?_rewritesNode (table : RewriteTable) :
    rewrites? (rewritesNode table) = some table := by
  have items (entries : List Rewrite) : (entries.map rewriteNode).mapM rewrite? = some entries := by
    induction entries with
    | nil => rfl
    | cons entry entries ih => simp [rewrite?_rewriteNode,ih]
  change ((table.entries.map rewriteNode).mapM rewrite?).map RewriteTable.mk = some table
  rw [items]
  rfl

private theorem ofNode?_settingsNode (settings : Settings) :
    ofNode? (settingsNode settings) = some { settings with watched := false } := by
  have fields : record? fieldNames (settingsNode settings) =
      some ((plainFields settings).map (fun field => (field.1,.scalar (String.ofList field.2) .plain none)) ++
        [("rewrites",rewritesNode settings.rewrites)]) := by
    simp [record?,settingsNode,plainFields,plainPair,string?]
  simp only [ofNode?,fields]
  simp [field?,plainFields,bool?_yamlBool,word?_yamlWord,rewrites?_rewritesNode]

/-! ### Normal forms can be written -/

private theorem isWritable_of_normal {rewrite : Rewrite} (normal : rewrite.Normal) :
    IsWritable rewrite := by
  simp only [Rewrite.Normal,Rewrite.normalize] at normal
  split at normal
  next named =>
    obtain ⟨answer,answered,same⟩ := map_eq_ok_iff.mp normal
    rw [← same]
    constructor
    · rw [String.toList_ofList]
      intro c member
      simp [isWordChar,Rewrite.isPatternChar_of_stem named c member]
    · rw [String.toList_ofList]
      intro c member
      rw [Rewrite.normalAnswer] at answered
      split at answered
      · cases answered
      · split at answered
        next address =>
          obtain rfl := Except.ok.inj answered
          obtain ⟨found,read⟩ := Option.isSome_iff_exists.mp address
          exact isWordChar_of_isAddressChar (Address.isAddressChar_of_read? read c member)
        next =>
          simp only at answered
          split at answered
          next letters =>
            obtain rfl := Except.ok.inj answered
            simp [isWordChar,Hostname.isPatternChar_of_isName letters c member]
          next => cases answered
  next => cases normal

private theorem prepare_of_normal {settings : Settings} (normal : settings.rewrites.Normal) :
    settings.prepare = .ok settings := by
  have same : settings.rewrites.entries.mapM Rewrite.normalize = .ok settings.rewrites.entries :=
    mapM_eq_ok_iff.mpr (List.forall₂_same.mpr normal)
  rw [prepare,RewriteTable.ofList,same]
  rfl

private theorem ofYaml_toYaml {settings : Settings} (normal : settings.rewrites.Normal) :
    ofYaml settings.toYaml = .ok { settings with watched := false } := by
  have writable : ∀ entry ∈ settings.rewrites.entries, IsWritable entry :=
    fun entry member => isWritable_of_normal (normal entry member)
  rw [ofYaml,read?_toYaml writable]
  simp only [ofNode?_settingsNode]
  exact prepare_of_normal normal

private theorem watched_of_ofNode? {node : Node} {settings : Settings}
    (read : ofNode? node = some settings) : settings.watched = false := by
  simp only [ofNode?,Option.bind_eq_bind,Option.bind_eq_some_iff] at read
  obtain ⟨_,_,_,_,_,_,_,_,_,_,_,_,_,_,_,_,_,_,same⟩ := read
  obtain rfl := Option.some.inj same
  rfl

/-- What is read has its rewrites in normal form, and nobody who watches it. -/
theorem loaded_of_ofYaml {text : String} {settings : Settings} (read : ofYaml text = .ok settings) :
    settings.rewrites.Normal ∧ settings.watched = false := by
  rw [ofYaml] at read
  split at read
  next => contradiction
  next =>
    obtain rfl := Except.ok.inj read
    exact ⟨fun entry member => absurd member List.not_mem_nil,rfl⟩
  next node =>
    split at read
    next => contradiction
    next found decoded =>
      have unwatched := watched_of_ofNode? decoded
      obtain ⟨rewrites,made,rfl⟩ := Policy.prepare_eq_ok read
      exact ⟨RewriteTable.normal_ofList made,unwatched⟩

/-- Settings in normal form that are written and read back differ at most in being watched, and what was
read once is written and read back without any change. -/
theorem yaml_round_trip :
    (∀ settings : Settings, settings.rewrites.Normal →
      ofYaml settings.toYaml = .ok { settings with watched := false }) ∧
    ∀ (text : String) (settings : Settings), ofYaml text = .ok settings →
      ofYaml settings.toYaml = .ok settings := by
  refine ⟨fun settings normal => ofYaml_toYaml normal,fun text settings read => ?_⟩
  obtain ⟨normal,unwatched⟩ := loaded_of_ofYaml read
  rw [ofYaml_toYaml normal]
  obtain ⟨⟩ := settings
  obtain rfl : _ = false := unwatched
  rfl

/-- Names and addresses that look like other scalars, one of them twice. -/
theorem yaml_round_trip_scalars :
    let entries : List Rewrite := [⟨"*.a.b","fe80::"⟩,⟨"null","1e3"⟩,⟨"1.5","::1"⟩,⟨"null","1e3"⟩]
    let settings : Settings := { safeSearch := true, cacheTime := 0, rewrites := ⟨entries⟩, watched := true }
    let loaded : Settings := { cacheTime := 5, rewrites := ⟨[⟨"a.b","1e3"⟩]⟩ }
    ofYaml settings.toYaml = .ok { settings with watched := false } ∧
      ofYaml "cache_time: 5\nrewrites: [[A.b., 1E3]]" = .ok loaded ∧ ofYaml loaded.toYaml = .ok loaded := by
  intro entries settings loaded
  have normal : settings.rewrites.Normal := by
    unfold RewriteTable.Normal Rewrite.Normal
    decide +kernel
  have read : ofYaml "cache_time: 5\nrewrites: [[A.b., 1E3]]" = .ok loaded := by decide +kernel
  exact ⟨yaml_round_trip.1 settings normal,read,yaml_round_trip.2 _ loaded read⟩

end DnsPolicy.Settings
