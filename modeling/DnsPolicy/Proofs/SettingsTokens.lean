import DnsPolicy.Proofs.YamlLines
import DnsPolicy.Settings.Encoding

/-! The tokens of settings that are written as a text: a block mapping with one line for each field, and the
rewrites as a sequence that is not indented. -/
namespace DnsPolicy.Settings
open Text Yaml Yaml.Scanner

def fieldTokens (name : String) (value : List Token) : List Token :=
  .key :: .scalar name .plain :: .value :: value

/-- Lines at the left end of the text give these tokens, within a block that is open there. -/
structure Gives (text : List Char) (tokens : List Token) : Prop where
  starts : StartsToken text
  scans (mark : Mark) (seen : List Token) (place : mark.column = 0) :
    (line mark text seen 0 [-1]).Scans (seen.reverse ++ tokens)

variable {name : String} {written next : List Char} {token : Token} {tokens : List Token}

private theorem yamlLine_append (name : String) (written next : List Char) :
    yamlLine name written ++ next = name.toList ++ ':' :: ' ' :: (written ++ '\n' :: next) := by
  simp [yamlLine]

private theorem scans_yamlLine {mark : Mark} {seen opened : List Token} {indent : Int}
    {outer : List Int}
    (named : IsFieldName name.toList) (spelled : Spelled written token) (gives : Gives next tokens)
    (enters : Enters 0 seen indent outer opened [-1]) (place : mark.column = 0) :
    (line mark (yamlLine name written ++ next) seen indent outer).Scans
      (opened.reverse ++ (fieldTokens name [token] ++ tokens)) := by
  rw [yamlLine_append]
  refine scans_field named spelled gives.starts (Nat.le_refl 0) enters place fun mark place => ?_
  have scans := gives.scans mark (token :: .value :: .scalar name .plain :: .key :: opened) place
  simpa [fieldTokens] using scans

private theorem startsToken_yamlLine (named : IsFieldName name.toList) :
    StartsToken (yamlLine name written ++ next) := by
  rw [yamlLine_append]
  exact startsToken_of_isFieldName named _

private theorem gives_yamlLine (named : IsFieldName name.toList) (spelled : Spelled written token)
    (gives : Gives next tokens) : Gives (yamlLine name written ++ next) (fieldTokens name [token] ++ tokens) where
  starts := startsToken_yamlLine named
  scans _ _ place := scans_yamlLine named spelled gives .stays place

private theorem gives_end : Gives [] [.blockEnd] where
  starts := by simp [StartsToken]
  scans _ _ _ := scans_end

/-- The token of a text that is written plain where it can be. -/
def textToken (text : String) : Token := .scalar text (writtenStyle text.toList)

private theorem spelled_textToken {text : String} (word : IsWord text.toList) :
    Spelled (writeText text.toList) (textToken text) := by
  have spelled := spelled_writeText word
  rwa [String.ofList_toList] at spelled

/-- Domain and answer have only characters of words. -/
structure IsWritable (rewrite : Rewrite) : Prop where
  domain : IsWord rewrite.domain.toList
  answer : IsWord rewrite.answer.toList

def rewriteTokens (rewrite : Rewrite) : List Token :=
  .blockEntry :: .blockMappingStart ::
    (fieldTokens "domain" [textToken rewrite.domain] ++ (fieldTokens "answer" [textToken rewrite.answer] ++
      [.blockEnd]))

private theorem yamlRewrite_append (rewrite : Rewrite) (next : List Char) :
    yamlRewrite rewrite ++ next = '-' :: ' ' :: ("domain".toList ++ ':' :: ' ' ::
      (writeText rewrite.domain.toList ++ '\n' :: (List.replicate 2 ' ' ++ ("answer".toList ++ ':' :: ' ' ::
        (writeText rewrite.answer.toList ++ '\n' :: (List.replicate 0 ' ' ++ next)))))) := by
  have first : "- domain".toList = '-' :: ' ' :: "domain".toList := rfl
  have second : "  answer".toList = List.replicate 2 ' ' ++ "answer".toList := rfl
  simp only [yamlRewrite,yamlLine,first,second]
  simp

private theorem gives_rewrite {rewrite : Rewrite} (writable : IsWritable rewrite)
    (gives : Gives next tokens) :
    Gives (yamlRewrite rewrite ++ next) (rewriteTokens rewrite ++ tokens) := by
  have domain : IsFieldName "domain".toList := by decide
  have answer : IsFieldName "answer".toList := by decide
  rw [yamlRewrite_append]
  refine ⟨startsToken_cons (isInner_of_isWordChar (by decide)),fun mark seen place => ?_⟩
  apply scans_entry (startsToken_of_isFieldName domain _) place
  apply scans_field domain (spelled_textToken writable.domain) (startsToken_of_isFieldName answer _)
    (Nat.le_refl 2) (.opens (by decide)) (by simp [Mark.skip,place])
  intro mark place
  apply scans_spaces 2 (startsToken_of_isFieldName answer _)
  apply scans_field answer (spelled_textToken writable.answer) gives.starts (Nat.zero_le 2) .stays
    (by simp [Mark.skip,place])
  intro mark place
  apply scans_dedent gives.starts place (by decide)
  have scans := gives.scans mark (.blockEnd :: textToken rewrite.answer :: .value :: .scalar "answer" .plain ::
    .key :: textToken rewrite.domain :: .value :: .scalar "domain" .plain :: .key :: .blockMappingStart ::
    .blockEntry :: seen) place
  simpa [rewriteTokens,fieldTokens] using scans

def rewritesTokens (table : RewriteTable) : List Token :=
  if table.entries.isEmpty then [.flowSequenceStart,.flowSequenceEnd] else table.entries.flatMap rewriteTokens

private theorem gives_entries {entries : List Rewrite}
    (writable : ∀ entry ∈ entries, IsWritable entry) :
    Gives (entries.flatMap yamlRewrite) (entries.flatMap rewriteTokens ++ [.blockEnd]) := by
  induction entries with
  | nil => exact gives_end
  | cons entry entries ih =>
    rw [List.forall_mem_cons] at writable
    rw [List.flatMap_cons,List.flatMap_cons,List.append_assoc]
    exact gives_rewrite writable.1 (ih writable.2)

/-- A key at the left end of the text, with what stands behind its colon. -/
theorem gives_key (named : IsFieldName name.toList) (blank : startsBlank next = true)
    (scans : ∀ (mark : Mark) (seen : List Token),
      (within mark next (.value :: .scalar name .plain :: .key :: seen) 0 [-1]).Scans
        (seen.reverse ++ tokens)) :
    Gives (name.toList ++ ':' :: next) tokens where
  starts := startsToken_of_isFieldName named _
  scans := by
    rintro ⟨index,row,column⟩ seen place
    obtain rfl : column = 0 := place
    refine scans_key named blank .stays ?_
    rw [String.ofList_toList]
    exact scans _ seen

private theorem gives_rewrites {table : RewriteTable}
    (writable : ∀ entry ∈ table.entries, IsWritable entry) :
    Gives (yamlRewrites table) (fieldTokens "rewrites" (rewritesTokens table) ++ [.blockEnd]) := by
  have named : IsFieldName "rewrites".toList := by decide
  rw [yamlRewrites,rewritesTokens]
  split
  next =>
    refine gives_key named rfl fun mark seen => ?_
    refine scans_brackets (by simp) fun mark place => ?_
    have scans := gives_end.scans mark (.flowSequenceEnd :: .flowSequenceStart :: .value ::
      .scalar "rewrites" .plain :: .key :: seen) place
    simpa [fieldTokens] using scans
  next =>
    refine gives_key named rfl fun mark seen => ?_
    have scans := (gives_entries writable).scans mark.nextLine (.value :: .scalar "rewrites" .plain ::
      .key :: seen) rfl
    exact Scans.congr (approach?_break false _) (by simp [within,line]) (by simpa [fieldTokens] using scans)

/-- The fields in front of the rewrites, which are written without quotes. -/
def plainFields (settings : Settings) : List (String × List Char) :=
  [("parental_enabled",yamlBool settings.parental),("safesearch_enabled",yamlBool settings.safeSearch),
    ("safebrowsing_enabled",yamlBool settings.safeBrowsing),
    ("safebrowsing_cache_size",yamlWord settings.safeBrowsingCache),
    ("safesearch_cache_size",yamlWord settings.safeSearchCache),
    ("parental_cache_size",yamlWord settings.parentalCache),("cache_time",yamlWord settings.cacheTime)]

def plainTokens (field : String × List Char) : List Token :=
  fieldTokens field.1 [.scalar (String.ofList field.2) .plain]

private theorem isFieldName_of_mem : ∀ name ∈ fieldNames, IsFieldName name.toList := by decide

private theorem plainWord_of_plainFields {settings : Settings} {field : String × List Char}
    (member : field ∈ plainFields settings) : IsFieldName field.1.toList ∧ PlainWord field.2 := by
  have bool (value : Bool) : PlainWord (yamlBool value) := by
    cases value
    · exact plainWord_of_standsPlain (isWord_of_all (by decide)) (by decide)
    · exact plainWord_of_standsPlain (isWord_of_all (by decide)) (by decide)
  simp only [plainFields,List.mem_cons,List.not_mem_nil,or_false] at member
  rcases member with rfl | rfl | rfl | rfl | rfl | rfl | rfl
  all_goals refine ⟨isFieldName_of_mem _ (by simp [fieldNames]),?_⟩
  · exact bool _
  · exact bool _
  · exact bool _
  all_goals exact plainWord_decimal _

private theorem gives_plainFields {fields : List (String × List Char)}
    (plain : ∀ field ∈ fields, IsFieldName field.1.toList ∧ PlainWord field.2) (gives : Gives next tokens) :
    Gives (fields.flatMap (fun field => yamlLine field.1 field.2) ++ next)
      (fields.flatMap plainTokens ++ tokens) := by
  induction fields with
  | nil => exact gives
  | cons field fields ih =>
    rw [List.forall_mem_cons] at plain
    simp only [List.flatMap_cons,List.append_assoc]
    exact gives_yamlLine plain.1.1 (.plain plain.1.2) (ih plain.2)

private theorem toYaml_eq (settings : Settings) : settings.toYaml.toList =
    (plainFields settings).flatMap (fun field => yamlLine field.1 field.2) ++ yamlRewrites settings.rewrites := by
  simp [toYaml,plainFields]

def settingsTokens (settings : Settings) : List Token :=
  .blockMappingStart :: ((plainFields settings).flatMap plainTokens ++
    (fieldTokens "rewrites" (rewritesTokens settings.rewrites) ++ [.blockEnd]))

private theorem scans_toYaml {settings : Settings}
    (writable : ∀ entry ∈ settings.rewrites.entries, IsWritable entry) :
    StartsToken settings.toYaml.toList ∧
      (line {} settings.toYaml.toList [] (-1) []).Scans (settingsTokens settings) := by
  obtain ⟨first,rest,fields⟩ : ∃ first rest, plainFields settings = first :: rest := ⟨_,_,rfl⟩
  have plain : ∀ field ∈ first :: rest, IsFieldName field.1.toList ∧ PlainWord field.2 :=
    fun _ member => plainWord_of_plainFields (fields ▸ member)
  rw [List.forall_mem_cons] at plain
  have gives := gives_plainFields plain.2 (gives_rewrites writable)
  rw [toYaml_eq,settingsTokens,fields]
  simp only [List.flatMap_cons,List.append_assoc]
  exact ⟨startsToken_yamlLine plain.1.1,
    scans_yamlLine plain.1.1 (.plain plain.1.2) gives (.opens (by decide)) rfl⟩

/-! ### Characters of the text -/

private theorem isAllowed_of_spelled (spelled : Spelled written token) :
    ∀ c ∈ written, isAllowed c = true := by
  cases spelled with
  | plain stands => exact fun c member => isAllowed_of_isWordChar (stands.word c member)
  | quoted word =>
    intro c member
    simp only [List.mem_cons,List.mem_append,List.not_mem_nil,or_false] at member
    rcases member with rfl | letter | rfl
    · decide
    · exact isAllowed_of_isWordChar (word c letter)
    · decide

private theorem isAllowed_of_yamlLine (named : ∀ c ∈ name.toList, isAllowed c = true)
    (spelled : ∀ c ∈ written, isAllowed c = true) : ∀ c ∈ yamlLine name written, isAllowed c = true := by
  have marks : ∀ c ∈ ": ".toList, isAllowed c = true := List.all_eq_true.mp (by decide)
  intro c member
  simp only [yamlLine,List.mem_append,List.mem_singleton] at member
  rcases member with ((letter | mark) | letter) | rfl
  · exact named c letter
  · exact marks c mark
  · exact spelled c letter
  · decide

private theorem isAllowed_of_toYaml {settings : Settings}
    (writable : ∀ entry ∈ settings.rewrites.entries, IsWritable entry) :
    settings.toYaml.toList.all isAllowed = true := by
  rw [toYaml_eq,List.all_eq_true]
  intro c member
  rw [List.mem_append,List.mem_flatMap] at member
  rcases member with ⟨field,listed,member⟩ | member
  · obtain ⟨named,plain⟩ := plainWord_of_plainFields listed
    exact isAllowed_of_yamlLine (fun c member => isAllowed_of_isWordChar (word_of_isFieldName named c member))
      (isAllowed_of_spelled (.plain plain)) c member
  · rw [yamlRewrites] at member
    split at member
    · exact isAllowed_of_yamlLine (List.all_eq_true.mp (by decide)) (List.all_eq_true.mp (by decide)) c member
    · rw [List.mem_append,List.mem_flatMap] at member
      rcases member with title | ⟨entry,listed,member⟩
      · exact List.all_eq_true.mp (by decide) c title
      · rw [yamlRewrite,List.mem_append] at member
        rcases member with domain | answer
        · exact isAllowed_of_yamlLine (List.all_eq_true.mp (by decide))
            (isAllowed_of_spelled (spelled_textToken (writable entry listed).domain)) c domain
        · exact isAllowed_of_yamlLine (List.all_eq_true.mp (by decide))
            (isAllowed_of_spelled (spelled_textToken (writable entry listed).answer)) c answer

theorem scan?_toYaml {settings : Settings} (writable : ∀ entry ∈ settings.rewrites.entries, IsWritable entry) :
    Token.scan? settings.toYaml.toList = some (settingsTokens settings) := by
  obtain ⟨starts,scans⟩ := scans_toYaml writable
  have allowed := isAllowed_of_toYaml writable
  generalize settings.toYaml.toList = text at starts scans allowed
  have unmarked : (text.head? == some '\ufeff') = false :=
    beq_eq_false_iff_ne.mpr fun same => (starts _ same).2.2.2 rfl
  rw [Token.scan?]
  simp only [unmarked,Bool.false_eq_true,if_false,allowed,if_true]
  exact scans (text.length + 2) (Nat.le_refl _)

end DnsPolicy.Settings
