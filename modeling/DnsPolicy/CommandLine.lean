import DnsPolicy.Decision.Encoding
import DnsPolicy.Policy
import DnsPolicy.Settings.Encoding

/-! The command line: checking hosts against lists of rules, and validating lists. -/
namespace DnsPolicy.CommandLine
open DnsPolicy.Text

structure CheckOptions where
  hosts : List String := []
  config : Option String := none
  block : List String := []
  allow : List String := []
  qtype : Option String := none
  tags : List String := []
  rulesOnly : Bool := false

inductive Command where
  | check (options : CheckOptions)
  | validate (files : List String)
  | help
  | version

structure Outcome where
  status : Nat := 0
  stdout : String := ""
  stderr : String := ""

abbrev Files := String → File

/-! ### Arguments -/

inductive CheckOption where
  | config
  | block
  | allow
  | qtype
  | tag

def CheckOption.ofLong? : List Char → Option CheckOption
  | name =>
    match String.ofList name with
    | "config" => some .config
    | "block" => some .block
    | "allow" => some .allow
    | "qtype" => some .qtype
    | "ctag" => some .tag
    | _ => none

def CheckOption.ofShort? : Char → Option CheckOption
  | 'c' => some .config
  | 'b' => some .block
  | 'a' => some .allow
  | 'q' => some .qtype
  | _ => none

/-- Sets an option. A file name must not be empty, and some options are given once at most. -/
def CheckOption.set? (options : CheckOptions) (value : String) : CheckOption → Option CheckOptions
  | .config =>
    if value.isEmpty || options.config.isSome then none
    else some { options with config := some value }
  | .block => if value.isEmpty then none else some { options with block := options.block ++ [value] }
  | .allow => if value.isEmpty then none else some { options with allow := options.allow ++ [value] }
  | .qtype => if options.qtype.isSome then none else some { options with qtype := some value }
  | .tag => some { options with tags := options.tags ++ [value] }

/-- An argument that starts with a hyphen and goes on is never the value of an option. -/
def isValue (arg : String) : Bool := !(arg.toList.head? == some '-' && arg.toList != ['-'])

inductive Word where
  | separator
  | long (name : List Char) (value : Option (List Char))
  | short (letter : Char) (more : List Char)
  | plain

def Word.ofArgument (arg : String) : Word :=
  match arg.toList with
  | ['-','-'] => .separator
  | '-' :: '-' :: text =>
    match cut? '=' text with
    | some (name,value) => .long name (some value)
    | none => .long text none
  | '-' :: letter :: more => .short letter more
  | _ => .plain

def finishCheck (options : CheckOptions) : Option Command :=
  if options.hosts.isEmpty then none else some (.check options)

def parseCheck (options : CheckOptions) : List String → Option Command
  | [] => finishCheck options
  | arg :: rest =>
    match Word.ofArgument arg with
    | .separator => finishCheck { options with hosts := options.hosts ++ rest }
    | .plain => parseCheck { options with hosts := options.hosts ++ [arg] } rest
    | .long name (some value) => do
      parseCheck (← (← CheckOption.ofLong? name).set? options (String.ofList value)) rest
    | .long name none =>
      if name = "help".toList then some .help
      else if name = "rules-only".toList then
        if options.rulesOnly then none else parseCheck { options with rulesOnly := true } rest
      else
        match CheckOption.ofLong? name, rest with
        | some option, value :: rest =>
          if isValue value then (option.set? options value).bind (parseCheck · rest) else none
        | _, _ => none
    | .short 'h' _ => some .help
    | .short letter [] =>
      match CheckOption.ofShort? letter, rest with
      | some option, value :: rest =>
        if isValue value then (option.set? options value).bind (parseCheck · rest) else none
      | _, _ => none
    | .short letter more => do
      let value := (after? ['='] more).getD more
      parseCheck (← (← CheckOption.ofShort? letter).set? options (String.ofList value)) rest

def finishValidate (files : List String) : Option Command :=
  if files.isEmpty || files.contains "" then none else some (.validate files)

def parseValidate (files : List String) : List String → Option Command
  | [] => finishValidate files
  | arg :: rest =>
    match Word.ofArgument arg with
    | .separator => finishValidate (files ++ rest)
    | .plain => parseValidate (files ++ [arg]) rest
    | .long name none => if name = "help".toList then some .help else none
    | .short 'h' _ => some .help
    | _ => none

def parse : List String → Option Command
  | "check" :: rest => parseCheck {} rest
  | "validate" :: rest => parseValidate [] rest
  | ["help"] | ["help","check"] | ["help","validate"] | ["help","help"] => some .help
  | "--help" :: _ | "-h" :: _ => some .help
  | "--version" :: _ | "-V" :: _ => some .version
  | _ => none

/-! ### Commands -/

def failed (message : String) (stdout : String := "") : Outcome :=
  { status := 1, stdout, stderr := "Error: " ++ message ++ "\n" }

def sources (files : Files) (first : Nat) (paths : List String) : List ListSource :=
  (paths.zipIdx first).map fun (path,id) => { id := (id : Int), file := files path }

def loadSettings (files : Files) : Option String → Except Failure Settings
  | none => .ok {}
  | some path =>
    match files path with
    | .missing => .error .missingFile
    | .unreadable reason => .error (.unreadable reason)
    | .bytes bytes =>
      match decode bytes with
      | .error _ => .error .notText
      | .ok text => Settings.ofYaml text

/-- The policy that a check uses. Block lists are numbered from one, allow lists after them. -/
def loadPolicy (files : Files) (options : CheckOptions) : Except Failure Policy := do
  let settings ← loadSettings files options.config
  let block := sources files 1 options.block
  let allow := sources files (options.block.length + 1) options.allow
  match (Policy.ofSettings settings).setRules block allow false with
  | (.ok (),policy) => return policy
  | (.error failure,_) => throw failure

def checkHosts (rulesOnly : Bool) (qtype : RecordType) (profile : Profile) :
    List String → Policy → Except Failure (List String)
  | [], _ => .ok []
  | host :: more, policy => do
    let (result,policy) :=
      if rulesOnly then (policy.checkRules host qtype profile,policy)
      else policy.check host qtype profile
    let decision ← result
    return (host ++ "\t" ++ decision.toJson ++ "\n")
      :: (← checkHosts rulesOnly qtype profile more policy)

def check (files : Files) (options : CheckOptions) : Outcome :=
  let name := options.qtype.getD "A"
  match RecordType.parse? name with
  | none => failed ("unknown query type: " ++ name)
  | some qtype =>
    match loadPolicy files options with
    | .error failure => failed failure.message
    | .ok policy =>
      let profile :=
        { policy.settings.profile with filtering := true, tags := options.tags }
      match checkHosts options.rulesOnly qtype profile options.hosts policy with
      | .error failure => failed failure.message
      | .ok lines => { stdout := String.join lines }

def report (files : Files) (path : String) (id : Nat) : Bool × String :=
  match files path with
  | .missing => (false,"missing")
  | file =>
    match Ruleset.build [{ id := (id : Int), file }] with
    | .error failure => (false,failure.message)
    | .ok rules =>
      (true,
        toString rules.index.networkRules.size ++ " network rules, "
          ++ toString rules.index.hostRules.size ++ " host rules")

def validate (files : Files) (paths : List String) : Outcome :=
  let reports := (paths.zipIdx 1).map fun (path,id) => (path,report files path id)
  let stdout := String.join (reports.map fun (path,_,text) => path ++ ": " ++ text ++ "\n")
  let bad := (reports.filter fun (_,good,_) => !good).length
  if bad = 0 then { stdout }
  else failed (toString bad ++ " of " ++ toString paths.length ++ " lists failed") stdout

def usage : String :=
  "Usage: dnsfilter-check check [OPTIONS] <HOSTS>...\n       dnsfilter-check validate <FILES>...\n"

def run (files : Files) (args : List String) : Outcome :=
  match parse args with
  | none => { status := 2, stderr := usage }
  | some .help => { stdout := usage }
  | some .version => { stdout := "dnsfilter-check 0.1.0\n" }
  | some (.check options) => check files options
  | some (.validate paths) => validate files paths

def fileNames (args : List String) : List String :=
  match parse args with
  | some (.check options) => options.config.toList ++ options.block ++ options.allow
  | some (.validate paths) => paths
  | _ => []

end DnsPolicy.CommandLine
