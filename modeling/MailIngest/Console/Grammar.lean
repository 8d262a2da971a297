import MailIngest.Decimal.Read
import MailIngest.Text.Blank
import MailIngest.Settings.Model

/-!
# Command lines

A command line is a list of words. Its first words name a command through groups
(`imap oauth list`, `imap sync`, `imap position`, ...), and every group and command reads its
own options before the next word is looked at.

The words of one level are read from the left:

- `--` ends the options; every later word is an argument;
- a word of two or more characters starting with `-` is an option: first as a long name, with
  a value after the first `=`; failing that, unless it starts with `--`, as a cluster of
  one-letter names, where a name that takes a value takes the rest of the cluster, or the next
  word when the cluster ends with it;
- any other word is an argument of a command, or the name of the next command of a group,
  which ends the group's options.

An option that takes a value takes the next word whatever it looks like, and an option given
twice keeps its last value. A flag takes no value. `--help` on any level asks for help, which
wins over missing and malformed parameters once the words are read.

A line is refused with a `Usage` reason for an unknown option or command, a missing value,
command, option or argument, extra arguments, or a port that is no integer.

- `readWords_nil` : an empty line reads as nothing given;
- `invocation_empty` : a line without words names no command.
-/

namespace MailIngest.Console

/-- How an option takes its value. -/
inductive Arity where
  /-- A flag, which sets its parameter to a fixed truth value. -/
  | flag (value : Bool)
  /-- An option followed by a value. -/
  | value
deriving DecidableEq, Inhabited

/-- An option: the parameter it sets, the names it is written with, and its arity. -/
structure Switch where
  param : String
  names : List String
  arity : Arity
deriving Inhabited

/-- A value given to a parameter. -/
inductive Given where
  | text (s : String)
  | truth (b : Bool)
deriving DecidableEq, Inhabited

/-- Why a command line is refused. -/
inductive Usage where
  | noSuchOption (name : String)
  | needsValue (name : String)
  | takesNoValue (name : String)
  | missingCommand
  | noSuchCommand (name : String)
  | missing (param : String)
  | extraArguments (words : List String)
  | notAnInteger (param : String) (word : String)
deriving DecidableEq, Inhabited

def Usage.message : Usage → String
  | .noSuchOption n => "No such option: " ++ n
  | .needsValue n => "Option " ++ n ++ " requires an argument."
  | .takesNoValue n => "Option " ++ n ++ " does not take a value."
  | .missingCommand => "Missing command."
  | .noSuchCommand n => "No such command " ++ n ++ "."
  | .missing p => "Missing parameter: " ++ p
  | .extraArguments ws => "Got unexpected extra arguments: " ++ " ".intercalate ws
  | .notAnInteger p w => "Invalid value for " ++ p ++ ": " ++ w ++ " is not a valid integer."

def helpSwitch : Switch := ⟨"help", ["--help"], .flag true⟩

/-- Whether an option name is a one-letter name such as `-s`. -/
def isShortName (n : String) : Bool := n.length = 2 && n.startsWith "-" && !n.startsWith "--"

def findLong (sw : List Switch) (name : String) : Option Switch :=
  sw.find? fun s => s.names.any fun n => n = name && !isShortName n

def findShort (sw : List Switch) (c : Char) : Option Switch :=
  sw.find? fun s => s.names.contains (String.ofList ['-', c])

/-- What one option word sets, and the option whose value is the next word, if one is left
waiting: its parameter and the name it was written with. -/
structure OptionWord where
  sets : List (String × Given) := []
  waiting : Option (String × String) := none
deriving Inhabited

/-- A cluster of one-letter names read from the left, after what it has set so far. -/
def readCluster (sw : List Switch) (sets : List (String × Given)) :
    List Char → Except Usage OptionWord
  | [] => .ok { sets }
  | c :: rest =>
    match findShort sw c with
    | none => .error (.noSuchOption (String.ofList ['-', c]))
    | some s =>
      match s.arity with
      | .flag b => readCluster sw (sets ++ [(s.param, .truth b)]) rest
      | .value =>
        if rest.isEmpty then .ok { sets, waiting := some (s.param, String.ofList ['-', c]) }
        else .ok { sets := sets ++ [(s.param, .text (String.ofList rest))] }

def readOption (sw : List Switch) (word : String) : Except Usage OptionWord :=
  let (name, explicit) := match word.splitOn "=" with
    | n :: v :: more => (n, some ("=".intercalate (v :: more)))
    | _ => (word, none)
  match findLong sw name with
  | some s =>
    match s.arity, explicit with
    | .value, some v => .ok { sets := [(s.param, .text v)] }
    | .value, none => .ok { waiting := some (s.param, name) }
    | .flag _, some _ => .error (.takesNoValue name)
    | .flag b, none => .ok { sets := [(s.param, .truth b)] }
  | none =>
    if word.startsWith "--" then .error (.noSuchOption name)
    else readCluster sw [] (word.toList.drop 1)

/-- What a level's words have given: parameter values, the last one of each kept, and the
arguments in order. -/
structure Reading where
  given : List (String × Given) := []
  arguments : List String := []
deriving Inhabited

def Reading.put (r : Reading) (kv : String × Given) : Reading :=
  if r.given.any (·.1 = kv.1) then
    { r with given := r.given.map fun (k, v) => if k = kv.1 then (k, kv.2) else (k, v) }
  else { r with given := r.given ++ [kv] }

def Reading.get? (r : Reading) (param : String) : Option Given :=
  (r.given.find? (·.1 = param)).map (·.2)

def isOptionWord (w : String) : Bool := w.startsWith "-" && w.length > 1

/-- Reads a level's words: options, and arguments too when `interspersed`; the words left
for the next level, or after `--`. -/
def readWords (sw : List Switch) (interspersed : Bool) :
    List String → Reading → Except Usage (Reading × List String)
  | [], r => .ok (r, [])
  | w :: rest, r =>
    if w = "--" then .ok (r, rest)
    else if isOptionWord w then
      match readOption sw w with
      | .error u => .error u
      | .ok o =>
        match o.waiting with
        | none => readWords sw interspersed rest (o.sets.foldl Reading.put r)
        | some (p, n) =>
          match rest with
          | v :: more => readWords sw interspersed more ((o.sets.foldl Reading.put r).put (p, .text v))
          | [] => .error (.needsValue n)
    else if interspersed then readWords sw interspersed rest { r with arguments := r.arguments ++ [w] }
    else .ok (r, w :: rest)

/-- What a sync command is given. -/
structure SyncRequest where
  source : String
  host : String
  username : String
  port : Int
  password : Option String
  credentialId : Option String
  insecure : Bool
  allInclusive : Option Bool
  emlDir : Option String
  config : String
deriving Inhabited

/-- The commands of the command line. -/
inductive Command where
  /-- Lists a user's connected mailboxes, as JSON or as a table. -/
  | listAccounts (user : String) (json : Bool) (config : String)
  /-- Removes one of a user's connected mailboxes. -/
  | deleteAccount (id user config : String)
  /-- Renews the access token of one of a user's connected mailboxes. -/
  | refreshAccount (id user config : String)
  /-- Runs one sync cycle of an account and stores the position it reaches. -/
  | sync (r : SyncRequest)
  /-- Shows the stored position of an ingestion source. -/
  | showPosition (source : String) (json : Bool) (config : String)
deriving Inhabited

def Command.config : Command → String
  | .listAccounts _ _ c | .deleteAccount _ _ c | .refreshAccount _ _ c | .showPosition _ _ c => c
  | .sync r => r.config

/-- What a command line asks for. -/
inductive Invocation where
  | run (c : Command)
  | help
  | refused (u : Usage)
deriving Inhabited

def defaultConfig (home : String) : String := Settings.dataDir home ++ "/config.json"

def configSwitch : Switch := ⟨"config", ["--config", "-c"], .value⟩

/-- A command's words read into its parameters: the options and the named arguments. -/
structure Parsed where
  reading : Reading
  values : List (String × String)
deriving Inhabited

/-- Reads a command's words: options anywhere, then the arguments matched to their names. -/
def readCommand (sw : List Switch) (names : List String) (words : List String) :
    Except Usage (Option Parsed) := do
  let (r, more) ← readWords (helpSwitch :: sw) true words {}
  if r.get? "help" = some (.truth true) then return none
  let args := r.arguments ++ more
  if args.length < names.length then throw (.missing (names.getD args.length ""))
  if args.length > names.length then throw (.extraArguments (args.drop names.length))
  pure (some ⟨r, names.zip args⟩)

def Parsed.text? (p : Parsed) (param : String) : Option String :=
  match p.reading.get? param with
  | some (.text s) => some s
  | _ => (p.values.find? (·.1 = param)).map (·.2)

def Parsed.need (p : Parsed) (param : String) : Except Usage String :=
  match p.text? param with
  | some s => .ok s
  | none => .error (.missing param)

def Parsed.flag? (p : Parsed) (param : String) : Option Bool :=
  match p.reading.get? param with
  | some (.truth b) => some b
  | _ => none

/-- An integer parameter, `dflt` when not given; the word may have blanks around it. -/
def Parsed.integer (p : Parsed) (param : String) (dflt : Int) : Except Usage Int :=
  match p.text? param with
  | none => .ok dflt
  | some w => match Decimal.readGroupedInt? (Text.trim w) with
    | some n => .ok n
    | none => .error (.notAnInteger param w)

def command (sw : List Switch) (names : List String) (words : List String)
    (build : Parsed → Except Usage Command) : Invocation :=
  match readCommand sw names words with
  | .error u => .refused u
  | .ok none => .help
  | .ok (some p) => match build p with
    | .ok c => .run c
    | .error u => .refused u

def listSwitches : List Switch :=
  [⟨"user_id", ["--user-id"], .value⟩, ⟨"json", ["--json"], .flag true⟩, configSwitch]

def accountSwitches : List Switch := [⟨"user_id", ["--user-id"], .value⟩, configSwitch]

def syncSwitches : List Switch :=
  [⟨"source_id", ["--source-id", "-s"], .value⟩, ⟨"host", ["--host", "-h"], .value⟩,
   ⟨"username", ["--username", "-u"], .value⟩, ⟨"port", ["--port", "-p"], .value⟩,
   ⟨"password", ["--password"], .value⟩, ⟨"oauth_credential_id", ["--oauth-credential-id"], .value⟩,
   ⟨"insecure", ["--insecure"], .flag true⟩, ⟨"all_inclusive", ["--all-inclusive"], .flag true⟩,
   ⟨"all_inclusive", ["--skip-trash-junk"], .flag false⟩, ⟨"eml_dir", ["--eml-dir"], .value⟩,
   configSwitch]

def positionSwitches : List Switch :=
  [⟨"source_id", ["--source-id", "-s"], .value⟩, ⟨"json", ["--json"], .flag true⟩, configSwitch]

/-- The variable that gives the password when the line does not. -/
def passwordVariable : String := "MAILARCHIVE_IMAP_PASSWORD"

def accountsGroup (home : String) : List String → Invocation
  | [] => .refused .missingCommand
  | name :: words =>
    let config (p : Parsed) : String := (p.text? "config").getD (defaultConfig home)
    match name with
    | "list" => command listSwitches [] words fun p => do
      pure (.listAccounts (← p.need "user_id") ((p.flag? "json").getD false) (config p))
    | "delete" => command accountSwitches ["credential_id"] words fun p => do
      pure (.deleteAccount (← p.need "credential_id") (← p.need "user_id") (config p))
    | "refresh" => command accountSwitches ["credential_id"] words fun p => do
      pure (.refreshAccount (← p.need "credential_id") (← p.need "user_id") (config p))
    | other => .refused (.noSuchCommand other)

/-- The sync command, its password taken from the environment when the line gives none. -/
def syncCommand (home : String) (env : List (String × String)) (words : List String) : Invocation :=
  command syncSwitches [] words fun p => do
    let fromEnv := match env.find? (·.1 = passwordVariable) with
      | some (_, v) => if v.isEmpty then none else some v
      | none => none
    pure (.sync {
      source := ← p.need "source_id"
      host := ← p.need "host"
      username := ← p.need "username"
      port := ← p.integer "port" 993
      password := (p.text? "password").orElse fun _ => fromEnv
      credentialId := p.text? "oauth_credential_id"
      insecure := (p.flag? "insecure").getD false
      allInclusive := p.flag? "all_inclusive"
      emlDir := p.text? "eml_dir"
      config := (p.text? "config").getD (defaultConfig home) })

/-- Reads a group's options, then hands the rest to the command it names. -/
def group (sw : List Switch) (words : List String) (next : List String → Invocation) : Invocation :=
  match readWords (helpSwitch :: sw) false words {} with
  | .error u => .refused u
  | .ok (r, rest) =>
    if r.get? "help" = some (.truth true) then .help else next rest

/-- What a command line asks for, with the environment it runs in and the home directory. -/
def invocation (home : String) (env : List (String × String)) (words : List String) : Invocation :=
  group [⟨"log_level", ["--log-level", "-l"], .value⟩] words fun
    | [] => .refused .missingCommand
    | "imap" :: rest => group [] rest fun
      | [] => .refused .missingCommand
      | "oauth" :: more => group [] more (accountsGroup home)
      | "sync" :: more => syncCommand home env more
      | "position" :: more => command positionSwitches [] more fun p => do
        pure (.showPosition (← p.need "source_id") ((p.flag? "json").getD false)
          ((p.text? "config").getD (defaultConfig home)))
      | other :: _ => .refused (.noSuchCommand other)
    | other :: _ => .refused (.noSuchCommand other)

theorem readWords_nil (sw : List Switch) (b : Bool) (r : Reading) :
    readWords sw b [] r = .ok (r, []) := rfl

theorem invocation_empty (home : String) (env : List (String × String)) :
    invocation home env [] = .refused .missingCommand := rfl

end MailIngest.Console
