import ContestUploads.Problem.Basic
import ContestUploads.Value.Fields

/-!
# Settings

Settings are built from arguments and, where an argument is absent, from environment variables
that start with `UPLOADS_`; what neither gives keeps its default.  Names match in any case.
Environment variables of other names are ignored, arguments of other names are errors.

Some arguments are no settings but say how the others are read: another start for the names of
variables, whether their case counts, whether empty ones are passed over, and which word stands
for null.  They may also name files and directories to look into, where nothing is found, or a list
of words to read settings from.

Texts must be texts or named members, which count as theirs.  A switch also understands zero and
one, as integers or floats, and the usual words for off and on in any case.

* `Source.reader_of_environment`: how the environment is read when nothing else is said.
-/

namespace ContestUploads

/-- How uploads are taken in. -/
structure Settings where
  /-- The status of a new upload or submission. -/
  activeStatus : String := "Active"
  /-- The status of a retired submission. -/
  deletedStatus : String := "Deleted"
  /-- The extension property of a resource that holds the user id. -/
  externalReference : String := "External Reference ID"
  /-- The project property that keeps earlier submissions active. -/
  allowMultiple : String := "Allow multiple submissions"
  /-- The project property that names the winner. -/
  winner : String := "Winner External Reference ID"
  /-- Whether status changes have to follow the table of moves. -/
  enforceMoves : Bool := false
  databaseUrl : String := "sqlite+aiosqlite:///./uploads.db"
  databaseEcho : Bool := false
  logLevel : String := "INFO"
  jsonLogs : Bool := true
  deriving DecidableEq, Repr, Inhabited

namespace Settings

/-- The words that switch off. -/
def offWords : List String := ["0", "off", "f", "false", "n", "no"]

/-- The words that switch on. -/
def onWords : List String := ["1", "on", "t", "true", "y", "yes"]

/-- The field is not a text. -/
def notText (field : String) : FieldError :=
  ⟨field, "string_type", "Input should be a valid string"⟩

/-- The field is of a kind that could be a switch, but says neither on nor off. -/
def unclearSwitch (field : String) : FieldError :=
  ⟨field, "bool_parsing", "Input should be a valid boolean, unable to interpret input"⟩

/-- The field is of a kind that cannot be a switch. -/
def notSwitch (field : String) : FieldError :=
  ⟨field, "bool_type", "Input should be a valid boolean"⟩

/-- No setting has this name. -/
def unknown (name : String) : FieldError :=
  ⟨name, "extra_forbidden", "Extra inputs are not permitted"⟩

/-- Read a text. -/
def readText (field : String) : Value → Except FieldError String
  | .text s => .ok s
  | .category c => .ok c.text
  | .phaseStatus s => .ok s.text
  | _ => .error (notText field)

/-- Read a word that switches on or off. -/
def readWord (field word : String) : Except FieldError Bool :=
  if offWords.contains word.toLower then .ok false
  else if onWords.contains word.toLower then .ok true
  else .error (unclearSwitch field)

/-- Read a switch. -/
def readSwitch (field : String) : Value → Except FieldError Bool
  | .bool b => .ok b
  | .int n =>
      if n = 0 then .ok false
      else if n = 1 then .ok true
      else if -Int.pow 2 63 ≤ n ∧ n < Int.pow 2 63 then .error (unclearSwitch field)
      else .error (notSwitch field)
  | .float x =>
      if x.equalsInt 0 then .ok false
      else if x.equalsInt 1 then .ok true
      else .error (notSwitch field)
  | .text s => readWord field s
  | .category c => readWord field c.text
  | _ => .error (notSwitch field)

/-- The names of all settings, in the order in which they are checked. -/
def names : List String :=
  ["active_status_name", "deleted_status_name", "external_reference_property",
   "allow_multiple_submissions_property", "winner_property", "enforce_status_transitions",
   "database_url", "database_echo", "log_level", "json_logs"]

/-- The settings by name. -/
def fields (s : Settings) : Fields :=
  [("active_status_name", .text s.activeStatus), ("deleted_status_name", .text s.deletedStatus),
   ("external_reference_property", .text s.externalReference),
   ("allow_multiple_submissions_property", .text s.allowMultiple),
   ("winner_property", .text s.winner), ("enforce_status_transitions", .bool s.enforceMoves),
   ("database_url", .text s.databaseUrl), ("database_echo", .bool s.databaseEcho),
   ("log_level", .text s.logLevel), ("json_logs", .bool s.jsonLogs)]

theorem map_fst_fields (s : Settings) : s.fields.map Prod.fst = names := rfl

/-- The names of arguments that say how settings are read. -/
def directives : List String :=
  ["_case_sensitive", "_nested_model_default_partial_update", "_env_prefix", "_env_file",
   "_env_file_encoding", "_env_ignore_empty", "_env_nested_delimiter", "_env_nested_max_split",
   "_env_parse_none_str", "_env_parse_enums", "_cli_prog_name", "_cli_parse_args",
   "_cli_settings_source", "_cli_parse_none_str", "_cli_hide_none_type", "_cli_avoid_json",
   "_cli_enforce_required", "_cli_use_class_docs_for_groups", "_cli_exit_on_error", "_cli_prefix",
   "_cli_flag_prefix_char", "_cli_implicit_flags", "_cli_ignore_unknown_args", "_cli_kebab_case",
   "_cli_shortcuts", "_secrets_dir"]

/-- Variables in the order in which they were first set. -/
abbrev Environment := List (String × String)

/-- Set a variable; one that is there already keeps its place. -/
def Environment.set : Environment → String → String → Environment
  | [], name, v => [(name, v)]
  | (n, w) :: rest, name, v => if n = name then (n, v) :: rest else (n, w) :: set rest name v

/-- Set several variables, one after the other. -/
def Environment.update (environment later : Environment) : Environment :=
  later.foldl (fun e v => e.set v.1 v.2) environment

/-- How settings are read from the environment. -/
structure Reader where
  /-- The start of the name of every variable that is a setting. -/
  start : String := "UPLOADS_"
  /-- Whether the case of names counts. -/
  exact : Bool := false
  /-- Whether empty variables are passed over. -/
  skipsEmpty : Bool := false
  /-- The word that stands for null, if there is one. -/
  nullWord : Value := .null

namespace Reader

/-- Whether a variable is the one that is wanted. -/
def isNamed (r : Reader) (wanted name : String) : Bool :=
  if r.exact then name == wanted else name.toLower == wanted.toLower

/-- The value that the environment gives for a setting.  Of several variables the last counts. -/
def value? (r : Reader) (environment : Environment) (name : String) : Option Value :=
  let seen := environment.filter fun v => !(r.skipsEmpty && v.2.isEmpty)
  (seen.reverse.find? fun v => r.isNamed (r.start ++ name) v.1).map fun v =>
    if r.nullWord.equals (.text v.2) then .null else .text v.2

end Reader

/-- Where settings come from. -/
structure Source where
  environment : Environment := []
  arguments : Fields := []

namespace Source

/-- A directive, null if it is not given. -/
def directive (s : Source) (name : String) : Value :=
  (s.arguments.lookup name).getD .null

/-- The arguments that are no directives. -/
def given (s : Source) : Fields :=
  s.arguments.without directives

/-- Settings cannot be read in the way that is asked for. -/
def unreadable (words : String) : ForeignProblem :=
  ⟨"SettingsError", [.text words]⟩

/-- Places to look into have to be a collection, or a single text. -/
def demandPlaces (s : Source) (name : String) : Except Failure Unit :=
  let places := s.directive name
  if places.isNull then .ok () else places.members.map fun _ => ()

/-- Words to read settings from have to be a list, or no more than a yes or no. -/
def demandWords (s : Source) : Except Failure Unit :=
  match s.directive "_cli_parse_args" with
  | .null | .bool _ | .list _ => .ok ()
  | v =>
      if v.equals (.bool false) then .ok ()
      else .error (.foreign (unreadable
        ("cli_parse_args must be a list or tuple, received <class '" ++ v.kindName ++ "'>")))

/-- The start of the name of every variable that is a setting. -/
def start (s : Source) : Except Failure String :=
  match s.directive "_env_prefix", (s.directive "_env_prefix").textual? with
  | .null, _ => .ok ({} : Reader).start
  | _, some start => .ok start
  | _, none =>
      .error (.foreign (unreadable
        ("error getting value for field \"active_status_name\" from source " ++
          "\"EnvSettingsSource\"")))

/-- How the environment is read. -/
def reader (s : Source) : Except Failure Reader := do
  if (s.arguments.lookup "__pydantic_self__").isSome then
    .error (.foreign (.repeatedArgument "BaseSettings.__init__" "__pydantic_self__"))
  s.demandPlaces "_env_file"
  s.demandWords
  let start ← s.start
  s.demandPlaces "_secrets_dir"
  return { start
           exact := (s.directive "_case_sensitive").truthy
           skipsEmpty := (s.directive "_env_ignore_empty").truthy
           nullWord := s.directive "_env_parse_none_str" }

/-- Without arguments the environment is read in the usual way. -/
theorem reader_of_environment (environment : Environment) :
    ({ environment } : Source).reader = .ok {} := rfl

/-- The value given for a setting.  Of several arguments for one setting the first counts. -/
def value? (s : Source) (r : Reader) (name : String) : Option Value :=
  ((s.given.find? fun a => a.1.toLower == name).map Prod.snd).or (r.value? s.environment name)

/-- Read a setting, or keep its default. -/
def read {α : Type} (s : Source) (r : Reader) (name : String)
    (check : String → Value → Except FieldError α) (default : α) : Except FieldError α :=
  match s.value? r name with
  | none => .ok default
  | some v => check name v

/-- The arguments that are neither settings nor directives. -/
def unknowns (s : Source) : List FieldError :=
  (s.given.filter fun a => !names.contains a.1.toLower).map fun a => unknown a.1

end Source

/-- The error of a reading, if there is one. -/
def errors {α : Type} : Except FieldError α → List FieldError
  | .ok _ => []
  | .error e => [e]

/-- All errors of a source, in the order of `names`, unknown arguments last. -/
def Source.errors (s : Source) (r : Reader) : List FieldError :=
  let d : Settings := {}
  Settings.errors (s.read r "active_status_name" readText d.activeStatus) ++
    Settings.errors (s.read r "deleted_status_name" readText d.deletedStatus) ++
    Settings.errors (s.read r "external_reference_property" readText d.externalReference) ++
    Settings.errors (s.read r "allow_multiple_submissions_property" readText d.allowMultiple) ++
    Settings.errors (s.read r "winner_property" readText d.winner) ++
    Settings.errors (s.read r "enforce_status_transitions" readSwitch d.enforceMoves) ++
    Settings.errors (s.read r "database_url" readText d.databaseUrl) ++
    Settings.errors (s.read r "database_echo" readSwitch d.databaseEcho) ++
    Settings.errors (s.read r "log_level" readText d.logLevel) ++
    Settings.errors (s.read r "json_logs" readSwitch d.jsonLogs) ++
    s.unknowns

/-- The settings that a source gives where it has no errors. -/
def Source.readAll (s : Source) (r : Reader) : Except FieldError Settings := do
  let d : Settings := {}
  let activeStatus ← s.read r "active_status_name" readText d.activeStatus
  let deletedStatus ← s.read r "deleted_status_name" readText d.deletedStatus
  let externalReference ← s.read r "external_reference_property" readText d.externalReference
  let allowMultiple ← s.read r "allow_multiple_submissions_property" readText d.allowMultiple
  let winner ← s.read r "winner_property" readText d.winner
  let enforceMoves ← s.read r "enforce_status_transitions" readSwitch d.enforceMoves
  let databaseUrl ← s.read r "database_url" readText d.databaseUrl
  let databaseEcho ← s.read r "database_echo" readSwitch d.databaseEcho
  let logLevel ← s.read r "log_level" readText d.logLevel
  let jsonLogs ← s.read r "json_logs" readSwitch d.jsonLogs
  return { activeStatus, deletedStatus, externalReference, allowMultiple, winner, enforceMoves,
           databaseUrl, databaseEcho, logLevel, jsonLogs }

/-- Build settings; every error of the source is reported. -/
def load (s : Source) : Except Failure Settings := do
  let r ← s.reader
  match s.errors r, s.readAll r with
  | [], .ok settings => return settings
  | [], .error e => .error (.plain (.validation [e]))
  | es, _ => .error (.plain (.validation es))

/-- Settings that are read once and then kept until the cache is cleared. -/
abbrev Cache := Option Settings

/-- The kept settings, or those of the environment, which are kept from then on. -/
def Cache.get (cache : Cache) (environment : Environment) :
    Except Failure (Settings × Cache) :=
  match cache with
  | some settings => .ok (settings, cache)
  | none => (load { environment }).map fun settings => (settings, some settings)

end Settings

end ContestUploads
