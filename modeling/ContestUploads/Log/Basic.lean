import ContestUploads.Problem.Basic
import ContestUploads.Text.Uppercase
import ContestUploads.Value.Fields

/-!
# Log entries and the context they carry

An entry has a level, an event and named fields.  Fields that are bound to the context are added
to every entry; an entry's own fields win over those of the context.  The names `event` and `level`
belong to the entry itself, and no field can take them; only an entry without an event leaves the
name `event` to the context.

A sink writes the entries of a certain severity and above, as lines of named values or in a form
for people.
-/

namespace ContestUploads

/-- How severe an entry is. -/
inductive Level
  | debug
  | info
  | warning
  | error
  | critical
  deriving DecidableEq, Repr, Inhabited

namespace Level

/-- All levels, least severe first. -/
def all : List Level := [.debug, .info, .warning, .error, .critical]

/-- The text of a level. -/
def text : Level → String
  | .debug => "debug"
  | .info => "info"
  | .warning => "warning"
  | .error => "error"
  | .critical => "critical"

/-- The severity of a level as a number. -/
def severity : Level → Nat
  | .debug => 10
  | .info => 20
  | .warning => 30
  | .error => 40
  | .critical => 50

end Level

/-- An entry of the log. -/
structure LogEntry where
  level : Level
  /-- What happened, mostly a text; null if the entry has no event. -/
  event : Value
  fields : Fields := []
  deriving DecidableEq, Repr, Inhabited

namespace LogEntry

/-- The names that stand for the parts of an entry itself. -/
def ownNames (e : LogEntry) : List String :=
  if e.event = .null then ["level"] else ["event", "level"]

/-- The entry with the fields of a context under its own. -/
def within (e : LogEntry) (context : Fields) : LogEntry :=
  { e with fields := (context.merge e.fields).without e.ownNames }

end LogEntry

namespace Log

/-- The fields that a request binds: its operation, its operator if that is present, and more. -/
def requestContext (operation operator : Value) (more : Fields) : Fields :=
  let base : Fields :=
    if operator.truthy then [("operation", operation), ("operator", operator)]
    else [("operation", operation)]
  base.merge more

/-- `requestContext` for arguments by name, of which none may repeat the operation or its
operator. -/
def requestContext? (operation operator : Value) (more : Fields) : Except Failure Fields :=
  match ["operation", "operator"].find? fun name => (more.lookup name).isSome with
  | some name => .error (.foreign (.repeatedArgument "bind_request_context" name))
  | none => .ok (requestContext operation operator more)

/-- Drop the named fields from a context, or all of them when no name is given. -/
def clear (context : Fields) (names : List String) : Fields :=
  if names.isEmpty then [] else context.without names

/-- Where entries are written: from which severity on, and whether as lines of named values. -/
structure Sink where
  threshold : Nat
  named : Bool
  deriving DecidableEq, Repr, Inhabited

/-- The severities by name. -/
def thresholds : List (String × Nat) :=
  [("NOTSET", 0), ("DEBUG", 10), ("INFO", 20), ("WARN", 30), ("WARNING", 30), ("ERROR", 40),
   ("CRITICAL", 50), ("FATAL", 50)]

/-- The name of the services in every entry unless another one is chosen. -/
def serviceName : String := "upload-services"

/-- An operation that entries go through, with the names that it uses itself. -/
structure Stage where
  name : String
  uses : List String

/-- The operations that an entry goes through before it is written. -/
def writing : List Stage :=
  [⟨"_make_filtering_bound_logger.<locals>.make_method.<locals>.meth", ["event", "self"]⟩,
   ⟨"BoundLoggerBase._proxy_to_logger", ["method_name"]⟩]

/-- The operation that takes an entry that is too slight to be written. -/
def skipping : List Stage :=
  [⟨"_nop", ["event", "self"]⟩]

/-- What is wrong with fields of which one has a name that an operation on the way uses. -/
def taken? (stages : List Stage) (fields : Fields) : Option ForeignProblem :=
  stages.findSome? fun stage =>
    (stage.uses.find? fun name => (fields.lookup name).isSome).map
      (.repeatedArgument stage.name)

/-- The refusal of an entry whose fields take a name that is in use. -/
def entryRefused (s : Sink) (e : LogEntry) : Option Failure :=
  (taken? (if s.threshold ≤ e.level.severity then writing else skipping) e.fields).map .foreign

/-- The layout of entries without a sink of their own. -/
def plainLayout : String := "%(levelname)s:%(name)s:%(message)s"

/-- What is wrong with names that stand for something else than a level. -/
def notLevels : List (String × ForeignProblem) :=
  [("BASIC_FORMAT", .badValue ("Unknown level: " ++ Text.quoted plainLayout)),
   ("_STYLES", .misuse ("Level not an integer or a valid string: " ++
      "\x7b'%': (<class 'logging.PercentStyle'>, '%(levelname)s:%(name)s:%(message)s'), " ++
      "'\x7b': (<class 'logging.StrFormatStyle'>, '\x7blevelname\x7d:\x7bname\x7d:" ++
      "\x7bmessage\x7d'), " ++
      "'$': (<class 'logging.StringTemplateStyle'>, '$\x7blevelname\x7d:$\x7bname\x7d:" ++
      "$\x7bmessage\x7d')\x7d"))]

/-- The severity that a level stands for, given by its name in any case. -/
def threshold? (level : Value) : Except ForeignProblem Nat :=
  match level.textual? with
  | none => .error (.noAttribute level.kindName "upper")
  | some s =>
      match thresholds.lookup (Text.upper s), notLevels.lookup (Text.upper s) with
      | some threshold, _ => .ok threshold
      | none, some obstacle => .error obstacle
      | none, none => .error (.notWritable
          ("module 'logging' has no attribute '" ++ Text.upper s ++ "'"))

/-- Set up a sink for a level.  The context is emptied and then holds only the name of the
service. -/
def configure (level : Value) (named : Bool) (service : Value) :
    Except Failure (Sink × Fields) :=
  match threshold? level with
  | .ok threshold => .ok (⟨threshold, named⟩, [("service", service)])
  | .error p => .error (.foreign p)

/-- What setting up a sink takes: a level, whether lines have named values, and the name of the
service, all of which have defaults. -/
def configuring : Signature :=
  { operation := "configure_logging", names := [], optional := 3, own := 0 }

/-- Set up a sink from arguments in order. -/
def configureWith (arguments : List Value) : Except Failure (Sink × Fields) :=
  match configuring.obstacle? arguments.length with
  | some obstacle => .error (.foreign obstacle)
  | none =>
      configure (arguments.getD 0 (.text "INFO")) (arguments.getD 1 (.bool true)).truthy
        (arguments.getD 2 (.text serviceName))

mutual

/-- A value as it stands in a line of named values: what has no counterpart there is written
out. -/
def lineValue : Value → Value
  | .category c => .text c.text
  | .list items => .list (lineValues items)
  | .dict entries => .dict (lineEntries entries)
  | .phaseStatus s => .text (Value.literal (.phaseStatus s))
  | .moment m => .text m.literal
  | .record k fields => .text (Value.literal (.record k fields))
  | .filter f => .text (Value.filterLiteral f)
  | v => v

/-- `lineValue` for the items of a list. -/
def lineValues : List Value → List Value
  | [] => []
  | v :: vs => lineValue v :: lineValues vs

/-- `lineValue` for the entries of a dictionary. -/
def lineEntries : List (String × Value) → List (String × Value)
  | [] => []
  | (name, v) :: rest => (name, lineValue v) :: lineEntries rest

end

namespace Sink

/-- Whether an entry is written. -/
def accepts (s : Sink) (e : LogEntry) : Bool :=
  s.threshold ≤ e.level.severity

/-- What is left of a field in a line: requests to show the place of an entry or the failure
behind it are carried out and not written. -/
def isWritten (field : String × Value) : Bool :=
  field.1 != "exc_info" && (field.1 != "stack_info" || field.2.truthy)

/-- The named values of a line, without the time at which it was written. -/
def line (e : LogEntry) : Fields :=
  let written : Fields := e.fields.filter isWritten
  let told := if e.event = .null then written else written.set "event" e.event
  lineEntries (told.set "level" (.text e.level.text))

/-- The lines that are written for entries. -/
def lines (s : Sink) (entries : List LogEntry) : List Fields :=
  (entries.filter s.accepts).map line

end Sink

end Log

end ContestUploads
