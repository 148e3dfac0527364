import OperatorCore.Log.Line
import OperatorCore.Template.Render
import OperatorCore.Time.Instant

/-!
# Log records

What reaches the formatters of the log: a message with its arguments, a level, a time, and whatever
attributes are added to these or put instead of them. The source of a record is among its
attributes, under `k8s_ref` and `component`.
-/

namespace OperatorCore

/-- The names of the levels by their numbers. -/
def levelNames : List (Int × String) :=
  [(50, "CRITICAL"), (40, "ERROR"), (30, "WARNING"), (20, "INFO"), (10, "DEBUG"), (0, "NOTSET")]

/-- The numbers of the levels by all the names that they have. -/
def levelNumbers : List (String × Int) :=
  [("FATAL", 50), ("WARN", 30)] ++ levelNames.map fun p => (p.2, p.1)

/-- The name of a level; a name stands for its number. -/
def levelName (level : Value) : Except Fault Value :=
  match level with
  | .arr _ | .obj _ => .error (.misuse (.unhashable level.typeName))
  | .str s => match levelNumbers.find? fun p => p.1 = s with
    | some (_, n) => .ok (.int n)
    | none => .ok (.str s!"Level {s}")
  | level => match levelNames.find? fun p => (Value.int p.1).equal level with
    | some (_, name) => .ok (.str name)
    | none => .ok (.str s!"Level {level.text}")

/-- The severity of a level, for the readers of structured logs. -/
def severity (level : Value) : Except Fault String := do
  if ← level.isAtMost 10 then pure "debug"
  else if ← level.isAtMost 20 then pure "info"
  else if ← level.isAtMost 30 then pure "warn"
  else if ← level.isAtMost 40 then pure "error"
  else pure "fatal"

/-- A record of a log. -/
structure LogRecord where
  /-- The arguments of the message. -/
  arguments : Argument
  /-- All other attributes by their names. -/
  attributes : Fields

namespace LogRecord

/-- The attributes that every record has, and the texts that are made of them. -/
def reserved : List String :=
  ["args", "asctime", "created", "exc_info", "exc_text", "filename", "funcName", "levelname",
    "levelno", "lineno", "message", "module", "msecs", "msg", "name", "pathname", "process",
    "processName", "relativeCreated", "stack_info", "thread", "threadName"]

/-- The arguments of a message: an only argument that is an object with fields gives these. -/
def argumentsOf : List Value → Argument
  | [.obj (field :: rest)] => .value (.obj (field :: rest))
  | arguments => .several arguments

/-- The record of a message at a number of seconds after the beginning of 1970. -/
def ofMessage (name level message : Value) (arguments : List Value) (created : Value) :
    Except Fault LogRecord := do
  let levelName ← levelName level
  let milliseconds ← Instant.milliseconds created
  pure
    { arguments := argumentsOf arguments
      attributes :=
        [("name", name), ("msg", message), ("levelname", levelName), ("levelno", level),
          ("created", created), ("msecs", milliseconds), ("funcName", .null), ("exc_info", .null),
          ("exc_text", .null), ("stack_info", .null), ("threadName", .str "MainThread"),
          ("processName", .str "MainProcess")] }

/-- Adds an attribute to a record, or puts it instead of the one with the same name. -/
def put (r : LogRecord) (key : String) (v : Value) : LogRecord :=
  if key = "args" then { r with arguments := .value v }
  else { r with attributes := Fields.put r.attributes key v }

/-- Adds attributes to a record. -/
def putAll (r : LogRecord) (extra : Fields) : LogRecord :=
  extra.foldl (fun r p => r.put p.1 p.2) r

def get (r : LogRecord) (key : String) : Value := Fields.getD r.attributes key

/-- The message with its arguments filled in; without arguments it is no template. -/
def text (r : LogRecord) : Except Fault String :=
  let message := (r.get "msg").text
  if r.arguments.truthy then Template.fill message (Supply.ofArgument r.arguments)
  else .ok message

/-- The attributes as a supply for a template. -/
def supply (r : LogRecord) : Supply :=
  let attributes := Supply.byName r.attributes
  { attributes with
    named := attributes.named.map fun find key =>
      if key = "args" then .ok r.arguments else find key }

/-- Date and time of day with milliseconds. -/
def clockText (r : LogRecord) : Except Fault String := do
  let time ← Instant.clock (r.get "created")
  Template.fill "%s,%03d"
    (.inOrder [.str (time.dateText 1 ++ " " ++ time.clockText), r.get "msecs"])

/-- The mark of the source in front of the message, if the record has a source. -/
def tag? (r : LogRecord) : Except Fault (Option String) :=
  match Fields.get? r.attributes "k8s_ref" with
  | none => .ok none
  | some reference => do
    let fields ← reference.fieldsFor "get"
    pure (some (Source.tag ⟨fields, r.get "component"⟩))

/-- The record with the mark of its source in front of its message. -/
def tagged (r : LogRecord) : Except Fault LogRecord := do
  match ← r.tag? with
  | some tag => pure (r.put "msg" (.str (tag ++ " " ++ (r.get "msg").text)))
  | none => pure r

end LogRecord

namespace Source

/-- The attributes by which a record tells its source. -/
def extra (source : Source) : Fields :=
  ("k8s_ref", .obj source.reference) ::
    if source.component.isNull then [] else [("component", source.component)]

/-- A source with any reference. -/
def ofReference (reference component : Value) : Except Fault Source := do
  pure ⟨← reference.toFields, component⟩

/-- The options of a message with the attributes of the source, under the ones that the message has
itself. -/
def enrich (source : Source) (options : Fields) : Except Fault Fields := do
  let own ← ((Fields.get? options "extra").getD (.obj [])).asFields
  pure (Fields.put options "extra" (.obj (Fields.putAll source.extra own)))

/-- The record of a message. Attributes that every record has cannot be given. -/
def record (source : Source) (level message : Value) (arguments : List Value) (options : Fields) :
    Except Fault LogRecord := do
  let options ← source.enrich options
  let extra ← (Fields.getD options "extra").asFields
  match extra.find? fun p => LogRecord.reserved.contains p.1 with
  | some (key, _) => .error (.of (.noKey s!"Attempt to overwrite {Text.quoted key} in LogRecord"))
  | none => do
    let r ← LogRecord.ofMessage (.str "kreconciler.objects") level message arguments (.int 0)
    pure (r.putAll extra)

/-- A logger that writes messages of some level and higher writes those of this level; the level
must be an integer then. -/
def isLogged (least : Int) (level : Value) : Except Fault Bool := do
  if !(← level.isAtLeast least) then pure false
  else match level with
    | .float _ => .error (.misuse (.argument "level must be an integer"))
    | _ => pure true

end Source

end OperatorCore
