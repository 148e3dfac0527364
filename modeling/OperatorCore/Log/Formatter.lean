import OperatorCore.Log.Record

/-!
# Formatters of the log

A record is written either as a text by a template for its attributes, or as a document with all its
extra attributes. Either way, the mark of its source can be put in front of its message.
-/

namespace OperatorCore

/-- What the format of a log is asked to be. -/
inductive LogFormat where
  | plain
  | full
  | json
  /-- A template, or something that is none. -/
  | custom (v : Value)

/-- How a record is written. -/
inductive LogOutput where
  | text (template : String)
  /-- A document with the reference to the object under a key. -/
  | document (referenceKey : Value)
deriving DecidableEq

structure Formatter where
  output : LogOutput
  /-- The mark of the source is put in front of the message. -/
  tagging : Bool
deriving DecidableEq

/-- A written record. -/
inductive LogEntry where
  | text (s : String)
  | document (fields : Fields)

namespace Formatter

/-- A formatter by a template, which has to name an attribute; an empty one stands for the
message. -/
def ofTemplate (template : String) (tagging : Bool) : Except Fault Formatter :=
  if template = "" then .ok ⟨.text "%(message)s", tagging⟩
  else if Template.namesField template.toList then .ok ⟨.text template, tagging⟩
  else .error (.refused (.invalidFormat template))

/-- The key of the reference to the object if none is given. -/
def standardReferenceKey : String := "object"

/-- The formatter for a format. Unless it is said otherwise, texts have the mark of the source in
front of the message and documents have not. -/
def make (format : LogFormat) (tagging referenceKey : Value) : Except Fault Formatter :=
  let tags (standard : Bool) : Bool := if tagging.isNull then standard else tagging.truthy
  match format with
  | .json =>
    .ok ⟨.document (referenceKey.orElse (.str standardReferenceKey)), tags false⟩
  | .plain => ofTemplate "%(message)s" (tags true)
  | .full =>
    ofTemplate "[%(asctime)s] %(name)-20.20s [%(levelname)-8.8s] %(message)s" (tags true)
  | .custom (.str template) => ofTemplate template (tags true)
  | .custom other => .error (.refused (.unsupportedFormat other))

/-- The name of the kind of a formatter. -/
def name (f : Formatter) : String :=
  let tagging := if f.tagging then "Prefixing" else ""
  let output := match f.output with
    | .text _ => "Text"
    | .document _ => "Json"
  s!"Object{tagging}{output}Formatter"

/-- The text of an exception from its kind, itself and its trace. What is no exception has no text,
unless there is none at all. -/
def describeException (parts : Value) : Except Fault String := do
  let trace ← parts.index (.int 2)
  let exception ← parts.index (.int 1)
  if !trace.isNull then .error (.misuse (.noAttribute trace.typeName "frame"))
  else if !exception.isNull then .error (.misuse (.noAttribute exception.typeName "cause"))
  else pure "NoneType: None"

/-- A text with another one on a line of its own, if there is one. -/
def appendLine (text : String) (more : Value) : Except Fault String :=
  if !more.truthy then .ok text
  else match more with
    | .str more =>
      .ok ((if text.toList.getLast? = some '\n' then text else text ++ "\n") ++ more)
    | other => .error (.misuse (.argument
        s!"can only concatenate str (not {other.typeName}) to str"))

/-- The text of a record by a template, and the text of its exception and its stack behind that. -/
def writeText (template : String) (r : LogRecord) : Except Fault String := do
  let r := r.put "message" (.str (← r.text))
  let r ←
    if Value.occursIn "%(asctime)".toList template.toList then do
      pure (r.put "asctime" (.str (← r.clockText)))
    else pure r
  let text ← match Template.fill template r.supply with
    | .error ⟨.noKey key, _⟩ => .error (.refused (.unknownFormatField key))
    | outcome => outcome
  let exception ←
    if (r.get "exc_info").truthy && !(r.get "exc_text").truthy then do
      pure (.str (← describeException (r.get "exc_info")))
    else pure (r.get "exc_text")
  let text ← appendLine text exception
  appendLine text (r.get "stack_info")

/-- An attribute that is told in a document as it is. -/
def isTold (key : String) : Bool :=
  !LogRecord.reserved.contains key && key != "k8s_ref" && key != "component"
    && key.toList.head? != some '_'

/-- The key in a document that a value makes. -/
def keyInDocument (v : Value) : Except Fault String :=
  match v with
  | .bool b => .ok (if b then "true" else "false")
  | other => other.keyText

/-- A field of its own for a message that has none, unless the field would be empty. -/
def supplement (own : Fields) (key : String) (v : Value) : Fields :=
  if v.truthy && !(Fields.getD own key).truthy then Fields.put own key v else own

/-- The fields of a document that come from the message: its own ones if it is an object. The text
of an exception and a stack are added unless the message has its own. -/
def messageFields (r : LogRecord) : Except Fault Fields := do
  let (text, own) : String × Fields ← match r.get "msg" with
    | .obj fields => pure ("", fields)
    | _ => do pure (← r.text, [])
  let described ←
    if (r.get "exc_info").truthy && !(Fields.getD own "exc_info").truthy then do
      pure (.str (← describeException (r.get "exc_info")))
    else pure .null
  let own := supplement (supplement own "exc_info" described) "exc_info" (r.get "exc_text")
  pure (Fields.putAll [("message", .str text)] (supplement own "stack_info" (r.get "stack_info")))

/-- The document of a record. A message that is an object adds its fields; the time and the
reference take precedence over attributes of the same names, the severity does not. -/
def writeDocument (referenceKey : Value) (r : LogRecord) : Except Fault Fields := do
  let message ← messageFields r
  let told := Fields.putAll message (r.attributes.filter fun p => isTold p.1)
  let time ← Instant.calendar (r.get "created")
  let timed := Fields.put told "timestamp" (.str time.text)
  let referred ← match Fields.get? r.attributes "k8s_ref" with
    | some reference => do pure (Fields.put timed (← keyInDocument referenceKey) reference)
    | none => pure timed
  let placed := match Fields.get? r.attributes "component" with
    | some component => Fields.put referred "component" component
    | none => referred
  if Fields.has placed "severity" then pure placed
  else do pure (Fields.put placed "severity" (.str (← severity (r.get "levelno"))))

/-- Writes a record. -/
def format (f : Formatter) (r : LogRecord) : Except Fault LogEntry := do
  let r ← if f.tagging then r.tagged else pure r
  match f.output with
  | .text template => do pure (.text (← writeText template r))
  | .document key => do pure (.document (← writeDocument key r))

end Formatter

/-- What becomes of the messages of a log. -/
structure LogSetup where
  /-- The least level of the messages that are written. -/
  level : String
  formatter : Option Formatter
  /-- Messages of the event loop are written as well. -/
  lowLevel : Bool
  /-- Messages of the event loop have been given a place to vanish. -/
  silenced : Bool

namespace LogSetup

/-- A log that has not been configured. -/
def fresh : LogSetup := ⟨"WARNING", none, true, false⟩

/-- How much is to be logged. -/
structure Verbosity where
  debug : Bool
  verbose : Bool
  quiet : Bool

/-- Configures a log anew. Its formatter replaces the one that it had. -/
def configure (v : Verbosity) (format : LogFormat) (tagging referenceKey : Value) (s : LogSetup) :
    Except Fault LogSetup := do
  let formatter ← Formatter.make format tagging referenceKey
  let level := if v.debug || v.verbose then "DEBUG" else if v.quiet then "WARNING" else "INFO"
  pure { level, formatter := some formatter, lowLevel := v.debug
         silenced := s.silenced || !v.debug }

end LogSetup

end OperatorCore
