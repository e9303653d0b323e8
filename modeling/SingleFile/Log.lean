import SingleFile.Log.Event
import SingleFile.Text.Blank
import SingleFile.Text.Case

/-!
# Logs

A log keeps the records at or above a level. A record holds the context
of its logger, the fields it is given, which stand before the context's,
the event and the name of its level; a record that is kept also says when
it was written.
-/

namespace SingleFile

namespace Log

/-- The levels by name. -/
def levels : List (String × Level) :=
  [("CRITICAL", .critical), ("FATAL", .critical), ("ERROR", .error), ("WARN", .warning),
   ("WARNING", .warning), ("INFO", .info), ("DEBUG", .debug), ("NOTSET", .notset)]

/-- The level of a name, whatever its case and the blanks around it. -/
def level? (name : Text) : Option Level := levels.lookup (Text.upper name.trim).toStr

/-- The message that there is no level of a name. -/
def unknownLevel (name : Text) : String := s!"Unsupported log level: {quoted name}"

/-- What is handed to a logger. -/
structure Entry where
  level : Level
  event : Text
  fields : List (Text × Value)
  deriving Repr

/-- The ways to hand something to a logger, with their levels; an exception
is an error. -/
def methods : List (String × Level) :=
  [("debug", .debug), ("info", .info), ("warning", .warning), ("warn", .warning),
   ("error", .error), ("exception", .error), ("critical", .critical), ("fatal", .critical)]

/-- The record of an entry. -/
def record (context : List (Text × Value)) (e : Entry) : List (Text × Value) :=
  let fields := e.fields.foldl (fun r f => Value.put f.1 f.2 r) context
  Value.put "level".toList (.ofString e.level.name)
    (Value.put "event".toList (.string e.event) fields)

/-- The field that says when a record was written. -/
def stampField : Text := "timestamp".toList

/-- The records of the entries that a log at a level keeps, all written at
the time `stamp`. -/
def records (threshold : Level) (stamp : Text) (context : List (Text × Value))
    (entries : List Entry) : List (List (Text × Value)) :=
  (entries.filter fun e => threshold.number ≤ e.level.number).map fun e =>
    Value.put stampField (.string stamp) (record context e)

/-- The record of an event of this program. -/
def eventRecord (e : Event) : List (Text × Value) :=
  record [] ⟨e.level, e.name.toList, e.fields.map fun f => (f.1.toList, f.2)⟩

end Log

end SingleFile
