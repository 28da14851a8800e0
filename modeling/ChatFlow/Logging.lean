import ChatFlow.Fault
import ChatFlow.Json
import ChatFlow.Text.Case

/-!
# Log lines

How log entries look in the end. A logger drops what is below its level, colours the level on the
console, and can keep errors in a file as well. Every line names the conversation that it is about,
with a dash for none.
-/

namespace ChatFlow.Logging

/-! ### Levels -/

def levels : List (Int × String) :=
  [(10, "DEBUG"), (20, "INFO"), (30, "WARNING"), (40, "ERROR"), (50, "CRITICAL"), (0, "NOTSET")]

def errorLevel : Int := 40

/-- The level below which nothing is logged unless a logger has a level of its own. -/
def rootLevel : Int := 30

def levelName (n : Int) : String :=
  match levels.find? (·.1 == n) with
  | some (_, name) => name
  | none => "Level " ++ toString n

/-- The level of a name, in any case; a name that is unknown means `INFO`. Two names are known but
stand for no level: the standard format, which is a text, and the table of styles. -/
def levelOf (name : String) : Except Fault Int :=
  match Text.upper name with
  | "WARN" => .ok 30
  | "FATAL" => .ok 50
  | "BASIC_FORMAT" => .error .notLevel
  | "_STYLES" => .error .wrongKind
  | upper => match levels.find? (·.2 == upper) with
    | some (n, _) => .ok n
    | none => .ok 20

def color? (name : String) : Option String :=
  match name with
  | "DEBUG" => some "\x1b[94m"
  | "INFO" => some "\x1b[92m"
  | "WARNING" => some "\x1b[93m"
  | "ERROR" => some "\x1b[91m"
  | "CRITICAL" => some "\x1b[1;91m"
  | _ => none

def colored (name : String) : String :=
  match color? name with
  | some c => c ++ name ++ "\x1b[0m"
  | none => name

/-! ### Lines -/

structure Line where
  level : Int
  conversation : Option String
  logger : String
  number : Int
  message : String
  failure : Option String := none
  deriving DecidableEq, Repr

/-- A line with a given text for its level. What failed stands on lines of its own. -/
def Line.withLevel (l : Line) (level : String) : String :=
  level ++ " | " ++ l.conversation.getD "-" ++ " | " ++ l.logger ++ ":" ++ toString l.number ++
    " | " ++ l.message ++ match l.failure with
      | some text => (if l.message.endsWith "\n" then "" else "\n") ++ text
      | none => ""

def Line.plain (l : Line) : String := l.withLevel (levelName l.level)

def Line.console (l : Line) : String := l.withLevel (colored (levelName l.level))

/-- The fields of an entry with the conversation added, whatever they named before. Fields that are
there have to be an object. -/
def tagged (conversation : String) (options : Assoc Json) : Except Fault (Assoc Json) :=
  match ((options.get? "extra").getD .null).ifEmpty (.obj []) with
  | .obj extra =>
    .ok (options.put "extra" (.obj (Assoc.put extra "conversation" (.str conversation))))
  | _ => .error .wrongKind

/-- The text of a failure: its kind, and its own text if it has one. -/
def failureText (kind text : String) : String :=
  if text.isEmpty then kind else kind ++ ": " ++ text

/-- The place from which failures are logged, which is another one for the failure that is being
handled. -/
def failureNumber (isCurrent : Bool) : Int := if isCurrent then 128 else 130

/-! ### Loggers -/

inductive Handler where
  | console
  | errorFile
  deriving DecidableEq, Repr

def Handler.level : Handler → Int
  | console => 0
  | errorFile => errorLevel

structure Logger where
  name : String
  level : Int := 0
  handlers : List Handler := []
  file : List Line := []
  deriving Repr

inductive LevelChoice where
  | number (n : Int)
  | named (name : String)
  deriving DecidableEq, Repr

def LevelChoice.level : LevelChoice → Except Fault Int
  | number n => .ok n
  | named name => levelOf name

/-- Read the level to be set, or null for none. -/
def LevelChoice.ofJson : Json → Except Fault (Option LevelChoice)
  | .null => .ok none
  | .int n => .ok (some (number n))
  | .bool b => .ok (some (number (if b then 1 else 0)))
  | .str s => .ok (some (named s))
  | _ => .error .wrongKind

namespace Logger

/-- Set up a logger. A level that was set before stays unless another one is given, and so do the
handlers in any case. -/
def setup (l : Logger) (level : Option LevelChoice) (default : String) (withFile : Bool) :
    Except Fault Logger := do
  let level ← match level with
    | some c => c.level
    | none => if l.level == 0 then levelOf default else .ok l.level
  let handlers := if l.handlers.isEmpty then
      Handler.console :: if withFile then [.errorFile] else []
    else l.handlers
  return { l with level, handlers }

def takes (l : Logger) (level : Int) : Bool :=
  level > 0 && level ≥ (if l.level == 0 then rootLevel else l.level)

/-- Log a line; its text on the console comes first. -/
def log (l : Logger) (line : Line) : Option String × Logger :=
  if l.takes line.level then
    let toFile := l.handlers.contains .errorFile && line.level ≥ errorLevel
    (if l.handlers.contains .console then some line.console else none,
      if toFile then { l with file := l.file ++ [line] } else l)
  else (none, l)

end Logger

end ChatFlow.Logging
