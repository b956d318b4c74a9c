import RecorderStubs.Text.Basic

/-! What the program says: log records, printed texts, tables and diffs, in order. Debug records
are kept only while the console is verbose. Error records are the only marked ones whose text is
not read as markup, since errors quote source texts. -/
namespace RecorderStubs

inductive Level where
  | debug
  | info
  | success
  | warning
  | error
deriving DecidableEq, Repr

def Level.label : Level → String
  | debug => "DEBUG"
  | info => "INFO"
  | success => "SUCCESS"
  | warning => "WARNING"
  | error => "ERROR"

def Level.sign : Level → String
  | debug => ""
  | info => "ℹ️  "
  | success => "✅ "
  | warning => "⚠️  "
  | error => "❌ "

/-- Whether the text of a record is markup; debug records do not say. -/
def Level.markup : Level → Option Bool
  | debug => none
  | error => some false
  | _ => some true

inductive Entry where
  | log (level : Level) (message : String)
  | print (text : String)
  | table (title : String) (headers : List String) (rows : List (List String))
  | diff (text : Text)
deriving DecidableEq, Repr

structure Console where
  verbose : Bool := false
  entries : List Entry := []
deriving DecidableEq, Repr

namespace Console

def add (c : Console) (e : Entry) : Console := { c with entries := c.entries ++ [e] }

def log (c : Console) (level : Level) (message : String) : Console :=
  if level = .debug && !c.verbose then c else c.add (.log level (level.sign ++ message))

def info (c : Console) (message : String) : Console := c.log .info message
def success (c : Console) (message : String) : Console := c.log .success message
def warning (c : Console) (message : String) : Console := c.log .warning message
def error (c : Console) (message : String) : Console := c.log .error message

def notes (c : Console) (messages : List String) : Console := messages.foldl (·.log .debug ·) c

end Console

end RecorderStubs
