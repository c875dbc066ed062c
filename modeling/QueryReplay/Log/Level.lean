/-!
# Log levels

Five levels of weight. A filter lets through what is at least as grave as its
level.
-/

namespace QueryReplay.Log

/-- How grave an event is. -/
inductive Level where
  | error | warn | info | debug | trace
deriving DecidableEq, Repr

namespace Level

/-- The place of a level, the gravest first. -/
def rank : Level → Nat
  | .error => 1
  | .warn => 2
  | .info => 3
  | .debug => 4
  | .trace => 5

def name : Level → String
  | .error => "error"
  | .warn => "warn"
  | .info => "info"
  | .debug => "debug"
  | .trace => "trace"

/-- The name of a level in log lines. -/
def heading : Level → String
  | .error => "ERROR"
  | .warn => "WARN"
  | .info => "INFO"
  | .debug => "DEBUG"
  | .trace => "TRACE"

/-- All levels, the gravest first. -/
def all : List Level := [.error, .warn, .info, .debug, .trace]

def ofName? (s : String) : Option Level :=
  all.find? (·.name == s)

end Level

end QueryReplay.Log
