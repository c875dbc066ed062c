import QueryReplay.Log.Filter
import QueryReplay.Store.FileTree

/-!
# The log

The log is started once, with settings that stay, but for the level. It keeps
the events that its filter lets through. A log whose directory cannot be made
is not started, and can neither be started again nor changed.
-/

namespace QueryReplay.Log

/-- Why the log could not be started or changed. -/
inductive Fault where
  | alreadyStarted
  | notStarted
  | abandoned
  | directory (fault : IoFault)
deriving DecidableEq, Repr

/-- The wording of a log fault. -/
def Fault.message : Fault → String
  | .alreadyStarted => "日志系统已初始化，不能重复初始化"
  | .notStarted => "日志系统未初始化"
  | .abandoned => "重载日志级别失败: subscriber no longer exists"
  | .directory fault => fault.message

/-- How far the log has come. -/
inductive Stage where
  | idle
  | abandoned
  /-- With the place of the log files, if there are any. -/
  | running (settings : Settings) (filter : Filter) (files : Option Place)
deriving DecidableEq, Repr

end Log

open Log

/-- The log of a program. -/
structure Logger where
  /-- A filter that counts instead of any level. -/
  override : Option Filter
  stage : Stage
  /-- The events that were let through, in order. -/
  events : List Event
deriving DecidableEq, Repr

namespace Logger

/-- A log that has not been started. -/
def idle (override : Option Filter) : Logger :=
  ⟨override, .idle, []⟩

/-- The filter for a level. -/
def filterAt (l : Logger) (level : Level) : Filter :=
  l.override.getD (Filter.atLevel level)

/-- Keeps an event that the filter lets through. -/
def record (l : Logger) (e : Event) : Logger :=
  match l.stage with
  | .running _ filter _ => if filter.allows e then { l with events := l.events ++ [e] } else l
  | _ => l

/-- The directory of log files, by default below the directory for caches. -/
def directoryOf (caches : String) (s : Log.Settings) : String :=
  s.directory.getD (FilePath.join (FilePath.join caches "sqlcache") "logs")

/-- Makes the directory of log files, if there are to be any, and finds its place. -/
def makeDirectory (t : FileTree) (caches : String) (s : Log.Settings) :
    Except IoFault (Option Place) × FileTree :=
  match s.output with
  | .console => (.ok none, t)
  | _ =>
    let directory := directoryOf caches s
    match t.makeDirectories directory with
    | (.ok (), t) => ((t.place directory).map some, t)
    | (.error fault, t) => (.error fault, t)

def start (l : Logger) (t : FileTree) (caches : String) (s : Log.Settings) :
    Except Fault Unit × Logger × FileTree :=
  match l.stage with
  | .idle =>
    match makeDirectory t caches s with
    | (.error fault, t) => (.error (.directory fault), { l with stage := .abandoned }, t)
    | (.ok files, t) =>
      let running := { l with stage := .running s (l.filterAt s.level) files }
      (.ok (), running.record (.started s), t)
  | _ => (.error .alreadyStarted, l, t)

/-- Changes the level of the log. -/
def setLevel (l : Logger) (level : Level) : Except Fault Unit × Logger :=
  match l.stage with
  | .idle => (.error .notStarted, l)
  | .abandoned => (.error .abandoned, l)
  | .running s _ files =>
    let changed := { l with stage := .running s (l.filterAt level) files }
    (.ok (), changed.record (.levelChanged level))

def consoleEvents (l : Logger) : List Event :=
  match l.stage with
  | .running s _ _ => if s.output = .file then [] else l.events
  | _ => []

/-- The place of the log files and the events in them, if there are any files. -/
def fileEvents? (l : Logger) : Option (Place × List Event) :=
  match l.stage with
  | .running _ _ (some place) => some (place, l.events)
  | _ => none

end Logger

end QueryReplay
