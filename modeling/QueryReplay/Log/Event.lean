import QueryReplay.Config.Settings
import QueryReplay.Key
import QueryReplay.Text.Shown

/-!
# Log events

All that is worth a line in the log, by what happened. An event has a level, a
source by which it is filtered, a message, and named fields.
-/

namespace QueryReplay.Log

/-- What went wrong with a store, when the query goes on without it. -/
inductive Trouble where
  | unreadable
  | corrupt
  | unwritable
deriving DecidableEq, Repr

/-- Something that happened. -/
inductive Event where
  /-- The log was started. -/
  | started (settings : Settings)
  | levelChanged (level : Level)
  | storeOpened (store : String)
  | backendOpened (backend : String)
  | backendClosed (location : String)
  | entryWritten (path : String) (size : Nat)
  | keyDerived (key : Key) (parameters : Nat)
  | missed (key : Key)
  | replayed (key : Key) (rows : Nat)
  | captured (key : Key) (rows size : Nat)
  | troubled (trouble : Trouble) (key : Key) (store : String) (error : Error)
deriving DecidableEq, Repr

/-- The value of a field. -/
inductive Field where
  | text (s : String)
  | number (n : Nat)
deriving DecidableEq, Repr

def Format.title : Format → String
  | .text => "Text"
  | .json => "Json"

def Output.title : Output → String
  | .console => "Console"
  | .file => "File"
  | .both => "Both"

/-- The text that a path which may be missing is shown with. -/
def optionalPath : Option String → String
  | none => "None"
  | some path => s!"Some({Text.quoted path})"

def Trouble.message : Trouble → String
  | .unreadable => "缓存读取失败，按未命中处理"
  | .corrupt => "缓存条目损坏，重新查询并覆盖"
  | .unwritable => "缓存写入失败，结果未缓存"

namespace Event

/-- How grave an event is. -/
def level : Event → Level
  | .started _ | .levelChanged _ | .storeOpened _ | .backendOpened _ => .info
  | .troubled .. => .warn
  | .entryWritten .. => .trace
  | .backendClosed _ | .keyDerived .. | .missed _ | .replayed .. | .captured .. => .debug

/-- The part of the program that an event comes from. -/
def source : Event → String
  | .started _ | .levelChanged _ => "sqlcache::core::logger"
  | .storeOpened _ => "sqlcache::data::store"
  | .entryWritten .. => "sqlcache::data::store::file"
  | .backendOpened _ => "sqlcache::data::backend"
  | .backendClosed _ => "sqlcache::data::backend::sqlite"
  | .keyDerived .. | .missed _ | .replayed .. | .captured .. | .troubled .. =>
    "sqlcache::data::connection"

def message : Event → String
  | .started _ => "日志系统初始化完成"
  | .levelChanged _ => "日志级别已动态更新"
  | .storeOpened _ => "缓存存储已打开"
  | .backendOpened _ => "后端连接已打开"
  | .backendClosed _ => "SQLite 连接已关闭"
  | .entryWritten .. => "缓存条目已写入"
  | .keyDerived .. => "缓存键已推导"
  | .missed _ => "缓存未命中"
  | .replayed .. => "缓存命中"
  | .captured .. => "查询结果已缓存"
  | .troubled trouble .. => trouble.message

/-- The fields of an event besides its message. -/
def fields : Event → List (String × Field)
  | .started s =>
    [("level", .text s.level.name), ("format", .text s.format.title),
      ("output", .text s.output.title), ("file_path", .text (optionalPath s.directory))]
  | .levelChanged level => [("new_level", .text level.name)]
  | .storeOpened store => [("store", .text store)]
  | .backendOpened backend => [("backend", .text backend)]
  | .backendClosed location => [("location", .text location)]
  | .entryWritten path size => [("path", .text path), ("size", .number size)]
  | .keyDerived key parameters => [("key", .text key.hex), ("params", .number parameters)]
  | .missed key => [("key", .text key.hex)]
  | .replayed key rows => [("key", .text key.hex), ("rows", .number rows)]
  | .captured key rows size =>
    [("key", .text key.hex), ("rows", .number rows), ("size", .number size)]
  | .troubled _ key store error =>
    [("key", .text key.hex), ("store", .text store), ("error", .text error.message)]

end Event

end QueryReplay.Log
