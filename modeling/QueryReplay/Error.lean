import QueryReplay.Column
import QueryReplay.Entry.Corruption
import QueryReplay.Value.Basic

/-!
# Errors

All that can go wrong, by cause, each with one wording. Errors fall into
three classes: those of the replayed data itself, those of the place where
results are kept, and all others.
-/

namespace QueryReplay

/-- The types a value can be read as. -/
inductive Target where
  | int64 | int32 | float64 | bool | text | bytes | decimal | timestamp | date | time
deriving DecidableEq, Repr

def Target.name : Target → String
  | .int64 => "i64"
  | .int32 => "i32"
  | .float64 => "f64"
  | .bool => "bool"
  | .text => "String"
  | .bytes => "Vec<u8>"
  | .decimal => "Decimal"
  | .timestamp => "NaiveDateTime"
  | .date => "NaiveDate"
  | .time => "NaiveTime"

/-- Why a file or directory could not be used. -/
inductive IoFault where
  | notFound
  | alreadyExists
  | notADirectory
  | isADirectory
  | nameTooLong
  | nulByte
  | invalidText
  | other (text : String)
deriving DecidableEq, Repr

/-- The wording of a file fault. -/
def IoFault.message : IoFault → String
  | .notFound => "No such file or directory (os error 2)"
  | .alreadyExists => "File exists (os error 17)"
  | .notADirectory => "Not a directory (os error 20)"
  | .isADirectory => "Is a directory (os error 21)"
  | .nameTooLong => "File name too long (os error 36)"
  | .nulByte => "file name contained an unexpected NUL byte"
  | .invalidText => "stream did not contain valid UTF-8"
  | .other text => text

/-- Why a database did not answer. -/
inductive BackendFault where
  /-- The connection to the database has been closed. -/
  | closed
  /-- A failure that a scripted database was told to raise. -/
  | scripted (text : String)
  | parameterCount (given needed : Nat)
  /-- A failure of the database engine, in its own words. -/
  | engine (text : String)
deriving DecidableEq, Repr

/-- The wording of a database fault. -/
def BackendFault.message : BackendFault → String
  | .closed => "SQLite 连接已关闭"
  | .scripted text => text
  | .parameterCount given needed =>
    s!"Wrong number of parameters passed to query. Got {given}, needed {needed}"
  | .engine text => text

/-- What is wrong with a setting. -/
inductive ConfigFault where
  | foreignUrl (url : String)
  | missingDirectory
  | missingStoreName
  | unknownTarget (url : String)
  | unknownPolicy (text : String)
  | missingProperty (name : String)
  | badSwitch (name text : String)
  | missingBackendUrl
  | unknownFormat (path : String)
  | unreadable
  | unknownDriver (name : String)
deriving DecidableEq, Repr

/-- The wording of a wrong setting. -/
def ConfigFault.message : ConfigFault → String
  | .foreignUrl url => s!"URL 必须以 jdbc:cache: 开头: {url}"
  | .missingDirectory => "缺少缓存目录"
  | .missingStoreName => "缺少内存存储名称"
  | .unknownTarget url => s!"未知的缓存存储类型: {url}"
  | .unknownPolicy text => s!"无效的存储错误策略: {text}"
  | .missingProperty name => s!"缺少属性 {name}"
  | .badSwitch name text => s!"属性 {name} 的值无效: {text}"
  | .missingBackendUrl => "后端 URL 不能为空"
  | .unknownFormat path => s!"不支持的配置文件格式: {path}"
  | .unreadable => "语法错误"
  | .unknownDriver name => s!"不支持的后端驱动: {name}"

/-- What is wrong with the parameters of a prepared statement. -/
inductive ParameterFault where
  | indexZero
  | unbound (index : Nat)
deriving DecidableEq, Repr

def ParameterFault.message : ParameterFault → String
  | .indexZero => "参数下标从 1 开始"
  | .unbound index => s!"参数 {index} 未绑定"

/-- All that can go wrong. -/
inductive Error where
  /-- A column holds text that is not UTF-8. -/
  | unsupportedText (column : String) (type : ColumnType)
  | corrupt (defect : Corruption)
  | typeMismatch (kind : Value.Kind) (target : Target)
  | columnNotFound (name : String)
  | ordinalNotFound (ordinal columns : Nat)
  | beforeFirstRow
  | afterLastRow
  | backend (fault : BackendFault)
  | store (path : String) (fault : IoFault)
  | config (fault : ConfigFault)
  | parameter (fault : ParameterFault)
deriving DecidableEq, Repr

namespace Error

def message : Error → String
  | .unsupportedText column type =>
    s!"不支持的类型: 列 {column} 声明为 {type.name}，实际存储为非 UTF-8 文本"
  | .corrupt defect => s!"缓存数据损坏: {defect.message}"
  | .typeMismatch kind target => s!"类型不匹配: 无法将 {kind.name} 转换为 {target.name}"
  | .columnNotFound name => s!"未找到列: {name}"
  | .ordinalNotFound ordinal columns => s!"未找到列: 序号 {ordinal}（共 {columns} 列）"
  | .beforeFirstRow => "游标状态错误: 游标位于首行之前，请先调用 advance()"
  | .afterLastRow => "游标状态错误: 游标已越过末行"
  | .backend fault => s!"后端错误: {fault.message}"
  | .store path fault => s!"缓存存储错误: {path}: {fault.message}"
  | .config fault => s!"配置错误: {fault.message}"
  | .parameter fault => s!"无效的参数: {fault.message}"

/-- Whether the error is one of the place where results are kept. -/
def isStoreError : Error → Bool
  | .store .. => true
  | _ => false

/-- Whether the error is one of the replayed data or of the way it is read. -/
def isCacheError : Error → Bool
  | .unsupportedText .. | .corrupt _ | .typeMismatch .. | .columnNotFound _
  | .ordinalNotFound .. | .beforeFirstRow | .afterLastRow => true
  | _ => false

end Error

end QueryReplay
