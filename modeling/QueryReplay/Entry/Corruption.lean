import QueryReplay.Text.Utf8

/-!
# Defects of stored results

What can be wrong with the bytes of a stored result, and with rows that do
not fit their columns.
-/

namespace QueryReplay

/-- A defect of a stored result. -/
inductive Corruption where
  /-- The bytes do not start with the mark of a stored result. -/
  | badMagic
  | unknownVersion (version : UInt8)
  /-- The byte in front of a streamed row announces neither a row nor the end. -/
  | badRowMark (mark : UInt8)
  /-- More rows are announced than the remaining bytes can hold. -/
  | impossibleRowCount (rows : Nat)
  | trailingBytes (count : Nat)
  | unknownTypeTag (tag : UInt8)
  | unknownNullabilityTag (tag : UInt8)
  /-- A bit behind the last column is set in the null bitmap. -/
  | strayNullBit
  /-- A null is written out although the bitmap does not announce it. -/
  | unannouncedNull
  | badBool (byte : UInt8)
  | badDecimalLength (length : UInt8)
  | badDecimalScale (scale : Nat)
  | timestampOutOfRange
  | dateOutOfRange
  | timeOutOfRange
  | unknownValueTag (tag : UInt8)
  /-- At `offset` more bytes are needed than remain. -/
  | truncated (offset needed remaining : Nat)
  | badText (fault : Utf8.Fault)
  /-- A row of a result that has no columns. -/
  | rowWithoutColumns
  | rowWidth (width columns : Nat)
deriving DecidableEq, Repr

/-- The wording of a defect. -/
def Corruption.message : Corruption → String
  | .badMagic => "魔数不匹配"
  | .unknownVersion version => s!"未知的格式版本: {version}"
  | .badRowMark mark => s!"无效的行标记: {mark}"
  | .impossibleRowCount rows => s!"行数 {rows} 超出数据长度"
  | .trailingBytes count => s!"存在 {count} 字节多余数据"
  | .unknownTypeTag tag => s!"未知的列类型标签: {tag}"
  | .unknownNullabilityTag tag => s!"未知的可空性标签: {tag}"
  | .strayNullBit => "null 位图存在越界位"
  | .unannouncedNull => "非空槽位出现 NULL 标签"
  | .badBool byte => s!"无效的布尔值: {byte}"
  | .badDecimalLength length => s!"DECIMAL 数值长度无效: {length}"
  | .badDecimalScale scale => s!"DECIMAL 小数位越界: {scale}"
  | .timestampOutOfRange => "时间戳越界"
  | .dateOutOfRange => "日期越界"
  | .timeOutOfRange => "时间越界"
  | .unknownValueTag tag => s!"未知的值标签: {tag}"
  | .truncated offset needed remaining =>
    s!"数据被截断: 偏移 {offset} 处需要 {needed} 字节，剩余 {remaining}"
  | .badText fault => s!"无效的 UTF-8: {fault.message}"
  | .rowWithoutColumns => "零列结果不能包含行"
  | .rowWidth width columns => s!"行宽 {width} 与列数 {columns} 不一致"

end QueryReplay
