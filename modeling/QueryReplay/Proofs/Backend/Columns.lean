import QueryReplay.Backend.Statement
import QueryReplay.Host.Backends
import QueryReplay.Proofs.Backend.Collect

/-!
# Columns of databases

A database of tables counts the columns of its results from one, and gives
digits to decimals only.  Such results come back from storage unchanged.
-/

namespace QueryReplay

/-! ## Selected columns -/

theorem DeclaredType.digits_of_ne_decimal {declaration : Option String}
    (htype : (ofText? declaration).type ≠ .decimal) :
    (ofText? declaration).precision = 0 ∧ (ofText? declaration).scale = 0 := by
  cases declaration with
  | none => exact ⟨rfl, rfl⟩
  | some declaration =>
      simp only [ofText?, ofText] at htype ⊢
      split
      next heq =>
        rw [heq] at htype
        exact absurd rfl htype
      next => exact ⟨rfl, rfl⟩

theorem DeclaredType.storedColumn_column (name : String) (declaration : Option String)
    (ordinal : Nat) (nullability : Nullability) :
    ResultSet.storedColumn ordinal (column name declaration ordinal nullability) =
      column name declaration ordinal nullability := by
  refine ResultSet.storedColumn_eq_self_iff.mpr ⟨rfl, fun htype => ?_⟩
  obtain ⟨hprecision, hscale⟩ := digits_of_ne_decimal htype
  exact ⟨congrArg UInt32.ofNat hprecision, congrArg Int32.ofNat hscale⟩

theorem Table.storedColumn_selectColumn (t : Table) (ordinal : Nat) (item : SelectItem) :
    ResultSet.storedColumn ordinal (t.selectColumn ordinal item) =
      t.selectColumn ordinal item := by
  unfold selectColumn
  split
  · split
    · exact DeclaredType.storedColumn_column _ _ _ _
    · exact DeclaredType.storedColumn_column _ _ _ _
  · exact DeclaredType.storedColumn_column _ _ _ _

theorem Table.storedColumns_selectColumn (t : Table) (items : List SelectItem) (n : Nat) :
    ResultSet.storedColumns (n + 1)
        ((items.zipIdx n).map fun (item, i) => t.selectColumn (i + 1) item) =
      (items.zipIdx n).map fun (item, i) => t.selectColumn (i + 1) item := by
  induction items generalizing n with
  | nil => rfl
  | cons item items ih =>
      rw [List.zipIdx_cons, List.map_cons, ResultSet.storedColumns,
        storedColumn_selectColumn, ih]

/-! ## Answers -/

namespace Database

theorem storedColumns_of_run {d d' : Database} {t : Table} {p : Plan} {parameters : List Native}
    {columns : List Column} {rows : List (List Native)}
    (h : d.run t p parameters = .ok (.rows columns rows, d')) :
    ResultSet.storedColumns 1 columns = columns := by
  unfold run at h
  cases p with
  | select table items byRowNumber =>
      cases h
      exact t.storedColumns_selectColumn items 0
  | insert table count =>
      simp only at h
      split at h <;> cases h
  | update table column =>
      simp only at h
      split at h
      · split at h
        · cases h
        · split at h <;> cases h
      · cases h
  | delete table => cases h

theorem storedColumns_of_statement {d d' : Database} {p : Plan} {parameters : List Value}
    {columns : List Column} {rows : List (List Native)}
    (h : d.statement p parameters = .ok (.rows columns rows, d')) :
    ResultSet.storedColumns 1 columns = columns := by
  unfold statement at h
  split at h
  · cases h
  · split at h
    · cases h
    · exact storedColumns_of_run h

/-- The columns of whatever a database answers to a query. -/
theorem storedColumns_of_answer {d : Database} {q : Statement} {parameters : List Value}
    {live : ResultCursor} (h : (d.answer q parameters).1 = .ok live) :
    ResultSet.storedColumns 1 live.columns = live.columns := by
  unfold answer at h
  split at h
  next plan _ =>
    unfold query at h
    split at h
    next => cases h
    next hstatement =>
      cases h
      exact storedColumns_of_statement hstatement
    next =>
      cases h
      rfl
  next => cases h

end Database

theorem eq_ok_of_mapError {α ε δ : Type} {f : ε → δ} {outcome : Except ε α} {a : α}
    (h : outcome.mapError f = .ok a) : outcome = .ok a := by
  cases outcome with
  | error e => cases h
  | ok a' =>
      cases h
      rfl

/-- What a connection to a database of tables answers has columns as they are stored. -/
theorem Host.storedColumns_of_askRows {h : Host} {id database : Nat} {location : String}
    {b : Backend} {q : Statement} {parameters : List Value} {live : ResultCursor}
    (hbackend : h.backends[id]? = some b) (hengine : b.engine = .tables database location)
    (hlive : (h.askRows id q parameters).1 = .ok live) :
    ResultSet.storedColumns 1 live.columns = live.columns := by
  simp only [askRows, hbackend, ask] at hlive
  split at hlive
  · cases hlive
  · simp only [hengine] at hlive
    exact Database.storedColumns_of_answer (eq_ok_of_mapError hlive)

end QueryReplay
