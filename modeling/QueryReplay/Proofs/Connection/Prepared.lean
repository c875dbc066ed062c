import QueryReplay.Proofs.Connection.Effects
import QueryReplay.Proofs.History
import QueryReplay.Proofs.Simulation

/-!
# Parameters follow the last binding

A prepared statement is used by binding values to its parameters, in any order
and as often as one likes, by dropping all of them, and by running it in
between.  What it is run with can be read off the sequence of calls: for each
parameter up to the greatest that was bound the value that was bound to it
last.  If one of them was not bound, nothing is run.

The invariant behind this says, place by place, what the list of bindings has
to do with the calls so far; every call keeps it.
-/

namespace QueryReplay

/-- What can be done with a prepared statement. -/
inductive PreparedCall where
  | bind (index : Nat) (v : Value)
  | clear
  | query
  | update
deriving DecidableEq, Repr

/-- What comes back. -/
inductive PreparedAnswer where
  | bound (outcome : Except Error Unit)
  | cleared
  | rows (outcome : Except Error ResultCursor)
  | count (outcome : Except Error Nat)

namespace PreparedStatement

variable {σ : Type}

/-- The answer to a call, and the prepared statement and the world behind it.  A binding that fails
leaves the statement as it was. -/
def answer (c : Connection) (env : Environment σ) (w : PreparedStatement × σ) :
    PreparedCall → PreparedAnswer × PreparedStatement × σ
  | .bind index v =>
    match w.1.bind index v with
    | .ok p => (.bound (.ok ()), p, w.2)
    | .error e => (.bound (.error e), w)
  | .clear => (.cleared, w.1.clear, w.2)
  | .query =>
    let answered := w.1.query c env w.2
    (.rows answered.1, w.1, answered.2)
  | .update =>
    let answered := w.1.update env w.2
    (.count answered.1, w.1, answered.2)

/-! ## What the calls tell -/

/-- The value was bound to the parameter, and since then the parameters have not been cleared, nor
has another value been bound to this one.  There is no parameter zero. -/
def LastBound (calls : List PreparedCall) (index : Nat) (v : Value) : Prop :=
  0 < index ∧ HoldsSince (fun call => call = .bind index v)
    (fun call => call = .clear ∨ ∃ w, call = .bind index w) calls

/-- Some value has been bound to the parameter since the parameters were last cleared. -/
def IsBound (calls : List PreparedCall) (index : Nat) : Prop :=
  ∃ v, LastBound calls index v

/-- The greatest parameter that has been bound since they were last cleared, or zero. -/
def IsGreatestBound (calls : List PreparedCall) (greatest : Nat) : Prop :=
  (greatest = 0 ∨ IsBound calls greatest) ∧ ∀ index, IsBound calls index → index ≤ greatest

variable {calls : List PreparedCall} {index other : Nat} {v w : Value}

theorem not_lastBound_nil : ¬LastBound [] index v :=
  fun h => not_holdsSince_nil h.2

theorem lastBound_concat_bind :
    LastBound (calls ++ [.bind other w]) index v ↔
      if index = other then 0 < index ∧ w = v else LastBound calls index v := by
  rw [LastBound, holdsSince_concat_iff, LastBound]
  by_cases hsame : index = other
  · rw [if_pos hsame]
    simp [hsame]
  · rw [if_neg hsame]
    simp [Ne.symm hsame]

theorem not_lastBound_concat_clear : ¬LastBound (calls ++ [.clear]) index v := by
  rw [LastBound, holdsSince_concat_iff]
  simp

theorem lastBound_concat_of_run {call : PreparedCall} (hrun : call = .query ∨ call = .update) :
    LastBound (calls ++ [call]) index v ↔ LastBound calls index v := by
  rw [LastBound, holdsSince_concat_iff, LastBound]
  rcases hrun with rfl | rfl
  · simp
  · simp

/-! ## The list of bindings -/

theorem getElem?_append_replicate_none {bindings : List (Option Value)} {count place : Nat} :
    (bindings ++ List.replicate count none)[place]? = some (some v) ↔
      bindings[place]? = some (some v) := by
  by_cases hplace : place < bindings.length
  · rw [List.getElem?_append_left hplace]
  · have hbehind : bindings.length ≤ place := Nat.not_lt.mp hplace
    rw [List.getElem?_append_right hbehind, List.getElem?_eq_none hbehind, List.getElem?_replicate]
    simp

/-- What the bindings of a statement have to do with the calls so far. -/
structure Reflects (q : Statement) (calls : List PreparedCall) (p : PreparedStatement) :
    Prop where
  statement : p.statement = q
  value (place : Nat) (v : Value) :
    p.bindings[place]? = some (some v) ↔ LastBound calls (place + 1) v
  last : p.bindings.length = 0 ∨ IsBound calls p.bindings.length

variable {q : Statement} {p : PreparedStatement}

theorem reflects_prepare (q : Statement) : Reflects q [] (prepare q) where
  statement := rfl
  value place v := by simp [prepare, not_lastBound_nil]
  last := Or.inl rfl

/-- There are as many bindings as the greatest parameter that was bound. -/
theorem Reflects.isGreatestBound (h : Reflects q calls p) :
    IsGreatestBound calls p.bindings.length := by
  refine ⟨h.last, ?_⟩
  rintro index ⟨v, hv⟩
  obtain ⟨place, rfl⟩ := Nat.exists_eq_add_of_lt hv.1
  rw [Nat.zero_add] at hv ⊢
  exact (List.getElem?_eq_some_iff.mp ((h.value place v).mpr hv)).1

theorem bind_succ (p : PreparedStatement) (place : Nat) (v : Value) :
    p.bind (place + 1) v = .ok { p with bindings :=
      (p.bindings ++ List.replicate (place + 1 - p.bindings.length) none).set place (some v) } :=
  rfl

theorem Reflects.bind (h : Reflects q calls p) (place : Nat) (v : Value) :
    ∃ p', p.bind (place + 1) v = .ok p' ∧ Reflects q (calls ++ [.bind (place + 1) v]) p' := by
  refine ⟨_, bind_succ p place v, h.statement, fun i w => ?_, Or.inr ?_⟩
  · rw [lastBound_concat_bind]
    by_cases hsame : i = place
    · have hroom : place <
          (p.bindings ++ List.replicate (place + 1 - p.bindings.length) none).length := by
        rw [List.length_append, List.length_replicate]
        omega
      rw [if_pos (congrArg Nat.succ hsame), hsame, List.getElem?_set_self hroom]
      simp
    · have hother : ¬i + 1 = place + 1 := fun heq => hsame (Nat.succ.inj heq)
      rw [if_neg hother, List.getElem?_set_ne (Ne.symm hsame), getElem?_append_replicate_none]
      exact h.value i w
  · -- The list has grown to the new parameter, or its last one is still bound.
    have hlength : ((p.bindings ++ List.replicate (place + 1 - p.bindings.length) none).set place
        (some v)).length = max p.bindings.length (place + 1) := by
      rw [List.length_set, List.length_append, List.length_replicate]
      omega
    rw [hlength]
    by_cases hgrows : p.bindings.length ≤ place + 1
    · rw [Nat.max_eq_right hgrows]
      exact ⟨v, lastBound_concat_bind.mpr (by simp)⟩
    · rw [Nat.max_eq_left (by omega)]
      have hne : p.bindings.length ≠ place + 1 := by omega
      obtain ⟨w, hw⟩ := h.last.resolve_left (by omega)
      exact ⟨w, lastBound_concat_bind.mpr (by rwa [if_neg hne])⟩

theorem Reflects.clear (h : Reflects q calls p) : Reflects q (calls ++ [.clear]) p.clear where
  statement := h.statement
  value place v := by simp [PreparedStatement.clear, not_lastBound_concat_clear]
  last := Or.inl rfl

theorem Reflects.run (h : Reflects q calls p) {call : PreparedCall}
    (hrun : call = .query ∨ call = .update) : Reflects q (calls ++ [call]) p where
  statement := h.statement
  value place v := (h.value place v).trans (lastBound_concat_of_run hrun).symm
  last := h.last.imp_right fun ⟨v, hv⟩ => ⟨v, (lastBound_concat_of_run hrun).mpr hv⟩

/-- An attempt to bind parameter zero counts for nothing. -/
theorem Reflects.bind_zero (h : Reflects q calls p) (v : Value) :
    Reflects q (calls ++ [.bind 0 v]) p where
  statement := h.statement
  value place w := by
    rw [lastBound_concat_bind, if_neg (Nat.succ_ne_zero place)]
    exact h.value place w
  last := by
    refine (Nat.eq_zero_or_pos p.bindings.length).imp_right fun hpos => ?_
    obtain ⟨w, hw⟩ := h.last.resolve_left hpos.ne'
    exact ⟨w, lastBound_concat_bind.mpr (by rwa [if_neg hpos.ne'])⟩

variable {c : Connection} {env : Environment σ} {s : σ}

theorem Reflects.answer (h : Reflects q calls p) (call : PreparedCall) :
    Reflects q (calls ++ [call]) (answer c env (p, s) call).2.1 := by
  cases call with
  | bind index v =>
      cases index with
      | zero => exact h.bind_zero v
      | succ place =>
          obtain ⟨p', hbind, hreflects⟩ := h.bind place v
          simp only [PreparedStatement.answer, hbind]
          exact hreflects
  | clear => exact h.clear
  | query => exact h.run (Or.inl rfl)
  | update => exact h.run (Or.inr rfl)

/-- After any calls the bindings are what the calls say. -/
theorem reflects_interview (c : Connection) (env : Environment σ) (q : Statement) (s : σ)
    (calls : List PreparedCall) :
    Reflects q calls (interview (PreparedStatement.answer c env) (prepare q, s) calls).2.1 := by
  induction calls using List.reverseRecOn with
  | nil => exact reflects_prepare q
  | append_singleton calls call ih =>
      rw [interview_append]
      exact ih.answer call

/-! ## The values of all parameters -/

/-- Either all parameters have values, or the first one without a value is found. -/
theorem boundFrom_cases (index : Nat) (bindings : List (Option Value)) :
    (∃ values, bindings = values.map some ∧ boundFrom index bindings = .ok values) ∨
      ∃ place, bindings[place]? = some none ∧
        (∀ earlier < place, ∃ v, bindings[earlier]? = some (some v)) ∧
          boundFrom index bindings = .error (.parameter (.unbound (index + place))) := by
  induction bindings generalizing index with
  | nil => exact Or.inl ⟨[], rfl, rfl⟩
  | cons binding bindings ih =>
      cases binding with
      | none => exact Or.inr ⟨0, rfl, fun _ hlt => absurd hlt (Nat.not_lt_zero _), rfl⟩
      | some v =>
          rcases ih (index + 1) with ⟨values, rfl, hok⟩ | ⟨place, hnone, hearlier, herror⟩
          · refine Or.inl ⟨v :: values, rfl, ?_⟩
            rw [boundFrom, hok]
            rfl
          · refine Or.inr ⟨place + 1, hnone, fun earlier hlt => ?_, ?_⟩
            · cases earlier with
              | zero => exact ⟨v, rfl⟩
              | succ earlier => exact hearlier earlier (Nat.lt_of_succ_lt_succ hlt)
            · rw [boundFrom, herror, Nat.add_comm place 1, ← Nat.add_assoc]
              rfl

theorem Reflects.parameters_cases (h : Reflects q calls p) :
    (∃ values, p.bindings = values.map some ∧ p.parameters = .ok values) ∨
      ∃ place, p.bindings[place]? = some none ∧ (∀ earlier < place, IsBound calls (earlier + 1)) ∧
        p.parameters = .error (.parameter (.unbound (place + 1))) := by
  rcases boundFrom_cases 1 p.bindings with hvalues | ⟨place, hnone, hearlier, herror⟩
  · exact Or.inl hvalues
  · refine Or.inr ⟨place, hnone, fun earlier hlt => ?_, ?_⟩
    · obtain ⟨v, hv⟩ := hearlier earlier hlt
      exact ⟨v, (h.value earlier v).mp hv⟩
    · rw [parameters, herror, Nat.add_comm]

/-- If all parameters have values, each has the one that was last bound to it. -/
theorem Reflects.lastBound_of_values (h : Reflects q calls p) {values : List Value}
    (hbindings : p.bindings = values.map some) (hpos : 0 < index) (hle : index ≤ values.length) :
    ∃ v, values[index - 1]? = some v ∧ LastBound calls index v := by
  have hplace : index - 1 < values.length := by omega
  have hget : values[index - 1]? = some values[index - 1] := List.getElem?_eq_getElem hplace
  have hvalue := (h.value (index - 1) values[index - 1]).mp
    (by rw [hbindings, List.getElem?_map, hget, Option.map_some])
  rw [Nat.sub_add_cancel hpos] at hvalue
  exact ⟨_, hget, hvalue⟩

theorem Reflects.not_isBound (h : Reflects q calls p) {place : Nat}
    (hnone : p.bindings[place]? = some none) : ¬IsBound calls (place + 1) := by
  rintro ⟨v, hv⟩
  have hvalue := (h.value place v).mpr hv
  rw [hnone] at hvalue
  cases hvalue

/-! ## Runs -/

/-- To run the prepared statement is to run its statement with these values: with the same outcome,
in the same world, and by the same calls to the store and the database. -/
structure RunsWith (p : PreparedStatement) (c : Connection) (env : Environment σ) (s : σ)
    (q : Statement) (values : List Value) : Prop where
  query : p.query c env s = c.query env q values s
  calls_query : (Request.queryPrepared p).calls c env s = c.calls env q values s
  update : p.update env s = env.execute q values s
  calls_update :
    (Request.updatePrepared p).calls c env s = [.execute q values (env.execute q values s).1]

/-- To run the prepared statement fails for the lack of a parameter.  Neither the store nor the
database is called, and the world stays as it is. -/
structure Lacks (p : PreparedStatement) (c : Connection) (env : Environment σ) (s : σ)
    (index : Nat) : Prop where
  query : p.query c env s = (.error (.parameter (.unbound index)), s)
  calls_query : (Request.queryPrepared p).calls c env s = []
  update : p.update env s = (.error (.parameter (.unbound index)), s)
  calls_update : (Request.updatePrepared p).calls c env s = []

theorem runsWith_of_parameters {values : List Value} (hvalues : p.parameters = .ok values)
    (c : Connection) (env : Environment σ) (s : σ) : RunsWith p c env s p.statement values where
  query := by rw [PreparedStatement.query, hvalues]
  calls_query := by
    apply Request.calls_of_query
    · rw [Request.submission, hvalues]
      rfl
    · rfl
  update := by
    rw [PreparedStatement.update, hvalues]
    rfl
  calls_update := by
    apply Request.calls_of_update
    · rw [Request.submission, hvalues]
      rfl
    · rfl

theorem lacks_of_parameters (herror : p.parameters = .error (.parameter (.unbound index)))
    (c : Connection) (env : Environment σ) (s : σ) : Lacks p c env s index where
  query := by rw [PreparedStatement.query, herror]
  calls_query := by
    apply Request.calls_of_unbound
    rw [Request.submission, herror]
    rfl
  update := by rw [PreparedStatement.update, herror]
  calls_update := by
    apply Request.calls_of_unbound
    rw [Request.submission, herror]
    rfl

/-- After any calls to a new prepared statement, let `greatest` be the greatest parameter bound
since the last clearing.  If all parameters up to it have been bound since then, the statement runs
with exactly so many values, each the one that was last bound to its parameter.  Otherwise the
smallest parameter without a value is named, and nothing is called.  Parameter zero is always
refused, any other one never, and neither that refusal nor a run changes what is bound. -/
theorem runs_with_last_bound (c : Connection) (env : Environment σ) (q : Statement) (s : σ)
    (calls : List PreparedCall) :
    ∃ p after, (interview (answer c env) (prepare q, s) calls).2 = (p, after) ∧
      (∃ greatest, IsGreatestBound calls greatest ∧
        ((∀ index, 0 < index → index ≤ greatest → IsBound calls index) ∧
            (∃ values, values.length = greatest ∧
              (∀ index, 0 < index → index ≤ greatest →
                ∃ v, values[index - 1]? = some v ∧ LastBound calls index v) ∧
              RunsWith p c env after q values) ∨
          ∃ index, 0 < index ∧ index ≤ greatest ∧ ¬IsBound calls index ∧
            (∀ earlier, 0 < earlier → earlier < index → IsBound calls earlier) ∧
              Lacks p c env after index)) ∧
      (∀ v, answer c env (p, after) (.bind 0 v) =
        (.bound (.error (.parameter .indexZero)), p, after)) ∧
      (∀ index v, 0 < index →
        (answer c env (p, after) (.bind index v)).1 = .bound (.ok ())) ∧
      (answer c env (p, after) .query).2.1 = p ∧ (answer c env (p, after) .update).2.1 = p := by
  have hreflects := reflects_interview c env q s calls
  generalize hlast : (interview (answer c env) (prepare q, s) calls).2 = last at hreflects
  obtain ⟨p, after⟩ := last
  refine ⟨p, after, rfl, ⟨_, hreflects.isGreatestBound, ?_⟩, fun v => rfl, fun index v hpos => ?_,
    rfl, rfl⟩
  · rcases hreflects.parameters_cases with ⟨values, hbindings, hvalues⟩ |
      ⟨place, hnone, hearlier, herror⟩
    · left
      have hlength : p.bindings.length = values.length := by rw [hbindings, List.length_map]
      rw [hlength]
      refine ⟨fun index hpos hle => ?_, values, rfl,
        fun index => hreflects.lastBound_of_values hbindings, ?_⟩
      · obtain ⟨v, -, hv⟩ := hreflects.lastBound_of_values hbindings hpos hle
        exact ⟨v, hv⟩
      · have hruns := runsWith_of_parameters hvalues c env after
        rwa [hreflects.statement] at hruns
    · right
      refine ⟨place + 1, Nat.succ_pos place, (List.getElem?_eq_some_iff.mp hnone).1,
        hreflects.not_isBound hnone, fun earlier hpos hlt => ?_,
        lacks_of_parameters herror c env after⟩
      have hbefore := hearlier (earlier - 1) (by omega)
      rwa [Nat.sub_add_cancel hpos] at hbefore
  · obtain ⟨place, rfl⟩ := Nat.exists_eq_add_of_lt hpos
    rw [Nat.zero_add]
    rfl

/-- A query in between finds the first parameter unbound, and is as good as none. -/
example : (interview (answer (sharing .fail).connection (sharing .fail).environment)
    (prepare selectN, OpenConnection.scriptedHost)
    [.bind 3 .null, .clear, .bind 2 (.int32 5), .query, .bind 1 .null, .bind 2 (.text "b")]).2 =
      (⟨selectN, [some .null, some (.text "b")]⟩, OpenConnection.scriptedHost) :=
  rfl

end PreparedStatement

end QueryReplay
