/-!
# Systems that answer questions

A system is a function from a state and a question to an answer and a state.
Two systems cannot be told apart from states that are related, if the relation
is kept by every question and related states answer alike.  It is enough that
this holds for the questions that are asked, and as long as the answers are
admitted, for instance as long as nothing has failed.
-/

namespace QueryReplay

section

variable {σ τ ι ο : Type}

/-- The answers of a system to questions one after another, and the state behind them. -/
def interview (step : σ → ι → ο × σ) (s : σ) : List ι → List ο × σ
  | [] => ([], s)
  | question :: questions =>
    let answered := step s question
    let rest := interview step answered.2 questions
    (answered.1 :: rest.1, rest.2)

theorem interview_append (step : σ → ι → ο × σ) (s : σ) (questions more : List ι) :
    interview step s (questions ++ more) =
      ((interview step s questions).1 ++ (interview step (interview step s questions).2 more).1,
        (interview step (interview step s questions).2 more).2) := by
  induction questions generalizing s with
  | nil => rfl
  | cons question questions ih =>
      rw [List.cons_append, interview, ih]
      rfl

theorem length_interview (step : σ → ι → ο × σ) (s : σ) (questions : List ι) :
    (interview step s questions).1.length = questions.length := by
  induction questions generalizing s with
  | nil => rfl
  | cons question questions ih => exact congrArg Nat.succ (ih (step s question).2)

/-- What each of the questions keeps is kept by the interview. -/
theorem interview_keeps {P : σ → Prop} {step : σ → ι → ο × σ} {questions : List ι}
    (hkeeps : ∀ s, P s → ∀ question ∈ questions, P (step s question).2) {s : σ} (hs : P s) :
    P (interview step s questions).2 := by
  induction questions generalizing s with
  | nil => exact hs
  | cons question questions ih =>
      have hrest (s : σ) (hs : P s) : ∀ later ∈ questions, P (step s later).2 :=
        fun later hlater => hkeeps s hs later (List.mem_cons_of_mem question hlater)
      exact ih hrest (hkeeps s hs question List.mem_cons_self)

/-- To dress every answer is to dress the answers of the whole interview. -/
theorem interview_map {ο' : Type} (dress : ο → ο') (step : σ → ι → ο × σ) (s : σ)
    (questions : List ι) :
    (interview (fun s question => (dress (step s question).1, (step s question).2)) s questions).1 =
      (interview step s questions).1.map dress := by
  induction questions generalizing s with
  | nil => rfl
  | cons question questions ih =>
      exact congrArg (List.cons (dress (step s question).1)) (ih (step s question).2)

/-- Related states answer each question that is asked alike and stay related, if the answer is
admitted. -/
def Simulates (step : σ → ι → ο × σ) (step' : τ → ι → ο × τ) (asked : ι → Prop)
    (admitted : ο → Prop) (related : σ → τ → Prop) : Prop :=
  ∀ s t question, related s t → asked question → admitted (step s question).1 →
    (step s question).1 = (step' t question).1 ∧
      related (step s question).2 (step' t question).2

theorem Simulates.interview_eq {step : σ → ι → ο × σ} {step' : τ → ι → ο × τ}
    {asked : ι → Prop} {admitted : ο → Prop} {related : σ → τ → Prop}
    (hsimulates : Simulates step step' asked admitted related) {s : σ} {t : τ}
    (hrelated : related s t) {questions : List ι} (hasked : ∀ question ∈ questions, asked question)
    (hadmitted : ∀ answer ∈ (interview step s questions).1, admitted answer) :
    (interview step s questions).1 = (interview step' t questions).1 ∧
      related (interview step s questions).2 (interview step' t questions).2 := by
  induction questions generalizing s t with
  | nil => exact ⟨rfl, hrelated⟩
  | cons question questions ih =>
      obtain ⟨hquestion, hquestions⟩ := List.forall_mem_cons.mp hasked
      obtain ⟨hfirst, hrest⟩ := List.forall_mem_cons.mp hadmitted
      obtain ⟨hanswer, hnext⟩ := hsimulates s t question hrelated hquestion hfirst
      obtain ⟨hanswers, hend⟩ := ih hnext hquestions hrest
      exact ⟨List.cons_eq_cons.mpr ⟨hanswer, hanswers⟩, hend⟩

end

end QueryReplay
