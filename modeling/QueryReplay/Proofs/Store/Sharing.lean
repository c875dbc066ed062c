import QueryReplay.Proofs.History
import QueryReplay.Proofs.Store.Handles

/-!
# Stores in memory shared by name

Which handles act on the same entries can be told from the sequence of calls
alone: those that were obtained under one name with no successful drop of this
name in between, and no others.  A call through a handle is seen through the
handles that act on the same entries and through no others, so what is found
under a key is what was put there last through any of them.
-/

namespace QueryReplay

/-! ## Calls in a history -/

namespace HandleCall

/-- A call that does something to the entries of certain handles. -/
def Through (same : Nat → Prop) (does : MemoryCall → Prop) (call : HandleCall) : Prop :=
  ∃ handle inner, call = .use handle inner ∧ same handle ∧ does inner

end HandleCall

namespace MemoryCall

def Puts (k : Key) (b : List UInt8) (call : MemoryCall) : Prop :=
  call = .entry (.put k b)

/-- Whatever was put under the key before makes no difference any more. -/
def Settles (k : Key) (call : MemoryCall) : Prop :=
  (∃ b, call = .entry (.put k b)) ∨ call = .entry (.remove k) ∨ call = .clear

end MemoryCall

/-- Every handle that is used was obtained before. -/
def ThroughHandles (calls : List HandleCall) : Prop :=
  ∀ n, (hn : n < calls.length) → ∀ handle ∈ calls[n].handle?, handle < opened (calls.take n)

instance (calls : List HandleCall) : Decidable (ThroughHandles calls) :=
  inferInstanceAs (Decidable (∀ n, (hn : n < calls.length) →
    ∀ handle ∈ calls[n].handle?, handle < opened (calls.take n)))

/-! ## Which handles act alike -/

namespace Holdings

variable {w : Holdings} {calls : List HandleCall} {i j id : Nat}

/-- Whatever is called through the one handle, to call it through the other comes to the same. -/
def ActAlike (w : Holdings) (i j : Nat) : Prop :=
  ∀ call, w.answer (.use i call) = w.answer (.use j call)

theorem lt_length_of_getElem? {held : List Nat} (hheld : held[i]? = some id) : i < held.length :=
  (List.getElem?_eq_some_iff.mp hheld).1

theorem actAlike_iff (hsound : w.Sound) (hi : i < w.held.length) (hj : j < w.held.length) :
    w.ActAlike i j ↔ w.held[i]? = w.held[j]? := by
  constructor
  · intro halike
    have ha : w.held[i]? = some w.held[i] := List.getElem?_eq_getElem hi
    have hb : w.held[j]? = some w.held[j] := List.getElem?_eq_getElem hj
    rw [ha, hb]
    by_contra hne
    have hother : w.held[i] ≠ w.held[j] := fun heq => hne (congrArg some heq)
    let k : Key := ⟨Vector.replicate 32 0⟩
    -- A put of something new through the one handle is seen in its own store only.
    obtain ⟨b, hnew⟩ : ∃ b, w.registry.get? w.held[i] k ≠ some b := by
      cases w.registry.get? w.held[i] k with
      | none => exact ⟨[], nofun⟩
      | some old => exact ⟨0 :: old, fun heq => List.cons_ne_self 0 old (Option.some.inj heq).symm⟩
    have hput := halike (.entry (.put k b))
    rw [answer_use ha, answer_use hb] at hput
    have hget := congrArg (fun a => a.2.registry.get? w.held[i] k) hput
    have hid : w.held[i] < w.registry.stores.length := hsound.held _ (List.getElem_mem hi)
    change (w.registry.put w.held[i] k b).get? w.held[i] k =
      (w.registry.put w.held[j] k b).get? w.held[i] k at hget
    rw [Registry.get?_put hid, if_pos rfl, Registry.get?, Registry.put,
      Registry.entries_setEntries_of_ne hother] at hget
    exact hnew hget.symm
  · intro hsame call
    simp only [answer, hsame]

theorem entries_answer {call : HandleCall}
    (hcall : ∀ j inner, call = .use j inner → w.held[j]? ≠ some id) :
    (w.answer call).2.registry.entries id = w.registry.entries id := by
  cases call with
  | create name => exact Registry.entries_create w.registry name id
  | named name => exact Registry.entries_named w.registry name id
  | unregister name => rfl
  | use j inner =>
      rcases answer_use_cases w j inner with hsame | ⟨other, e, hheld, hset⟩
      · rw [hsame]
      · rw [hset]
        have hne : id ≠ other := by
          rintro rfl
          exact hcall j inner rfl hheld
        exact Registry.entries_setEntries_of_ne hne e

/-- Only a call through a handle that acts alike changes what is answered through a handle. -/
theorem answer_use_of_not_actAlike (hsound : w.Sound) (hi : i < w.held.length) {call : HandleCall}
    (hcall : ∀ j inner, call = .use j inner → ¬w.ActAlike i j) (asked : MemoryCall) :
    ((w.answer call).2.answer (.use i asked)).1 = (w.answer (.use i asked)).1 := by
  have hheld : w.held[i]? = some w.held[i] := List.getElem?_eq_getElem hi
  have hheld' : (w.answer call).2.held[i]? = some w.held[i] :=
    (Grows.answer w call).getElem?_held hi ▸ hheld
  have hentries : (w.answer call).2.registry.entries w.held[i] = w.registry.entries w.held[i] := by
    apply entries_answer
    intro j inner huse hj
    have hlength : j < w.held.length := lt_length_of_getElem? hj
    exact hcall j inner huse ((actAlike_iff hsound hi hlength).mpr (hheld.trans hj.symm))
  rw [answer_use hheld, answer_use hheld']
  exact Registry.memoryAnswer_congr hentries asked

end Holdings

/-! ## What the history tells -/

namespace ThroughHandles

variable {calls more : List HandleCall} {handle : Nat} {inner : MemoryCall}

theorem front (h : ThroughHandles (calls ++ more)) : ThroughHandles calls := by
  intro n hn handle hhandle
  have hn' : n < (calls ++ more).length := List.length_append ▸ Nat.lt_add_right _ hn
  have hlt := h n hn' handle (by rwa [List.getElem_append_left hn])
  rwa [List.take_append_of_le_length (Nat.le_of_lt hn)] at hlt

theorem lt_opened_front (h : ThroughHandles (calls ++ .use handle inner :: more)) :
    handle < opened calls := by
  have hn : calls.length < (calls ++ .use handle inner :: more).length := by simp
  have hlt := h calls.length hn handle (by simp [HandleCall.handle?])
  rwa [List.take_left] at hlt

theorem lt_opened (h : ThroughHandles calls) (huse : .use handle inner ∈ calls) :
    handle < opened calls := by
  obtain ⟨before, later, rfl⟩ := List.append_of_mem huse
  rw [Holdings.opened_append]
  exact Nat.lt_of_lt_of_le h.lt_opened_front (Nat.le_add_right _ _)

end ThroughHandles

theorem through_congr {same same' : Nat → Prop} {call : HandleCall}
    (hsame : ∀ handle inner, call = .use handle inner → (same handle ↔ same' handle))
    (does : MemoryCall → Prop) : call.Through same does ↔ call.Through same' does := by
  constructor
  · rintro ⟨handle, inner, huse, hhandle, hdoes⟩
    exact ⟨handle, inner, huse, (hsame handle inner huse).mp hhandle, hdoes⟩
  · rintro ⟨handle, inner, huse, hhandle, hdoes⟩
    exact ⟨handle, inner, huse, (hsame handle inner huse).mpr hhandle, hdoes⟩

theorem through_use_iff {same : Nat → Prop} {does : MemoryCall → Prop} {handle : Nat}
    {inner : MemoryCall} :
    (HandleCall.use handle inner).Through same does ↔ same handle ∧ does inner := by
  constructor
  · rintro ⟨_, _, huse, hsame, hdoes⟩
    cases huse
    exact ⟨hsame, hdoes⟩
  · rintro ⟨hsame, hdoes⟩
    exact ⟨handle, inner, rfl, hsame, hdoes⟩

namespace Holdings

variable {w : Holdings} {calls : List HandleCall} {i j id : Nat}

theorem isRegistered_answer_iff (w : Holdings) (call : HandleCall) (n : String) :
    (w.answer call).2.registry.isRegistered n = true ↔
      call = .named n ∨ ¬call = .unregister n ∧ w.registry.isRegistered n = true := by
  unfold Registry.isRegistered
  cases call with
  | create name => simp [answer, Registry.create]
  | named name =>
      by_cases hn : n = name
      · subst hn
        simp [answer, Registry.lookup_named]
      · simp [answer, Registry.lookup_named_of_ne hn, Ne.symm hn]
  | unregister name =>
      by_cases hn : n = name
      · simp [answer, Registry.lookup_unregister, hn]
      · simp [answer, Registry.lookup_unregister, hn, Ne.symm hn]
  | use handle inner =>
      rcases answer_use_cases w handle inner with hsame | ⟨id, e, -, hset⟩
      · simp [hsame]
      · simp [hset, Registry.setEntries]

/-- A name is registered if it was asked for and not dropped since. -/
theorem isRegistered_run_iff (calls : List HandleCall) (n : String) :
    (start.run calls).registry.isRegistered n = true ↔
      HoldsSince (· = .named n) (· = .unregister n) calls := by
  induction calls using List.reverseRecOn with
  | nil => exact iff_of_false nofun not_holdsSince_nil
  | append_singleton calls call ih =>
      rw [run_concat, holdsSince_concat_iff, isRegistered_answer_iff, ih]

theorem get?_memoryAnswer_iff {r : Registry} (hid : id < r.stores.length) (call : MemoryCall)
    (k : Key) (b : List UInt8) :
    (r.memoryAnswer id call).2.get? id k = some b ↔
      call.Puts k b ∨ ¬call.Settles k ∧ r.get? id k = some b := by
  unfold MemoryCall.Puts MemoryCall.Settles
  cases call with
  | entry call =>
      cases call with
      | put l c =>
          show (r.put id l c).get? id k = some b ↔ _
          rw [Registry.get?_put hid]
          by_cases hk : k = l
          · simp [hk]
          · simp [hk, Ne.symm hk]
      | get l => simp [Registry.memoryAnswer, Registry.entryAnswer]
      | remove l =>
          show (r.remove id l).2.get? id k = some b ↔ _
          rw [Registry.get?_remove hid]
          by_cases hk : k = l
          · simp [hk]
          · simp [hk, Ne.symm hk]
  | clear =>
      show (r.clear id).get? id k = some b ↔ _
      rw [Registry.get?, Registry.clear, Registry.entries_setEntries hid]
      simp [Entries.get?]
  | size => simp [Registry.memoryAnswer]

/-- What is found in a store is what was put there last through a handle of it. -/
theorem get?_run_iff (hhandles : ThroughHandles calls) {held : List Nat}
    (hheld : (start.run calls).held <+: held) (id : Nat) (k : Key) (b : List UInt8) :
    (start.run calls).registry.get? id k = some b ↔
      HoldsSince (HandleCall.Through (fun j => held[j]? = some id) (MemoryCall.Puts k b))
        (HandleCall.Through (fun j => held[j]? = some id) (MemoryCall.Settles k)) calls := by
  induction calls using List.reverseRecOn with
  | nil => exact iff_of_false nofun not_holdsSince_nil
  | append_singleton calls call ih =>
      rw [run_concat] at hheld ⊢
      have hgrows := Grows.answer (start.run calls) call
      have hheld' := hgrows.held.trans hheld
      rw [holdsSince_concat_iff, ← ih hhandles.front hheld']
      by_cases huse : ∃ j inner, call = .use j inner ∧ held[j]? = some id
      · obtain ⟨j, inner, rfl, hj⟩ := huse
        have hlength : j < (start.run calls).held.length := by
          rw [length_held_run]
          exact Nat.lt_of_lt_of_le hhandles.lt_opened_front (Nat.le_add_left _ _)
        have hnow : (start.run calls).held[j]? = some id := by
          obtain ⟨more, rfl⟩ := hheld'
          rwa [List.getElem?_append_left hlength] at hj
        have hid := (Sound.start.run calls).held id (List.mem_of_getElem? hnow)
        rw [answer_use hnow, get?_memoryAnswer_iff hid, through_use_iff, through_use_iff]
        simp only [hj, true_and]
      · have hentries : ((start.run calls).answer call).2.registry.entries id =
            (start.run calls).registry.entries id := by
          apply entries_answer
          intro j inner hcall hnow
          refine huse ⟨j, inner, hcall, ?_⟩
          obtain ⟨more, rfl⟩ := hheld'
          rw [List.getElem?_append_left (lt_length_of_getElem? hnow), hnow]
        have hnone (does : MemoryCall → Prop) :
            ¬HandleCall.Through (fun j => held[j]? = some id) does call := by
          rintro ⟨j, inner, hcall, hj, -⟩
          exact huse ⟨j, inner, hcall, hj⟩
        simp only [Registry.get?, hentries, hnone, not_false_eq_true, false_or, true_and]

theorem length_held_start (calls : List HandleCall) :
    (start.run calls).held.length = opened calls := by
  rw [length_held_run]
  exact Nat.zero_add _

/-- The handle that a call in the history obtained. -/
theorem getElem?_held_opened (before : List HandleCall) (call : HandleCall) {new : Nat}
    (hnew : ((start.run before).answer call).2.held = (start.run before).held ++ [new])
    (later : List HandleCall) :
    (start.run (before ++ call :: later)).held[opened before]? = some new := by
  have hlength : opened before < ((start.run before).answer call).2.held.length := by
    rw [hnew, List.length_append, length_held_start]
    exact Nat.lt_succ_self _
  rw [run_append, run_cons, (Grows.run _ later).getElem?_held hlength, hnew, ← length_held_start,
    List.getElem?_concat_length]

/-- Two handles obtained by name act alike if the name is the same and was not dropped. -/
theorem actAlike_named_iff (before middle later : List HandleCall) (n m : String) :
    (start.run (before ++ .named n :: (middle ++ .named m :: later))).ActAlike (opened before)
        (opened (before ++ .named n :: middle)) ↔
      n = m ∧ (.unregister n, .removed true) ∉
        middle.zip (interview answer (start.run (before ++ [.named n])) middle).1 := by
  have hsound := Sound.start.run before
  have hlookup := Registry.lookup_named (start.run before).registry n
  have hfirst := getElem?_held_opened before (.named n) rfl (middle ++ .named m :: later)
  have hsecond := getElem?_held_opened (before ++ .named n :: middle) (.named m) rfl later
  rw [List.append_assoc, List.cons_append] at hsecond
  rw [actAlike_iff (Sound.start.run _) (lt_length_of_getElem? hfirst)
    (lt_length_of_getElem? hsecond), hfirst, hsecond, Option.some_inj, run_append, run_cons,
    named_eq_iff hsound, run_concat]
  exact and_congr_right fun _ => not_congr (mem_zip_unregister_iff hlookup).symm

/-- A handle of a store of its own acts like no other. -/
theorem not_actAlike_create (before later : List HandleCall) (name : String)
    (hi : i < opened (before ++ .create name :: later)) (hne : i ≠ opened before) :
    ¬(start.run (before ++ .create name :: later)).ActAlike (opened before) i := by
  have hnew := getElem?_held_opened before (.create name) rfl later
  have hlength := length_held_start (before ++ .create name :: later)
  rw [actAlike_iff (Sound.start.run _) (lt_length_of_getElem? hnew) (hlength ▸ hi), hnew]
  have hsound := Sound.start.run before
  have hretired : Registry.Retired (start.run before).registry.stores.length
      ((start.run before).answer (.create name)).2.registry :=
    .of_create hsound.names name
  have hthere : ((start.run before).answer (.create name)).2.held.length = opened before + 1 := by
    rw [← length_held_start]
    exact List.length_append
  rw [run_append, run_cons]
  intro hheld
  rcases Nat.lt_or_gt_of_ne hne with hold | hlater
  · rw [(Grows.run _ later).getElem?_held (by omega)] at hheld
    have hbefore : i < (start.run before).held.length := (length_held_start before).symm ▸ hold
    rw [(Grows.answer _ _).getElem?_held hbefore] at hheld
    exact Nat.lt_irrefl _ (hsound.held _ (List.mem_of_getElem? hheld.symm))
  · exact getElem?_held_run_ne hretired later (by omega) hheld.symm

/-- For the handles that were obtained, to act alike is to be handles of one store. -/
theorem through_actAlike_iff (hhandles : ThroughHandles calls) (hi : i < opened calls)
    (hheld : (start.run calls).held[i]? = some id) {call : HandleCall} (hcall : call ∈ calls)
    (does : MemoryCall → Prop) :
    call.Through ((start.run calls).ActAlike i) does ↔
      call.Through (fun j => (start.run calls).held[j]? = some id) does := by
  apply through_congr
  rintro j inner rfl
  have hj := hhandles.lt_opened hcall
  rw [← length_held_start] at hi hj
  rw [actAlike_iff (Sound.start.run calls) hi hj, hheld, eq_comm]

/-- What is found through a handle is what was put last through any that acts alike. -/
theorem get_answer (hhandles : ThroughHandles calls) (hi : i < opened calls) (k : Key) :
    ∃ found, ((start.run calls).answer (.use i (.entry (.get k)))).1 = .found found ∧
      ∀ b, found = some b ↔
        HoldsSince (HandleCall.Through ((start.run calls).ActAlike i) (MemoryCall.Puts k b))
          (HandleCall.Through ((start.run calls).ActAlike i) (MemoryCall.Settles k)) calls := by
  obtain ⟨id, hheld⟩ : ∃ id, (start.run calls).held[i]? = some id :=
    ⟨_, List.getElem?_eq_getElem ((length_held_start calls).symm ▸ hi)⟩
  refine ⟨(start.run calls).registry.get? id k, ?_, fun b => ?_⟩
  · rw [answer_use hheld]
    rfl
  · rw [get?_run_iff hhandles List.prefix_rfl id k b]
    exact (holdsSince_congr (fun call hcall => through_actAlike_iff hhandles hi hheld hcall _)
      fun call hcall => through_actAlike_iff hhandles hi hheld hcall _).symm

end Holdings

/-- Take any sequence of calls by which stores in memory are made, asked for by name, dropped and
used, each through handles obtained before.  Two handles obtained by name act alike if the name is
the same and no call in between dropped it, and only then; a handle of a new store acts like no
other.  To drop a name says whether it was asked for and not dropped since.  What is found through
a handle is what was put there through any handle that acts alike and neither replaced, removed
nor cleared since.  No further call changes what is answered through a handle, unless it is a call
through one that acts alike. -/
theorem named_stores_shared {calls : List HandleCall} (hhandles : ThroughHandles calls) :
    (∀ before n middle m later,
      calls = before ++ .named n :: (middle ++ .named m :: later) →
      ((Holdings.start.run calls).ActAlike (opened before)
          (opened (before ++ .named n :: middle)) ↔
        n = m ∧ (.unregister n, .removed true) ∉ middle.zip
          (interview Holdings.answer (Holdings.start.run (before ++ [.named n])) middle).1)) ∧
    (∀ before name later i, calls = before ++ .create name :: later → i < opened calls →
      i ≠ opened before → ¬(Holdings.start.run calls).ActAlike (opened before) i) ∧
    (∀ name, ∃ registered,
      ((Holdings.start.run calls).answer (.unregister name)).1 = .removed registered ∧
      (registered = true ↔ HoldsSince (· = .named name) (· = .unregister name) calls)) ∧
    (∀ i k, i < opened calls → ∃ found,
      ((Holdings.start.run calls).answer (.use i (.entry (.get k)))).1 = .found found ∧
      ∀ b, found = some b ↔
        HoldsSince
          (HandleCall.Through ((Holdings.start.run calls).ActAlike i) (MemoryCall.Puts k b))
          (HandleCall.Through ((Holdings.start.run calls).ActAlike i) (MemoryCall.Settles k))
          calls) ∧
    (∀ call i asked, i < opened calls →
      (∀ j inner, call = .use j inner → ¬(Holdings.start.run calls).ActAlike i j) →
      (((Holdings.start.run calls).answer call).2.answer (.use i asked)).1 =
        ((Holdings.start.run calls).answer (.use i asked)).1) := by
  refine ⟨?_, ?_, fun name => ?_, fun i k hi => Holdings.get_answer hhandles hi k, ?_⟩
  · rintro before n middle m later rfl
    exact Holdings.actAlike_named_iff before middle later n m
  · rintro before name later i rfl hi hne
    exact Holdings.not_actAlike_create before later name hi hne
  · exact ⟨_, rfl, Holdings.isRegistered_run_iff calls name⟩
  · intro call i asked hi hcall
    exact Holdings.answer_use_of_not_actAlike (Holdings.Sound.start.run calls)
      ((Holdings.length_held_start calls).symm ▸ hi) hcall asked

/-! ## A name that is dropped -/

def sumsKey : Key := ⟨Vector.replicate 32 7⟩

/-- The first and the third handle were obtained before the name was dropped, the last one after
that, and the second one is of a store of its own. -/
def droppedCalls : List HandleCall :=
  [.named "sums", .create "sums", .use 0 (.entry (.put sumsKey [1])), .named "sums",
    .use 1 (.entry (.put sumsKey [2])), .unregister "sums", .named "sums",
    .use 2 (.entry (.put sumsKey [])), .use 3 (.entry (.put sumsKey [4]))]

theorem droppedCalls_shared :
    ThroughHandles droppedCalls ∧
    (Holdings.start.run droppedCalls).ActAlike 0 2 ∧
    ¬(Holdings.start.run droppedCalls).ActAlike 0 3 ∧
    ¬(Holdings.start.run droppedCalls).ActAlike 1 0 ∧
    ((Holdings.start.run droppedCalls).answer (.unregister "sums")).1 = .removed true ∧
    ((Holdings.start.run droppedCalls).answer (.use 0 (.entry (.get sumsKey)))).1 =
      .found (some []) ∧
    ∀ call, (((Holdings.start.run droppedCalls).answer (.use 3 .clear)).2.answer
      (.use 0 call)).1 = ((Holdings.start.run droppedCalls).answer (.use 0 call)).1 := by
  have hhandles : ThroughHandles droppedCalls := by decide
  obtain ⟨hnamed, hcreate, hunregister, hget, hframe⟩ := named_stores_shared hhandles
  have hsplit : droppedCalls = [] ++ .named "sums" ::
      ([.create "sums", .use 0 (.entry (.put sumsKey [1]))] ++ .named "sums" ::
        droppedCalls.drop 4) := rfl
  have hdropped : droppedCalls = [] ++ .named "sums" ::
      ([.create "sums", .use 0 (.entry (.put sumsKey [1])), .named "sums",
        .use 1 (.entry (.put sumsKey [2])), .unregister "sums"] ++ .named "sums" ::
        droppedCalls.drop 7) := rfl
  have hfresh : ¬(Holdings.start.run droppedCalls).ActAlike 0 3 := by
    intro halike
    exact ((hnamed _ _ _ _ _ hdropped).mp halike).2 (by decide)
  obtain ⟨registered, hanswer, hregistered⟩ := hunregister "sums"
  obtain ⟨found, hfound, hlast⟩ := hget 0 sumsKey (by decide)
  refine ⟨hhandles, (hnamed _ _ _ _ _ hsplit).mpr ⟨rfl, by decide⟩, hfresh,
    hcreate [.named "sums"] "sums" (droppedCalls.drop 2) 0 rfl (by decide) (by decide), ?_, ?_, ?_⟩
  · rw [hanswer, hregistered.mpr]
    refine ⟨droppedCalls.take 6, .named "sums", droppedCalls.drop 7, rfl, rfl, ?_⟩
    decide
  · rw [hfound, (hlast []).mpr]
    refine ⟨droppedCalls.take 7, .use 2 (.entry (.put sumsKey [])), droppedCalls.drop 8, rfl,
      ⟨2, _, rfl, (hnamed _ _ _ _ _ hsplit).mpr ⟨rfl, by decide⟩, rfl⟩, ?_⟩
    rintro call hcall ⟨j, inner, rfl, halike, -⟩
    cases List.mem_singleton.mp hcall
    exact hfresh halike
  · intro call
    refine hframe (.use 3 .clear) 0 call (by decide) ?_
    rintro j inner huse
    cases huse
    exact hfresh

end QueryReplay
