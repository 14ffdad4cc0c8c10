import LimboSim.Model
import Mathlib.Data.String.Basic
/-! # `Interaction::execute_query` and the checks (plan.rs:509-614)

The engine under test is not in the source. Its side of a query is an `Engine`: what
`Connection::query` returns, then what each call of `step()` reports.

| here | there |
|---|---|
| `StepOutcome` | a `StepResult` (`Row`, `IO`, `Busy`, `Interrupt`, `Done`), or the error of `step()` |
| `Engine` | `conn.query(&query_str)`, then the `step()` results |
| `Outcome` | how the call ends: it returns, it panics, or it still waits on `step()` |
| `collectRows` | the `while let Ok(row) = rows.step()` loop (plan.rs:526-545) |
| `executeQuery` | `Interaction::execute_query` (plan.rs:509-552) |
| `executeAssertion`, `executeAssumption` | plan.rs:554-614 |

The loop stops at the first error of `step()` as it stops at `Done`, and returns `Ok` with the
rows so far (`collectRows_error`): an error the engine reports while stepping is dropped, and
`execute_query` returns `Err` only with the error of `conn.query` (`executeQuery_error`).
`executeQuery_prepared` says how the loop ends for every run of steps. The `tracing::debug!` of a
failed `conn.query` slices the SQL text at byte 4096, which panics when that byte is inside a
character (`executeQuery_panic_and_dropped_error`), and so never on SQL of one-byte characters
(`executeQuery_ascii`).
-/

namespace LimboSim

/-- What one call of `step()` reports. For `IO` it carries what `io.run_once()` then returns. -/
inductive StepOutcome
  | row (values : List SimValue)
  | io (runOnce : Except LimboError Unit)
  | busy
  | interrupt
  | done
  | error (e : LimboError)

/-- The engine's side of a query: the result of `conn.query` (`Ok(None)` when it prepared no
statement), then what the calls of `step()` report. -/
structure Engine where
  prepare : Except LimboError (Option Unit)
  steps : List StepOutcome

/-- How a call ends: `pending` when the steps given ran out and the loop would call `step()`
again. -/
inductive Outcome (α : Type)
  | returns (r : α)
  | panics
  | pending

/-- `str::is_char_boundary(i)` on the UTF-8 encoding of `cs`. -/
def isCharBoundary : List Char → Nat → Bool
  | _, 0 => true
  | [], _ + 1 => false
  | c :: cs, i + 1 => c.utf8Size ≤ i + 1 && isCharBoundary cs (i + 1 - c.utf8Size)

/-- `while let Ok(row) = rows.step()` (plan.rs:526-545), `out` the rows so far. -/
def collectRows : List StepOutcome → List (List SimValue) → Outcome ResultSet
  | [], _ => .pending
  | .row values :: rest, out => collectRows rest (out ++ [values])
  | .io (.ok ()) :: rest, out => collectRows rest out
  | .io (.error _) :: _, _ => .panics
  | .busy :: rest, out => collectRows rest out
  | .interrupt :: rest, out => collectRows rest out
  | .done :: _, out => .returns (.ok out)
  | .error _ :: _, out => .returns (.ok out)

/-- `Interaction::execute_query` (plan.rs:509-552). `debug` is whether the `tracing::debug!` of
plan.rs:515-519 is enabled, and so formats `&query_str[0..query_str.len().min(4096)]`. -/
def executeQuery (m : Methods) (debug : Bool) (eng : Engine) : Interaction → Outcome ResultSet
  | .query q =>
    match eng.prepare with
    | .error e =>
      if debug && !isCharBoundary (m.sql q).data (min (m.sql q).utf8ByteSize 4096) then .panics
      else .returns (.error e)
    | .ok none => .panics
    | .ok (some ()) => collectRows eng.steps []
  | _ => .panics

/-- The check of an assertion or an assumption (plan.rs:564-574, :598-608). `showError` is
`Display for LimboError`, which is not in the source. -/
def checkAssertion (showError : LimboError → String) (a : Assertion) (stack : List ResultSet)
    (env : SimulatorEnv) : Except LimboError Unit :=
  match a.func stack env with
  | .ok true => .ok ()
  | .ok false => .error (.internalError a.message)
  | .error err => .error (.internalError (a.message ++ ". Inner error: " ++ showError err))

/-- `Interaction::execute_assertion` (plan.rs:554-583); `none` is the `unreachable!`. -/
def executeAssertion (showError : LimboError → String) (stack : List ResultSet) (env : SimulatorEnv) :
    Interaction → Option (Except LimboError Unit)
  | .assertion a => some (checkAssertion showError a stack env)
  | _ => none

/-- `Interaction::execute_assumption` (plan.rs:585-614); `none` is the `unreachable!`. -/
def executeAssumption (showError : LimboError → String) (stack : List ResultSet) (env : SimulatorEnv) :
    Interaction → Option (Except LimboError Unit)
  | .assumption a => some (checkAssertion showError a stack env)
  | _ => none

/-! ## The row loop -/

/-- The rows that `Row` steps carry, in order. -/
def rowsOf (steps : List StepOutcome) : List (List SimValue) :=
  steps.filterMap fun | .row values => some values | _ => none

/-- A step after which the loop goes on: a row, a successful I/O pump, `Busy` or `Interrupt`. -/
def StepOutcome.continues : StepOutcome → Bool
  | .row _ | .io (.ok ()) | .busy | .interrupt => true
  | _ => false

theorem collectRows_append {pre : List StepOutcome} (h : ∀ s ∈ pre, s.continues = true)
    (rest : List StepOutcome) (out : List (List SimValue)) :
    collectRows (pre ++ rest) out = collectRows rest (out ++ rowsOf pre) := by
  induction pre generalizing out with
  | nil => simp [rowsOf]
  | cons s pre ih =>
    have ih' := ih fun s' hs' => h s' (List.mem_cons_of_mem _ hs')
    match s, h s (List.mem_cons_self _ _) with
    | .row v, _ => simp [collectRows, ih', rowsOf]
    | .io (.ok ()), _ => simp [collectRows, ih', rowsOf]
    | .busy, _ => simp [collectRows, ih', rowsOf]
    | .interrupt, _ => simp [collectRows, ih', rowsOf]

/-- **Rows up to `Done`.** The loop returns the values of the `Row` steps before `Done`, in
order. -/
theorem collectRows_done {pre : List StepOutcome} (h : ∀ s ∈ pre, s.continues = true)
    (post : List StepOutcome) : collectRows (pre ++ .done :: post) [] = .returns (.ok (rowsOf pre)) := by
  rw [collectRows_append h]
  rfl

/-- **An error of `step()` is dropped.** The loop returns `Ok` with the rows before it. -/
theorem collectRows_error {pre : List StepOutcome} (h : ∀ s ∈ pre, s.continues = true)
    (e : LimboError) (post : List StepOutcome) :
    collectRows (pre ++ .error e :: post) [] = .returns (.ok (rowsOf pre)) := by
  rw [collectRows_append h]
  rfl

/-- The loop never returns `Err`. -/
theorem collectRows_ne_error (steps : List StepOutcome) (out : List (List SimValue)) (e : LimboError) :
    collectRows steps out ≠ .returns (.error e) := by
  induction steps generalizing out with
  | nil => simp [collectRows]
  | cons s steps ih =>
    match s with
    | .row _ | .io (.ok ()) | .busy | .interrupt => exact ih _
    | .io (.error _) | .done | .error _ => simp [collectRows]

/-- Either every step lets the loop go on, or there is a first step that stops it. -/
theorem continues_or_stop : ∀ steps : List StepOutcome,
    (∀ s ∈ steps, s.continues = true) ∨
      ∃ pre s post, steps = pre ++ s :: post ∧ (∀ t ∈ pre, t.continues = true) ∧ s.continues = false
  | [] => .inl fun _ h => nomatch h
  | s :: steps => by
    cases hs : s.continues
    · exact .inr ⟨[], s, steps, rfl, fun _ h => (nomatch h), hs⟩
    · rcases continues_or_stop steps with h | ⟨pre, s', post, rfl, hpre, hs'⟩
      · exact .inl fun t ht => (List.mem_cons.1 ht).elim (· ▸ hs) (h t)
      · exact .inr ⟨s :: pre, s', post, rfl, fun t ht => (List.mem_cons.1 ht).elim (· ▸ hs) (hpre t), hs'⟩

/-- **How the row loop ends.** On a prepared statement, `execute_query` waits on `step()` while
every step so far is a row, a successful I/O pump, `Busy` or `Interrupt`. At the first other step
it returns `Ok` with the values of the rows before it when that step is `Done` or an error of
`step()`, and panics when it is an I/O pump whose `run_once` fails; the steps after it are never
read. -/
theorem executeQuery_prepared (m : Methods) (debug : Bool) (q : Query) (steps : List StepOutcome) :
    ((∀ s ∈ steps, s.continues = true) ∧
        executeQuery m debug ⟨.ok (some ()), steps⟩ (.query q) = .pending) ∨
      ∃ pre s post, steps = pre ++ s :: post ∧ (∀ t ∈ pre, t.continues = true) ∧
        ((s = .done ∨ ∃ e, s = .error e) ∧
            executeQuery m debug ⟨.ok (some ()), steps⟩ (.query q) = .returns (.ok (rowsOf pre)) ∨
          (∃ e, s = .io (.error e)) ∧ executeQuery m debug ⟨.ok (some ()), steps⟩ (.query q) = .panics) := by
  rcases continues_or_stop steps with hall | ⟨pre, s, post, rfl, hpre, hs⟩
  · exact .inl ⟨hall, by simpa using collectRows_append hall [] []⟩
  · refine .inr ⟨pre, s, post, rfl, hpre, ?_⟩
    simp only [executeQuery, collectRows_append hpre, List.nil_append]
    match s, hs with
    | .io (.error e), _ => exact .inr ⟨⟨e, rfl⟩, rfl⟩
    | .done, _ => exact .inl ⟨.inl rfl, rfl⟩
    | .error e, _ => exact .inl ⟨.inr ⟨e, rfl⟩, rfl⟩

/-- `execute_query` returns `Err` only with the error of `conn.query`: an error of `step()` is
never returned, whatever the engine does. -/
theorem executeQuery_error {m : Methods} {debug : Bool} {eng : Engine} {y : Interaction}
    {e : LimboError} (h : executeQuery m debug eng y = .returns (.error e)) : eng.prepare = .error e := by
  match y, hp : eng.prepare with
  | .query q, .error e' =>
    simp only [executeQuery, hp] at h
    split at h <;> simp_all
  | .query q, .ok none => simp [executeQuery, hp] at h
  | .query q, .ok (some ()) => exact absurd (by simpa [executeQuery, hp] using h) (collectRows_ne_error _ _ e)
  | .assumption _, _ | .assertion _, _ | .fault _, _ => simp [executeQuery] at h

theorem executeQuery_error_unprepared :
    executeQuery ⟨fun _ => "DROP TABLE t", fun _ => []⟩ false
        ⟨.error (.engine "no such table"), [.error (.engine "busy")]⟩ (.query (.drop ⟨"t"⟩)) =
      .returns (.error (.engine "no such table")) ∧
      (⟨.error (.engine "no such table"), [.error (.engine "busy")]⟩ : Engine).prepare =
        .error (.engine "no such table") :=
  have h : executeQuery ⟨fun _ => "DROP TABLE t", fun _ => []⟩ false
      ⟨.error (.engine "no such table"), [.error (.engine "busy")]⟩ (.query (.drop ⟨"t"⟩)) =
      .returns (.error (.engine "no such table")) := rfl
  ⟨h, executeQuery_error h⟩

/-! ## The debug slice -/

theorem isCharBoundary_replicate (n i : Nat) (cs : List Char) :
    isCharBoundary (List.replicate n 'a' ++ cs) (n + i) = isCharBoundary cs i := by
  induction n with
  | zero => simp
  | succ n ih =>
    have ha : 'a'.utf8Size = 1 := rfl
    rw [show n + 1 + i = n + i + 1 by omega, List.replicate_succ, List.cons_append, isCharBoundary]
    simpa [ha] using ih

theorem utf8Len_replicate (n : Nat) : String.utf8Len (List.replicate n 'a') = n := by
  induction n with
  | zero => rfl
  | succ n ih => simp [List.replicate_succ, ih]; rfl

/-- On a query that the engine fails to prepare, `execute_query` with the debug log panics when
byte 4096 of its SQL is inside a character: here 4095 `a` then `é`. An error of `step()` after
a row is dropped, and the row returned. -/
theorem executeQuery_panic_and_dropped_error (q : Query) (e : LimboError) (m : Methods) (debug : Bool) :
    executeQuery ⟨fun _ => ⟨List.replicate 4095 'a' ++ ['é']⟩, fun _ => []⟩ true ⟨.error e, []⟩ (.query q) =
        .panics ∧
      executeQuery m debug ⟨.ok (some ()), [.row [.integer 1], .error e]⟩ (.query q) =
        .returns (.ok [[.integer 1]]) := by
  refine ⟨?_, rfl⟩
  have hlen : min (String.utf8ByteSize ⟨List.replicate 4095 'a' ++ ['é']⟩) 4096 = 4095 + 1 := by
    rw [String.utf8ByteSize_mk, String.utf8Len_append, utf8Len_replicate]; rfl
  have hb : isCharBoundary (List.replicate 4095 'a' ++ ['é']) (4095 + 1) = false := by
    rw [isCharBoundary_replicate]; rfl
  simp only [executeQuery, hlen, hb]
  rfl

/-- Every byte position of a text of one-byte characters is a character boundary. -/
theorem isCharBoundary_ascii : ∀ {cs : List Char}, (∀ c ∈ cs, c.utf8Size = 1) →
    ∀ i ≤ cs.length, isCharBoundary cs i = true
  | _, _, 0, _ => by cases ‹List Char› <;> rfl
  | [], _, _ + 1, h => absurd h (by simp)
  | c :: cs, hc, i + 1, h => by
    simp only [isCharBoundary, hc c (List.mem_cons_self _ _), Nat.add_sub_cancel, Bool.and_eq_true,
      decide_eq_true_eq]
    exact ⟨by omega, isCharBoundary_ascii (fun c' h' => hc c' (List.mem_cons_of_mem _ h')) i
      (by simpa using h)⟩

theorem utf8Len_ascii : ∀ {cs : List Char}, (∀ c ∈ cs, c.utf8Size = 1) → String.utf8Len cs = cs.length
  | [], _ => rfl
  | c :: cs, hc => by
    rw [String.utf8Len_cons, utf8Len_ascii fun c' h' => hc c' (List.mem_cons_of_mem _ h'),
      hc c (List.mem_cons_self _ _), List.length_cons]

/-- **The debug slice panics only on multi-byte characters.** When every character of a query's
SQL is one byte, `execute_query` on a statement the engine fails to prepare returns its error,
the debug log on or off. -/
theorem executeQuery_ascii (m : Methods) (debug : Bool) (q : Query) (e : LimboError)
    (steps : List StepOutcome) (hascii : ∀ c ∈ (m.sql q).data, c.utf8Size = 1) :
    executeQuery m debug ⟨.error e, steps⟩ (.query q) = .returns (.error e) := by
  have hlen : min (m.sql q).utf8ByteSize 4096 ≤ (m.sql q).data.length := by
    have hsize : ∀ s : String, s.utf8ByteSize = String.utf8Len s.data := fun ⟨cs⟩ => String.utf8ByteSize_mk cs
    rw [hsize, utf8Len_ascii hascii]; exact min_le_left _ _
  simp [executeQuery, isCharBoundary_ascii hascii _ hlen]

/-- A `SELECT` of a 5000-character literal: 5009 one-byte characters, so the debug slice cuts it
at byte 4096. -/
def longSelect : String := "SELECT '" ++ ⟨List.replicate 5000 'a'⟩ ++ "'"

theorem executeQuery_ascii_select :
    (∀ c ∈ longSelect.data, c.utf8Size = 1) ∧ 4096 < longSelect.utf8ByteSize ∧
      executeQuery ⟨fun _ => longSelect, fun _ => []⟩ true ⟨.error (.engine "no such table"), []⟩
        (.query (.drop ⟨"t"⟩)) = .returns (.error (.engine "no such table")) :=
  have h1 : ∀ c ∈ "SELECT '".data, c.utf8Size = 1 := by decide
  have h2 : ∀ c ∈ "'".data, c.utf8Size = 1 := by decide
  have hascii : ∀ c ∈ longSelect.data, c.utf8Size = 1 := fun c hc => by
    simp only [longSelect, String.data_append, List.mem_append] at hc
    rcases hc with (hc | hc) | hc
    exacts [h1 c hc, by rw [List.eq_of_mem_replicate hc]; rfl, h2 c hc]
  have hlen : 4096 < longSelect.utf8ByteSize := by
    have hsize : longSelect.utf8ByteSize = String.utf8Len longSelect.data := String.utf8ByteSize_mk _
    rw [hsize, utf8Len_ascii hascii]
    simp only [longSelect, String.data_append, List.length_append, List.length_replicate]
    decide
  ⟨hascii, hlen, executeQuery_ascii ⟨fun _ => longSelect, fun _ => []⟩ true (.drop ⟨"t"⟩) _ [] hascii⟩

/-! ## Assertions and assumptions -/

/-- A failed check is an `InternalError` that starts with the assertion's message. -/
theorem checkAssertion_error {showError : LimboError → String} {a : Assertion} {stack : List ResultSet}
    {env : SimulatorEnv} {e : LimboError} (h : checkAssertion showError a stack env = .error e) :
    ∃ msg, e = .internalError msg ∧ a.message.data <+: msg.data := by
  unfold checkAssertion at h
  split at h
  · cases h
  · cases h; exact ⟨_, rfl, List.prefix_refl _⟩
  · cases h; exact ⟨_, rfl, by simp [String.data_append, List.append_assoc]⟩

/-- A check passes exactly when the assertion's function returns `Ok(true)`. -/
theorem checkAssertion_ok {showError : LimboError → String} {a : Assertion} {stack : List ResultSet}
    {env : SimulatorEnv} : checkAssertion showError a stack env = .ok () ↔ a.func stack env = .ok true := by
  unfold checkAssertion
  split <;> simp_all

end LimboSim
