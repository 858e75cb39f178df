/-
The report of `run_full_regression`: its rows and the exit status.

# Rows

With the simulator built, the logs directory made and every log write
succeeding, the loop completes whatever else raises, and the CSV receives one
row per test case, in order (`runFullRegression_rows_per_test`). An exception
out of the `try` block gives a `FAIL` row carrying the exception's text,
whichever of its steps raised, a removal of a stale file included; which one
raises is read off the directories the iteration starts with (`iterationDirs`).
Not every exception reaches that handler: `get_entry_point` and
`generate_spike_log` catch their own, and `run_uvm` turns one from launching
the simulator into `EXEC_FAIL` (`runFullRegression_launch_error_not_fail`).

# A passing test case

One test case whose first simulator run exits 0 and whose output has no marker
line in the reference's sense — a summary such as `UVM_ERROR :    0` is none —
gives the single row `(target, PASS, None, logs/<log>)` and exit status 0,
whatever Spike does (`runFullRegression_single_pass`).

# Reasons

`run_uvm` sanitizes the reasons it classifies, but the `Copy/Setup failed` and
`EXEC_FAIL` reasons carry an exception's text as it is. So the CSV's reasons are
free of `,` and `\n` exactly as far as the exception texts are
(`runFullRegression_reasons_csvSafe`).

# The exit status

`if status == "FAIL": sys.exit(1)` reads the local `status` after the loop:
the last row's status, or unbound when there was no row. So the run exits 1
exactly when its last row is `FAIL` or it has none, and otherwise ends normally
(`runFullRegression_exit_last_row`) — not when some row is `FAIL`
(`runFullRegression_exit_ignores_earlier_fail`).
-/
import UvmRegression.Proofs.Loop

namespace UvmRegression

variable {env : Env} {w : World} {tests : List (Str × Str)}

-- ================================================================== rows

/-- Every test case gets one row, in order, and a `try` block that raises gives
a `FAIL` row carrying the exception's text. -/
theorem runFullRegression_rows_per_test (hb : w.simulatorBuilt = true) (hm : w.makedirs = none)
    (hlog : ∀ j < tests.length, (w.outcome j).writeLog = none) :
    ((w.writeCsv = none → (runFullRegression env w tests).csv
        = some (runFullRegression env w tests).state.results)
      ∧ (runFullRegression env w tests).state.results.map Row.target = tests.map Prod.fst)
      ∧ ∀ j target srcElf src err, tests[j]? = some (target, srcElf)
        → sourceArtifact env srcElf = some src
        → SetupRaises env (w.outcome j) target src (iterationDirs env w tests j).temp err
        → (runFullRegression env w tests).state.results[j]?
          = some ⟨target, .fail, "Copy/Setup failed: ".toList ++ err,
              pathJoin "logs".toList (logFilename target)⟩ := by
  have hc : (runTests env w.outcome 0 tests (.init w.dirs)).2 = none :=
    runTests_complete 0 tests _ (by simpa using hlog)
  obtain ⟨rows, logs, hres, -, htgt, -, hrow⟩ := runTests_rows 0 tests (.init w.dirs) hc
  rw [runFullRegression_state hb hm, hres]
  refine ⟨⟨fun hcsv => ?_, by simpa [RegState.init] using htgt⟩, ?_⟩
  · rw [runFullRegression_eq hb hm]
    rcases hr : runTests env w.outcome 0 tests (.init w.dirs) with ⟨s, x⟩
    rw [hr] at hc hres
    cases hc
    simp only [finishRegression, hcsv]
    split <;> simp_all
  · intro j target srcElf src err hj hsrc hraise
    have hd := (hrow j _ hj).1
    obtain ⟨hst, hreason, -⟩ := testVerdict_setup_error (i := j) (d := iterationDirs env w tests j)
      hsrc (trySetup_error_iff.2 hraise)
    simp only [Nat.zero_add, iterationDirs] at hd hst hreason
    rw [hst, hreason] at hd
    simpa [RegState.init] using hd

/-- `runFullRegression_rows_per_test` on a run whose temporary directory holds
a stale copy that cannot be removed. -/
theorem runFullRegression_rows_per_test_stale_copy :
    let env : Env := ⟨"spike".toList, "/tmp/tmpk2j3".toList,
      fun n => if n = "b.elf".toList then some ⟨[], 420⟩ else none, 420, "/work".toList,
      fun _ => none⟩
    let w : World := ⟨true, none,
      ⟨fun n => if n = "a_b.elf".toList then some ⟨[], 256⟩ else none, fun _ => none⟩,
      fun _ => { Outcome.quiet with removeElf := some "denied".toList }, none, none⟩
    let tests := [("//a:b".toList, "b.elf".toList)]
    (w.simulatorBuilt = true ∧ w.makedirs = none ∧ ∀ j < tests.length, (w.outcome j).writeLog = none)
      ∧ SetupRaises env (w.outcome 0) "//a:b".toList ⟨[], 420⟩ (iterationDirs env w tests 0).temp
          "denied".toList
      ∧ ((w.writeCsv = none → (runFullRegression env w tests).csv
          = some (runFullRegression env w tests).state.results)
        ∧ (runFullRegression env w tests).state.results.map Row.target = tests.map Prod.fst)
      ∧ ∀ j target srcElf src err, tests[j]? = some (target, srcElf)
        → sourceArtifact env srcElf = some src
        → SetupRaises env (w.outcome j) target src (iterationDirs env w tests j).temp err
        → (runFullRegression env w tests).state.results[j]?
          = some ⟨target, .fail, "Copy/Setup failed: ".toList ++ err,
              pathJoin "logs".toList (logFilename target)⟩ :=
  ⟨⟨rfl, rfl, fun _ _ => rfl⟩, .inl ⟨rfl, rfl⟩,
    runFullRegression_rows_per_test rfl rfl fun _ _ => rfl⟩

/-- An exception launching the simulator gives an `EXEC_FAIL` row, not
`FAIL`. -/
theorem runFullRegression_launch_error_not_fail :
    (runFullRegression ⟨"spike".toList, "/tmp/tmpk2j3".toList,
        fun n => if n = "b.elf".toList then some ⟨[], 420⟩ else none, 420, "/work".toList,
        fun _ => none⟩
        ⟨true, none, ⟨fun _ => none, fun _ => none⟩,
          fun _ => { Outcome.quiet with sim := fun _ => .raised "boom".toList }, none, none⟩
        [("//a:b".toList, "b.elf".toList)]).csv
      = some [⟨"//a:b".toList, .execFail, "boom".toList, "logs/a_b.log".toList⟩] := by
  decide

/-- An exception text with a comma reaches the report's Reason as it is: here
`shutil.copy2` runs out of space under a `TMPDIR` whose name holds a comma, and
its text names the artifact and the copy. -/
theorem runFullRegression_copy_error_comma :
    (runFullRegression ⟨"spike".toList, "/scratch/job,42/tmpk2j3".toList,
        fun n => if n = "b.elf".toList then some ⟨[], 420⟩ else none, 420, "/work".toList,
        fun _ => none⟩
        ⟨true, none, ⟨fun _ => none, fun _ => none⟩,
          fun _ => { Outcome.quiet with copyElf := some ("[Errno 28] No space left on device: ".toList
            ++ "'b.elf' -> '/scratch/job,42/tmpk2j3/a_b.elf'".toList) }, none, none⟩
        [("//a:b".toList, "b.elf".toList)]).csv
      = some [⟨"//a:b".toList, .fail, "Copy/Setup failed: [Errno 28] No space left on device: ".toList
          ++ "'b.elf' -> '/scratch/job,42/tmpk2j3/a_b.elf'".toList, "logs/a_b.log".toList⟩]
      ∧ ',' ∈ "'b.elf' -> '/scratch/job,42/tmpk2j3/a_b.elf'".toList := by
  decide

-- ================================================= a passing test case

/-- One test case whose artifact exists, whose file operations do not raise and
whose first simulator run exits 0 with no marker line in its output: the report
is the single row `(target, PASS, None, logs/<log>)` and the run exits 0,
whatever Spike does and whether or not the target has a custom timeout or is on
`SPIKE_DENYLIST`. -/
theorem runFullRegression_single_pass {target srcElf stdout stderr : Str} {src : File}
    (hb : w.simulatorBuilt = true) (hm : w.makedirs = none) (hcsv : w.writeCsv = none)
    (harch : w.archive = none) (hsrc : sourceArtifact env srcElf = some src)
    (hq : (w.outcome 0).SetupQuiet) (hlog : (w.outcome 0).writeLog = none)
    (hsim : (w.outcome 0).sim 1 = .completed 0 stdout stderr)
    (hmark : (split (stdout ++ stderr) '\n').find? isMarkerLine = none) :
    (runFullRegression env w [(target, srcElf)]).csv
        = some [⟨target, .pass, "None".toList, pathJoin "logs".toList (logFilename target)⟩]
      ∧ (runFullRegression env w [(target, srcElf)]).exit = .normal := by
  have hpass : classify 0 (stdout ++ stderr) = (.pass, "None".toList) := by
    simp [classify, uvmErr_eq_none_of_no_markerLine hmark]
  obtain ⟨hst, hreason⟩ := @testVerdict_of_first env (w.outcome 0) 0 target srcElf (RegState.init w.dirs).dirs src 0
    stdout stderr hsrc hq hsim (by simp [hsim, SimAttempt.licenseFailure])
  rw [hpass] at hst hreason
  obtain ⟨hres, -, -⟩ := processTest_ok env 0 (.init w.dirs) (target, srcElf) hlog
  have hstatus := @processTest_status env (w.outcome 0) 0 (.init w.dirs) (target, srcElf)
  rw [runFullRegression_eq hb hm, runTests_cons_of_ok hlog]
  simp [runTests, finishRegression, hcsv, harch, hstatus, hres, hst, hreason,
    show (RegState.init w.dirs).results = [] from rfl]

/-- `runFullRegression_single_pass` on a simulator output that ends in the
summary's zero counts. -/
theorem runFullRegression_single_pass_summary :
    let env : Env := ⟨"spike".toList, "/tmp".toList,
      fun n => if n = "b.elf".toList then some ⟨[], 420⟩ else none, 420,
      "/work".toList, fun _ => none⟩
    let out := "UVM_INFO @ 0: done\nUVM_ERROR :    0\nUVM_FATAL :    0\n".toList
    let w : World := ⟨true, none, ⟨fun _ => none, fun _ => none⟩,
      fun _ => { Outcome.quiet with sim := fun _ => .completed 0 out [] }, none, none⟩
    (split (out ++ []) '\n').find? isMarkerLine = none
      ∧ (runFullRegression env w [("//a:b".toList, "b.elf".toList)]).csv
        = some [⟨"//a:b".toList, .pass, "None".toList, pathJoin "logs".toList (logFilename "//a:b".toList)⟩]
      ∧ (runFullRegression env w [("//a:b".toList, "b.elf".toList)]).exit = .normal := by
  intro env out w
  have hmark : (split (out ++ []) '\n').find? isMarkerLine = none := by decide
  exact ⟨hmark, runFullRegression_single_pass rfl rfl rfl rfl rfl
    ⟨rfl, rfl, rfl, rfl, rfl⟩ rfl rfl hmark⟩

-- =============================================================== reasons

/-- When no text the outside world raises with holds `,` or `\n`, no reason in
`uvm_results.csv` does. -/
theorem runFullRegression_reasons_csvSafe
    (hsafe : ∀ i < tests.length, ∀ e, (w.outcome i).Raises e → CsvSafe e) {rows : List Row}
    (h : (runFullRegression env w tests).csv = some rows) : ∀ row ∈ rows, CsvSafe row.reason := by
  obtain ⟨-, -, hrun, rfl⟩ := runFullRegression_csv h
  obtain ⟨rows', logs, hres, -, htgt, -, hrow⟩ := runTests_rows 0 tests (.init w.dirs) (by rw [hrun])
  rw [hrun] at hres
  simp only [RegState.init, List.nil_append] at hres
  rw [hres]
  intro row hmem
  obtain ⟨j, hj⟩ := List.mem_iff_getElem?.1 hmem
  have hlen : j < tests.length := by
    obtain ⟨hj', -⟩ := List.getElem?_eq_some_iff.1 hj
    have := congrArg List.length htgt
    simp only [List.length_map] at this
    omega
  have hd := (hrow j tests[j] (List.getElem?_eq_getElem hlen)).1
  rw [hj] at hd
  cases hd
  simpa using testVerdict_csvSafe (hsafe j hlen)

/-- `runFullRegression_reasons_csvSafe` on a run where nothing raises. -/
theorem runFullRegression_reasons_csvSafe_quiet :
    let env : Env := ⟨"spike".toList, "/tmp".toList,
      fun n => if n = "b.elf".toList then some ⟨"ELF".toList, 420⟩ else none, 420,
      "/work".toList, fun _ => none⟩
    let w : World := ⟨true, none, ⟨fun _ => none, fun _ => none⟩, fun _ => .quiet, none, none⟩
    let tests := [("//a:b".toList, "b.elf".toList), ("//a:c".toList, [])]
    (∀ i < tests.length, ∀ e, (w.outcome i).Raises e → CsvSafe e)
      ∧ (runFullRegression env w tests).csv = some (runFullRegression env w tests).state.results
      ∧ ∀ row ∈ (runFullRegression env w tests).state.results, CsvSafe row.reason := by
  intro env w tests
  have hsafe : ∀ i < tests.length, ∀ e, (w.outcome i).Raises e → CsvSafe e := by
    rintro i - e (h | ⟨n, h⟩)
    · simp [w, Outcome.quiet] at h
    · cases h
  have hcsv : (runFullRegression env w tests).csv
      = some (runFullRegression env w tests).state.results := by decide
  exact ⟨hsafe, hcsv, runFullRegression_reasons_csvSafe hsafe hcsv⟩

-- ======================================================= the exit status

/-- When nothing outside the loop fails, the CSV is written and the run exits 1
exactly when its last row is `FAIL` or it has no row. -/
theorem runFullRegression_exit_last_row (hb : w.simulatorBuilt = true) (hm : w.makedirs = none)
    (hlog : ∀ j < tests.length, (w.outcome j).writeLog = none) (hcsv : w.writeCsv = none)
    (harch : w.archive = none) :
    (runFullRegression env w tests).csv = some (runFullRegression env w tests).state.results
      ∧ ((runFullRegression env w tests).exit.code = 1
        ↔ ∀ row ∈ (runFullRegression env w tests).state.results.getLast?, row.status = .fail)
      ∧ ∀ row ∈ (runFullRegression env w tests).state.results.getLast?, row.status ≠ .fail →
        (runFullRegression env w tests).exit = .normal := by
  have hc : (runTests env w.outcome 0 tests (.init w.dirs)).2 = none :=
    runTests_complete 0 tests _ (by simpa using hlog)
  have hst := runTests_status 0 tests (.init w.dirs) hc rfl
  rw [runFullRegression_eq hb hm]
  rcases hr : runTests env w.outcome 0 tests (.init w.dirs) with ⟨s, x⟩
  rw [hr] at hc hst
  cases hc
  replace hst : s.status = s.results.getLast?.map Row.status := hst
  simp only [finishRegression, hcsv, harch, hst]
  cases hlast : s.results.getLast? with
  | none => simp [hlast, Exit.code]
  | some row => cases hs : row.status <;> simp [hlast, hs, Exit.code]

/-- `runFullRegression_exit_last_row` on a run whose rows are `FAIL` then `PASS`. -/
theorem runFullRegression_exit_last_row_fail_pass :
    let env : Env := ⟨"spike".toList, "/tmp".toList,
      fun n => if n = "b.elf".toList then some ⟨[], 420⟩ else none, 420,
      "/work".toList, fun _ => none⟩
    let w : World := ⟨true, none, ⟨fun _ => none, fun _ => none⟩, fun _ => .quiet, none, none⟩
    let tests := [("//a:x".toList, []), ("//a:b".toList, "b.elf".toList)]
    (runFullRegression env w tests).csv = some (runFullRegression env w tests).state.results
      ∧ ((runFullRegression env w tests).exit.code = 1
        ↔ ∀ row ∈ (runFullRegression env w tests).state.results.getLast?, row.status = .fail)
      ∧ ∀ row ∈ (runFullRegression env w tests).state.results.getLast?, row.status ≠ .fail →
        (runFullRegression env w tests).exit = .normal := by
  intro env w tests
  exact runFullRegression_exit_last_row rfl rfl (fun _ _ => rfl) rfl rfl

/-- A `FAIL` row followed by a `PASS` row exits 0, and an empty run exits 1
on the unbound `status`. -/
theorem runFullRegression_exit_ignores_earlier_fail :
    let env : Env := ⟨"spike".toList, "/tmp".toList,
      fun n => if n = "b.elf".toList then some ⟨[], 420⟩ else none, 420,
      "/work".toList, fun _ => none⟩
    let w : World := ⟨true, none, ⟨fun _ => none, fun _ => none⟩, fun _ => .quiet, none, none⟩
    (runFullRegression env w [("//a:x".toList, []), ("//a:b".toList, "b.elf".toList)]).csv.map
        (·.map Row.status) = some [.fail, .pass]
      ∧ (runFullRegression env w [("//a:x".toList, []), ("//a:b".toList, "b.elf".toList)]).exit
        = .normal
      ∧ (runFullRegression env w []).exit = .uncaught unboundStatus := by
  decide

end UvmRegression
