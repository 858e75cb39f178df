/-
`run_full_regression` (`run_uvm_regression.py`, lines 540-657): the per-test
loop over the temporary ELF directory and the logs directory, and the end of
the run — the CSV, the archive and the exit status.

# State and outcomes

The two directories the loop writes are flat maps from file names to files
(`Dir`); the temporary directory keeps permission bits because the loop sets
them. The artifacts are read from `Env.sources`, a file system the run never
writes: `main` creates the temporary directory afresh with `tempfile` after the
tests are resolved, and the logs directory holds only what the run writes.

Everything the outside world decides for iteration `i` is `World.outcome i`:
which file operation raises and with what text, what a raising copy leaves at
its destination, what Spike does when started on a given command line and ELF,
what each simulator invocation returns, whether the log write raises. A
raising removal or `chmod` leaves its target as it was. Python's local `status`
survives the loop, so it is state here (`RegState.status`, `none` while
unbound). Two more records are kept that the program computes but does not
store: the `log` of every iteration, in order, and every call of `run_uvm`
with its arguments, its command line and the temporary directory it sees.

# One iteration

The `try` block is `trySetup`: remove a stale copy, copy the artifact, set its
mode to `0o755`, read the copy's entry point (`get_entry_point`, 0 when the ELF
cannot be read), then `goldenTrace` — remove a stale trace, run Spike on the
copy, save its log into the logs directory as `.spike.log` or `.spike.log.fail`
— and hand the copy and, on success, the trace to `run_uvm`. An exception from
the block becomes a `FAIL` row. The log write that follows is outside the
`try`: an exception there ends the whole run.
-/
import UvmRegression.Simulators

namespace UvmRegression

-- ========================================================== directories

/-- A file: its contents and its permission bits. -/
structure File where
  data : Str
  mode : Nat
  deriving DecidableEq, Repr

/-- A flat directory, by file name. -/
abbrev Dir (α : Type) := Str → Option α

/-- Write a file, creating or truncating it. -/
def Dir.write {α : Type} (d : Dir α) (n : Str) (a : α) : Dir α :=
  fun m => if m = n then some a else d m

/-- Remove a file. -/
def Dir.erase {α : Type} (d : Dir α) (n : Str) : Dir α :=
  fun m => if m = n then none else d m

@[simp] theorem Dir.write_self {α : Type} (d : Dir α) (n : Str) (a : α) :
    d.write n a n = some a := by simp [Dir.write]

@[simp] theorem Dir.write_ne {α : Type} (d : Dir α) {n m : Str} (a : α) (h : m ≠ n) :
    d.write n a m = d m := by simp [Dir.write, h]

@[simp] theorem Dir.erase_self {α : Type} (d : Dir α) (n : Str) : d.erase n n = none := by
  simp [Dir.erase]

@[simp] theorem Dir.erase_ne {α : Type} (d : Dir α) {n m : Str} (h : m ≠ n) :
    d.erase n m = d m := by simp [Dir.erase, h]

/-- The two directories the loop writes. -/
structure Dirs where
  /-- `temp_elf_dir`. -/
  temp : Dir File
  /-- `logs_dir`, by contents. -/
  logs : Dir Str

-- =============================================================== names

/-- `target.replace('//', '').replace(':', '_').replace('/', '_')`, the stem of
every file named after a target. -/
def sanitizeTarget (target : Str) : Str :=
  replace (replace (replace target "//".toList []) [':'] ['_']) ['/'] ['_']

/-- `safe_name`, the copy's name in the temporary directory. -/
def safeName (target : Str) : Str := sanitizeTarget target ++ ".elf".toList

/-- `spike_log_name`, the golden trace's name. -/
def spikeLogName (target : Str) : Str := safeName target ++ ".spike.log".toList

/-- `log_filename`, the per-target log's name in the logs directory. -/
def logFilename (target : Str) : Str := sanitizeTarget target ++ ".log".toList

-- ============================================================ outcomes

/-- The run's fixed surroundings. -/
structure Env where
  /-- `spike_bin`. -/
  spikeBin : Str
  /-- `temp_elf_dir`, an absolute path. -/
  tempElfDir : Str
  /-- The file system the artifacts are read from. -/
  sources : Dir File
  /-- The mode `open(path, 'w')` gives a file it creates. -/
  createMode : Nat
  /-- `os.getcwd()`, which `os.path.abspath` resolves against. -/
  cwd : Str
  /-- `ELFFile(f).header.e_entry` of a file with these contents; `none` when
  reading the header raises. -/
  elfEntry : Str → Option Nat

/-- What the outside world decides during one iteration. `some e` makes the
operation raise with text `e`. -/
structure Outcome where
  /-- `os.remove(dest_elf)`, when a stale copy exists. -/
  removeElf : Option Str
  /-- `shutil.copy2(src_elf, dest_elf)`. -/
  copyElf : Option Str
  /-- What a raising `shutil.copy2(src_elf, dest_elf)` leaves at `dest_elf`
  (`none`: the name stays free). -/
  copyElfLeaves : Option File
  /-- `os.chmod(dest_elf, 0o755)`. -/
  chmodElf : Option Str
  /-- `os.remove(temp_spike_log)`, when a stale trace exists. -/
  removeTrace : Option Str
  /-- The Spike process, by what it is started on. -/
  spike : SpikeLaunch → SpikeRun
  /-- `shutil.copy2(temp_spike_log, <logs>/<dest_name>)`. -/
  saveTrace : Option Str
  /-- What a raising save leaves at its destination (`none`: what was there). -/
  saveTraceLeaves : Option Str
  /-- The `n`-th simulator invocation of `run_uvm`. -/
  sim : Nat → SimAttempt
  /-- `open(log_path, "w")` and its `write`. -/
  writeLog : Option Str

/-- Nothing raises; Spike and every simulator invocation exit 0 without
output. -/
def Outcome.quiet : Outcome :=
  ⟨none, none, none, none, none, fun _ => .exited 0 [], none, none, fun _ => .completed 0 [] [],
    none⟩

/-- `if os.path.exists(p): os.remove(p)`. -/
def removeIfExists (err : Option Str) (n : Str) (d : Dir File) : Except Str (Dir File) :=
  if (d n).isSome then
    match err with
    | some e => .error e
    | none => .ok (d.erase n)
  else .ok d

/-- Write `a` at `n` when there is one, else leave the directory as it is. -/
def Dir.writeSome {α : Type} (d : Dir α) (n : Str) : Option α → Dir α
  | some a => d.write n a
  | none => d

/-- `get_entry_point(elf_path)` on a file with contents `elf` (`none`: no
file): the header's entry point, or 0 when reading it raises. -/
def getEntryPoint (env : Env) (elf : Option Str) : Nat :=
  ((elf.bind env.elfEntry)).getD 0

/-- What `generate_spike_log(spike_bin, dest_elf, ..., entry_point, timeout)`
starts Spike on, with `temp` the temporary directory at that moment. -/
def spikeLaunch (env : Env) (target : Str) (entryPoint timeout : Nat) (temp : Dir File) :
    SpikeLaunch :=
  ⟨spikeCommand env.spikeBin (pathJoin env.tempElfDir (safeName target)) entryPoint, timeout,
    (temp (safeName target)).map File.data⟩

/-- Spike started with `timeout` on a copy of `src` at `target`'s copy name: the
command line names the copy and its entry point, and the file there holds the
artifact's contents. -/
def freshLaunch (env : Env) (target : Str) (src : File) (timeout : Nat) : SpikeLaunch :=
  ⟨spikeCommand env.spikeBin (pathJoin env.tempElfDir (safeName target))
      (getEntryPoint env (some src.data)), timeout, some src.data⟩

/-- Spike started on a directory holding a copy of `src`, with the copy's entry
point, is started on the copy. -/
theorem spikeLaunch_of_copy {env : Env} {target : Str} {src : File} {temp : Dir File} {m : Nat}
    (h : temp (safeName target) = some { src with mode := m }) (timeout : Nat) :
    spikeLaunch env target (getEntryPoint env (some src.data)) timeout temp
      = freshLaunch env target src timeout := by
  simp [spikeLaunch, freshLaunch, h]

-- ========================================================= the try block

/-- The golden-trace part of the `try` block, Spike started with `entryPoint`:
the directories after it, and the `spike_log_path` it hands to `run_uvm` (a
name in the temporary directory) or the exception it raised. -/
def goldenTrace (env : Env) (o : Outcome) (target : Str) (entryPoint : Nat) (d : Dirs) :
    Dirs × Except Str (Option Str) :=
  if env.spikeBin = [] ∨ target ∈ spikeDenylist then (d, .ok none)
  else
    let name := spikeLogName target
    match removeIfExists o.removeTrace name d.temp with
    | .error e => (d, .error e)
    | .ok temp =>
        let run := generateSpikeLog (o.spike (spikeLaunch env target entryPoint spikeTimeout temp))
        let temp := match run.2 with
          | some out => temp.write name ⟨out, env.createMode⟩
          | none => temp
        let dest := if run.1 then name else name ++ ".fail".toList
        match temp name with
        | none => ({ d with temp }, .ok none)
        | some f =>
            match o.saveTrace with
            | some e => ({ temp, logs := d.logs.writeSome dest o.saveTraceLeaves }, .error e)
            | none =>
                ({ temp, logs := d.logs.write dest f.data },
                  .ok (if run.1 then some name else none))

/-- The `try` block up to the call of `run_uvm`: the fresh copy, its entry
point, then the golden trace. -/
def trySetup (env : Env) (o : Outcome) (target : Str) (src : File) (d : Dirs) :
    Dirs × Except Str (Option Str) :=
  let name := safeName target
  match removeIfExists o.removeElf name d.temp with
  | .error e => (d, .error e)
  | .ok temp =>
      match o.copyElf with
      | some e => ({ d with temp := temp.writeSome name o.copyElfLeaves }, .error e)
      | none =>
          match o.chmodElf with
          | some e => ({ d with temp := temp.write name src }, .error e)
          | none =>
              let temp := temp.write name { src with mode := 0o755 }
              goldenTrace env o target (getEntryPoint env ((temp name).map File.data))
                { d with temp }

-- ============================================================ one test

/-- A call of `run_uvm`: its arguments, and what it works on. -/
structure UvmCall where
  /-- The position of the test case in the sequence. -/
  index : Nat
  /-- `elf_to_run`, a name in the temporary directory. -/
  elf : Str
  /-- `spike_log_path`, a name in the temporary directory. -/
  spikeLog : Option Str
  /-- The simulator's command line. -/
  cmd : List Str
  /-- The temporary directory when `run_uvm` starts. -/
  temp : Dir File

/-- What an iteration hands on after its `try`/`except`: the directories, the
`(status, reason, log)` triple, and the `run_uvm` call if one was made. -/
structure Verdict where
  dirs : Dirs
  status : Status
  reason : Str
  log : Str
  call : Option UvmCall

/-- `src_elf and os.path.exists(src_elf)`, with the artifact found there. -/
def sourceArtifact (env : Env) (srcElf : Str) : Option File :=
  if srcElf = [] then none else env.sources srcElf

/-- The iteration for test case `i` up to its log write. -/
def testVerdict (env : Env) (o : Outcome) (i : Nat) (target srcElf : Str) (d : Dirs) : Verdict :=
  match sourceArtifact env srcElf with
  | none => ⟨d, .fail, "ELF source not found (Build failed?)".toList, [], none⟩
  | some src =>
      match trySetup env o target src d with
      | (d', .error e) => ⟨d', .fail, "Copy/Setup failed: ".toList ++ e, e, none⟩
      | (d', .ok spikeLog) =>
          let elf := safeName target
          let r := runUvm (d'.temp elf).isSome o.sim
          ⟨d', r.1, r.2.1, r.2.2,
            some ⟨i, elf, spikeLog,
              uvmCommand env.cwd (pathJoin env.tempElfDir elf) (spikeLog.map (pathJoin env.tempElfDir))
                target,
              d'.temp⟩⟩

/-- A row of `uvm_results.csv`. -/
structure Row where
  target : Str
  status : Status
  reason : Str
  logPath : Str
  deriving DecidableEq, Repr

/-- The loop's state. -/
structure RegState where
  dirs : Dirs
  /-- `results`. -/
  results : List Row
  /-- The local `status`, unbound before the first iteration. -/
  status : Option Status
  /-- The `log` of every iteration, in order. -/
  rawLogs : List Str
  /-- Every call of `run_uvm`, in order. -/
  calls : List UvmCall

/-- One iteration of the loop: the verdict, the log write, the row. The log
write is outside the `try`: if it raises, the exception ends the run, with the
iteration's directory changes, its `status` and its `run_uvm` call already
made. -/
def processTest (env : Env) (o : Outcome) (i : Nat) (s : RegState) (test : Str × Str) :
    RegState × Option Str :=
  let v := testVerdict env o i test.1 test.2 s.dirs
  let s := { s with dirs := v.dirs, status := some v.status, calls := s.calls ++ v.call.toList }
  match o.writeLog with
  | some e => (s, some e)
  | none =>
      ({ s with
          dirs := { v.dirs with logs := v.dirs.logs.write (logFilename test.1) v.log }
          results := s.results ++ [⟨test.1, v.status, v.reason, pathJoin "logs".toList (logFilename test.1)⟩]
          rawLogs := s.rawLogs ++ [v.log] }, none)

/-- The loop from test case `i` on: its last state, and the exception that
ended it early, if one did. -/
def runTests (env : Env) (o : Nat → Outcome) : Nat → List (Str × Str) → RegState → RegState × Option Str
  | _, [], s => (s, none)
  | i, t :: ts, s =>
      match processTest env (o i) i s t with
      | (s', some e) => (s', some e)
      | (s', none) => runTests env o (i + 1) ts s'

-- ============================================================= the run

/-- How the process ends. -/
inductive Exit
  /-- `run_full_regression` returns, and so does `main`. -/
  | normal
  /-- `sys.exit(code)`. -/
  | sysExit (code : Nat)
  /-- An exception escapes: the interpreter exits with status 1. -/
  | uncaught (e : Str)
  deriving DecidableEq, Repr

/-- The process's exit status. -/
def Exit.code : Exit → Nat
  | .normal => 0
  | .sysExit c => c
  | .uncaught _ => 1

/-- What the outside world decides for the whole run. -/
structure World where
  /-- `build_simulator` succeeds. -/
  simulatorBuilt : Bool
  /-- `os.makedirs(logs_dir, exist_ok=True)`. -/
  makedirs : Option Str
  /-- The two directories before the loop. -/
  dirs : Dirs
  /-- Iteration `i`'s outcomes. -/
  outcome : Nat → Outcome
  /-- Writing `uvm_results.csv`. -/
  writeCsv : Option Str
  /-- `shutil.make_archive`. -/
  archive : Option Str

/-- How `run_full_regression` ends: the exit, the loop's state when the run
ended (the initial one if the loop never started), and the rows of
`uvm_results.csv` if it was written. -/
structure RegressionEnd where
  exit : Exit
  state : RegState
  csv : Option (List Row)

/-- The text of the `UnboundLocalError` raised by `if status == "FAIL"` after a
loop that never ran. -/
def unboundStatus : Str :=
  "cannot access local variable 'status' where it is not associated with a value".toList

/-- The end of the run, once the loop has completed. -/
def finishRegression (w : World) (s : RegState) : RegressionEnd :=
  match w.writeCsv with
  | some e => ⟨.uncaught e, s, none⟩
  | none =>
      match w.archive, s.status with
      | some e, _ => ⟨.uncaught e, s, some s.results⟩
      | none, none => ⟨.uncaught unboundStatus, s, some s.results⟩
      | none, some .fail => ⟨.sysExit 1, s, some s.results⟩
      | none, some _ => ⟨.normal, s, some s.results⟩

/-- The loop's state before the first iteration. -/
def RegState.init (d : Dirs) : RegState := ⟨d, [], none, [], []⟩

/-- `run_full_regression(tests_to_run, ...)`. -/
def runFullRegression (env : Env) (w : World) (tests : List (Str × Str)) : RegressionEnd :=
  if !w.simulatorBuilt then ⟨.sysExit 1, .init w.dirs, none⟩
  else match w.makedirs with
    | some e => ⟨.uncaught e, .init w.dirs, none⟩
    | none =>
        match runTests env w.outcome 0 tests (.init w.dirs) with
        | (s, some e) => ⟨.uncaught e, s, none⟩
        | (s, none) => finishRegression w s

end UvmRegression
