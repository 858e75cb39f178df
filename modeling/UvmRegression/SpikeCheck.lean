/-
`run_spike_timeout_check` (`run_uvm_regression.py`, lines 493-537): the
`--check-spike-timeouts` mode, which runs only Spike over every resolved test
case and logs the targets that failed as a suggested `SPIKE_DENYLIST`.

# One iteration

An iteration skips a test case whose artifact is missing. Otherwise its `try`
block makes the same fresh copy as `run_full_regression` (remove a stale copy,
copy the artifact, set its mode to `0o755`) and runs Spike on it from the
copy's entry point, with a timeout of 10 seconds instead of 30 and its log at
`<safe_name>.spike.log` in the temporary directory. There is no
`SPIKE_DENYLIST` test and no removal of a stale log: `open(log_path, 'w')`
truncates one and keeps its mode. The target is added to `failed_targets` when
`generate_spike_log` returns `False` or the `try` block raises. Every exception
is caught, inside `generate_spike_log` or by `except Exception`, so the loop
always runs to its end.

Iteration `i` reads the same outcomes as the regression's iteration `i`
(`World.outcome i`): the three file operations and Spike, here started with the
shorter timeout. Its result is
the list it logs.
-/
import UvmRegression.Regression

namespace UvmRegression

/-- `open(path, 'w')` and a write of `data`: a new file gets the creation mode,
an existing one is truncated and keeps its mode. -/
def Dir.openWrite (d : Dir File) (n : Str) (data : Str) (createMode : Nat) : Dir File :=
  d.write n ⟨data, ((d n).map File.mode).getD createMode⟩

/-- One iteration of `run_spike_timeout_check`: the temporary directory after
it, and whether `target` is appended to `failed_targets`. -/
def checkTest (env : Env) (o : Outcome) (target srcElf : Str) (temp : Dir File) :
    Dir File × Bool :=
  match sourceArtifact env srcElf with
  | none => (temp, false)
  | some src =>
      let name := safeName target
      match removeIfExists o.removeElf name temp with
      | .error _ => (temp, true)
      | .ok temp =>
          match o.copyElf with
          | some _ => (temp.writeSome name o.copyElfLeaves, true)
          | none =>
              match o.chmodElf with
              | some _ => (temp.write name src, true)
              | none =>
                  let temp := temp.write name { src with mode := 0o755 }
                  let entryPoint := getEntryPoint env ((temp name).map File.data)
                  let run := generateSpikeLog (o.spike (spikeLaunch env target entryPoint 10 temp))
                  let log := spikeLogName target
                  let temp := match run.2 with
                    | some out => temp.openWrite log out env.createMode
                    | none => temp
                  (temp, !run.1)

/-- The loop of `run_spike_timeout_check` from test case `i` on, over the
temporary directory and `failed_targets`. -/
def runSpikeTimeoutCheck (env : Env) (o : Nat → Outcome) :
    Nat → List (Str × Str) → Dir File × List Str → Dir File × List Str
  | _, [], s => s
  | i, (target, srcElf) :: tests, (temp, failedTargets) =>
      match checkTest env (o i) target srcElf temp with
      | (temp, failed) =>
          runSpikeTimeoutCheck env o (i + 1) tests
            (temp, if failed then failedTargets ++ [target] else failedTargets)

end UvmRegression
