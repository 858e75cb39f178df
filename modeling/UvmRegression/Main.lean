/-
`main` (`run_uvm_regression.py`, lines 660-703), with `get_mpact_configs` and
`checkout_git_commit` (lines 416-446) and `build_spike` (lines 204-214): the
program as a whole, from its flags to the report.

# What is modelled

Once the arguments are parsed, `main`:

1. resolves the MPACT roots (`get_mpact_configs`) and checks out the commits
   `--mpact-commit` and `--mpact-riscv-commit` ask for (`mpactSetup`); a
   failed checkout is `sys.exit(1)`;
2. asks `get_targets` for the standard targets, and with `--list-targets` logs
   them and returns;
3. joins them with the suite's artifacts in `prepare_tests`;
4. builds Spike, and exits 1 when that fails or the binary is missing;
5. with `--check-spike-timeouts` runs only `run_spike_timeout_check`, else
   `run_full_regression`, in a fresh temporary directory.

Steps 2 to 5 are `mainAfterSetup`. An exception out of a checkout, discovery or
`build_spike` is not caught: the interpreter exits with status 1. The host
supplies the outcomes none of the script's own code decides: the workspace's
answers, the process environment, the working directory, `os.path.exists` for
the Spike binary, the temporary directory, the artifacts on disk and the entry
points `pyelftools` reads from them, and the regression's `World`. The MPACT roots reach nothing else that is modelled: the
simulator's build and runs read them, and their outcomes are the `World`'s.
-/
import UvmRegression.Discovery
import UvmRegression.SpikeCheck

namespace UvmRegression

/-- The flags `main` reads besides those `prepare_tests` reads. -/
structure MainArgs where
  args : Args
  listTargets : Bool
  checkSpikeTimeouts : Bool
  /-- `--mpact-root`. -/
  mpactRoot : Option Str
  /-- `--mpact-riscv-root`. -/
  mpactRiscvRoot : Option Str
  /-- `--mpact-commit`. -/
  mpactCommit : Option Str
  /-- `--mpact-riscv-commit`. -/
  mpactRiscvCommit : Option Str

/-- What the host decides for one run of the script. -/
structure Host where
  /-- The answers of `bazel`, `git`, `ET.fromstring`, `os.path.isdir` and
  `os.walk`. -/
  workspace : Workspace
  /-- `os.environ`. -/
  environ : Str → Option Str
  /-- The working directory, for `os.path.abspath`. -/
  cwd : Str
  /-- `os.path.exists`, for the Spike binary. -/
  pathExists : Str → Bool
  /-- The directory `tempfile.TemporaryDirectory` creates. -/
  tempElfDir : Str
  /-- The artifacts on disk. -/
  sources : Dir File
  /-- The entry point `ELFFile` reads from a file's contents, `none` when it
  raises. -/
  elfEntry : Str → Option Nat
  /-- The mode `open(path, 'w')` gives a new file. -/
  createMode : Nat
  /-- The outcomes of `run_full_regression`, and of `run_spike_timeout_check`
  over the same directories. -/
  world : World

/-- The surroundings both modes run in, once Spike is built. -/
def Host.env (h : Host) (spikeBin : Str) : Env :=
  ⟨spikeBin, h.tempElfDir, h.sources, h.createMode, h.cwd, h.elfEntry⟩

/-- `os.path.abspath(p)` in the host's working directory. -/
def Host.abspath (h : Host) (p : Str) : Str := UvmRegression.abspath h.cwd p

-- ============================================================== MPACT

/-- `get_mpact_configs`: the MPACT root and, if one is configured, the MPACT
RISCV root. A non-empty flag wins over the environment variable. -/
def getMpactConfigs (m : MainArgs) (h : Host) : Str × Option Str :=
  (match truthyArg m.mpactRoot with
    | some root => h.abspath root
    | none => (h.environ "CORALNPU_MPACT".toList).getD "/tmp/copybara-mpact".toList,
   match truthyArg m.mpactRiscvRoot with
    | some root => some (h.abspath root)
    | none => h.environ "CORALNPU_MPACT_RISCV".toList)

/-- `git -C <repo_root> fetch`. -/
def gitFetchCommand (repoRoot : Str) : List Str :=
  ["git".toList, "-C".toList, repoRoot, "fetch".toList]

/-- `git -C <repo_root> checkout <commit>`. -/
def gitCheckoutCommand (repoRoot commit : Str) : List Str :=
  ["git".toList, "-C".toList, repoRoot, "checkout".toList, commit]

-- ================================================================ ends

/-- How the script ends. -/
inductive MainEnd
  /-- An exception left a checkout, discovery or `build_spike`. -/
  | raised (e : Raised)
  /-- `checkout_git_commit` could not check out in this directory:
  `sys.exit(1)`. -/
  | noCheckout (repoRoot : Str)
  /-- `--list-targets`: the targets it logged. -/
  | listed (targets : List Str)
  /-- No Spike binary: `sys.exit(1)`. -/
  | noSpike
  /-- `--check-spike-timeouts`: the check ran over these test cases and logged
  `failed_targets` as the suggested `SPIKE_DENYLIST`. -/
  | spikeTimeoutCheck (tests : List (Str × Str)) (failedTargets : List Str)
  /-- `run_full_regression` ran over these test cases and ended so. -/
  | regression (tests : List (Str × Str)) (r : RegressionEnd)

/-- The process's exit status. -/
def MainEnd.code : MainEnd → Nat
  | .raised _ => 1
  | .noCheckout _ => 1
  | .listed _ => 0
  | .noSpike => 1
  | .spikeTimeoutCheck _ _ => 0
  | .regression _ r => r.exit.code

/-- `checkout_git_commit`: `sys.exit(1)` when `repo_root` has no `.git`
directory or a `git` command exits non-zero; another exception leaves it. -/
def checkoutGitCommit (h : Host) (repoRoot commit : Str) : Except MainEnd Unit :=
  if !h.workspace.isDir (pathJoin repoRoot ".git".toList) then .error (.noCheckout repoRoot)
  else
    match h.workspace.runChecked (gitFetchCommand repoRoot) >>= fun _ =>
        h.workspace.runChecked (gitCheckoutCommand repoRoot commit) with
    | .ok _ => .ok ()
    | .error (.calledProcessError _ _) => .error (.noCheckout repoRoot)
    | .error e => .error (.raised e)

/-- The start of `main`: `if args.mpact_commit:` checks out the MPACT root, and
`if args.mpact_riscv_commit and mpact_riscv_root:` the MPACT RISCV root. -/
def mpactSetup (m : MainArgs) (h : Host) : Except MainEnd Unit :=
  (match truthyArg m.mpactCommit with
    | some commit => checkoutGitCommit h (getMpactConfigs m h).1 commit
    | none => .ok ()) >>= fun _ =>
  match truthyArg m.mpactRiscvCommit, truthyArg (getMpactConfigs m h).2 with
  | some commit, some riscvRoot => checkoutGitCommit h riscvRoot commit
  | _, _ => .ok ()

-- ================================================================ Spike

/-- Spike's build. -/
def spikeBuildCommand : List Str :=
  ["bazel", "build", "@riscv_isa_sim//:riscv_isa_sim"].map String.toList

/-- Where the build leaves Spike, relative to the working directory. -/
def spikeRelPath : Str := "bazel-bin/external/riscv_isa_sim/riscv_isa_sim/bin/spike".toList

/-- `build_spike`: the binary's absolute path, or `None` when the build failed. -/
def buildSpike (h : Host) : Except Raised (Option Str) :=
  catchCalledProcessError none <|
    (h.workspace.runChecked spikeBuildCommand).map fun _ => some (h.abspath spikeRelPath)

-- ================================================================= main

/-- `main` from `get_targets` on. -/
def mainAfterSetup (m : MainArgs) (h : Host) : MainEnd :=
  match getTargets m.args.limit m.args.target h.workspace with
  | .error e => .raised e
  | .ok standardTargets =>
      if m.listTargets then .listed standardTargets
      else match prepareTests m.args h.workspace standardTargets with
        | .error e => .raised e
        | .ok testsToRun =>
            match buildSpike h with
            | .error e => .raised e
            | .ok none => .noSpike
            | .ok (some spikeBin) =>
                if spikeBin = [] ∨ !h.pathExists spikeBin then .noSpike
                else if m.checkSpikeTimeouts then
                  .spikeTimeoutCheck testsToRun (runSpikeTimeoutCheck (h.env spikeBin)
                    h.world.outcome 0 testsToRun (h.world.dirs.temp, [])).2
                else .regression testsToRun (runFullRegression (h.env spikeBin) h.world testsToRun)

/-- `main`. -/
def runMain (m : MainArgs) (h : Host) : MainEnd :=
  match mpactSetup m h with
  | .error e => e
  | .ok () => mainAfterSetup m h

end UvmRegression
