/-
Test discovery (`run_uvm_regression.py`, lines 92-172, 345-380 and 449-490):
the standard targets `get_targets` reads off the build graph, the conformance
suite's artifacts `get_riscv_test_artifacts` finds on disk, and `prepare_tests`,
which joins the two into the test cases `run_full_regression` is given.

# The build system as an oracle

As with the simulators, nothing is run here. `Workspace.run` says how
`subprocess.run` ends for each command line: it raises before the process
runs, or the process exits with a code and its standard output. Under
`check=True` a non-zero code is the `CalledProcessError` that `runChecked`
raises. `ET.fromstring`, `os.path.isdir` and `os.walk` are likewise arguments;
of `os.walk` only the `(root, files)` pairs it yields are read.

# Exceptions

`CalledProcessError` is caught in `build_targets`, `get_elf_source_path` and
`get_riscv_test_artifacts`, and nowhere else. Every other exception ends
discovery (`Except.error`). So does a `KeyError` for a rule without a `name` or
a linker-script label without a `value`, and so does a failed query in
`get_targets`.

# Order

`sorted` is Python's stable sort under the `str` (or tuple) order. That order is
total and antisymmetric, so every sorting algorithm gives the same list, and
`sortedBy` uses insertion sort.
-/
import UvmRegression.Text
import Mathlib.Data.List.Sort

namespace UvmRegression

/-- `DENYLIST`: targets excluded from the regression. -/
def denylist : List Str :=
  ["//tests/cocotb/tutorial/counters:inst_cycle_counter_example",
    "//tests/cocotb/coralnpu_isa:perf_counters", "//tests/cocotb/rvv:vill_test",
    "//tests/cocotb:vector_store", "//tests/cocotb:vector_store_fault",
    "//third_party/riscv-tests:rv32ui-p-fence_i", "//third_party/riscv-tests:rv32ui-v-fence_i",
    "//tests/cocotb/rvv:vmsif_test", "//tests/cocotb/rvv:vmsbf_test",
    "//tests/cocotb/rvv/load_store:load_unit_masked",
    "//tests/cocotb/rvv/load_store:store_unit_masked"].map String.toList

-- ==================================================== the outside world

/-- How `subprocess.run` ends. -/
inductive ProcRun
  /-- It raised before the process ran (`bazel` not found, say). -/
  | raised (e : Str)
  /-- The process exited with `returncode`, having printed `stdout`. -/
  | exited (returncode : Int) (stdout : Str)

/-- An exception that leaves a discovery function. -/
inductive Raised
  /-- `subprocess.CalledProcessError`, raised by `check=True`. -/
  | calledProcessError (cmd : List Str) (returncode : Int)
  /-- `KeyError` from `element.attrib[key]`. -/
  | keyError (key : Str)
  /-- Any other exception, with its text. -/
  | other (e : Str)

/-- An element of the tree `ET.fromstring` builds: tag, attributes, children. -/
inductive Element
  | mk (tag : Str) (attrib : List (Str × Str)) (children : List Element)

/-- The element's tag. -/
def Element.tag : Element → Str
  | .mk tag _ _ => tag

/-- The element's attributes. -/
def Element.attrib : Element → List (Str × Str)
  | .mk _ attrib _ => attrib

/-- The element's children, in document order. -/
def Element.children : Element → List Element
  | .mk _ _ children => children

/-- What discovery reads of the workspace. -/
structure Workspace where
  /-- How `subprocess.run` of each command line ends. -/
  run : List Str → ProcRun
  /-- `ET.fromstring`: the root, or the text of the `ParseError` it raised. -/
  parseXml : Str → Except Str Element
  /-- `os.path.isdir`. -/
  isDir : Str → Bool
  /-- `os.walk`: each directory visited, with its file names. -/
  walk : Str → List (Str × List Str)

/-- `subprocess.run(cmd, check=True)`: the output, or the exception it raises. -/
def Workspace.runChecked (w : Workspace) (cmd : List Str) : Except Raised Str :=
  match w.run cmd with
  | .raised e => .error (.other e)
  | .exited returncode stdout =>
      if returncode ≠ 0 then .error (.calledProcessError cmd returncode) else .ok stdout

/-- `try: ... except subprocess.CalledProcessError: return x`. -/
def catchCalledProcessError (x : α) : Except Raised α → Except Raised α
  | .error (.calledProcessError _ _) => .ok x
  | r => r

-- ============================================================ Python

/-- The value of an `Optional[str]` argument when it is truthy: given and
non-empty. -/
def truthyArg : Option Str → Option Str
  | some t => if t = [] then none else some t
  | none => none

/-- `xs[:n]`: a negative `n` counts from the end. -/
def sliceTo (xs : List α) (n : Int) : List α :=
  xs.take (if 0 ≤ n then n.toNat else xs.length - n.natAbs)

/-- `if limit: xs = xs[:limit]`. -/
def applyLimit (limit : Option Int) (xs : List α) : List α :=
  match limit with
  | some n => if n ≠ 0 then sliceTo xs n else xs
  | none => xs

/-- Python's `str` order: code points, lexicographically. -/
def strLe : Str → Str → Bool
  | [], _ => true
  | _ :: _, [] => false
  | a :: as, b :: bs => a < b || (a = b && strLe as bs)

/-- Python's order on `(str, str)` tuples. -/
def artifactLe (x y : Str × Str) : Bool :=
  strLe x.1 y.1 && (x.1 ≠ y.1 || strLe x.2 y.2)

/-- `sorted(xs)` under the order `le`. -/
def sortedBy (le : α → α → Bool) (xs : List α) : List α :=
  xs.insertionSort fun a b => le a b

-- ======================================================= get_targets

/-- The build-graph query of `get_targets`. -/
def queryCommand : List Str :=
  ["bazel", "query", "kind(coralnpu_v2_binary, //...)", "--output=xml"].map String.toList

/-- `element.attrib[key]`, `none` where Python raises `KeyError`. -/
def Element.attr (e : Element) (key : String) : Option Str := e.attrib.lookup key.toList

/-- `element.findall(tag)`: the children with that tag. -/
def Element.findall (e : Element) (tag : String) : List Element :=
  e.children.filter fun c => decide (c.tag = tag.toList)

/-- `rule.find("label[@name='linker_script']")`. -/
def linkerScriptElem (rule : Element) : Option Element :=
  rule.children.find? fun c =>
    decide (c.tag = "label".toList ∧ c.attr "name" = some "linker_script".toList)

/-- `f"{pkg}:{name}.ld"`, with `pkg` and `name` taken from the target's label
as `get_targets` takes them. -/
def expectedLinkerScript (targetNameFull : Str) : Str :=
  let (pkg, name) :=
    if ':' ∈ targetNameFull then
      let parts := split targetNameFull ':'
      (parts.getD 0 [], parts.getD 1 [])
    else (targetNameFull, (split targetNameFull '/').getLast?.getD [])
  pkg ++ ':' :: name ++ ".ld".toList

/-- The loop over `root.findall('rule')`: the labels kept, in order. -/
def collectTargets : List Element → Except Raised (List Str)
  | [] => .ok []
  | rule :: rules =>
      match rule.attr "name" with
      | none => .error (.keyError "name".toList)
      | some targetNameFull =>
          if targetNameFull ∈ denylist then collectTargets rules
          else match linkerScriptElem rule with
            | none => collectTargets rules
            | some elem =>
                match elem.attr "value" with
                | none => .error (.keyError "value".toList)
                | some linkerScript =>
                    if linkerScript = expectedLinkerScript targetNameFull then
                      (collectTargets rules).map (targetNameFull :: ·)
                    else collectTargets rules

/-- `get_targets(limit, target)`. -/
def getTargets (limit : Option Int) (target : Option Str) (w : Workspace) :
    Except Raised (List Str) :=
  match truthyArg target with
  | some t => .ok [t]
  | none =>
      match w.runChecked queryCommand with
      | .error e => .error e
      | .ok stdout =>
          match w.parseXml stdout with
          | .error e => .error (.other e)
          | .ok root =>
              (collectTargets (root.findall "rule")).map fun targets =>
                applyLimit limit (sortedBy strLe targets)

-- =========================================== build and artifact lookup

/-- `bazel build` of the given targets. -/
def buildCommand (targets : List Str) : List Str := ["bazel".toList, "build".toList] ++ targets

/-- `build_targets`: whether the build succeeded. -/
def buildTargets (w : Workspace) (targets : List Str) : Except Raised Bool :=
  catchCalledProcessError false ((w.runChecked (buildCommand targets)).map fun _ => true)

/-- The artifact query of `get_elf_source_path`. -/
def cqueryCommand (target : Str) : List Str :=
  ["bazel".toList, "cquery".toList, "--output=files".toList, target]

/-- `get_elf_source_path`: the first listed output ending in `.elf`, stripped. -/
def getElfSourcePath (w : Workspace) (target : Str) : Except Raised (Option Str) :=
  catchCalledProcessError none <| (w.runChecked (cqueryCommand target)).map fun stdout =>
    ((split (strip stdout) '\n').find? fun line => endswith line ".elf".toList).map strip

-- =========================================== get_riscv_test_artifacts

/-- The conformance suite's file group. -/
def suiteTarget : Str := "//third_party/riscv-tests:all_files".toList

/-- The package of the suite's pseudo-targets. -/
def riscvTestsPrefix : Str := "//third_party/riscv-tests:".toList

/-- The output query of `get_riscv_test_artifacts`. -/
def suiteCommand : List Str :=
  ["bazel".toList, "cquery".toList, suiteTarget, "--output=files".toList]

/-- The body of the innermost loop, for the file `f` of the directory `root`. -/
def suiteArtifact (root f : Str) : Option (Str × Str) :=
  if endswith f ".dump".toList then none
  else if startswith f "rv32".toList then
    let pseudoTarget := riscvTestsPrefix ++ f
    if pseudoTarget ∈ denylist then none else some (pseudoTarget, pathJoin root f)
  else none

/-- The artifacts found under one listed output: nothing unless it is a
directory, else every walked file that `suiteArtifact` keeps. -/
def walkArtifacts (w : Workspace) (d : Str) : List (Str × Str) :=
  if !w.isDir d then []
  else (w.walk d).flatMap fun entry => entry.2.filterMap (suiteArtifact entry.1)

/-- `get_riscv_test_artifacts`. -/
def getRiscvTestArtifacts (w : Workspace) : Except Raised (List (Str × Str)) :=
  catchCalledProcessError [] <| (w.runChecked suiteCommand).map fun stdout =>
    sortedBy artifactLe ((split (strip stdout) '\n').flatMap fun d => walkArtifacts w (strip d))

-- ===================================================== prepare_tests

/-- The arguments `prepare_tests` reads. -/
structure Args where
  limit : Option Int
  target : Option Str
  skipRiscvTests : Bool

/-- `args.target and args.target != t`. -/
def otherTarget (target : Option Str) (t : Str) : Bool :=
  match truthyArg target with
  | some given => given ≠ t
  | none => false

/-- The loop over the standard targets: those not ruled out by `--target`
whose artifact is found. -/
def resolveStandard (w : Workspace) (target : Option Str) :
    List Str → Except Raised (List (Str × Str))
  | [] => .ok []
  | t :: ts =>
      if otherTarget target t then resolveStandard w target ts
      else match getElfSourcePath w t with
        | .error e => .error e
        | .ok elf => (resolveStandard w target ts).map fun rest =>
            match elf with
            | some p => if p = [] then rest else (t, p) :: rest
            | none => rest

/-- `prepare_tests(args, standard_targets)`. -/
def prepareTests (args : Args) (w : Workspace) (standardTargets : List Str) :
    Except Raised (List (Str × Str)) :=
  let realTargets := standardTargets.filter fun t => !startswith t riscvTestsPrefix
  let targetsToBuild := if args.skipRiscvTests then realTargets else realTargets ++ [suiteTarget]
  match buildTargets w targetsToBuild with
  | .error e => .error e
  | .ok _ =>
      let riscvTests : Except Raised (List (Str × Str)) :=
        if args.skipRiscvTests then .ok [] else getRiscvTestArtifacts w
      match riscvTests with
      | .error e => .error e
      | .ok riscvTests =>
          (resolveStandard w args.target standardTargets).map fun standard =>
            applyLimit args.limit (riscvTests.filter (fun test => !otherTarget args.target test.1)
              ++ standard)

/-- `main`'s `tests_to_run`: `get_targets(args.limit, args.target)`, then
`prepare_tests`. -/
def testsToRun (args : Args) (w : Workspace) : Except Raised (List (Str × Str)) :=
  match getTargets args.limit args.target w with
  | .error e => .error e
  | .ok standardTargets => prepareTests args w standardTargets

end UvmRegression
