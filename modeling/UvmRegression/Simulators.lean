/-
The two simulator call sites: `generate_spike_log` (the golden trace) and
`run_uvm` (the device simulator with its license retry loop), over the outside
world's answers.

# External processes as outcomes

A subprocess is not run here: what the script can observe of it is an argument.
Spike is a `SpikeRun` — the log could not be opened, the launch raised, the
process outlived its timeout (and was killed, its log holding what it wrote), or
it exited with a code — and which one it is depends on what Spike is started
on (`SpikeLaunch`): its command line (`spikeCommand`: the memory layout of
`get_spike_memory_map_str`, the ISA string, the entry point, the ELF's path),
the timeout, and the contents of the ELF file at that path. The simulator is
one `SimAttempt` per invocation, numbered from 1 as the script's `attempt`:
`subprocess.run` raised, or it completed with an exit code and its two output
streams. Quantifying over these covers every timing and every process
behaviour.

# The retry loop

`attemptLoop` is the `for attempt in range(1, max_retries + 1)` loop: an
attempt is retried only when its exit code is non-zero and its output holds the
license marker, and only while `attempt < max_retries`; an exception ends
`run_uvm` with `EXEC_FAIL`. It reads attempt `n + 1` only after a license
failure at attempt `n`, and no attempt past `max_retries` (`runUvm_congr`).
After license failures at the first two attempts, the third is classified,
whatever it returns (`runUvm_license_exhausted`).
-/
import UvmRegression.Classify

namespace UvmRegression

/-- `SPIKE_DENYLIST`: targets run without a golden trace. -/
def spikeDenylist : List Str :=
  ["//hw_sim:mailbox_example", "//tests/cocotb/exceptions:store_fault_0",
    "//tests/cocotb/rvv:rvv_add", "//tests/cocotb/rvv:rvv_load",
    "//tests/cocotb/rvv:vstart_store", "//tests/cocotb:registers",
    "//tests/cocotb:stress_test", "//tests/cocotb:wfi_slot_0", "//tests/cocotb:wfi_slot_1",
    "//tests/cocotb:wfi_slot_2", "//tests/cocotb:wfi_slot_3"].map String.toList

/-- `TIMEOUT_MAP`: custom simulator timeouts, in nanoseconds. -/
def timeoutMap : List (Str × Nat) :=
  [("//tests/cocotb/rvv/ml_ops:rvv_matmul".toList, 100000000),
    ("//tests/cocotb/rvv/ml_ops:rvv_matmul_assembly".toList, 100000000)]

-- ====================================================== golden traces

/-- What the Spike process did, as `generate_spike_log` observes it. -/
inductive SpikeRun
  /-- `open(log_path, 'w')` raised: no log file is created. -/
  | openFailed (e : Str)
  /-- The log was created, then `Popen` raised: the log stays empty. -/
  | launchFailed (e : Str)
  /-- Spike outlived the timeout and its process group was killed. -/
  | timedOut (out : Str)
  /-- Spike exited with `returncode`, having written `out`. -/
  | exited (returncode : Int) (out : Str)

/-- `generate_spike_log`: whether it returns `True`, and what its log file holds
afterwards (`none`: it was not created). Every exception is caught inside. -/
def generateSpikeLog : SpikeRun → Bool × Option Str
  | .openFailed _ => (false, none)
  | .launchFailed _ => (false, some [])
  | .timedOut out => (false, some out)
  | .exited returncode out => (returncode == 0, some out)

/-- A successful Spike run created its log. -/
theorem generateSpikeLog_log_of_ok {r : SpikeRun} (h : (generateSpikeLog r).1 = true) :
    ∃ out, r = .exited 0 out ∧ (generateSpikeLog r).2 = some out := by
  cases r <;> simp_all [generateSpikeLog]

/-- `SPIKE_MEMORY_REGIONS`: start and length of ITCM, DTCM and DRAM. -/
def spikeMemoryRegions : List (Nat × Nat) :=
  [(0x0, 0x2000), (0x10000, 0x8000), (0x20000000, 0x400000)]

/-- `SPIKE_ISA`. -/
def spikeIsa : Str := "rv32imf_zve32x_zvl128b_zicsr_zifencei_zbb".toList

/-- `format(n, 'x')`: lowercase hexadecimal digits, without leading zeros. -/
def hexFormat (n : Nat) : Str := Nat.toDigits 16 n

/-- `get_spike_memory_map_str()`: each region as `0x<start>:0x<length>`, comma
separated. -/
def getSpikeMemoryMapStr : Str :=
  [','].intercalate (spikeMemoryRegions.map fun (start, length) =>
    "0x".toList ++ hexFormat start ++ ":0x".toList ++ hexFormat length)

example : getSpikeMemoryMapStr = "0x0:0x2000,0x10000:0x8000,0x20000000:0x400000".toList := by
  decide

/-- Spike's command line in `generate_spike_log`. -/
def spikeCommand (spikeBin elfPath : Str) (entryPoint : Nat) : List Str :=
  [spikeBin, "-m".toList ++ getSpikeMemoryMapStr, "--isa=".toList ++ spikeIsa,
    "--misaligned".toList, "-l".toList, "--log-commits".toList,
    "--pc=".toList ++ (Nat.repr entryPoint).toList, elfPath]

/-- The default `timeout` of `generate_spike_log`, in seconds. -/
def spikeTimeout : Nat := 30

/-- What Spike is started on: its command line, the seconds `generate_spike_log`
waits for it, and the contents of the ELF file its command line names (`none`:
there is no file at that path). -/
structure SpikeLaunch where
  cmd : List Str
  timeout : Nat
  elf : Option Str

-- ======================================================== the simulator

/-- One invocation of the simulator through `subprocess.run`. -/
inductive SimAttempt
  /-- `subprocess.run` raised. -/
  | raised (e : Str)
  /-- The process completed. -/
  | completed (returncode : Int) (stdout stderr : Str)

/-- The license server's failure marker. -/
def licenseMarker : Str := "1-800-VERILOG".toList

/-- The attempt loop over the remaining attempt numbers: the exception that
ends it, or the exit code and output of the attempt that broke out of it.
`none` only if the numbers run out after a `continue`. -/
def attemptLoop (sim : Nat → SimAttempt) (maxRetries : Nat) :
    List Nat → Option (Except Str (Int × Str))
  | [] => none
  | attempt :: rest =>
      match sim attempt with
      | .raised e => some (.error e)
      | .completed returncode stdout stderr =>
          let output := stdout ++ stderr
          if returncode ≠ 0 ∧ contains output licenseMarker = true ∧ attempt < maxRetries then
            (attemptLoop sim maxRetries rest).orElse fun _ => some (.ok (returncode, output))
          else some (.ok (returncode, output))

/-- `max_retries` in `run_uvm`. -/
def maxRetries : Nat := 3

/-- `run_uvm`: `BUILD_ARTIFACT_MISSING` without invoking anything when the ELF
is missing, `EXEC_FAIL` when an invocation raised, otherwise the classification
of the last attempt, with its output as the log. -/
def runUvm (elfExists : Bool) (sim : Nat → SimAttempt) : Status × Str × Str :=
  if !elfExists then (.buildArtifactMissing, "ELF file not found".toList, [])
  else match attemptLoop sim maxRetries (List.range' 1 maxRetries) with
    | some (.error e) => (.execFail, e, [])
    | some (.ok (returncode, output)) =>
        ((classify returncode output).1, (classify returncode output).2, output)
    | none =>
        (.execFail, "cannot access local variable 'result' where it is not associated with a value".toList, [])

/-- The simulator's command line in `run_uvm`, from the working directory
`cwd`: the ELF's absolute path, the custom timeout when the target has one, and
the golden trace's absolute path when a non-empty one is passed. -/
def uvmCommand (cwd elfPath : Str) (spikeLogPath : Option Str) (target : Str) : List Str :=
  ["make", "-C", "tests/uvm", "run", "UVM_VERBOSITY=UVM_HIGH"].map String.toList
    ++ ["TEST_ELF=".toList ++ abspath cwd elfPath]
    ++ ((timeoutMap.lookup target).map fun t => "TEST_TIMEOUT_NS=".toList ++ (Nat.repr t).toList).toList
    ++ ((spikeLogPath.filter fun p => !p.isEmpty).map fun p => "SPIKE_LOG=".toList ++ abspath cwd p).toList

/-- The loop ends in an exception only when an attempt raised it. -/
theorem attemptLoop_error {sim : Nat → SimAttempt} {m : Nat} {e : Str} :
    ∀ {attempts : List Nat}, attemptLoop sim m attempts = some (.error e) →
      ∃ n ∈ attempts, sim n = .raised e
  | [], h => by cases h
  | a :: rest, h => by
      simp only [attemptLoop] at h
      cases hs : sim a with
      | raised e' =>
          rw [hs] at h
          cases h
          exact ⟨a, List.mem_cons_self a rest, hs⟩
      | completed rc out err =>
          rw [hs] at h
          dsimp only at h
          split_ifs at h
          · cases hr : attemptLoop sim m rest with
            | none => rw [hr] at h; cases h
            | some r =>
                rw [hr] at h
                cases h
                obtain ⟨n, hn, hsn⟩ := attemptLoop_error hr
                exact ⟨n, List.mem_cons_of_mem a hn, hsn⟩
          · cases h

/-- Every reason `run_uvm` gives is CSV-safe when the text of every exception a
launch raises is. -/
theorem runUvm_csvSafe (elfExists : Bool) {sim : Nat → SimAttempt}
    (h : ∀ n e, sim n = .raised e → CsvSafe e) : CsvSafe (runUvm elfExists sim).2.1 := by
  unfold runUvm
  split_ifs
  · decide
  · split
    · obtain ⟨n, -, hn⟩ := attemptLoop_error ‹_›
      exact h n _ hn
    · exact classify_csvSafe _ _
    · decide

-- ==================================================== the retry policy

/-- An attempt the loop retries after: it completed with a non-zero exit code and
its output holds the license marker. -/
def SimAttempt.licenseFailure : SimAttempt → Bool
  | .raised _ => false
  | .completed returncode stdout stderr =>
      returncode ≠ 0 && contains (stdout ++ stderr) licenseMarker

/-- Only an empty list of attempt numbers leaves the loop without a result. -/
theorem attemptLoop_isSome (sim : Nat → SimAttempt) (m : Nat) :
    ∀ {attempts : List Nat}, attempts ≠ [] → (attemptLoop sim m attempts).isSome
  | a :: rest, _ => by
      unfold attemptLoop
      cases sim a with
      | raised e => rfl
      | completed rc out err =>
          dsimp only
          split_ifs
          · cases attemptLoop sim m rest <;> rfl
          · rfl

/-- A license failure before the last attempt hands over to the next attempt. -/
theorem attemptLoop_retry {sim : Nat → SimAttempt} {m a : Nat} {rest : List Nat}
    (h : (sim a).licenseFailure = true) (ha : a < m) (hrest : rest ≠ []) :
    attemptLoop sim m (a :: rest) = attemptLoop sim m rest := by
  simp only [attemptLoop]
  cases hs : sim a with
  | raised e => simp [hs, SimAttempt.licenseFailure] at h
  | completed rc out err =>
      simp only [hs, SimAttempt.licenseFailure, Bool.and_eq_true, decide_eq_true_eq] at h
      obtain ⟨r, hr⟩ := Option.isSome_iff_exists.1 (attemptLoop_isSome sim m hrest)
      simp [h, ha, hr]

/-- The loop reads attempt `b + 1` only after a license failure at `b`. -/
theorem attemptLoop_congr {sim sim' : Nat → SimAttempt} {m : Nat}
    (hnext : ∀ b, b + 1 ≤ m → (sim b).licenseFailure = true → sim (b + 1) = sim' (b + 1)) :
    ∀ n a, sim a = sim' a → attemptLoop sim m (List.range' a n) = attemptLoop sim' m (List.range' a n)
  | 0, _, _ => rfl
  | n + 1, a, ha => by
      rw [List.range'_succ]
      unfold attemptLoop
      rw [← ha]
      cases hs : sim a with
      | raised e => rfl
      | completed rc out err =>
          dsimp only
          split_ifs with hc
          · have hfail : (sim a).licenseFailure = true := by
              simp [hs, SimAttempt.licenseFailure, hc.1, hc.2.1]
            rw [attemptLoop_congr hnext n (a + 1) (hnext a hc.2.2 hfail)]
          · rfl

/-- The retry policy: `run_uvm` reads attempt 1, and attempt `n + 1` only after a
license failure at attempt `n < max_retries`; it never reads a later attempt. -/
theorem runUvm_congr (elfExists : Bool) {sim sim' : Nat → SimAttempt} (h1 : sim 1 = sim' 1)
    (hnext : ∀ n, n + 1 ≤ maxRetries → (sim n).licenseFailure = true → sim (n + 1) = sim' (n + 1)) :
    runUvm elfExists sim = runUvm elfExists sim' := by
  simp only [runUvm, attemptLoop_congr hnext maxRetries 1 h1]

/-- `runUvm_congr` on two simulators that differ from the second attempt on: a
first attempt that passes is never retried. -/
theorem runUvm_congr_first_pass :
    (fun _ => .completed 0 [] [] : Nat → SimAttempt) 1 = (fun n => if n = 1 then .completed 0 [] []
        else .raised "unreached".toList : Nat → SimAttempt) 1
      ∧ runUvm true (fun _ => .completed 0 [] []) = runUvm true (fun n => if n = 1 then
          .completed 0 [] [] else .raised "unreached".toList) :=
  ⟨rfl, runUvm_congr true rfl fun _ _ h => by simp [SimAttempt.licenseFailure] at h⟩

/-- A first attempt that is not a license failure is the one classified. -/
theorem runUvm_of_first {sim : Nat → SimAttempt} {returncode : Int} {stdout stderr : Str}
    (h1 : sim 1 = .completed returncode stdout stderr) (hl : (sim 1).licenseFailure = false) :
    runUvm true sim = ((classify returncode (stdout ++ stderr)).1,
      (classify returncode (stdout ++ stderr)).2, stdout ++ stderr) := by
  rw [h1] at hl
  have hloop : attemptLoop sim maxRetries (List.range' 1 maxRetries)
      = some (.ok (returncode, stdout ++ stderr)) := by
    rw [show List.range' 1 maxRetries = [1, 2, 3] from rfl]
    simp only [attemptLoop, h1]
    rw [if_neg]
    rintro ⟨h0, hc, -⟩
    simp [SimAttempt.licenseFailure, h0, hc] at hl
  simp [runUvm, hloop]

/-- Retries exhausted: after license failures at attempts 1 and 2, the third
attempt is the one classified, whatever it returns. -/
theorem runUvm_license_exhausted {sim : Nat → SimAttempt} {returncode : Int} {stdout stderr : Str}
    (h1 : (sim 1).licenseFailure = true) (h2 : (sim 2).licenseFailure = true)
    (h3 : sim 3 = .completed returncode stdout stderr) :
    runUvm true sim = ((classify returncode (stdout ++ stderr)).1,
      (classify returncode (stdout ++ stderr)).2, stdout ++ stderr) := by
  have hloop : attemptLoop sim maxRetries (List.range' 1 maxRetries)
      = some (.ok (returncode, stdout ++ stderr)) := by
    rw [show List.range' 1 maxRetries = [1, 2, 3] from rfl,
      attemptLoop_retry h1 (by decide) (by simp), attemptLoop_retry h2 (by decide) (by simp)]
    simp [attemptLoop, h3, maxRetries]
  simp [runUvm, hloop]

/-- `runUvm_license_exhausted` on a simulator that fails on the license every time. -/
theorem runUvm_license_exhausted_always :
    let sim : Nat → SimAttempt := fun _ => .completed 1 "1-800-VERILOG".toList []
    (sim 1).licenseFailure = true ∧ (sim 2).licenseFailure = true
      ∧ runUvm true sim = ((classify 1 "1-800-VERILOG".toList).1,
        (classify 1 "1-800-VERILOG".toList).2, "1-800-VERILOG".toList) := by
  intro sim
  have h1 : (sim 1).licenseFailure = true := by decide
  have h2 : (sim 2).licenseFailure = true := by decide
  exact ⟨h1, h2, runUvm_license_exhausted h1 h2 rfl⟩

end UvmRegression
