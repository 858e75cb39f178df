/-
What one iteration of `run_full_regression` does, stated once per function so
that the run-level proofs (Loop.lean) never unfold the body.

# The files of an iteration

An iteration writes the logs directory at three names only — its log,
`<stem>.elf.spike.log` and `<stem>.elf.spike.log.fail` (`logsNames`) — and the
log last (`processTest_ok`, `processTest_logs_frame`). In the temporary
directory it writes its copy and its trace.

# The exception of the `try` block

The block raises exactly when one of its steps does, each step reached only
when the ones before got through: the removal of a stale copy, the copy, the
`chmod`, the removal of a stale trace, the save of the log Spike wrote
(`SetupRaises`, `trySetup_error_iff`). The two removals are the only steps that
read the directory, and only whether a file of that name is there.

# The call of `run_uvm`

`FreshCall` is everything `run_uvm` is handed, read off the directory it sees
and its command line: the copy of this iteration's artifact with mode `0o755`,
and a golden trace exactly when Spike applies and its run on that copy
succeeded, holding that run's output; the command line names the copy and,
exactly when one is passed, the trace, by absolute path. It holds for whatever
the directories held when the iteration started (`testVerdict_call`): nothing
an earlier iteration left behind reaches `run_uvm` or Spike, because the copy is
rewritten before Spike reads it and the trace removed before Spike writes it,
and Spike's trace name never equals the copy's.
-/
import UvmRegression.Regression

namespace UvmRegression

variable {env : Env} {o : Outcome}

-- ============================================================ vocabulary

/-- The golden trace is attempted: a Spike binary, and the target is not
denylisted. -/
def spikeApplies (env : Env) (target : Str) : Prop :=
  env.spikeBin ≠ [] ∧ target ∉ spikeDenylist

instance (env : Env) (target : Str) : Decidable (spikeApplies env target) :=
  inferInstanceAs (Decidable (_ ∧ _))

/-- The exception the `try` block of `target` raises, from a temporary
directory holding `temp` when the iteration starts: removing a stale copy,
copying the artifact, setting its mode, removing a stale trace, or saving the
log Spike wrote, each step reached only when the steps before it got through. -/
def SetupRaises (env : Env) (o : Outcome) (target : Str) (src : File) (temp : Dir File)
    (err : Str) : Prop :=
  (temp (safeName target)).isSome ∧ o.removeElf = some err
    ∨ ((temp (safeName target)).isSome → o.removeElf = none) ∧ (o.copyElf = some err
      ∨ o.copyElf = none ∧ (o.chmodElf = some err
        ∨ o.chmodElf = none ∧ spikeApplies env target
          ∧ ((temp (spikeLogName target)).isSome ∧ o.removeTrace = some err
            ∨ ((temp (spikeLogName target)).isSome → o.removeTrace = none)
              ∧ (generateSpikeLog (o.spike (freshLaunch env target src spikeTimeout))).2.isSome
              ∧ o.saveTrace = some err)))

-- ================================================================ names

/-- The trace's name is the copy's name with `.spike.log` appended. -/
theorem safeName_ne_spikeLogName (target : Str) : safeName target ≠ spikeLogName target := by
  intro h
  have := congrArg List.length h
  simp [spikeLogName] at this

/-- Spike reads only the copy's name. -/
theorem spikeLaunch_congr {target : Str} {e n : Nat} {temp temp' : Dir File}
    (h : temp (safeName target) = temp' (safeName target)) :
    spikeLaunch env target e n temp = spikeLaunch env target e n temp' := by
  simp only [spikeLaunch, h]

-- ========================================================== stale files

/-- A removal that did not raise leaves the name free and the rest alone. -/
theorem removeIfExists_ok {err : Option Str} {n : Str} {d d' : Dir File}
    (h : removeIfExists err n d = .ok d') : d' n = none ∧ ∀ m, m ≠ n → d' m = d m := by
  unfold removeIfExists at h
  split at h
  · cases err <;> cases h
    exact ⟨Dir.erase_self _ _, fun m hm => Dir.erase_ne _ hm⟩
  · cases h
    exact ⟨Option.not_isSome_iff_eq_none.mp ‹_›, fun _ _ => rfl⟩

/-- A removal raises exactly when the file is there and its removal raises. -/
theorem removeIfExists_eq_error {err : Option Str} {n : Str} {d : Dir File} {e : Str} :
    removeIfExists err n d = .error e ↔ (d n).isSome ∧ err = some e := by
  unfold removeIfExists
  split <;> rename_i h
  · cases err <;> simp [h]
  · simp [h]

/-- A removal that got through did not raise, and could not have. -/
theorem removeIfExists_ok_quiet {err : Option Str} {n : Str} {d d' : Dir File} {e : Str}
    (h : removeIfExists err n d = .ok d') :
    ¬((d n).isSome ∧ err = some e) ∧ ((d n).isSome → err = none) := by
  refine ⟨fun hs => (by rw [removeIfExists_eq_error.2 hs] at h; cases h), fun hn => ?_⟩
  cases err with
  | none => rfl
  | some e' => rw [removeIfExists_eq_error.2 ⟨hn, rfl⟩] at h; cases h

/-- The golden trace once Spike applies and the stale trace is gone: Spike is
started on the copy the directory held, its log, if it made one, is the only
file at the trace's name, and it is saved under `.spike.log` or
`.spike.log.fail`. -/
theorem goldenTrace_eq (target : Str) (e : Nat) (d : Dirs) {temp : Dir File}
    (ha : spikeApplies env target)
    (hr : removeIfExists o.removeTrace (spikeLogName target) d.temp = .ok temp) :
    goldenTrace env o target e d =
      match (generateSpikeLog (o.spike (spikeLaunch env target e spikeTimeout d.temp))).2 with
      | none => ({ d with temp }, .ok none)
      | some out =>
          let ok := (generateSpikeLog (o.spike (spikeLaunch env target e spikeTimeout d.temp))).1
          let dest := if ok then spikeLogName target else spikeLogName target ++ ".fail".toList
          let temp := temp.write (spikeLogName target) ⟨out, env.createMode⟩
          match o.saveTrace with
          | some err => ({ temp, logs := d.logs.writeSome dest o.saveTraceLeaves }, .error err)
          | none => ({ temp, logs := d.logs.write dest out },
              .ok (if ok then some (spikeLogName target) else none)) := by
  have hfree := (removeIfExists_ok hr).1
  rw [← spikeLaunch_congr ((removeIfExists_ok hr).2 _ (safeName_ne_spikeLogName target))]
  unfold goldenTrace
  dsimp only
  rw [if_neg (not_or.mpr ha), hr]
  rcases hg : generateSpikeLog (o.spike (spikeLaunch env target e spikeTimeout temp)) with
    ⟨ok, _ | out⟩
  · simp [hg, hfree]
  · cases o.saveTrace <;> simp only [hg, Dir.write_self]

/-- Without Spike, or for a denylisted target, nothing happens. -/
theorem goldenTrace_of_not_applies (target : Str) (e : Nat) (d : Dirs)
    (ha : ¬spikeApplies env target) : goldenTrace env o target e d = (d, .ok none) := by
  unfold goldenTrace spikeApplies at *
  rw [if_pos]
  by_contra h
  exact ha (not_or.mp h)

/-- A stale trace that cannot be removed ends the block. -/
theorem goldenTrace_of_remove_error (target : Str) (e : Nat) (d : Dirs) {err : Str}
    (ha : spikeApplies env target)
    (hr : removeIfExists o.removeTrace (spikeLogName target) d.temp = .error err) :
    goldenTrace env o target e d = (d, .error err) := by
  unfold goldenTrace
  dsimp only
  rw [if_neg (not_or.mpr ha), hr]

/-- The golden trace writes the temporary directory at the trace's name only. -/
theorem goldenTrace_temp_frame (target : Str) (e : Nat) (d : Dirs) {m : Str}
    (h : m ≠ spikeLogName target) : (goldenTrace env o target e d).1.temp m = d.temp m := by
  by_cases ha : spikeApplies env target
  · cases hr : removeIfExists o.removeTrace (spikeLogName target) d.temp with
    | error err => rw [goldenTrace_of_remove_error target e d ha hr]
    | ok temp =>
        have hm := (removeIfExists_ok hr).2 m h
        rw [goldenTrace_eq target e d ha hr]
        split
        · exact hm
        · split <;> simp [h, hm]
  · rw [goldenTrace_of_not_applies target e d ha]

/-- The path the golden trace hands to `run_uvm`: present exactly when Spike
applies and its run on the directory's copy succeeded, and then naming a file
that holds that run's output. -/
theorem goldenTrace_ok (target : Str) (e : Nat) (d : Dirs) {p : Option Str}
    (h : (goldenTrace env o target e d).2 = .ok p) :
    (p.isSome ↔ spikeApplies env target
        ∧ (generateSpikeLog (o.spike (spikeLaunch env target e spikeTimeout d.temp))).1 = true)
      ∧ ∀ n, p = some n → n = spikeLogName target
        ∧ ∃ out, o.spike (spikeLaunch env target e spikeTimeout d.temp) = .exited 0 out
          ∧ (goldenTrace env o target e d).1.temp n = some ⟨out, env.createMode⟩ := by
  by_cases ha : spikeApplies env target
  · cases hr : removeIfExists o.removeTrace (spikeLogName target) d.temp with
    | error err => rw [goldenTrace_of_remove_error target e d ha hr] at h; cases h
    | ok temp =>
        rw [goldenTrace_eq target e d ha hr] at h ⊢
        revert h
        cases o.spike (spikeLaunch env target e spikeTimeout d.temp) with
        | exited rc out =>
            by_cases hrc : rc = 0 <;> cases o.saveTrace <;> simp [generateSpikeLog, hrc, ha] <;>
              rintro rfl <;> simp
        | _ => cases o.saveTrace <;> simp [generateSpikeLog] <;> rintro rfl <;> simp
  · rw [goldenTrace_of_not_applies target e d ha] at h ⊢
    cases h
    simp [ha]

/-- The golden trace of a directory holding a copy of `src`, Spike started from
the copy's entry point, raises exactly when Spike applies and the removal of a
stale trace, or the save of the log Spike wrote, raises. -/
theorem goldenTrace_error_iff {target : Str} {src : File} {d : Dirs} {m : Nat} {err : Str}
    (hcopy : d.temp (safeName target) = some { src with mode := m }) :
    (goldenTrace env o target (getEntryPoint env (some src.data)) d).2 = .error err
      ↔ spikeApplies env target
        ∧ ((d.temp (spikeLogName target)).isSome ∧ o.removeTrace = some err
          ∨ ((d.temp (spikeLogName target)).isSome → o.removeTrace = none)
            ∧ (generateSpikeLog (o.spike (freshLaunch env target src spikeTimeout))).2.isSome
            ∧ o.saveTrace = some err) := by
  by_cases ha : spikeApplies env target
  · rw [← spikeLaunch_of_copy hcopy spikeTimeout]
    cases hr : removeIfExists o.removeTrace (spikeLogName target) d.temp with
    | error e =>
        obtain ⟨hs, he⟩ := removeIfExists_eq_error.1 hr
        rw [goldenTrace_of_remove_error _ _ d ha hr]
        simp [ha, hs, he]
    | ok temp =>
        obtain ⟨hstale, hnone⟩ := removeIfExists_ok_quiet (e := err) hr
        rw [goldenTrace_eq _ _ d ha hr, or_iff_right hstale, and_iff_right hnone]
        cases (generateSpikeLog (o.spike (spikeLaunch env target (getEntryPoint env (some src.data))
          spikeTimeout d.temp))).2 <;> cases o.saveTrace <;> simp [ha]
  · rw [goldenTrace_of_not_applies _ _ d ha]
    simp [ha]

-- ========================================================= the try block

/-- A `try` block that got through reached the golden trace with a fresh copy
in place, Spike started from the copy's entry point. -/
theorem trySetup_ok_inv {target : Str} {src : File} {d : Dirs} {p : Option Str}
    (h : (trySetup env o target src d).2 = .ok p) :
    ∃ temp, removeIfExists o.removeElf (safeName target) d.temp = .ok temp
      ∧ trySetup env o target src d = goldenTrace env o target (getEntryPoint env (some src.data))
          { d with temp := temp.write (safeName target) { src with mode := 0o755 } } := by
  unfold trySetup at h ⊢
  dsimp only at h ⊢
  cases hr : removeIfExists o.removeElf (safeName target) d.temp with
  | error e => rw [hr] at h; cases h
  | ok temp =>
      rw [hr] at h
      refine ⟨temp, rfl, ?_⟩
      cases hc : o.copyElf <;> cases hm : o.chmodElf
        <;> simp only [hc, hm, Dir.write_self, Option.map_some'] at h ⊢ <;> cases h

/-- The `try` block raises exactly the exception `SetupRaises` names, from the
temporary directory it starts with. -/
theorem trySetup_error_iff {target : Str} {src : File} {d : Dirs} {err : Str} :
    (trySetup env o target src d).2 = .error err ↔ SetupRaises env o target src d.temp err := by
  unfold trySetup SetupRaises
  dsimp only
  cases hr : removeIfExists o.removeElf (safeName target) d.temp with
  | error e =>
      obtain ⟨hs, he⟩ := removeIfExists_eq_error.1 hr
      simp [hs, he]
  | ok temp =>
      obtain ⟨hstale, hnone⟩ := removeIfExists_ok_quiet (e := err) hr
      rw [or_iff_right hstale, and_iff_right hnone]
      cases o.copyElf with
      | some e => simp
      | none =>
          cases o.chmodElf with
          | some e => simp
          | none =>
              have hframe : (temp.write (safeName target) { src with mode := 0o755 })
                  (spikeLogName target) = d.temp (spikeLogName target) := by
                rw [Dir.write_ne _ _ (safeName_ne_spikeLogName target).symm,
                  (removeIfExists_ok hr).2 _ (safeName_ne_spikeLogName target).symm]
              simp only [Dir.write_self, Option.map_some']
              rw [goldenTrace_error_iff (Dir.write_self _ _ _)]
              simp [hframe]

/-- What a `try` block that got through hands to `run_uvm`: the copy, with mode
`0o755`, and the golden trace of `goldenTrace_ok`, Spike started on that copy. -/
theorem trySetup_ok {target : Str} {src : File} {d : Dirs} {p : Option Str}
    (h : (trySetup env o target src d).2 = .ok p) :
    (trySetup env o target src d).1.temp (safeName target) = some { src with mode := 0o755 }
      ∧ (p.isSome ↔ spikeApplies env target
        ∧ (generateSpikeLog (o.spike (freshLaunch env target src spikeTimeout))).1 = true)
      ∧ ∀ n, p = some n → n = spikeLogName target
        ∧ ∃ out, o.spike (freshLaunch env target src spikeTimeout) = .exited 0 out
          ∧ (trySetup env o target src d).1.temp n = some ⟨out, env.createMode⟩ := by
  obtain ⟨temp, -, heq⟩ := trySetup_ok_inv h
  rw [heq] at h ⊢
  have hg := goldenTrace_ok target _ _ h
  rw [spikeLaunch_of_copy (Dir.write_self _ _ _) spikeTimeout] at hg
  exact ⟨by rw [goldenTrace_temp_frame target _ _ (safeName_ne_spikeLogName target)]; simp, hg⟩

/-- None of the `try` block's file operations raises. -/
def Outcome.SetupQuiet (o : Outcome) : Prop :=
  o.removeElf = none ∧ o.copyElf = none ∧ o.chmodElf = none ∧ o.removeTrace = none
    ∧ o.saveTrace = none

/-- A `try` block whose file operations do not raise gets through, whatever
Spike does. -/
theorem trySetup_ok_of_quiet {target : Str} {src : File} {d : Dirs} (hq : o.SetupQuiet) :
    ∃ p, (trySetup env o target src d).2 = .ok p := by
  obtain ⟨hr, hc, hm, hrt, hs⟩ := hq
  cases h : (trySetup env o target src d).2 with
  | ok p => exact ⟨p, rfl⟩
  | error err =>
      rcases trySetup_error_iff.1 h with ⟨-, he⟩ | ⟨-, he | ⟨-, he | ⟨-, -, ⟨-, he⟩ | ⟨-, -, he⟩⟩⟩⟩ <;>
        simp [hr, hc, hm, hrt, hs] at he

-- ============================================================= one test

/-- An exception out of the `try` block becomes a `FAIL` verdict carrying its
text. -/
theorem testVerdict_setup_error {i : Nat} {target srcElf : Str} {d : Dirs} {src : File} {e : Str}
    (hsrc : sourceArtifact env srcElf = some src) (h : (trySetup env o target src d).2 = .error e) :
    (testVerdict env o i target srcElf d).status = .fail
      ∧ (testVerdict env o i target srcElf d).reason = "Copy/Setup failed: ".toList ++ e
      ∧ (testVerdict env o i target srcElf d).log = e := by
  unfold testVerdict
  rw [hsrc]
  dsimp only
  rcases hts : trySetup env o target src d with ⟨d', x⟩
  rw [hts] at h
  cases h
  exact ⟨rfl, rfl, rfl⟩

/-- When the `try` block's file operations do not raise and the first simulator
attempt is not a license failure, the verdict is that attempt's
classification. -/
theorem testVerdict_of_first {i : Nat} {target srcElf : Str} {d : Dirs} {src : File}
    {returncode : Int} {stdout stderr : Str} (hsrc : sourceArtifact env srcElf = some src)
    (hq : o.SetupQuiet) (h1 : o.sim 1 = .completed returncode stdout stderr)
    (hl : (o.sim 1).licenseFailure = false) :
    (testVerdict env o i target srcElf d).status = (classify returncode (stdout ++ stderr)).1
      ∧ (testVerdict env o i target srcElf d).reason
        = (classify returncode (stdout ++ stderr)).2 := by
  obtain ⟨p, hp⟩ := @trySetup_ok_of_quiet env o target src d hq
  have hcopy := (trySetup_ok hp).1
  unfold testVerdict
  rw [hsrc]
  dsimp only
  rcases hts : trySetup env o target src d with ⟨d', x⟩
  rw [hts] at hp hcopy
  dsimp only at hcopy
  cases hp
  simp [hcopy, runUvm_of_first h1 hl]

-- ===================================================== exception texts

/-- The exception texts an iteration's outcomes can raise with: the file
operations of the `try` block, and the simulator's launches. -/
def Outcome.Raises (o : Outcome) (e : Str) : Prop :=
  some e ∈ [o.removeElf, o.copyElf, o.chmodElf, o.removeTrace, o.saveTrace]
    ∨ ∃ n, o.sim n = .raised e

/-- The `try` block raises only with one of its operations' texts. -/
theorem trySetup_error {target : Str} {src : File} {d : Dirs} {e : Str}
    (h : (trySetup env o target src d).2 = .error e) : o.Raises e := by
  refine .inl ?_
  rcases trySetup_error_iff.1 h with ⟨-, he⟩ | ⟨-, he | ⟨-, he | ⟨-, -, ⟨-, he⟩ | ⟨-, -, he⟩⟩⟩⟩
    <;> simp [he]

/-- Every reason of an iteration is CSV-safe when every text its outcomes can
raise with is. -/
theorem testVerdict_csvSafe {i : Nat} {target srcElf : Str} {d : Dirs}
    (h : ∀ e, o.Raises e → CsvSafe e) : CsvSafe (testVerdict env o i target srcElf d).reason := by
  unfold testVerdict
  split
  · exact (by decide : CsvSafe "ELF source not found (Build failed?)".toList)
  · split
    · rename_i hts
      exact csvSafe_append (by decide) (h _ (trySetup_error (congrArg Prod.snd hts)))
    · exact runUvm_csvSafe _ fun n e hn => h e (.inr ⟨n, hn⟩)

-- ======================================================= the log write

variable {i : Nat} {s : RegState} {test : Str × Str}

/-- The iteration ends the run exactly when its log write raises. -/
theorem processTest_snd (env : Env) (o : Outcome) (i : Nat) (s : RegState) (test : Str × Str) :
    (processTest env o i s test).2 = o.writeLog := by
  unfold processTest
  split <;> simp_all

/-- `status` holds the iteration's verdict. -/
theorem processTest_status :
    (processTest env o i s test).1.status = some (testVerdict env o i test.1 test.2 s.dirs).status := by
  unfold processTest
  split <;> rfl

/-- A completed iteration appends its row, its raw log, and writes its log
file. -/
theorem processTest_ok (env : Env) (i : Nat) (s : RegState) (test : Str × Str) (h : o.writeLog = none) :
    let v := testVerdict env o i test.1 test.2 s.dirs
    (processTest env o i s test).1.results
        = s.results ++ [⟨test.1, v.status, v.reason, pathJoin "logs".toList (logFilename test.1)⟩]
      ∧ (processTest env o i s test).1.rawLogs = s.rawLogs ++ [v.log]
      ∧ (processTest env o i s test).1.dirs.logs = v.dirs.logs.write (logFilename test.1) v.log := by
  unfold processTest
  rw [h]
  exact ⟨rfl, rfl, rfl⟩

end UvmRegression
