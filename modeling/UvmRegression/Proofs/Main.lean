/-
The whole script: what reaches the report.

# From the catalog to the report

`runMain` lists `get_targets`' output, or runs the Spike check or the
regression over exactly the test cases `prepare_tests` returns
(`runMain_cases`). So, with `--target` unset or empty, nothing the script
lists, suggests for `SPIKE_DENYLIST` or reports is denylisted. Every suggested
target and every row of a written report belongs to a test case of the catalog,
the rows one to one and in order: a rule of the build graph with its default
linker script, or a suite file (`runMain_catalog`).
-/
import UvmRegression.Main
import UvmRegression.Proofs.Discovery
import UvmRegression.Proofs.SpikeCheck

namespace UvmRegression

variable {m : MainArgs} {h : Host}

-- ================================================== the MPACT checkouts

/-- A checkout ends `main` by `sys.exit(1)` or by an exception. -/
theorem checkoutGitCommit_error {repoRoot commit : Str} {e : MainEnd}
    (hc : checkoutGitCommit h repoRoot commit = .error e) :
    e = .noCheckout repoRoot ∨ ∃ e', e = .raised e' := by
  unfold checkoutGitCommit at hc
  split at hc
  · cases hc
    exact .inl rfl
  · split at hc
    · cases hc
    · cases hc
      exact .inl rfl
    · cases hc
      exact .inr ⟨_, rfl⟩

/-- So does the start of `main`. -/
theorem mpactSetup_error {e : MainEnd} (hs : mpactSetup m h = .error e) :
    (∃ r, e = .noCheckout r) ∨ ∃ e', e = .raised e' := by
  unfold mpactSetup at hs
  simp only [bind, Except.bind] at hs
  split at hs
  · rename_i e' he
    split at he
    · rcases checkoutGitCommit_error he with rfl | h' <;> cases hs
      · exact .inl ⟨_, rfl⟩
      · exact .inr h'
    · cases he
  · split at hs
    · rcases checkoutGitCommit_error hs with rfl | h'
      · exact .inl ⟨_, rfl⟩
      · exact .inr h'
    · cases hs

-- ========================================================== the ends

/-- What `main` ends in after the checkouts: an exception, the listing of
`get_targets`' output, no Spike binary, or one of the two modes over the test
cases `prepare_tests` returned, with the Spike binary `build_spike` returned. -/
theorem mainAfterSetup_cases (m : MainArgs) (h : Host) :
    (∃ e, mainAfterSetup m h = .raised e)
      ∨ (∃ ts, getTargets m.args.limit m.args.target h.workspace = .ok ts ∧ mainAfterSetup m h = .listed ts)
      ∨ mainAfterSetup m h = .noSpike
      ∨ ∃ tests spikeBin, testsToRun m.args h.workspace = .ok tests
        ∧ (mainAfterSetup m h = .spikeTimeoutCheck tests
              (runSpikeTimeoutCheck (h.env spikeBin) h.world.outcome 0 tests (h.world.dirs.temp, [])).2
            ∨ mainAfterSetup m h = .regression tests (runFullRegression (h.env spikeBin) h.world tests)) := by
  generalize hr : mainAfterSetup m h = r
  unfold mainAfterSetup at hr
  cases hsts : getTargets m.args.limit m.args.target h.workspace with
  | error e => simp only [hsts] at hr; exact .inl ⟨e, hr.symm⟩
  | ok sts =>
    simp only [hsts] at hr
    by_cases hlt : m.listTargets = true
    · rw [if_pos hlt] at hr
      exact .inr (.inl ⟨sts, rfl, hr.symm⟩)
    rw [if_neg hlt] at hr
    cases hprep : prepareTests m.args h.workspace sts with
    | error e => simp only [hprep] at hr; exact .inl ⟨e, hr.symm⟩
    | ok tests =>
      have ht : testsToRun m.args h.workspace = .ok tests := by simp [testsToRun, hsts, hprep]
      rcases hspike : buildSpike h with e | _ | spikeBin <;> simp only [hprep, hspike] at hr
      · exact .inl ⟨e, hr.symm⟩
      · exact .inr (.inr (.inl hr.symm))
      · split_ifs at hr
        · exact .inr (.inr (.inl hr.symm))
        · exact .inr (.inr (.inr ⟨tests, spikeBin, ht, .inl hr.symm⟩))
        · exact .inr (.inr (.inr ⟨tests, spikeBin, ht, .inr hr.symm⟩))

/-- What a run of `main` ends in: an exception, a failed checkout, the listing
of `get_targets`' output, no Spike binary, or one of the two modes over the
test cases `prepare_tests` returned, with the Spike binary `build_spike`
returned. -/
theorem runMain_cases (m : MainArgs) (h : Host) :
    (∃ e, runMain m h = .raised e)
      ∨ (∃ r, runMain m h = .noCheckout r)
      ∨ (∃ ts, getTargets m.args.limit m.args.target h.workspace = .ok ts ∧ runMain m h = .listed ts)
      ∨ runMain m h = .noSpike
      ∨ ∃ tests spikeBin, testsToRun m.args h.workspace = .ok tests
        ∧ (runMain m h = .spikeTimeoutCheck tests
              (runSpikeTimeoutCheck (h.env spikeBin) h.world.outcome 0 tests (h.world.dirs.temp, [])).2
            ∨ runMain m h = .regression tests (runFullRegression (h.env spikeBin) h.world tests)) := by
  unfold runMain
  cases hs : mpactSetup m h with
  | error e =>
      rcases mpactSetup_error hs with ⟨r, rfl⟩ | ⟨e', rfl⟩
      · exact .inr (.inl ⟨r, rfl⟩)
      · exact .inl ⟨e', rfl⟩
  | ok u =>
      cases u
      rcases mainAfterSetup_cases m h with h1 | h2 | h3 | h4
      exacts [.inl h1, .inr (.inr (.inl h2)), .inr (.inr (.inr (.inl h3))),
        .inr (.inr (.inr (.inr h4)))]

/-- `--list-targets` prints what `get_targets` returned. -/
theorem runMain_listed {ts : List Str} (hl : runMain m h = .listed ts) :
    getTargets m.args.limit m.args.target h.workspace = .ok ts := by
  rcases runMain_cases m h with ⟨_, he⟩ | ⟨_, he⟩ | ⟨_, hts, he⟩ | he | ⟨_, _, -, he | he⟩ <;> rw [hl] at he
    <;> cases he
  exact hts

/-- The Spike check runs over `tests_to_run`. -/
theorem runMain_spikeTimeoutCheck {tests : List (Str × Str)} {failed : List Str}
    (hc : runMain m h = .spikeTimeoutCheck tests failed) :
    testsToRun m.args h.workspace = .ok tests ∧ ∃ spikeBin,
      failed = (runSpikeTimeoutCheck (h.env spikeBin) h.world.outcome 0 tests
        (h.world.dirs.temp, [])).2 := by
  rcases runMain_cases m h with ⟨_, he⟩ | ⟨_, he⟩ | ⟨_, -, he⟩ | he | ⟨_, spikeBin, ht, he | he⟩ <;> rw [hc] at he
    <;> cases he
  exact ⟨ht, spikeBin, rfl⟩

/-- The regression runs over `tests_to_run`. -/
theorem runMain_regression {tests : List (Str × Str)} {r : RegressionEnd}
    (hr : runMain m h = .regression tests r) :
    testsToRun m.args h.workspace = .ok tests
      ∧ ∃ spikeBin, r = runFullRegression (h.env spikeBin) h.world tests := by
  rcases runMain_cases m h with ⟨_, he⟩ | ⟨_, he⟩ | ⟨_, -, he⟩ | he | ⟨_, spikeBin, ht, he | he⟩ <;> rw [hr] at he
    <;> cases he
  exact ⟨ht, spikeBin, rfl⟩

/-- With `--target` unset or empty, no listed target is denylisted; every
target the Spike check suggests names a catalog test case that is not
denylisted; and a written report holds one row per test case, in order, each
naming a catalog test case that is not denylisted. -/
theorem runMain_catalog (m : MainArgs) (h : Host) (hnone : m.args.target.getD [] = []) :
    (∀ ts, runMain m h = .listed ts → ∀ t ∈ ts, t ∉ denylist)
      ∧ (∀ tests failed, runMain m h = .spikeTimeoutCheck tests failed → ∀ t ∈ failed,
        t ∉ denylist ∧ ∃ test ∈ tests, test.1 = t
          ∧ (StandardTest h.workspace test ∨ SuiteTest h.workspace test))
      ∧ ∀ tests r rows, runMain m h = .regression tests r → r.csv = some rows →
        rows.map Row.target = tests.map Prod.fst
          ∧ ∀ row ∈ rows, row.target ∉ denylist ∧ ∃ test ∈ tests, test.1 = row.target
            ∧ (StandardTest h.workspace test ∨ SuiteTest h.workspace test) := by
  have hg := truthyArg_eq_none.2 hnone
  have hcat : ∀ {tests t}, testsToRun m.args h.workspace = .ok tests → t ∈ tests.map Prod.fst →
      t ∉ denylist ∧ ∃ test ∈ tests, test.1 = t
        ∧ (StandardTest h.workspace test ∨ SuiteTest h.workspace test) := fun htests ht => by
    obtain ⟨test, htest, rfl⟩ := List.mem_map.1 ht
    obtain ⟨hdeny, hcat⟩ := catalog_of_mem_testsToRun htests hg htest
    exact ⟨hdeny, test, htest, rfl, hcat⟩
  refine ⟨fun ts hl => getTargets_not_denylisted hg (runMain_listed hl), ?_, ?_⟩
  · intro tests failed hc t ht
    obtain ⟨htests, spikeBin, rfl⟩ := runMain_spikeTimeoutCheck hc
    exact hcat htests ((runSpikeTimeoutCheck_targets_sublist tests _).subset ht)
  · intro tests r rows hr hcsv
    obtain ⟨htests, spikeBin, rfl⟩ := runMain_regression hr
    have hrows := runFullRegression_csv_targets hcsv
    refine ⟨hrows, fun row hrow => hcat htests ?_⟩
    rw [← hrows]
    exact List.mem_map_of_mem Row.target hrow

/-- A host whose workspace also builds Spike, over `twoSourceWorkspace`. -/
def twoSourceHost : Host :=
  ⟨{ twoSourceWorkspace with
      run := fun cmd => if cmd = spikeBuildCommand then .exited 0 [] else twoSourceWorkspace.run cmd },
    fun _ => none, "/w".toList, fun _ => true, "/tmp/uvm_reg".toList,
    fun n => if n = "out/rv32ui-p-add".toList ∨ n = "bin/b.elf".toList then some ⟨"ELF".toList, 420⟩
      else none,
    fun _ => none, 420, ⟨true, none, ⟨fun _ => none, fun _ => none⟩, fun _ => .quiet, none, none⟩⟩

/-- `runMain_catalog` on a full run that reports a suite and a standard test case. -/
theorem runMain_catalog_two_sources :
    let m : MainArgs := ⟨⟨none, none, false⟩, false, false, none, none, none, none⟩
    let tests := [("//third_party/riscv-tests:rv32ui-p-add".toList, "out/rv32ui-p-add".toList),
      ("//a:b".toList, "bin/b.elf".toList)]
    runMain m twoSourceHost = .regression tests (runFullRegression
        ⟨"/w/bazel-bin/external/riscv_isa_sim/riscv_isa_sim/bin/spike".toList, "/tmp/uvm_reg".toList,
          twoSourceHost.sources, 420, "/w".toList, fun _ => none⟩ twoSourceHost.world tests)
      ∧ m.args.target.getD [] = []
      ∧ (∀ ts, runMain m twoSourceHost = .listed ts → ∀ t ∈ ts, t ∉ denylist)
      ∧ (∀ tests failed, runMain m twoSourceHost = .spikeTimeoutCheck tests failed → ∀ t ∈ failed,
        t ∉ denylist ∧ ∃ test ∈ tests, test.1 = t
          ∧ (StandardTest twoSourceHost.workspace test ∨ SuiteTest twoSourceHost.workspace test))
      ∧ ∀ tests r rows, runMain m twoSourceHost = .regression tests r → r.csv = some rows →
        rows.map Row.target = tests.map Prod.fst
          ∧ ∀ row ∈ rows, row.target ∉ denylist ∧ ∃ test ∈ tests, test.1 = row.target
            ∧ (StandardTest twoSourceHost.workspace test ∨ SuiteTest twoSourceHost.workspace test) := by
  intro m tests
  exact ⟨rfl, rfl, runMain_catalog m twoSourceHost rfl⟩

end UvmRegression
