/-
What discovery returns: where each test case comes from, and when no identifier
is found twice.

# Where test cases come from

`get_targets` keeps a rule exactly when `keptTarget` does, so its result is a
sorted sublist of the query's labels. `get_riscv_test_artifacts` keeps a walked
file exactly when `suiteArtifact` does. `prepare_tests` keeps the suite's
artifacts that `--target` allows, then every standard target that `--target`
allows and whose artifact `get_elf_source_path` finds (`mem_testsToRun`). With
no `--target`, each is a rule of the build graph with the default linker script
or a suite file, and none is denylisted (`catalog_of_mem_testsToRun`).
`if target:` and `args.target and ...` test truthiness, so an empty `--target`
counts as none and discovery runs in full (`testsToRun_empty_target`).

# Distinct identifiers

A pseudo-target is made from a file's bare name, so the same `rv32` name in two
walked directories gives one identifier twice (`testsToRun_suite_duplicate`).
The standard loop resolves every standard target, pseudo-targets included, so
a suite identifier is repeated there too when its query lists an `.elf`. With
these two ruled out, and with the build graph listing each rule once, the
identifiers are pairwise distinct (`testsToRun_targets_nodup`).
-/
import UvmRegression.Discovery
import UvmRegression.Proofs.Loop

namespace UvmRegression

variable {w : Workspace}

-- ================================================== the outside world

/-- A checked run succeeds exactly when the process exits with code 0. -/
@[simp] theorem runChecked_eq_ok {cmd : List Str} {s : Str} :
    w.runChecked cmd = .ok s ↔ w.run cmd = .exited 0 s := by
  unfold Workspace.runChecked
  cases w.run cmd with
  | raised e => simp
  | exited rc out => by_cases h : rc = 0 <;> simp [h]

/-- What `Except.map` returns on success. -/
theorem except_map_eq_ok {f : α → β} {r : Except ε α} {b : β} :
    r.map f = .ok b ↔ ∃ a, r = .ok a ∧ f a = b := by
  cases r <;> simp [Except.map]

/-- A caught `CalledProcessError` gives the fallback; anything else passes. -/
theorem catchCalledProcessError_eq_ok {x y : α} {r : Except Raised α}
    (h : catchCalledProcessError x r = .ok y) : r = .ok y ∨ y = x := by
  rcases r with (_ | _ | _) | a <;> simp_all [catchCalledProcessError]

-- ============================================================ Python

/-- The truthy `--target` values are the non-empty ones. -/
theorem truthyArg_eq_none {target : Option Str} :
    truthyArg target = none ↔ target.getD [] = [] := by
  rcases target with _ | t <;> simp [truthyArg]

/-- A truthy `--target` is the value given. -/
theorem truthyArg_eq_some {target : Option Str} {t : Str} :
    truthyArg target = some t ↔ target = some t ∧ t ≠ [] := by
  rcases target with _ | t'
  · simp [truthyArg]
  · by_cases h : t' = []
    · subst h; simp [truthyArg]
    · simp only [truthyArg, h, ↓reduceIte, Option.some.injEq]
      exact ⟨fun e => ⟨e, e ▸ h⟩, And.left⟩

/-- `--target` rules out a label exactly when it is given and differs. -/
theorem otherTarget_eq_false {target : Option Str} {t : Str} :
    otherTarget target t = false ↔ ∀ given, truthyArg target = some given → t = given := by
  unfold otherTarget
  cases truthyArg target with
  | none => simp
  | some given =>
      simp only [decide_eq_false_iff_not, ne_eq, not_not, Option.some.injEq, forall_eq']
      exact eq_comm

/-- Limiting keeps a prefix. -/
theorem applyLimit_sublist (limit : Option Int) (xs : List α) : (applyLimit limit xs).Sublist xs := by
  unfold applyLimit
  split
  · split_ifs
    · exact List.take_sublist _ xs
    · exact .refl xs
  · exact .refl xs

/-- Sorting permutes. -/
theorem sortedBy_perm (le : α → α → Bool) (xs : List α) : (sortedBy le xs).Perm xs :=
  List.perm_insertionSort _ xs

/-- A `filterMap` that keeps less keeps a sublist. -/
theorem filterMap_sublist_filterMap {f g : α → Option β}
    (hfg : ∀ a b, f a = some b → g a = some b) :
    ∀ l : List α, (l.filterMap f).Sublist (l.filterMap g)
  | [] => .slnil
  | a :: l => by
      have ih := filterMap_sublist_filterMap hfg l
      cases hf : f a with
      | none =>
          rw [List.filterMap_cons_none hf]
          cases hg : g a with
          | none => rwa [List.filterMap_cons_none hg]
          | some b => rw [List.filterMap_cons_some hg]; exact ih.cons b
      | some b =>
          rw [List.filterMap_cons_some hf, List.filterMap_cons_some (hfg a b hf)]
          exact ih.cons_cons b

/-- A `flatMap` of sublists is a sublist. -/
theorem flatMap_sublist_flatMap {f g : α → List β} (hfg : ∀ a, (f a).Sublist (g a)) :
    ∀ l : List α, (l.flatMap f).Sublist (l.flatMap g)
  | [] => .slnil
  | a :: l => by
      simpa only [List.flatMap_cons] using (hfg a).append (flatMap_sublist_flatMap hfg l)

-- ======================================================= get_targets

/-- The label `get_targets` keeps of a rule, if it keeps it. -/
def keptTarget (rule : Element) : Option Str :=
  (rule.attr "name").bind fun name =>
    if name ∈ denylist then none
    else (linkerScriptElem rule).bind fun elem =>
      (elem.attr "value").bind fun linkerScript =>
        if linkerScript = expectedLinkerScript name then some name else none

/-- The labels of the query's rules, in order. -/
def ruleNames (root : Element) : List Str :=
  (root.findall "rule").filterMap fun rule => rule.attr "name"

/-- A kept label: a rule's own, not denylisted, with the default linker script. -/
theorem keptTarget_eq_some {rule : Element} {t : Str} :
    keptTarget rule = some t ↔ rule.attr "name" = some t ∧ t ∉ denylist
      ∧ ∃ elem, linkerScriptElem rule = some elem
        ∧ elem.attr "value" = some (expectedLinkerScript t) := by
  simp [keptTarget, Option.bind_eq_some]
  constructor
  · rintro ⟨name, hname, hdeny, elem, helem, value, hvalue, rfl, rfl⟩
    exact ⟨hname, hdeny, elem, helem, hvalue⟩
  · rintro ⟨hname, hdeny, elem, helem, hvalue⟩
    exact ⟨t, hname, hdeny, elem, helem, _, hvalue, rfl, rfl⟩

/-- One rule of the loop: what it adds, if no `KeyError` stops the loop. -/
theorem collectTargets_cons {rule : Element} {rules : List Element} {ts : List Str}
    (h : collectTargets (rule :: rules) = .ok ts) :
    ∃ rest, collectTargets rules = .ok rest ∧ ts = (keptTarget rule).toList ++ rest := by
  unfold collectTargets at h
  cases hname : rule.attr "name" with
  | none => simp [hname] at h
  | some name =>
      simp only [hname] at h
      by_cases hdeny : name ∈ denylist
      · simp only [hdeny, ↓reduceIte] at h
        exact ⟨ts, h, by simp [keptTarget, hname, hdeny]⟩
      cases helem : linkerScriptElem rule with
      | none => simp only [hdeny, helem, ↓reduceIte] at h
                exact ⟨ts, h, by simp [keptTarget, hname, hdeny, helem]⟩
      | some elem =>
          cases hvalue : elem.attr "value" with
          | none => simp [hdeny, helem, hvalue] at h
          | some value =>
              simp only [hdeny, helem, hvalue, ↓reduceIte] at h
              by_cases hls : value = expectedLinkerScript name
              · obtain ⟨rest, hrest, rfl⟩ := except_map_eq_ok.1 (by simpa [hls] using h)
                exact ⟨rest, hrest, by simp [keptTarget, hname, hdeny, helem, hvalue, hls]⟩
              · simp only [hls, ↓reduceIte] at h
                exact ⟨ts, h, by simp [keptTarget, hname, hdeny, helem, hvalue, hls]⟩

/-- The loop of `get_targets` keeps exactly the rules `keptTarget` keeps. -/
theorem collectTargets_eq {ts : List Str} :
    ∀ {rules : List Element}, collectTargets rules = .ok ts → ts = rules.filterMap keptTarget
  | [], h => by cases h; rfl
  | rule :: rules, h => by
      obtain ⟨rest, hrest, rfl⟩ := collectTargets_cons h
      rw [collectTargets_eq hrest, List.filterMap_cons]
      cases keptTarget rule <;> rfl

/-- `get_targets` with a truthy `--target` returns just it. -/
theorem getTargets_of_given {limit : Option Int} {target : Option Str} {t : Str}
    (h : truthyArg target = some t) : getTargets limit target w = .ok [t] := by
  simp [getTargets, h]

/-- Without a truthy `--target`, `get_targets` returns part of the sorted
labels of the rules it keeps. -/
theorem getTargets_of_not_given {limit : Option Int} {target : Option Str} {ts : List Str}
    (h : truthyArg target = none) (hts : getTargets limit target w = .ok ts) :
    ∃ stdout root, w.run queryCommand = .exited 0 stdout ∧ w.parseXml stdout = .ok root
      ∧ ts.Sublist (sortedBy strLe ((root.findall "rule").filterMap keptTarget)) := by
  unfold getTargets at hts
  rw [h] at hts
  rcases hq : w.runChecked queryCommand with e | stdout <;> rw [hq] at hts
  · cases hts
  rcases hp : w.parseXml stdout with e | root <;> simp only [hp] at hts
  · cases hts
  obtain ⟨cs, hcs, rfl⟩ := except_map_eq_ok.1 hts
  exact ⟨stdout, root, runChecked_eq_ok.1 hq, hp,
    collectTargets_eq hcs ▸ applyLimit_sublist limit _⟩

/-- `get_targets` repeats no label when the query lists each rule once. -/
theorem getTargets_nodup {limit : Option Int} {target : Option Str} {ts : List Str}
    (hrules : ∀ stdout root, w.run queryCommand = .exited 0 stdout → w.parseXml stdout = .ok root →
      (ruleNames root).Nodup)
    (hts : getTargets limit target w = .ok ts) : ts.Nodup := by
  cases hg : truthyArg target with
  | some t =>
      rw [getTargets_of_given hg] at hts
      cases hts
      exact List.nodup_singleton t
  | none =>
      obtain ⟨stdout, root, hq, hp, hsub⟩ := getTargets_of_not_given hg hts
      have hkept : ((root.findall "rule").filterMap keptTarget).Nodup :=
        (hrules stdout root hq hp).sublist <| filterMap_sublist_filterMap
          (fun _ _ h => (keptTarget_eq_some.1 h).1) _
      exact ((sortedBy_perm _ _).nodup_iff.2 hkept).sublist hsub

/-- Without a truthy `--target`, no label `get_targets` returns is denylisted. -/
theorem getTargets_not_denylisted {limit : Option Int} {target : Option Str} {ts : List Str}
    (hg : truthyArg target = none) (hts : getTargets limit target w = .ok ts) :
    ∀ t ∈ ts, t ∉ denylist := by
  intro t ht
  obtain ⟨stdout, root, -, -, hsub⟩ := getTargets_of_not_given hg hts
  obtain ⟨rule, -, hkept⟩ := List.mem_filterMap.1 ((sortedBy_perm _ _).subset (hsub.subset ht))
  exact (keptTarget_eq_some.1 hkept).2.1

-- =========================================== get_riscv_test_artifacts

/-- The suite's listed outputs, stripped. -/
def suiteDirs (stdout : Str) : List Str := (split (strip stdout) '\n').map strip

/-- A file name the suite walk turns into a test: `rv32...`, not a `.dump`. -/
def isSuiteFile (f : Str) : Bool := !endswith f ".dump".toList && startswith f "rv32".toList

/-- The suite files found under the listed outputs, in walk order. -/
def suiteFiles (w : Workspace) (stdout : Str) : List Str :=
  (suiteDirs stdout).flatMap fun d =>
    if w.isDir d then (w.walk d).flatMap fun entry => entry.2.filter isSuiteFile else []

/-- The innermost loop keeps a suite file whose pseudo-target is not denylisted. -/
theorem suiteArtifact_eq_some {root f : Str} {a : Str × Str} :
    suiteArtifact root f = some a ↔ isSuiteFile f = true ∧ riscvTestsPrefix ++ f ∉ denylist
      ∧ a = (riscvTestsPrefix ++ f, pathJoin root f) := by
  unfold suiteArtifact isSuiteFile
  split_ifs <;> simp_all [@eq_comm _ a]

/-- What one listed output contributes. -/
theorem mem_walkArtifacts {d : Str} {a : Str × Str} :
    a ∈ walkArtifacts w d ↔ w.isDir d = true ∧ ∃ root files f, (root, files) ∈ w.walk d
      ∧ f ∈ files ∧ isSuiteFile f = true ∧ riscvTestsPrefix ++ f ∉ denylist
      ∧ a = (riscvTestsPrefix ++ f, pathJoin root f) := by
  unfold walkArtifacts
  cases w.isDir d <;> simp [List.mem_flatMap, List.mem_filterMap, suiteArtifact_eq_some]

/-- The identifiers found among one directory's files are pseudo-targets of its
suite files, in order. -/
theorem filterMap_suiteArtifact_ids (root : Str) (files : List Str) :
    ((files.filterMap (suiteArtifact root)).map Prod.fst).Sublist
      ((files.filter isSuiteFile).map (riscvTestsPrefix ++ ·)) := by
  rw [List.map_filterMap, ← List.filterMap_eq_map, List.filterMap_filter]
  refine filterMap_sublist_filterMap (fun f x h => ?_) files
  obtain ⟨a, ha, rfl⟩ := Option.map_eq_some'.1 h
  obtain ⟨hf, -, rfl⟩ := suiteArtifact_eq_some.1 ha
  simp [hf]

/-- The identifiers of one listed output are pseudo-targets of its suite files,
in order. -/
theorem walkArtifacts_ids_sublist (d : Str) :
    ((walkArtifacts w d).map Prod.fst).Sublist
      ((if w.isDir d then (w.walk d).flatMap fun entry => entry.2.filter isSuiteFile
          else []).map (riscvTestsPrefix ++ ·)) := by
  unfold walkArtifacts
  cases w.isDir d
  · exact .slnil
  · simp only [Bool.not_true, Bool.false_eq_true, ↓reduceIte, List.map_flatMap]
    apply flatMap_sublist_flatMap
    exact fun entry => filterMap_suiteArtifact_ids entry.1 entry.2

/-- `get_riscv_test_artifacts` returns nothing, or the sorted artifacts of the
listed outputs. -/
theorem getRiscvTestArtifacts_eq_ok {arts : List (Str × Str)}
    (h : getRiscvTestArtifacts w = .ok arts) :
    arts = [] ∨ ∃ stdout, w.run suiteCommand = .exited 0 stdout
      ∧ arts.Perm ((suiteDirs stdout).flatMap (walkArtifacts w)) := by
  rcases catchCalledProcessError_eq_ok h with h | rfl
  · obtain ⟨stdout, hs, rfl⟩ := except_map_eq_ok.1 h
    refine .inr ⟨stdout, runChecked_eq_ok.1 hs, ?_⟩
    rw [suiteDirs, List.flatMap_map]
    exact sortedBy_perm _ _
  · exact .inl rfl

/-- Every artifact is the pseudo-target of a walked suite file. -/
theorem mem_getRiscvTestArtifacts {arts : List (Str × Str)} {a : Str × Str}
    (h : getRiscvTestArtifacts w = .ok arts) (ha : a ∈ arts) :
    ∃ stdout d, w.run suiteCommand = .exited 0 stdout ∧ d ∈ suiteDirs stdout
      ∧ a ∈ walkArtifacts w d := by
  rcases getRiscvTestArtifacts_eq_ok h with rfl | ⟨stdout, hs, hperm⟩
  · cases ha
  · obtain ⟨d, hd, had⟩ := List.mem_flatMap.1 (hperm.subset ha)
    exact ⟨stdout, d, hs, hd, had⟩

/-- The suite's identifiers are pseudo-targets of its suite files: distinct
when the files are, and each one some suite file's. -/
theorem getRiscvTestArtifacts_ids {arts : List (Str × Str)}
    (h : getRiscvTestArtifacts w = .ok arts) :
    arts = [] ∨ ∃ stdout, w.run suiteCommand = .exited 0 stdout
      ∧ ((suiteFiles w stdout).Nodup → (arts.map Prod.fst).Nodup)
      ∧ ∀ x ∈ arts.map Prod.fst, ∃ f ∈ suiteFiles w stdout, x = riscvTestsPrefix ++ f := by
  rcases getRiscvTestArtifacts_eq_ok h with rfl | ⟨stdout, hs, hperm⟩
  · exact .inl rfl
  have hsub : (((suiteDirs stdout).flatMap (walkArtifacts w)).map Prod.fst).Sublist
      ((suiteFiles w stdout).map (riscvTestsPrefix ++ ·)) := by
    rw [List.map_flatMap, suiteFiles, List.map_flatMap]
    exact flatMap_sublist_flatMap walkArtifacts_ids_sublist _
  refine .inr ⟨stdout, hs, fun hnd => ?_, fun x hx => ?_⟩
  · exact (hperm.map Prod.fst).nodup_iff.2 ((hnd.map (List.append_right_injective _)).sublist hsub)
  · simpa [eq_comm] using hsub.subset ((hperm.map Prod.fst).subset hx)

-- ===================================================== prepare_tests

/-- The standard loop keeps, in order, the targets `--target` allows whose
artifact is found. -/
theorem resolveStandard_eq_ok {target : Option Str} :
    ∀ {ts : List Str} {std : List (Str × Str)}, resolveStandard w target ts = .ok std →
      (std.map Prod.fst).Sublist (ts.filter fun t => !otherTarget target t)
        ∧ ∀ test ∈ std, getElfSourcePath w test.1 = .ok (some test.2)
  | [], _, h => by cases h; exact ⟨.slnil, by simp⟩
  | t :: ts, std, h => by
      unfold resolveStandard at h
      by_cases ho : otherTarget target t
      · simp only [ho, ↓reduceIte] at h
        simpa [ho] using resolveStandard_eq_ok h
      simp only [ho, Bool.false_eq_true, ↓reduceIte] at h
      rcases helf : getElfSourcePath w t with e | elf <;> simp only [helf] at h
      · cases h
      obtain ⟨rest, hrest, rfl⟩ := except_map_eq_ok.1 h
      obtain ⟨hsub, hres⟩ := resolveStandard_eq_ok hrest
      have hkeep : (t :: ts).filter (fun t => !otherTarget target t)
          = t :: ts.filter (fun t => !otherTarget target t) := by simp [ho]
      rw [hkeep]
      rcases elf with _ | p
      · exact ⟨hsub.cons t, hres⟩
      · by_cases hp : p = []
        · simpa [hp] using And.intro (hsub.cons t) hres
        · simp only [hp, ↓reduceIte, List.map_cons, List.mem_cons, forall_eq_or_imp]
          exact ⟨hsub.cons_cons t, helf, hres⟩

/-- What `prepare_tests` returns, from its two loops. -/
theorem prepareTests_eq_ok {args : Args} {sts : List Str} {tests : List (Str × Str)}
    (h : prepareTests args w sts = .ok tests) :
    ∃ riscv std, (args.skipRiscvTests = true → riscv = [])
      ∧ (args.skipRiscvTests = false → getRiscvTestArtifacts w = .ok riscv)
      ∧ resolveStandard w args.target sts = .ok std
      ∧ tests = applyLimit args.limit
          (riscv.filter (fun test => !otherTarget args.target test.1) ++ std) := by
  unfold prepareTests at h
  cases hskip : args.skipRiscvTests <;> simp only [hskip, Bool.false_eq_true, ↓reduceIte] at h
  · split at h
    · cases h
    split at h
    · cases h
    rename_i riscv hr
    obtain ⟨std, hstd, rfl⟩ := except_map_eq_ok.1 h
    exact ⟨riscv, std, nofun, fun _ => hr, hstd, rfl⟩
  · split at h
    · cases h
    obtain ⟨std, hstd, rfl⟩ := except_map_eq_ok.1 h
    exact ⟨[], std, fun _ => rfl, nofun, hstd, rfl⟩

/-- `tests_to_run` is `prepare_tests` over what `get_targets` returned. -/
theorem testsToRun_eq_ok {args : Args} {tests : List (Str × Str)}
    (h : testsToRun args w = .ok tests) :
    ∃ sts, getTargets args.limit args.target w = .ok sts ∧ prepareTests args w sts = .ok tests := by
  unfold testsToRun at h
  rcases hg : getTargets args.limit args.target w with e | sts <;> rw [hg] at h
  · cases h
  · exact ⟨sts, rfl, h⟩

/-- Every test case is allowed by `--target`, and is a standard target with a
found artifact or an artifact of the suite walk. -/
theorem mem_testsToRun {args : Args} {tests : List (Str × Str)} {test : Str × Str}
    (h : testsToRun args w = .ok tests) (ht : test ∈ tests) :
    otherTarget args.target test.1 = false
      ∧ ((∃ sts, getTargets args.limit args.target w = .ok sts ∧ test.1 ∈ sts
            ∧ getElfSourcePath w test.1 = .ok (some test.2))
        ∨ ∃ stdout d, w.run suiteCommand = .exited 0 stdout ∧ d ∈ suiteDirs stdout
            ∧ test ∈ walkArtifacts w d) := by
  obtain ⟨sts, hsts, hprep⟩ := testsToRun_eq_ok h
  obtain ⟨riscv, std, hskip, hriscv, hstd, rfl⟩ := prepareTests_eq_ok hprep
  obtain ⟨hsub, helf⟩ := resolveStandard_eq_ok hstd
  rcases List.mem_append.1 ((applyLimit_sublist _ _).subset ht) with hr | hs
  · obtain ⟨hr, hother⟩ := List.mem_filter.1 hr
    cases hsk : args.skipRiscvTests
    · exact ⟨by simpa using hother, .inr (mem_getRiscvTestArtifacts (hriscv hsk) hr)⟩
    · cases hskip hsk ▸ hr
  · obtain ⟨hmem, hother⟩ := List.mem_filter.1 (hsub.subset (List.mem_map_of_mem Prod.fst hs))
    exact ⟨by simpa using hother, .inl ⟨sts, hsts, hmem, helf test hs⟩⟩

-- ======================================================== identifiers

/-- A standard test case: a rule of the query, not denylisted, whose linker
script is the default one for its label, with the artifact its query lists. -/
def StandardTest (w : Workspace) (test : Str × Str) : Prop :=
  ∃ stdout root rule elem, w.run queryCommand = .exited 0 stdout ∧ w.parseXml stdout = .ok root
    ∧ rule ∈ root.findall "rule" ∧ rule.attr "name" = some test.1
    ∧ linkerScriptElem rule = some elem
    ∧ elem.attr "value" = some (expectedLinkerScript test.1)
    ∧ getElfSourcePath w test.1 = .ok (some test.2)

/-- A suite test case: the pseudo-target and path of a walked `rv32` file that
is not a `.dump`. -/
def SuiteTest (w : Workspace) (test : Str × Str) : Prop :=
  ∃ stdout d root files f, w.run suiteCommand = .exited 0 stdout ∧ d ∈ suiteDirs stdout
    ∧ w.isDir d = true ∧ (root, files) ∈ w.walk d ∧ f ∈ files
    ∧ startswith f "rv32".toList = true ∧ endswith f ".dump".toList = false
    ∧ test = (riscvTestsPrefix ++ f, pathJoin root f)

/-- Without a truthy `--target`, every test case is a standard or a suite test
case, and none is denylisted. -/
theorem catalog_of_mem_testsToRun {args : Args} {tests : List (Str × Str)} {test : Str × Str}
    (h : testsToRun args w = .ok tests) (hnone : truthyArg args.target = none) (ht : test ∈ tests) :
    test.1 ∉ denylist ∧ (StandardTest w test ∨ SuiteTest w test) := by
  obtain ⟨-, hstd | ⟨stdout, d, hs, hd, hwalk⟩⟩ := mem_testsToRun h ht
  · obtain ⟨sts, hsts, hmem, helf⟩ := hstd
    obtain ⟨stdout, root, hq, hp, hsub⟩ := getTargets_of_not_given hnone hsts
    obtain ⟨rule, hrule, hkept⟩ :=
      List.mem_filterMap.1 ((sortedBy_perm _ _).subset (hsub.subset hmem))
    obtain ⟨hname, hdeny, elem, helem, hvalue⟩ := keptTarget_eq_some.1 hkept
    exact ⟨hdeny, .inl ⟨stdout, root, rule, elem, hq, hp, hrule, hname, helem, hvalue, helf⟩⟩
  · obtain ⟨hdir, root, files, f, hentry, hf, hsuite, hdeny, rfl⟩ := mem_walkArtifacts.1 hwalk
    simp only [isSuiteFile, Bool.and_eq_true, Bool.not_eq_true'] at hsuite
    exact ⟨hdeny, .inr ⟨stdout, d, root, files, f, hs, hd, hdir, hentry, hf, hsuite.2, hsuite.1, rfl⟩⟩

/-- Without a truthy `--target`, every test case is a standard or a suite test
case and is not denylisted; with `--target T` non-empty, every test case is `T`'s. -/
theorem testsToRun_identifiers {args : Args} {tests : List (Str × Str)}
    (h : testsToRun args w = .ok tests) :
    (args.target.getD [] = [] → ∀ test ∈ tests,
        test.1 ∉ denylist ∧ (StandardTest w test ∨ SuiteTest w test))
      ∧ ∀ T, args.target = some T → T ≠ [] → ∀ test ∈ tests, test.1 = T :=
  ⟨fun hnone _ ht => catalog_of_mem_testsToRun h (truthyArg_eq_none.2 hnone) ht,
    fun T hT hne _ ht =>
      otherTarget_eq_false.1 (mem_testsToRun h ht).1 T (truthyArg_eq_some.2 ⟨hT, hne⟩)⟩

/-- A workspace with one rule in the build graph and one suite file. -/
def twoSourceWorkspace : Workspace :=
  ⟨fun cmd => if cmd = queryCommand then .exited 0 []
      else if cmd = suiteCommand then .exited 0 "out".toList
      else if cmd = cqueryCommand "//a:b".toList then .exited 0 "bin/b.elf".toList
      else .exited 1 [],
    fun _ => .ok (.mk "query".toList [] [.mk "rule".toList [("name".toList, "//a:b".toList)]
      [.mk "label".toList [("name".toList, "linker_script".toList), ("value".toList, "//a:b.ld".toList)] []]]),
    fun _ => true,
    fun _ => [("out".toList, ["rv32ui-p-add".toList, "rv32ui-p-add.dump".toList])]⟩

/-- `testsToRun_identifiers` on a run that finds a standard and a suite test case. -/
theorem testsToRun_identifiers_two_sources :
    let args : Args := ⟨none, none, false⟩
    let tests := [("//third_party/riscv-tests:rv32ui-p-add".toList, "out/rv32ui-p-add".toList),
      ("//a:b".toList, "bin/b.elf".toList)]
    testsToRun args twoSourceWorkspace = .ok tests
      ∧ (args.target.getD [] = [] → ∀ test ∈ tests, test.1 ∉ denylist
          ∧ (StandardTest twoSourceWorkspace test ∨ SuiteTest twoSourceWorkspace test))
      ∧ ∀ T, args.target = some T → T ≠ [] → ∀ test ∈ tests, test.1 = T := by
  intro args tests
  have h : testsToRun args twoSourceWorkspace = .ok tests := rfl
  exact ⟨h, testsToRun_identifiers h⟩

/-- An empty `--target` counts as none: discovery runs in full, and no test case
is `""`'s. -/
theorem testsToRun_empty_target :
    testsToRun ⟨none, some [], false⟩ twoSourceWorkspace
      = .ok [("//third_party/riscv-tests:rv32ui-p-add".toList, "out/rv32ui-p-add".toList),
          ("//a:b".toList, "bin/b.elf".toList)] := by
  rfl

/-- Discovery repeats no identifier when the build graph lists each rule once,
the suite walk meets each suite file name once, and no suite pseudo-target has
an artifact of its own; the report rows inherit this. -/
theorem testsToRun_targets_nodup {args : Args} {tests : List (Str × Str)}
    (hrules : ∀ stdout root, w.run queryCommand = .exited 0 stdout → w.parseXml stdout = .ok root →
      (ruleNames root).Nodup)
    (hfiles : ∀ stdout, w.run suiteCommand = .exited 0 stdout → (suiteFiles w stdout).Nodup)
    (helf : ∀ stdout, w.run suiteCommand = .exited 0 stdout → ∀ f ∈ suiteFiles w stdout,
      ∀ elf, getElfSourcePath w (riscvTestsPrefix ++ f) ≠ .ok (some elf))
    (h : testsToRun args w = .ok tests) :
    (tests.map Prod.fst).Nodup ∧ ∀ env wr rows,
      (runFullRegression env wr tests).csv = some rows → (rows.map Row.target).Nodup := by
  obtain ⟨sts, hsts, hprep⟩ := testsToRun_eq_ok h
  obtain ⟨riscv, std, hskip, hriscv, hstd, rfl⟩ := prepareTests_eq_ok hprep
  obtain ⟨hsub, hstdElf⟩ := resolveStandard_eq_ok hstd
  have hstdNodup : (std.map Prod.fst).Nodup :=
    ((getTargets_nodup hrules hsts).sublist (List.filter_sublist _)).sublist hsub
  -- the suite's identifiers are distinct, and none is a standard one
  have hsuite : (riscv.map Prod.fst).Nodup ∧ ∀ x ∈ riscv.map Prod.fst, x ∉ std.map Prod.fst := by
    cases hsk : args.skipRiscvTests
    · rcases getRiscvTestArtifacts_ids (hriscv hsk) with hnil | ⟨stdout, hs, hnd, hmem⟩
      · simp [hnil]
      refine ⟨hnd (hfiles stdout hs), fun x hx hxs => ?_⟩
      obtain ⟨f, hf, rfl⟩ := hmem x hx
      obtain ⟨test, htest, hfst⟩ := List.mem_map.1 hxs
      exact helf stdout hs f hf test.2 (hfst ▸ hstdElf test htest)
    · simp [hskip hsk]
  have hsel := (List.filter_sublist (p := fun test => !otherTarget args.target test.1) riscv).map
    Prod.fst
  have hall : (((riscv.filter fun test => !otherTarget args.target test.1) ++ std).map
      Prod.fst).Nodup := by
    rw [List.map_append, List.nodup_append]
    exact ⟨hsuite.1.sublist hsel, hstdNodup, fun x hx => hsuite.2 x (hsel.subset hx)⟩
  have hnodup := hall.sublist ((applyLimit_sublist args.limit _).map Prod.fst)
  exact ⟨hnodup, fun env wr rows hcsv => runFullRegression_csv_targets hcsv ▸ hnodup⟩

/-- `testsToRun_targets_nodup` on a run that finds a standard and a suite test case. -/
theorem testsToRun_targets_nodup_two_sources :
    let tests := [("//third_party/riscv-tests:rv32ui-p-add".toList, "out/rv32ui-p-add".toList),
      ("//a:b".toList, "bin/b.elf".toList)]
    testsToRun ⟨none, none, false⟩ twoSourceWorkspace = .ok tests
      ∧ (tests.map Prod.fst).Nodup ∧ ∀ env wr rows,
        (runFullRegression env wr tests).csv = some rows → (rows.map Row.target).Nodup := by
  intro tests
  have h : testsToRun ⟨none, none, false⟩ twoSourceWorkspace = .ok tests := rfl
  refine ⟨h, testsToRun_targets_nodup ?_ ?_ ?_ h⟩
  · intro stdout root _ hp
    cases hp
    decide
  · intro stdout hs
    cases hs
    decide
  · intro stdout hs f hf elf
    cases hs
    have hfiles : suiteFiles twoSourceWorkspace "out".toList = ["rv32ui-p-add".toList] := by decide
    rw [hfiles, List.mem_singleton] at hf
    subst hf
    intro helf
    cases helf

/-- The same suite file name in two walked directories gives one identifier twice. -/
theorem testsToRun_suite_duplicate :
    testsToRun ⟨none, none, false⟩
        ⟨fun cmd => if cmd = suiteCommand then .exited 0 "out".toList else .exited 0 [],
          fun _ => .ok (.mk "query".toList [] []), fun _ => true,
          fun _ => [("out".toList, ["rv32ui-p-add".toList]),
            ("out/rv32ui".toList, ["rv32ui-p-add".toList])]⟩
      = .ok [("//third_party/riscv-tests:rv32ui-p-add".toList, "out/rv32ui-p-add".toList),
          ("//third_party/riscv-tests:rv32ui-p-add".toList, "out/rv32ui/rv32ui-p-add".toList)] := by
  rfl

end UvmRegression
