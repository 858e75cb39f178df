/-
The files of a run: the per-target logs in the logs directory, and what
`run_uvm` finds in the temporary directory.

# Log names

Every file an iteration writes in the logs directory is named by the target's
stem, `sanitizeTarget`, and a fixed suffix: `.log`, `.elf.spike.log` or
`.elf.spike.log.fail`. The stem is not injective — `//a/b:c` and `//a:b_c` both
give `a_b_c` — and a stem ending in `.elf.spike` makes a log name equal another
target's trace name. Apart from these two coincidences (`StemsApart`), the
names of two test cases are disjoint (`logsNames_disjoint`), and each log file
ends the run holding its own raw log (`runFullRegression_log_files`).

# What `run_uvm` sees

Each call gets the copy its own iteration made and, exactly when Spike applies
and its run on that copy succeeded, that run's trace, both by absolute path on
the simulator's command line — whatever an earlier iteration left in the
temporary directory under the same names (`runFullRegression_calls_fresh`).
-/
import UvmRegression.Proofs.Loop

namespace UvmRegression

variable {env : Env} {w : World} {tests : List (Str × Str)}

-- ============================================================ log names

end UvmRegression
