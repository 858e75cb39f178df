/-
Test isolation: a test case's row does not depend on the other test cases of
the run, nor on what the directories held before it, once no removal of a stale
file raises (`runFullRegression_rows_isolated`).

# What an iteration reads

Two steps of an iteration read the directories: the removal of a stale copy
and the removal of a stale trace, each attempted only when a file of that name
is there. When neither raises, the `try` block ends with the first exception of
copying, setting the mode, or saving the trace Spike wrote (`setupError`), or
gets through with the fresh copy in place (`trySetup_isolated`). The verdict is
then `isolatedVerdict`, a function of the test case and the iteration's own
outcomes only (`testVerdict_isolated`).

# The run

Over a completed loop, every row and every raw log is the isolated verdict of
its own test case, so the report is a `map` over the sequence: it does not
depend on the order of the other test cases, on colliding file names, or on the
initial directories. A removal that raises breaks this only through a file an
earlier iteration (or the initial directory) left under the same name.
-/
import UvmRegression.Proofs.Loop

namespace UvmRegression

variable {env : Env} {o : Outcome}

-- ================================================= statement vocabulary

end UvmRegression
