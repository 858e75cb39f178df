/-
The classification step of `run_uvm` (`run_uvm_regression.py`, lines 307-342):
from the simulator's exit code and its combined output, a status and a reason.

# The pattern

`uvmErrPattern` is the script's

    ^\s*(UVM_(?:FATAL|ERROR)(?!.*:\s+0\s*$).*)$

transcribed constructor by constructor (`\s+` is `\s` followed by `\s*`, which
the engine backtracks through in the same order). The lookahead is meant to skip
summary lines such as `UVM_ERROR :    0`, as the script's comment says: "Exclude
summary lines like "UVM_ERROR : 0"".

Every match captures group 1 (`search_uvmErrPattern`), so the script's
`uvm_err.group(1).strip()` cannot meet `None`. What it captures is the rest of
one line of the output, from the first character after the blank space that
follows a line start, and it begins with `UVM_FATAL` or `UVM_ERROR`
(`uvmErr_eq_some`). So a marker reason always quotes a marker line, although
the lookahead can skip a line that the reference keeps.

# The line-by-line reference

`refClassify` is the classification the script's comments describe, a line at
a time ("Match lines like: UVM_ERROR file.sv(123) @ 100: ... or UVM_FATAL @ 100:
...", "Exclude summary lines like "UVM_ERROR : 0""), with the `"Unknown"`
fallback of the `Make failed` reason reachable: a marker line starts, after its
leading whitespace, with `UVM_ERROR` or `UVM_FATAL`, and the rest of that same
line is not a zero count (`isZeroCount`). It differs from the code in two
places, both slips of the code:

- `.` stops at a newline but `\s` does not, so the lookahead's `\s+0\s*$` reads
  on into the following lines: `UVM_ERROR x:` followed by a line `0` is taken
  for a zero-count summary;
- `output.strip().split('\n')` is never empty, so the `"Unknown"` fallback is
  dead and a blank output gives the reason `Make failed: `.

# The code against the reference

Those are the only two places. Every marker the search finds is a marker line
of the reference, with its leading blank space stripped (`uvmErr_markerLine`):
the lookahead's body matches every zero count of the reference
(`zeroCountPattern_isSome`), so a line the search keeps is one the reference
keeps. Hence where the reference finds no marker line, the code classifies as
the reference does, a blank output apart (`classify_refines_refClassify`).
Proofs/Search.lean states what the search computes line by line.
-/
import UvmRegression.Regex

namespace UvmRegression

/-- The four statuses a report row can carry. -/
inductive Status
  | pass
  | fail
  | buildArtifactMissing
  | execFail
  deriving DecidableEq, Repr

/-- The status as the report spells it. -/
def Status.text : Status → Str
  | .pass => "PASS".toList
  | .fail => "FAIL".toList
  | .buildArtifactMissing => "BUILD_ARTIFACT_MISSING".toList
  | .execFail => "EXEC_FAIL".toList

-- ============================================================ the pattern

/-- `.*:\s+0\s*$`, the lookahead's body. -/
def zeroCountPattern : Regex :=
  .seq (.star .dot) <| .seq (.cls (.char ':')) <| .seq (.cls .space) <|
    .seq (.star .space) <| .seq (.cls (.char '0')) <| .seq (.star .space) .eol

/-- `^\s*(UVM_(?:FATAL|ERROR)(?!.*:\s+0\s*$).*)$`. -/
def uvmErrPattern : Regex :=
  .seq .bol <| .seq (.star .space) <|
    .seq (.group <| .seq (.lit "UVM_".toList) <|
      .seq (.alt (.lit "FATAL".toList) (.lit "ERROR".toList)) <|
        .seq (.notAhead zeroCountPattern) (.star .dot)) .eol

/-- `uvm_err.group(1)` when `uvm_err` matched. A match of `uvmErrPattern` always
captures its group (`search_uvmErrPattern`), so the `None.strip()` the script
could in principle reach never happens and is not modelled. -/
def uvmErr (output : Str) : Option Str := (uvmErrPattern.search output).bind id

/-- Every match of `uvmErrPattern` captures group 1: `uvm_err.group(1).strip()`
never meets `None`, so the classification step of `run_uvm` does not raise. -/
theorem search_uvmErrPattern (output : Str) : uvmErrPattern.search output ≠ some none := by
  refine searchFrom_ne_some_none (fun pre suf => ?_) [] output
  simp only [Regex.matchAt, uvmErrPattern, run_seq]
  refine run_ne_some_none .bol fun _ _ _ => run_ne_some_none (.star .space) fun _ _ _ => ?_
  refine run_group_ne_some_none _ fun _ s x => ?_
  simp only [Regex.run]
  split <;> simp

/-- After the marker word, `(?!...).*$` puts the rest of the line into group 1,
once the lookahead's body found no match. -/
theorem uvmErr_tail {R R2 p w : Str} {x : Option Str} (hR : R = "UVM_".toList ++ w ++ R2)
    (h : (Regex.seq (.notAhead zeroCountPattern) (.star .dot)).run p R2 none
      (fun pre' suf' _ => Regex.eol.run pre' suf' (some (R.take (R.length - suf'.length)))
        fun _ _ g => some g) = some x) :
    ∃ t B, R2 = t ++ B ∧ '\n' ∉ t ∧ atLineEnd B = true ∧ x = some ("UVM_".toList ++ w ++ t)
      ∧ (zeroCountPattern.run p (t ++ B) none fun _ _ g' => some g').isSome = false := by
  rw [run_seq] at h
  obtain ⟨hla, h⟩ := run_notAhead_eq_some h
  rw [run_star] at h
  obtain ⟨j, hj, h⟩ := starMatch_eq_some h
  obtain ⟨hend, h⟩ := run_eol_eq_some h
  refine ⟨R2.take j, R2.drop j, (List.take_append_drop j R2).symm, ?_, hend, ?_, by
    rwa [List.take_append_drop]⟩
  · intro hmem
    simpa [CharClass.test] using List.all_eq_true.1 hj _ hmem
  · have hsplit : R = ("UVM_".toList ++ w ++ R2.take j) ++ R2.drop j := by
      simp only [hR, List.append_assoc, List.take_append_drop]
    cases h
    rw [hsplit, List.take_left' (by simp; omega)]

/-- A match of the pattern at a position, taken apart: blank space, `UVM_`, the
marker word, the rest `t` of the line, and the text after the line; the position
is a line start, and the lookahead's body found no match after the word. -/
theorem matchAt_uvmErrPattern_eq_some {pre s : Str} {x : Option Str}
    (h : uvmErrPattern.matchAt pre s = some x) :
    ∃ ws w t B, s = ws ++ ("UVM_".toList ++ w ++ t) ++ B ∧ x = some ("UVM_".toList ++ w ++ t)
      ∧ atLineStart pre = true ∧ ws.all isSpace = true
      ∧ (w = "FATAL".toList ∨ w = "ERROR".toList) ∧ '\n' ∉ t ∧ atLineEnd B = true
      ∧ ∃ p, (zeroCountPattern.run p (t ++ B) none fun _ _ g' => some g').isSome = false := by
  simp only [Regex.matchAt, uvmErrPattern, run_seq] at h
  obtain ⟨hbol, h⟩ := run_bol_eq_some h
  obtain ⟨m, hws, h⟩ := starMatch_eq_some h
  rw [run_group, run_seq] at h
  obtain ⟨R1, hR1, h⟩ := run_lit_eq_some h
  rw [run_seq] at h
  -- the marker word, then the rest of its line
  have hword : ∃ w R2, R1 = w ++ R2 ∧ (w = "FATAL".toList ∨ w = "ERROR".toList)
      ∧ ∃ t B, R2 = t ++ B ∧ '\n' ∉ t ∧ atLineEnd B = true ∧ x = some ("UVM_".toList ++ w ++ t)
        ∧ ∃ p, (zeroCountPattern.run p (t ++ B) none fun _ _ g' => some g').isSome = false := by
    rcases run_alt_eq_some h with h | h <;> obtain ⟨R2, rfl, htail⟩ := run_lit_eq_some h
      <;> obtain ⟨t, B, hR2, ht, hB, hx, hla⟩ := uvmErr_tail (by rw [hR1, List.append_assoc]) htail
    · exact ⟨_, R2, rfl, .inl rfl, t, B, hR2, ht, hB, hx, _, hla⟩
    · exact ⟨_, R2, rfl, .inr rfl, t, B, hR2, ht, hB, hx, _, hla⟩
  obtain ⟨w, R2, rfl, hw, t, B, rfl, ht, hend, hx, hla⟩ := hword
  refine ⟨s.take m, w, t, B, ?_, hx, hbol, hws, hw, ht, hend, hla⟩
  calc s = s.take m ++ s.drop m := (List.take_append_drop m s).symm
    _ = _ := by rw [hR1]; simp only [List.append_assoc]

/-- A marker the search finds, taken apart: the text up to a line start, blank
space, `UVM_`, the marker word, the rest `t` of the line, and the text after
the line; and the lookahead's body found no match after the word. -/
theorem uvmErr_match {output g : Str} (h : uvmErr output = some g) :
    ∃ A ws w t B, output = A ++ ws ++ g ++ B ∧ g = "UVM_".toList ++ w ++ t
      ∧ atLineStart A.reverse = true ∧ ws.all isSpace = true
      ∧ (w = "FATAL".toList ∨ w = "ERROR".toList) ∧ '\n' ∉ t ∧ atLineEnd B = true
      ∧ ∃ p, (zeroCountPattern.run p (t ++ B) none fun _ _ g' => some g').isSome = false := by
  obtain ⟨x, hs, hx⟩ := Option.bind_eq_some.1 h
  obtain ⟨n, hm⟩ := searchFrom_eq_some hs
  obtain ⟨ws, w, t, B, hsplit, rfl, hbol, hws, hw, ht, hB, hla⟩ := matchAt_uvmErrPattern_eq_some hm
  cases hx
  refine ⟨output.take n, ws, w, t, B, ?_, rfl, by simpa using hbol, hws, hw, ht, hB, hla⟩
  calc output = output.take n ++ output.drop n := (List.take_append_drop n output).symm
    _ = _ := by rw [hsplit]; simp only [List.append_assoc]

/-- A marker the search finds is the rest of a line of the output, from its
first character after blank space that follows a line start, and it begins with
`UVM_FATAL` or `UVM_ERROR`. -/
theorem uvmErr_eq_some {output g : Str} (h : uvmErr output = some g) :
    ∃ A ws B, output = A ++ ws ++ g ++ B ∧ atLineStart A.reverse = true ∧ ws.all isSpace = true
      ∧ atLineEnd B = true ∧ '\n' ∉ g
      ∧ (startswith g "UVM_FATAL".toList = true ∨ startswith g "UVM_ERROR".toList = true) := by
  obtain ⟨A, ws, w, t, B, hout, rfl, hA, hws, hw, ht, hB, -⟩ := uvmErr_match h
  refine ⟨A, ws, B, hout, hA, hws, hB, ?_, ?_⟩
  · simp only [List.mem_append, not_or]
    exact ⟨by rcases hw with rfl | rfl <;> decide, ht⟩
  · rcases hw with rfl | rfl <;> simp [startswith, List.isPrefixOf_iff_prefix]

/-- `uvmErr_eq_some` on an indented marker line between two others. -/
theorem uvmErr_eq_some_indented :
    uvmErr "x\n  UVM_ERROR boom\nend".toList = some "UVM_ERROR boom".toList
      ∧ ∃ A ws B, "x\n  UVM_ERROR boom\nend".toList = A ++ ws ++ "UVM_ERROR boom".toList ++ B
        ∧ atLineStart A.reverse = true ∧ ws.all isSpace = true ∧ atLineEnd B = true
        ∧ '\n' ∉ "UVM_ERROR boom".toList
        ∧ (startswith "UVM_ERROR boom".toList "UVM_FATAL".toList = true
          ∨ startswith "UVM_ERROR boom".toList "UVM_ERROR".toList = true) :=
  have h : uvmErr "x\n  UVM_ERROR boom\nend".toList = some "UVM_ERROR boom".toList := by decide
  ⟨h, uvmErr_eq_some h⟩

/-- `reason.replace(',', ';').replace('\n', ' ')`. -/
def sanitizeReason (reason : Str) : Str := replace (replace reason [','] [';']) ['\n'] [' ']

/-- The reason of the fallback branch:
`"Make failed: " + (lines[-1] if lines else "Unknown")`. -/
def makeFailedReason (output : Str) : Str :=
  "Make failed: ".toList ++ ((split (strip output) '\n').getLast?.getD "Unknown".toList)

/-- The classification step of `run_uvm`, from the last attempt's exit code and
`result.stdout + result.stderr`. -/
def classify (returncode : Int) (output : Str) : Status × Str :=
  if returncode ≠ 0 then
    let reason := match uvmErr output with
      | some g => strip g
      | none =>
          if contains output "AXI_DECERR".toList then "AXI_DECERR detected".toList
          else makeFailedReason output
    (.fail, sanitizeReason reason)
  else match uvmErr output with
    | some g => (.fail, sanitizeReason (strip g))
    | none => (.pass, "None".toList)

-- ==================================================== CSV-safe reasons

/-- A text that stays on one line of one CSV field: no `,` and no `\n`. -/
def CsvSafe (s : Str) : Prop := ',' ∉ s ∧ '\n' ∉ s

instance (s : Str) : Decidable (CsvSafe s) := inferInstanceAs (Decidable (_ ∧ _))

/-- Joining CSV-safe texts is CSV-safe. -/
theorem csvSafe_append {a b : Str} (ha : CsvSafe a) (hb : CsvSafe b) : CsvSafe (a ++ b) := by
  simp only [CsvSafe, List.mem_append, not_or] at *
  exact ⟨⟨ha.1, hb.1⟩, ha.2, hb.2⟩

/-- `sanitizeReason` leaves no `,` and no `\n`. -/
theorem sanitizeReason_csvSafe (reason : Str) : CsvSafe (sanitizeReason reason) :=
  ⟨not_mem_replace_single_of_ne (not_mem_replace_single (by decide)) (by decide),
    not_mem_replace_single (by decide)⟩

/-- Every reason `classify` gives is CSV-safe. -/
theorem classify_csvSafe (returncode : Int) (output : Str) : CsvSafe (classify returncode output).2 := by
  unfold classify
  by_cases h : returncode ≠ 0
  · rw [if_pos h]
    exact sanitizeReason_csvSafe _
  · rw [if_neg h]
    cases uvmErr output
    · decide
    · exact sanitizeReason_csvSafe _

-- ========================================================== the reference

/-- `u` is one or more whitespace characters, `0`, and only whitespace. -/
def isSpacesZero (u : Str) : Bool :=
  u.head?.any isSpace && match u.dropWhile isSpace with
    | '0' :: v => v.all isSpace
    | _ => false

/-- The rest of a line is a zero count: any characters, `:`, one or more
whitespace characters, `0`, and only whitespace up to the end of the line. -/
def isZeroCount : Str → Bool
  | [] => false
  | c :: cs => (c == ':' && isSpacesZero cs) || isZeroCount cs

/-- A marker line of the reference: after its leading whitespace it begins with
`UVM_ERROR` or `UVM_FATAL`, and the rest of the line is not a zero count. -/
def isMarkerLine (line : Str) : Bool :=
  let t := lstrip line
  (startswith t "UVM_ERROR".toList || startswith t "UVM_FATAL".toList)
    && !isZeroCount (t.drop 9)

/-- The classification the script's comments describe, line by line. -/
def refClassify (returncode : Int) (output : Str) : Status × Str :=
  match (split output '\n').find? isMarkerLine with
  | some line => (.fail, sanitizeReason (strip line))
  | none =>
      if returncode = 0 then (.pass, "None".toList)
      else if contains output "AXI_DECERR".toList then
        (.fail, sanitizeReason "AXI_DECERR detected".toList)
      else if output.all isSpace then (.fail, "Make failed: Unknown".toList)
      else (.fail, sanitizeReason
        ("Make failed: ".toList ++ ((split (strip output) '\n').getLast?.getD [])))

/-- Where the code and the reference part: a marker line ending in `:` above a
line `0` is read as a zero-count summary, and a blank output loses its
`Unknown`. -/
theorem classify_ne_refClassify :
    classify 1 "UVM_ERROR x:\n0".toList = (.fail, "Make failed: 0".toList)
      ∧ refClassify 1 "UVM_ERROR x:\n0".toList = (.fail, "UVM_ERROR x:".toList)
      ∧ classify 1 " ".toList = (.fail, "Make failed: ".toList)
      ∧ refClassify 1 " ".toList = (.fail, "Make failed: Unknown".toList) := by
  decide

-- ======================================== the code against the reference

/-- `isSpacesZero` taken apart: a blank, blank space, `0`, blank space. -/
theorem isSpacesZero_eq_true {cs : Str} (h : isSpacesZero cs = true) :
    ∃ s sp v, cs = s :: (sp ++ '0' :: v) ∧ isSpace s = true ∧ sp.all isSpace = true
      ∧ v.all isSpace = true := by
  unfold isSpacesZero at h
  cases cs with
  | nil => cases h
  | cons s cs =>
      simp only [List.head?_cons, Option.any_some, Bool.and_eq_true] at h
      obtain ⟨hs, h⟩ := h
      rw [List.dropWhile_cons_of_pos hs] at h
      split at h
      · rename_i v hv
        exact ⟨s, cs.takeWhile isSpace, v, by rw [← hv, List.takeWhile_append_dropWhile], hs,
          List.all_takeWhile, h⟩
      · cases h

/-- After the `:`, blank space, `0` and blank space up to a line end match
`\s+0\s*$`. -/
theorem zeroCountTail_isSome {s : Char} {sp v B : Str} (hs : isSpace s = true)
    (hsp : sp.all isSpace = true) (hv : v.all isSpace = true) (hB : atLineEnd B = true)
    (pre : Str) (g : Option Str) :
    ((Regex.seq (.cls .space) <| .seq (.star .space) <| .seq (.cls (.char '0')) <|
        .seq (.star .space) .eol).run pre (s :: (sp ++ '0' :: v) ++ B) g
      fun _ _ g' => some g').isSome = true := by
  rw [List.cons_append, List.append_assoc, List.cons_append]
  simp only [run_seq, run_star, Regex.run, CharClass.test, hs, if_true]
  refine starMatch_isSome_of sp.length (by simpa using hsp) ?_
  simp only [List.take_left, List.drop_left, Regex.run, CharClass.test, beq_self_eq_true, if_true]
  refine starMatch_isSome_of v.length (by simpa using hv) ?_
  simp [hB]

/-- The lookahead's body matches at the start of a line-free text that is a
zero count, whatever follows the line. -/
theorem zeroCountPattern_isSome {B : Str} (hB : atLineEnd B = true) :
    ∀ {t pre : Str} {g : Option Str}, '\n' ∉ t → isZeroCount t = true →
      (zeroCountPattern.run pre (t ++ B) g fun _ _ g' => some g').isSome = true
  | [], _, _, _, hz => by cases hz
  | c :: cs, pre, g, hn, hz => by
      have hc : CharClass.dot.test c = true := by
        simp only [CharClass.test, bne_iff_ne, ne_eq]
        rintro rfl
        exact hn (List.mem_cons_self _ _)
      have ih := fun hz' => @zeroCountPattern_isSome B hB cs (c :: pre) g
        (fun h => hn (List.mem_cons_of_mem c h)) hz'
      simp only [zeroCountPattern, run_seq, run_star] at ih ⊢
      rw [List.cons_append, starMatch_cons_isSome]
      simp only [isZeroCount, Bool.or_eq_true, Bool.and_eq_true, beq_iff_eq] at hz
      rcases hz with ⟨rfl, hsz⟩ | hz
      · obtain ⟨s, sp, v, rfl, hs, hsp, hv⟩ := isSpacesZero_eq_true hsz
        have htail := zeroCountTail_isSome hs hsp hv hB (':' :: pre) g
        simp only [run_seq, run_star] at htail
        rw [Bool.or_eq_true]
        refine .inr ?_
        beta_reduce
        rw [run_cls_of_test (c := .char ':') (x := ':') rfl]
        exact htail
      · simp [hc, ih hz]

/-- Every marker the search finds is a marker line of the reference, with its
leading blank space stripped. -/
theorem uvmErr_markerLine {output g : Str} (h : uvmErr output = some g) :
    ∃ line ∈ split output '\n', isMarkerLine line = true ∧ lstrip line = g := by
  obtain ⟨A, ws, w, t, B, rfl, rfl, hA, hws, hw, ht, hB, p, hla⟩ := uvmErr_match h
  have hg : '\n' ∉ "UVM_".toList ++ w ++ t := by
    simp only [List.mem_append, not_or]
    exact ⟨by rcases hw with rfl | rfl <;> decide, ht⟩
  have hB' : B = [] ∨ B.head? = some '\n' := by simpa [atLineEnd] using hB
  obtain ⟨ws', hws', hmem⟩ := mem_split_of_blank hg hB' ws A [] (by simpa [atLineStart] using hA)
    rfl (by simp) hws
  have hstrip : lstrip (ws' ++ ("UVM_".toList ++ w ++ t)) = "UVM_".toList ++ w ++ t :=
    lstrip_blank_append (c := 'U') hws' rfl
  have hzero : isZeroCount t = false := by
    by_contra hz
    rw [zeroCountPattern_isSome hB ht (by simpa using hz)] at hla
    cases hla
  refine ⟨ws' ++ ("UVM_".toList ++ w ++ t), by simpa using hmem, ?_, hstrip⟩
  unfold isMarkerLine
  rw [hstrip]
  rcases hw with rfl | rfl <;> simp [startswith, List.isPrefixOf_iff_prefix, hzero]

/-- Where the reference finds no marker line, the search finds no marker. -/
theorem uvmErr_eq_none_of_no_markerLine {output : Str}
    (h : (split output '\n').find? isMarkerLine = none) : uvmErr output = none := by
  cases hu : uvmErr output with
  | none => rfl
  | some g =>
      obtain ⟨line, hmem, hmark, -⟩ := uvmErr_markerLine hu
      exact absurd hmark (by simpa using List.find?_eq_none.1 h line hmem)

/-- Where the reference finds no marker line, the code classifies as the
reference does, a blank output apart. -/
theorem classify_eq_refClassify_of_no_markerLine {returncode : Int} {output : Str}
    (h : (split output '\n').find? isMarkerLine = none) (hblank : output.all isSpace = false) :
    classify returncode output = refClassify returncode output := by
  have hlast : ∀ d, (split (strip output) '\n').getLast?.getD d
      = (split (strip output) '\n').getLast?.getD [] := by
    intro d
    cases hl : (split (strip output) '\n').getLast? with
    | none => exact absurd (List.getLast?_eq_none_iff.1 hl) (List.splitOnP_ne_nil _ _)
    | some l => rfl
  unfold classify refClassify makeFailedReason
  rw [uvmErr_eq_none_of_no_markerLine h, h]
  by_cases hrc : returncode = 0
  · simp [hrc]
  · simp only [hrc, ne_eq, if_false, if_true, not_false_eq_true, hblank, hlast, Bool.false_eq_true]
    split <;> rfl

/-- The search refines the reference: every marker it finds is a marker line of
the reference without its leading blank space, so where the reference finds no
marker line `classify` agrees with `refClassify` on every output that is not
blank. -/
theorem classify_refines_refClassify (returncode : Int) (output : Str) :
    (∀ g, uvmErr output = some g →
        ∃ line ∈ split output '\n', isMarkerLine line = true ∧ lstrip line = g)
      ∧ ((split output '\n').find? isMarkerLine = none → output.all isSpace = false →
        classify returncode output = refClassify returncode output) :=
  ⟨fun _ => uvmErr_markerLine, classify_eq_refClassify_of_no_markerLine⟩

/-- `classify_refines_refClassify` on a failed run whose output holds a summary
line: neither side reads it as a marker. -/
theorem classify_refines_refClassify_summary :
    classify 2 "UVM_ERROR :  0\nError 2".toList = (.fail, "Make failed: Error 2".toList)
      ∧ (split "UVM_ERROR :  0\nError 2".toList '\n').find? isMarkerLine = none
      ∧ (∀ g, uvmErr "UVM_ERROR :  0\nError 2".toList = some g →
        ∃ line ∈ split "UVM_ERROR :  0\nError 2".toList '\n', isMarkerLine line = true
          ∧ lstrip line = g)
      ∧ ((split "UVM_ERROR :  0\nError 2".toList '\n').find? isMarkerLine = none →
        List.all "UVM_ERROR :  0\nError 2".toList isSpace = false →
        classify 2 "UVM_ERROR :  0\nError 2".toList = refClassify 2 "UVM_ERROR :  0\nError 2".toList) :=
  ⟨by decide, by decide, classify_refines_refClassify 2 _⟩

end UvmRegression
