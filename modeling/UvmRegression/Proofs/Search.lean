/-
What `re.search(uvmErrPattern, output, re.MULTILINE)` computes, stated without
the matcher: a scan over the lines of `output.split('\n')` (`uvmErr_eq_lineScan`).

# The lookahead

The lookahead's body `.*:\s+0\s*$` is decided by one boolean function per
sub-pattern (`spacesToLineEnd`, `spacesZeroToLineEnd`, `zeroCountAhead`), each
a structural recursion that tries the same splits as the engine. Neither the
text before the position nor group 1 matters to it (`run_zeroCountPattern`).
The blank space of `\s` includes the newline, so the body may finish on a later
line; on a line with no line after it, it is the reference's `isZeroCount`
(`zeroCountAhead_of_line`).

# One position

At a position, the pattern matches exactly when the position is a line start
and, past its blank space, the text starts with `UVM_FATAL` or `UVM_ERROR` on
which the lookahead's body fails; group 1 is then the rest of the line that
text starts on (`matchAt_uvmErrPattern`). Both stars take their whole run of
characters (`starMatch_of_stop`): `\s*` because the group starts with `U`, and
`.*` because `$` fails before any character but the newline.

# The scan

`re.search` tries every position in order; only the line starts can match, so
it returns the first line start at which `markerAt` accepts (`lineTails`,
`markerScan`, `uvmErr_eq_markerScan`).

# Line by line

The same scan over the lines of `split('\n')` (`lineScan`): a blank line hands
the search on to the next line, since `^\s*` crosses its newline and finds the
same capture there (`findSome_lineTails_line`). A line is accepted by
`markerLineAhead`, the marker test with the zero count read on past the line's
end (`uvmErr_eq_lineScan`).
-/
import UvmRegression.Classify

namespace UvmRegression

-- ========================================================= the lookahead

/-- `\s*$` at the start of `v`: blank space up to a line end. -/
def spacesToLineEnd : Str → Bool
  | [] => true
  | c :: cs => (isSpace c && spacesToLineEnd cs) || c == '\n'

/-- `\s*0\s*$` at the start of `v`. -/
def spacesZeroToLineEnd : Str → Bool
  | [] => false
  | c :: cs => (isSpace c && spacesZeroToLineEnd cs) || (c == '0' && spacesToLineEnd cs)

/-- `.*:\s+0\s*$` at the start of `s`: a `:` on the current line, then blank
space, `0`, and blank space up to a line end. -/
def zeroCountAhead : Str → Bool
  | [] => false
  | c :: cs => (c != '\n' && zeroCountAhead cs)
      || (c == ':' && (cs.head?.any isSpace && spacesZeroToLineEnd cs.tail))

/-- `\s*$` is decided by `spacesToLineEnd`. -/
theorem run_spacesToLineEnd : ∀ (pre v : Str) (g : Option Str),
    ((Regex.seq (.star .space) .eol).run pre v g fun _ _ g' => some g').isSome = spacesToLineEnd v
  | _, [], _ => rfl
  | pre, c :: cs, g => by
      have ih := run_spacesToLineEnd (c :: pre) cs g
      rw [run_seq, run_star] at ih ⊢
      rw [starMatch_cons_isSome, ih]
      by_cases hc : c = '\n' <;> simp [Regex.run, spacesToLineEnd, CharClass.test, atLineEnd, hc]

/-- `\s*0\s*$` is decided by `spacesZeroToLineEnd`. -/
theorem run_spacesZeroToLineEnd : ∀ (pre v : Str) (g : Option Str),
    ((Regex.seq (.star .space) <| .seq (.cls (.char '0')) <| .seq (.star .space) .eol).run pre v g
      fun _ _ g' => some g').isSome = spacesZeroToLineEnd v
  | _, [], _ => rfl
  | pre, c :: cs, g => by
      have ih := run_spacesZeroToLineEnd (c :: pre) cs g
      rw [run_seq, run_star] at ih ⊢
      rw [starMatch_cons_isSome, ih, run_seq]
      by_cases hc : c = '0'
      · subst hc
        rw [run_cls_of_test (c := .char '0') (x := '0') rfl, run_spacesToLineEnd]
        simp [spacesZeroToLineEnd, CharClass.test, show isSpace '0' = false from rfl]
      · simp [Regex.run, CharClass.test, spacesZeroToLineEnd, hc]

/-- `\s+0\s*$`: one blank, then `\s*0\s*$`. -/
theorem run_spacesZero (pre u : Str) (g : Option Str) :
    ((Regex.seq (.cls .space) <| .seq (.star .space) <| .seq (.cls (.char '0')) <|
        .seq (.star .space) .eol).run pre u g fun _ _ g' => some g').isSome
      = (u.head?.any isSpace && spacesZeroToLineEnd u.tail) := by
  rw [run_seq]
  cases u with
  | nil => rfl
  | cons s rest =>
      by_cases hs : isSpace s
      · rw [run_cls_of_test (c := .space) (x := s) hs]
        simp [run_spacesZeroToLineEnd, hs]
      · simp [Regex.run, CharClass.test, hs]

/-- The lookahead's body, at any position and with any group 1, is decided by
`zeroCountAhead`. -/
theorem run_zeroCountPattern : ∀ (pre s : Str) (g : Option Str),
    (zeroCountPattern.run pre s g fun _ _ g' => some g').isSome = zeroCountAhead s
  | _, [], _ => rfl
  | pre, c :: cs, g => by
      have ih := run_zeroCountPattern (c :: pre) cs g
      simp only [zeroCountPattern] at ih ⊢
      rw [run_seq, run_star] at ih ⊢
      rw [starMatch_cons_isSome, ih, run_seq]
      by_cases hc : c = ':'
      · subst hc
        rw [run_cls_of_test (c := .char ':') (x := ':') rfl, run_spacesZero]
        simp [zeroCountAhead, CharClass.test]
      · simp [Regex.run, CharClass.test, zeroCountAhead, hc]

/-- On a line with no line after it, `\s*$` is blank space to the end. -/
theorem spacesToLineEnd_of_line : ∀ {v : Str}, '\n' ∉ v → spacesToLineEnd v = v.all isSpace
  | [], _ => rfl
  | c :: cs, h => by
      obtain ⟨hc, hcs⟩ := List.ne_and_not_mem_of_not_mem_cons h
      simp [spacesToLineEnd, Ne.symm hc, spacesToLineEnd_of_line hcs]

/-- On a line with no line after it, `\s*0\s*$` after a blank is the
reference's `isSpacesZero`. -/
theorem spacesZeroToLineEnd_of_line {s : Char} (hs : isSpace s = true) :
    ∀ {v : Str}, '\n' ∉ v → spacesZeroToLineEnd v = isSpacesZero (s :: v)
  | [], _ => by simp [spacesZeroToLineEnd, isSpacesZero, hs]
  | c :: cs, h => by
      have hcs := (List.ne_and_not_mem_of_not_mem_cons h).2
      by_cases hc : isSpace c
      · have h0 : c ≠ '0' := by rintro rfl; exact absurd hc (by decide)
        rw [spacesZeroToLineEnd, spacesZeroToLineEnd_of_line hs hcs]
        simp [isSpacesZero, hs, hc, h0, List.dropWhile_cons]
      · by_cases h0 : c = '0'
        · subst h0
          simp [spacesZeroToLineEnd, isSpacesZero, hs, hc, List.dropWhile_cons,
            spacesToLineEnd_of_line hcs]
        · simp [spacesZeroToLineEnd, isSpacesZero, hs, hc, h0, List.dropWhile_cons]

/-- On a line with no line after it, the lookahead's body is the reference's
zero count: the two part only where the body reads on into a later line. -/
theorem zeroCountAhead_of_line : ∀ {t : Str}, '\n' ∉ t → zeroCountAhead t = isZeroCount t
  | [], _ => rfl
  | c :: cs, h => by
      obtain ⟨hc, hcs⟩ := List.ne_and_not_mem_of_not_mem_cons h
      have hsz : (cs.head?.any isSpace && spacesZeroToLineEnd cs.tail) = isSpacesZero cs := by
        cases cs with
        | nil => rfl
        | cons s rest =>
            by_cases hs : isSpace s
            · simp [hs, spacesZeroToLineEnd_of_line hs (List.ne_and_not_mem_of_not_mem_cons hcs).2]
            · simp [isSpacesZero, hs]
      have hc' : (c != '\n') = true := bne_iff_ne.2 (Ne.symm hc)
      simp only [zeroCountAhead, isZeroCount, hsz, zeroCountAhead_of_line hcs, hc', Bool.true_and,
        Bool.or_comm]

-- ========================================================== one position

/-- What the pattern captures from `d`, the text after a line start's blank
space: the rest of `d`'s line, when `d` starts with `UVM_FATAL` or `UVM_ERROR`
and the lookahead's body does not match after the word. -/
def markerAt (d : Str) : Option Str :=
  if (startswith d "UVM_FATAL".toList || startswith d "UVM_ERROR".toList)
      && !zeroCountAhead (d.drop 9) then some (d.takeWhile (· != '\n'))
  else none

/-- `.*` stops at a line end. -/
theorem atLineEnd_dropWhile (R : Str) : atLineEnd (R.dropWhile (· != '\n')) = true := by
  induction R with
  | nil => rfl
  | cons c R ih => by_cases hc : c = '\n' <;> simp [List.dropWhile_cons, hc, ih]

/-- After the marker word: no match when the lookahead's body matches, and
otherwise `.*` takes the rest of the line and `$` holds there. -/
theorem run_markerRest (d p R : Str) (g : Option Str) :
    (Regex.notAhead zeroCountPattern).run p R g (fun p' s' g' => (Regex.star .dot).run p' s' g'
      fun p'' s'' _ => Regex.eol.run p'' s'' (some (d.take (d.length - s''.length)))
        fun _ _ g => some g)
      = if zeroCountAhead R then none
        else some (some (d.take (d.length - (R.dropWhile (· != '\n')).length))) := by
  rw [run_notAhead, run_zeroCountPattern]
  split
  · rfl
  · have hdot : CharClass.dot.test = (· != '\n') := rfl
    rw [run_star, starMatch_of_stop .dot fun p x xs _ hx => by simp_all [run_eol, CharClass.test]]
    simp [run_eol, hdot, atLineEnd_dropWhile]

/-- Group 1 ends where `.*` stopped: when the first `n` characters hold no
newline, the capture is the rest of the line. -/
theorem take_length_sub_dropWhile {d : Str} {n : Nat} (hm : '\n' ∉ d.take n) :
    d.take (d.length - ((d.drop n).dropWhile (· != '\n')).length) = d.takeWhile (· != '\n') := by
  generalize hm' : d.take n = m at hm
  generalize hR : d.drop n = R
  obtain rfl : d = m ++ R := by rw [← hm', ← hR, List.take_append_drop]
  have hlen := congrArg List.length (List.takeWhile_append_dropWhile (· != '\n') R)
  rw [List.length_append] at hlen
  have hn : (m ++ R).length - (R.dropWhile (· != '\n')).length
      = m.length + (R.takeWhile (· != '\n')).length := by
    rw [List.length_append]; omega
  rw [hn, List.take_append, ← List.prefix_iff_eq_take.1 (List.takeWhile_prefix _),
    List.takeWhile_append_of_pos fun a ha => bne_iff_ne.2 (by rintro rfl; exact hm ha)]

/-- The marker word: the alternation takes `FATAL` or `ERROR`, whichever starts
the text. -/
theorem run_markerWord {w R p : Str} {g : Option Str} {k : Cont}
    (hw : w = "FATAL".toList ∨ w = "ERROR".toList) :
    (Regex.alt (.lit "FATAL".toList) (.lit "ERROR".toList)).run p (w ++ R) g k
      = k (w.reverse ++ p) R g := by
  rcases hw with rfl | rfl
  · rw [run_alt, run_lit_append,
      run_lit_of_not_prefix (show "ERROR".toList.isPrefixOf ("FATAL".toList ++ R) = false from rfl),
      Option.orElse_none]
  · rw [run_alt, run_lit_append,
      run_lit_of_not_prefix (show "FATAL".toList.isPrefixOf ("ERROR".toList ++ R) = false from rfl),
      Option.none_orElse]

/-- From any text `d`, the group and `$` match as `markerAt` says. -/
theorem run_uvmErrGroup (p d : Str) :
    (Regex.seq (.group <| .seq (.lit "UVM_".toList) <|
        .seq (.alt (.lit "FATAL".toList) (.lit "ERROR".toList)) <|
          .seq (.notAhead zeroCountPattern) (.star .dot)) .eol).run p d none (fun _ _ g => some g)
      = (markerAt d).map some := by
  by_cases hm : (startswith d "UVM_FATAL".toList || startswith d "UVM_ERROR".toList) = true
  · obtain ⟨w, R, rfl, hw⟩ : ∃ w R, d = "UVM_".toList ++ (w ++ R)
        ∧ (w = "FATAL".toList ∨ w = "ERROR".toList) := by
      rw [Bool.or_eq_true] at hm
      rcases hm with hm | hm <;> obtain ⟨R, rfl⟩ := List.isPrefixOf_iff_prefix.1 hm
      exacts [⟨"FATAL".toList, R, rfl, .inl rfl⟩, ⟨"ERROR".toList, R, rfl, .inr rfl⟩]
    have hd9 : ("UVM_".toList ++ (w ++ R)).drop 9 = R := by rcases hw with rfl | rfl <;> rfl
    have ht9 : ("UVM_".toList ++ (w ++ R)).take 9 = "UVM_".toList ++ w := by
      rcases hw with rfl | rfl <;> rfl
    have hcap := @take_length_sub_dropWhile ("UVM_".toList ++ (w ++ R)) 9
      (by rw [ht9]; rcases hw with rfl | rfl <;> decide)
    rw [hd9] at hcap
    rw [run_seq, run_group, run_seq, run_lit_append, run_seq, run_markerWord hw, run_seq,
      run_markerRest, hcap]
    simp only [markerAt, hm, hd9, Bool.true_and]
    cases zeroCountAhead R <;> rfl
  · have hnone : markerAt d = none := by
      rw [markerAt, if_neg (by rw [Bool.and_eq_true]; exact fun h => hm h.1)]
    rw [hnone, run_seq, run_group, run_seq, run_lit]
    split
    · rename_i hu
      obtain ⟨R, rfl⟩ := List.isPrefixOf_iff_prefix.1 hu
      rw [show "UVM_FATAL".toList = "UVM_".toList ++ "FATAL".toList from rfl,
        show "UVM_ERROR".toList = "UVM_".toList ++ "ERROR".toList from rfl,
        startswith_append, startswith_append] at hm
      simp only [List.drop_left, startswith, hu, Bool.true_and, Bool.or_eq_true, not_or] at hm ⊢
      rw [run_seq, run_alt,
        run_lit_of_not_prefix (Bool.eq_false_iff.2 hm.1), run_lit_of_not_prefix (Bool.eq_false_iff.2 hm.2)]
      rfl
    · rfl

/-- At one position the pattern matches exactly at a line start whose text,
past its blank space, `markerAt` accepts, and group 1 is what `markerAt`
returns. -/
theorem matchAt_uvmErrPattern (pre s : Str) :
    uvmErrPattern.matchAt pre s
      = if atLineStart pre then (markerAt (s.dropWhile isSpace)).map some else none := by
  rw [Regex.matchAt, uvmErrPattern, run_seq, run_bol]
  split
  · rw [run_seq, run_star]
    refine (starMatch_of_stop .space (fun p x xs _ hx => ?_) _ _).trans (run_uvmErrGroup _ _)
    have hx' : x ≠ 'U' := by rintro rfl; exact absurd hx (by decide)
    have hU : "UVM_".toList.isPrefixOf (x :: xs) = false := by
      rw [show "UVM_".toList = 'U' :: "VM_".toList from rfl, List.isPrefixOf_cons₂,
        beq_eq_false_iff_ne.2 (Ne.symm hx'), Bool.false_and]
    rw [run_seq, run_group, run_seq, run_lit_of_not_prefix hU]
  · rfl

-- ============================================================== the scan

/-- The texts from each line start of `s` on, `s` itself first: `s` starts at
a line start, and every newline begins another. -/
def lineTails : Str → List Str
  | [] => [[]]
  | c :: cs => (c :: cs) :: if c = '\n' then lineTails cs else (lineTails cs).tail

/-- The line-by-line scan: the capture of the first line start whose text, past
its blank space, `markerAt` accepts. -/
def markerScan (output : Str) : Option Str :=
  (lineTails output).findSome? fun t => markerAt (t.dropWhile isSpace)

/-- The search from any position: the scan over the line starts after it, the
position itself counting when it is one. -/
theorem searchFrom_uvmErrPattern : ∀ (pre s : Str),
    uvmErrPattern.searchFrom pre s
      = ((if atLineStart pre then lineTails s else (lineTails s).tail).findSome?
          fun t => markerAt (t.dropWhile isSpace)).map some
  | pre, [] => by
      rw [Regex.searchFrom, matchAt_uvmErrPattern]
      split <;> rfl
  | pre, c :: cs => by
      rw [Regex.searchFrom, matchAt_uvmErrPattern, searchFrom_uvmErrPattern (c :: pre) cs,
        atLineStart_cons]
      by_cases hp : atLineStart pre = true
      · simp only [hp, if_true, lineTails, List.findSome?_cons, decide_eq_true_eq]
        cases markerAt ((c :: cs).dropWhile isSpace) <;> rfl
      · simp [hp, lineTails]

/-- `uvm_err.group(1)` is the line-by-line scan: the search is `markerScan`. -/
theorem uvmErr_eq_markerScan (output : Str) : uvmErr output = markerScan output := by
  rw [uvmErr, Regex.search, searchFrom_uvmErrPattern, if_pos (show atLineStart [] = true from rfl),
    markerScan]
  cases (lineTails output).findSome? _ <;> rfl

example : markerScan " \n  UVM_FATAL x\nUVM_ERROR y".toList = some "UVM_FATAL x".toList := by
  decide

-- ========================================================== line by line

/-- The code's marker test on line `l`, with `rest` the text after it: as the
reference's `isMarkerLine`, but the zero count is read on past the line. -/
def markerLineAhead (l rest : Str) : Bool :=
  let t := lstrip l
  (startswith t "UVM_ERROR".toList || startswith t "UVM_FATAL".toList)
    && !zeroCountAhead (t.drop 9 ++ rest)

/-- The search line by line: the first line the code's marker test accepts,
without its leading blank space. A line's `rest` is a newline before each line
after it. -/
def lineScan : List Str → Option Str
  | [] => none
  | l :: ls => if markerLineAhead l (ls.flatMap ('\n' :: ·)) then some (lstrip l) else lineScan ls

/-- `lineTails` starts with the text itself. -/
theorem lineTails_eq_cons (s : Str) : lineTails s = s :: (lineTails s).tail := by
  cases s <;> rfl

/-- Over a line and its newline, `lineTails` keeps only the line start. -/
theorem lineTails_line {l : Str} (hl : '\n' ∉ l) (R : Str) :
    lineTails (l ++ '\n' :: R) = (l ++ '\n' :: R) :: lineTails R := by
  induction l with
  | nil => simp [lineTails]
  | cons c l ih =>
      obtain ⟨hc, hl⟩ := List.ne_and_not_mem_of_not_mem_cons hl
      simp [lineTails, Ne.symm hc, ih hl]

/-- A last line has one line start. -/
theorem lineTails_of_line {l : Str} (hl : '\n' ∉ l) : lineTails l = [l] := by
  induction l with
  | nil => rfl
  | cons c l ih =>
      obtain ⟨hc, hl⟩ := List.ne_and_not_mem_of_not_mem_cons hl
      simp [lineTails, Ne.symm hc, ih hl]

/-- `markerAt` on a line `d` with no leading blank space, followed by a line
end: the code's marker test, capturing the whole line. -/
theorem markerAt_line {d R : Str} (hd : '\n' ∉ d) (hR : R = [] ∨ R.head? = some '\n') :
    markerAt (d ++ R) = if (startswith d "UVM_ERROR".toList || startswith d "UVM_FATAL".toList)
        && !zeroCountAhead (d.drop 9 ++ R) then some d else none := by
  unfold markerAt
  rw [startswith_line hd (by decide) hR, startswith_line hd (by decide) hR,
    Bool.or_comm (startswith d _)]
  by_cases hm : (startswith d "UVM_ERROR".toList || startswith d "UVM_FATAL".toList) = true
  · have hlen : 9 ≤ d.length := by
      rw [Bool.or_eq_true] at hm
      rcases hm with hm | hm <;> exact (List.isPrefixOf_iff_prefix.1 hm).length_le
    have htake : (d ++ R).takeWhile (· != '\n') = d := by
      rw [List.takeWhile_append_of_pos fun a ha => bne_iff_ne.2 (by rintro rfl; exact hd ha)]
      rcases hR with rfl | hR
      · simp
      · obtain ⟨R, rfl⟩ := List.head?_eq_some_iff.1 hR
        simp
    rw [List.drop_append_of_le_length hlen, htake]
  · simp only [hm, Bool.false_and, Bool.false_eq_true, if_false]

/-- A blank line hands the search on to the next line: `^\s*` crosses its
newline. -/
theorem dropWhile_blank_line {l : Str} (hb : l.all isSpace = true) (R : Str) :
    (l ++ '\n' :: R).dropWhile isSpace = R.dropWhile isSpace := by
  rw [List.dropWhile_append_of_pos (by simpa using hb)]
  rfl

/-- After its leading blank space, a line that is not blank keeps the rest. -/
theorem dropWhile_line {l : Str} (hb : l.all isSpace = false) (R : Str) :
    (l ++ R).dropWhile isSpace = lstrip l ++ R := by
  rw [List.dropWhile_append, if_neg]
  · rfl
  · rw [List.isEmpty_iff, List.dropWhile_eq_nil_iff]
    simpa using hb

/-- One line of the scan: the line is the marker, or the scan goes on after
its newline. -/
theorem findSome_lineTails_line {l : Str} (hl : '\n' ∉ l) (R : Str) :
    (lineTails (l ++ '\n' :: R)).findSome? (fun t => markerAt (t.dropWhile isSpace))
      = if markerLineAhead l ('\n' :: R) then some (lstrip l)
        else (lineTails R).findSome? fun t => markerAt (t.dropWhile isSpace) := by
  rw [lineTails_line hl, List.findSome?_cons]
  cases hb : l.all isSpace
  · have hl' : '\n' ∉ lstrip l := fun h => hl (List.dropWhile_subset _ h)
    rw [dropWhile_line hb, markerAt_line hl' (.inr (show ('\n' :: R).head? = _ from rfl)),
      markerLineAhead]
    split_ifs <;> rfl
  · have hmark : markerLineAhead l ('\n' :: R) = false := by
      simp [markerLineAhead, lstrip, List.dropWhile_eq_nil_iff.2 (by simpa using hb), startswith]
    rw [dropWhile_blank_line hb, hmark, if_neg Bool.false_ne_true, lineTails_eq_cons R,
      List.findSome?_cons]
    cases markerAt (R.dropWhile isSpace) <;> rfl

/-- The last line of the scan. -/
theorem findSome_lineTails_of_line {l : Str} (hl : '\n' ∉ l) :
    (lineTails l).findSome? (fun t => markerAt (t.dropWhile isSpace))
      = if markerLineAhead l [] then some (lstrip l) else none := by
  have hm := markerAt_line (d := lstrip l) (R := []) (fun h => hl (List.dropWhile_subset _ h))
    (.inl rfl)
  rw [lineTails_of_line hl, List.findSome?_cons, markerLineAhead]
  simp only [List.append_nil] at hm ⊢
  rw [show List.dropWhile isSpace l = lstrip l from rfl, hm]
  split_ifs <;> rfl

/-- The scan over line starts is the scan over the lines of `split('\n')`. -/
theorem markerScan_eq_lineScan (s : Str) : markerScan s = lineScan (split s '\n') := by
  by_cases hs : '\n' ∈ s
  · obtain ⟨l, R, hsplit, hl⟩ := exists_first_line hs
    have ih := markerScan_eq_lineScan R
    subst hsplit
    rw [markerScan, findSome_lineTails_line hl, ← markerScan, ih, split_append_sep,
      split_of_not_mem hl, List.singleton_append, lineScan, flatMap_split]
  · rw [markerScan, findSome_lineTails_of_line hs, split_of_not_mem hs, lineScan, lineScan]
    rfl
termination_by s.length
decreasing_by simp_wf; rw [hsplit]; simp; omega

/-- `uvm_err.group(1)`, line by line: the first line whose text after its
leading blank space starts with `UVM_ERROR` or `UVM_FATAL`, the zero count read
on past the line, without that blank space. -/
theorem uvmErr_eq_lineScan (output : Str) : uvmErr output = lineScan (split output '\n') := by
  rw [uvmErr_eq_markerScan, markerScan_eq_lineScan]

end UvmRegression
