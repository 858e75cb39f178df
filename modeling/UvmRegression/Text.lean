/-
Python's `str` as `run_uvm_regression.py` uses it. A string is the list of its code
points, and every method the script calls is a structurally recursive function over
that list, so the whole model evaluates by `decide` on concrete texts.

# Whitespace

`str.strip()` and the regex class `\s` read one predicate, CPython's
`Py_UNICODE_ISSPACE`: the ASCII characters `\t \n \v \f \r`, the four
information separators `\x1c`..`\x1f`, the space, and the Unicode spaces listed
in `isSpace`. The newline is one of them: the classifier's `\s+` crosses line
breaks because of it (Classify.lean).

# Replacement

`str.replace(old, new)` scans left to right and replaces non-overlapping
occurrences. Every call in the script passes a non-empty literal `old`; the
recursion takes the string's length as fuel, which suffices because each step
consumes at least one character (`replace_single` is the one shape the proofs
need: a one-character `old` is a pointwise map).

# Paths

`posixpath.join`, `normpath` and `abspath` as the script reaches them: the
simulator is handed absolute paths, and `normpath` folds `normStep` over the
components of the path split at `/`, keeping a stack of components with the
last one first.
-/
import Mathlib.Data.List.Basic

namespace UvmRegression

/-- A Python `str`: its code points, in order. -/
abbrev Str := List Char

/-- `Py_UNICODE_ISSPACE`: the whitespace of `str.strip()` and of the regex `\s`. -/
def isSpace (c : Char) : Bool :=
  let n := c.toNat
  (9 ≤ n && n ≤ 13) || (28 ≤ n && n ≤ 32) || n == 0x85 || n == 0xA0 || n == 0x1680
    || (0x2000 ≤ n && n ≤ 0x200A) || n == 0x2028 || n == 0x2029 || n == 0x202F
    || n == 0x205F || n == 0x3000

@[simp] theorem isSpace_newline : isSpace '\n' = true := rfl

/-- `s.lstrip()`. -/
def lstrip (s : Str) : Str := s.dropWhile isSpace

/-- `s.rstrip()`. -/
def rstrip (s : Str) : Str := (s.reverse.dropWhile isSpace).reverse

/-- `s.strip()`. -/
def strip (s : Str) : Str := rstrip (lstrip s)

/-- `s.split(sep)` for a one-character separator: never empty, `"".split(sep)` is
`[""]`. -/
def split (s : Str) (sep : Char) : List Str := s.splitOn sep

/-- `s.startswith(p)`. -/
def startswith (s p : Str) : Bool := p.isPrefixOf s

/-- `s.endswith(p)`. -/
def endswith (s p : Str) : Bool := p.isSuffixOf s

/-- `sub in s`: `sub` occurs somewhere in `s`. -/
def contains (s sub : Str) : Bool :=
  match s with
  | [] => sub.isPrefixOf []
  | c :: cs => sub.isPrefixOf (c :: cs) || contains cs sub

/-- The replacement loop, with at least `s.length` fuel. -/
def replaceAux (old new : Str) : Nat → Str → Str
  | 0, s => s
  | _ + 1, [] => []
  | n + 1, c :: s =>
      if old != [] && old.isPrefixOf (c :: s) then
        new ++ replaceAux old new n ((c :: s).drop old.length)
      else c :: replaceAux old new n s

/-- `s.replace(old, new)`, for a non-empty `old`. -/
def replace (s old new : Str) : Str := replaceAux old new s.length s

-- ================================================================ paths

/-- `os.path.join(a, b)` (posixpath): an absolute `b` wins, otherwise one `/`
separates the two parts. -/
def pathJoin (a b : Str) : Str :=
  if b.head? = some '/' then b
  else if a = [] ∨ a.getLast? = some '/' then a ++ b
  else a ++ '/' :: b

/-- One turn of `normpath`'s loop over the components, on the components kept
so far, the last one first: `''` and `'.'` are dropped, and `'..'` removes the
component before it unless that one is `'..'` too or there is none (then a
relative path keeps it and a rooted one drops it). -/
def normStep (rooted : Bool) (kept : List Str) (comp : Str) : List Str :=
  if comp = [] ∨ comp = ['.'] then kept
  else if comp ≠ ['.', '.'] ∨ (rooted = false ∧ kept = []) ∨ kept.head? = some ['.', '.'] then
    comp :: kept
  else kept.tail

/-- `os.path.normpath(path)` (posixpath): the leading slashes (exactly two stay
two, any other number becomes one), then the components `normStep` keeps, joined
by `/`; `'.'` when nothing is left. -/
def normpath (path : Str) : Str :=
  if path = [] then ['.']
  else
    let initialSlashes : Str :=
      if startswith path "//".toList ∧ !startswith path "///".toList then "//".toList
      else if startswith path "/".toList then "/".toList else []
    let comps := (split path '/').foldl (normStep (initialSlashes ≠ [])) []
    let path := initialSlashes ++ ['/'].intercalate comps.reverse
    if path = [] then ['.'] else path

/-- `os.path.abspath(path)` from the working directory `cwd`. -/
def abspath (cwd path : Str) : Str :=
  normpath (if startswith path "/".toList then path else pathJoin cwd path)

example : abspath "/home/u".toList "x/../y/./z.elf".toList = "/home/u/y/z.elf".toList := by
  decide

example : normpath "//a/../../b/".toList = "//b".toList := by decide

/-- Replacing one character by one character maps the string pointwise. -/
theorem replace_single (s : Str) (a b : Char) :
    replace s [a] [b] = s.map fun c => if c = a then b else c := by
  unfold replace
  induction s with
  | nil => rfl
  | cons c s ih =>
      by_cases h : c = a
      · subst h
        simp [replaceAux, ih]
      · simp [replaceAux, List.isPrefixOf, h, Ne.symm h, ih]

/-- After replacing `a` by another character, `a` is gone. -/
theorem not_mem_replace_single {s : Str} {a b : Char} (hab : a ≠ b) :
    a ∉ replace s [a] [b] := by
  rw [replace_single]
  simp only [List.mem_map, not_exists, not_and]
  intro c _ h
  split at h
  · exact hab h.symm
  · exact ‹¬c = a› h

/-- Replacing `a` by `b` keeps every other character out that was out. -/
theorem not_mem_replace_single_of_ne {s : Str} {a b x : Char} (hx : x ∉ s)
    (hbx : b ≠ x) : x ∉ replace s [a] [b] := by
  rw [replace_single]
  simp only [List.mem_map, not_exists, not_and]
  intro c hc h
  split at h
  · exact hbx h
  · exact hx (h ▸ hc)

-- ============================================================= prefixes

/-- A prefix in two parts: the first starts the text, the second what follows
the first. -/
theorem startswith_append (s a b : Str) :
    startswith s (a ++ b) = (startswith s a && startswith (s.drop a.length) b) := by
  induction a generalizing s with
  | nil => simp [startswith]
  | cons x a ih =>
      cases s with
      | nil => rfl
      | cons y s =>
          have := ih s
          simp only [startswith] at this ⊢
          simp only [List.cons_append, List.isPrefixOf_cons₂, this, List.length_cons, List.drop_succ_cons,
            Bool.and_assoc]

/-- Past a line of its own, a text after the line's end starts with a
newline-free `w` only if the line does. -/
theorem startswith_line {d R w : Str} (hd : '\n' ∉ d) (hw : '\n' ∉ w)
    (hR : R = [] ∨ R.head? = some '\n') : startswith (d ++ R) w = startswith d w := by
  induction w generalizing d with
  | nil => simp [startswith]
  | cons x w ih =>
      have hx : x ≠ '\n' := fun h => hw (h ▸ List.mem_cons_self _ _)
      cases d with
      | nil =>
          rcases hR with rfl | hR
          · rfl
          · obtain ⟨R, rfl⟩ := List.head?_eq_some_iff.1 hR
            simp [startswith, List.isPrefixOf_cons₂, hx]
      | cons y d =>
          have := @ih d (fun h => hd (List.mem_cons_of_mem y h)) (fun h => hw (List.mem_cons_of_mem x h))
          simp only [startswith] at this ⊢
          rw [List.cons_append, List.isPrefixOf_cons₂, List.isPrefixOf_cons₂, this]

-- ============================================================== lines

/-- A text with a newline: its first line, the newline, and the rest. -/
theorem exists_first_line {s : Str} (h : '\n' ∈ s) : ∃ l R, s = l ++ '\n' :: R ∧ '\n' ∉ l := by
  induction s with
  | nil => cases h
  | cons c s ih =>
      by_cases hc : c = '\n'
      · exact ⟨[], s, by rw [hc]; rfl, List.not_mem_nil _⟩
      · obtain ⟨l, R, rfl, hl⟩ := ih (by simpa [Ne.symm hc] using h)
        exact ⟨c :: l, R, rfl, by simp [Ne.symm hc, hl]⟩

/-- Joining lines with newlines: the first line, then a newline before each
other line. -/
theorem intercalate_newline (l : Str) (ls : List Str) :
    ['\n'].intercalate (l :: ls) = l ++ ls.flatMap ('\n' :: ·) := by
  induction ls generalizing l with
  | nil => simp [List.intercalate]
  | cons l' ls ih =>
      have := ih l'
      simp only [List.intercalate, List.intersperse_cons₂, List.flatten_cons] at this ⊢
      rw [this]
      simp

/-- The text after the first line of `R`'s split, rebuilt from the pieces: a
newline before each piece gives back the newline and `R`. -/
theorem flatMap_split (R : Str) : (split R '\n').flatMap ('\n' :: ·) = '\n' :: R := by
  obtain ⟨r, rs, h⟩ := List.exists_cons_of_ne_nil (List.splitOnP_ne_nil (· == '\n') R)
  have hR : ['\n'].intercalate (split R '\n') = R := List.intercalate_splitOn R '\n'
  rw [split, List.splitOn, h] at hR ⊢
  rw [intercalate_newline] at hR
  rw [List.flatMap_cons, ← hR]
  rfl


/-- Leading blank space is what `lstrip` removes. -/
theorem lstrip_blank_append {ws s : Str} {c : Char} (hws : ws.all isSpace = true)
    (hc : isSpace c = false) : lstrip (ws ++ c :: s) = c :: s := by
  induction ws with
  | nil => simp [lstrip, hc]
  | cons x ws ih =>
      simp only [List.all_cons, Bool.and_eq_true] at hws
      simpa [lstrip, hws.1] using ih hws.2

/-- A text without the separator is one piece. -/
theorem split_of_not_mem {s : Str} {c : Char} (h : c ∉ s) : split s c = [s] :=
  List.splitOnP_eq_single _ _ fun _ hx hxc => h (beq_iff_eq.1 hxc ▸ hx)

/-- A separator splits the text on its two sides apart. -/
theorem split_append_sep (X rest : Str) (c : Char) :
    split (X ++ c :: rest) c = split X c ++ split rest c := by
  unfold split List.splitOn
  induction X with
  | nil => simp
  | cons x X ih =>
      rw [List.cons_append, List.splitOnP_cons, List.splitOnP_cons, ih]
      split
      · rfl
      · obtain ⟨hd, tl, h⟩ := List.exists_cons_of_ne_nil (List.splitOnP_ne_nil (· == c) X)
        rw [h]
        rfl

/-- A line of a text, from a line start to a line end, is a piece of
`split(\n)`. -/
theorem mem_split_of_line {A line B : Str} (hA : A = [] ∨ A.getLast? = some '\n')
    (hline : '\n' ∉ line) (hB : B = [] ∨ B.head? = some '\n') :
    line ∈ split (A ++ line ++ B) '\n' := by
  have hl : line ∈ split (line ++ B) '\n' := by
    rcases hB with rfl | hB
    · simp [split_of_not_mem hline]
    · obtain ⟨B', rfl⟩ := List.head?_eq_some_iff.1 hB
      simp [split_append_sep, split_of_not_mem hline]
  rcases hA with rfl | hA
  · simpa using hl
  · obtain ⟨A', rfl⟩ := List.getLast?_eq_some_iff.1 hA
    rw [List.append_assoc, List.append_assoc, List.singleton_append, split_append_sep]
    exact List.mem_append_right _ hl

/-- A line-free text `g` after blank space that starts at a line start ends a
piece of `split(\n)`, after the blank space of its own line. -/
theorem mem_split_of_blank {g B : Str} (hg : '\n' ∉ g) (hB : B = [] ∨ B.head? = some '\n') :
    ∀ (ws A pre : Str), (A = [] ∨ A.getLast? = some '\n') → pre.all isSpace = true → '\n' ∉ pre →
      ws.all isSpace = true →
        ∃ ws', ws'.all isSpace = true ∧ ws' ++ g ∈ split (A ++ pre ++ ws ++ g ++ B) '\n'
  | [], A, pre, hA, hpre, hpre', _ =>
      ⟨pre, hpre, by simpa using @mem_split_of_line A (pre ++ g) B hA (by simp [hpre', hg]) hB⟩
  | c :: ws, A, pre, hA, hpre, hpre', hws => by
      simp only [List.all_cons, Bool.and_eq_true] at hws
      by_cases hc : c = '\n'
      · subst hc
        simpa using mem_split_of_blank hg hB ws (A ++ pre ++ ['\n']) [] (.inr (by simp)) rfl
          (by simp) hws.2
      · simpa using mem_split_of_blank hg hB ws A (pre ++ [c]) hA (by simp [hpre, hws.1])
          (by simp [hpre', Ne.symm hc]) hws.2

end UvmRegression
