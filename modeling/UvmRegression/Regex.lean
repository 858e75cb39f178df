/-
The fragment of Python's `re` that the classifier's pattern is written in, with
the semantics of CPython's backtracking engine under `re.MULTILINE`.

# The matcher

`Regex.run r pre suf g k` matches `r` at the position whose consumed text is
`pre` (reversed: its head is the character just before the position) and whose
remaining text is `suf`, with `g` the text captured by group 1 so far, and hands
every way of matching to the continuation `k` in the engine's order: the first
`some` wins. That order is the engine's:

- a greedy star tries the longest run first and gives characters back one at a
  time (`starMatch`);
- an alternation tries its left branch first;
- a negative lookahead `(?!r)` succeeds, consuming nothing, iff `r` has no match
  at the position; its captures are discarded;
- `^` and `$` look at the neighbouring character only: `^` holds at the start or
  after a `\n`, `$` at the end or before a `\n`;
- `.` is any character but `\n` (no DOTALL), `\s` is `isSpace`.

Stars are over one-character classes only — all the script's are — so every
recursive call is on a subterm or a shorter remaining text.

# Search

`re.search` tries the start positions left to right and returns the first
match; its result here is `some g`, with `g` group 1 (`none` if the group did
not take part).

# What the proofs use

Per-constructor equations, and three facts about a star: one step of
`starMatch` as a boolean (`starMatch_cons_isSome`), maximal munch
(`starMatch_of_stop`) — when the continuation cannot start on a character of
the class, the star consumes the whole run — and backtracking
(`starMatch_isSome_of`): any run after which the continuation matches makes the
star match. One inversion lemma per
constructor says what a match implies (`run_lit_eq_some`, `starMatch_eq_some`,
...), and one induction over the syntax shows that no constructor loses group
1 once it is set (`run_ne_some_none`).
-/
import UvmRegression.Text

namespace UvmRegression

/-- A one-character class of the pattern language. -/
inductive CharClass
  /-- `.`: any character but a newline. -/
  | dot
  /-- `\s`. -/
  | space
  /-- A literal character. -/
  | char (c : Char)
  deriving DecidableEq, Repr

/-- Whether a character belongs to the class. -/
def CharClass.test : CharClass → Char → Bool
  | .dot, c => c != '\n'
  | .space, c => isSpace c
  | .char d, c => c == d

/-- Patterns, as `re.compile` would read them with `re.MULTILINE`. -/
inductive Regex
  /-- `^`. -/
  | bol
  /-- `$`. -/
  | eol
  /-- A literal string. -/
  | lit (s : Str)
  /-- One character of a class. -/
  | cls (c : CharClass)
  /-- A greedy `c*`. -/
  | star (c : CharClass)
  /-- Concatenation. -/
  | seq (r s : Regex)
  /-- `r|s`, also `(?:r|s)`. -/
  | alt (r s : Regex)
  /-- The capturing group, group 1. -/
  | group (r : Regex)
  /-- `(?!r)`. -/
  | notAhead (r : Regex)
  deriving Repr

/-- `^` under MULTILINE: the start, or just after a newline. -/
def atLineStart (pre : Str) : Bool := pre.head? = none || pre.head? = some '\n'

/-- `$` under MULTILINE: the end, or just before a newline. -/
def atLineEnd (suf : Str) : Bool := suf.head? = none || suf.head? = some '\n'

/-- What the rest of a pattern does from a position: consumed text (reversed),
remaining text, group 1 so far; `some g` is a match with group 1 `g`. -/
abbrev Cont := Str → Str → Option Str → Option (Option Str)

/-- A greedy star: one more character of the class first, the continuation
after. -/
def starMatch (c : CharClass) (k : Cont) : Str → Str → Option Str → Option (Option Str)
  | pre, [], g => k pre [] g
  | pre, x :: xs, g =>
      (if c.test x then starMatch c k (x :: pre) xs g else none) <|> k pre (x :: xs) g

/-- The backtracking matcher, in continuation-passing style. -/
def Regex.run : Regex → Str → Str → Option Str → Cont → Option (Option Str)
  | .bol, pre, suf, g, k => if atLineStart pre then k pre suf g else none
  | .eol, pre, suf, g, k => if atLineEnd suf then k pre suf g else none
  | .lit w, pre, suf, g, k =>
      if w.isPrefixOf suf then k (w.reverse ++ pre) (suf.drop w.length) g else none
  | .cls _, _, [], _, _ => none
  | .cls c, pre, x :: xs, g, k => if c.test x then k (x :: pre) xs g else none
  | .star c, pre, suf, g, k => starMatch c k pre suf g
  | .seq r s, pre, suf, g, k => r.run pre suf g fun pre' suf' g' => s.run pre' suf' g' k
  | .alt r s, pre, suf, g, k => r.run pre suf g k <|> s.run pre suf g k
  | .group r, pre, suf, g, k =>
      r.run pre suf g fun pre' suf' _ =>
        k pre' suf' (some (suf.take (suf.length - suf'.length)))
  | .notAhead r, pre, suf, g, k =>
      if (r.run pre suf g fun _ _ g' => some g').isSome then none else k pre suf g

/-- A match of the whole pattern at one position. -/
def Regex.matchAt (r : Regex) (pre suf : Str) : Option (Option Str) :=
  r.run pre suf none fun _ _ g => some g

/-- The scan of `re.search` from one position on. -/
def Regex.searchFrom (r : Regex) : Str → Str → Option (Option Str)
  | pre, [] => r.matchAt pre []
  | pre, x :: xs => r.matchAt pre (x :: xs) <|> r.searchFrom (x :: pre) xs

/-- `re.search(r, s, re.MULTILINE)`: `some g` for the first match, `g` its
group 1. -/
def Regex.search (r : Regex) (s : Str) : Option (Option Str) := r.searchFrom [] s

-- ============================================================ equations

variable {pre suf : Str} {g : Option Str} {k : Cont}

theorem run_bol : Regex.bol.run pre suf g k = if atLineStart pre then k pre suf g else none :=
  rfl

theorem run_eol : Regex.eol.run pre suf g k = if atLineEnd suf then k pre suf g else none :=
  rfl

theorem run_seq (r s : Regex) :
    (Regex.seq r s).run pre suf g k
      = r.run pre suf g fun pre' suf' g' => s.run pre' suf' g' k := rfl

theorem run_lit (w : Str) :
    (Regex.lit w).run pre suf g k
      = if w.isPrefixOf suf then k (w.reverse ++ pre) (suf.drop w.length) g
        else none := rfl

theorem run_star (c : CharClass) : (Regex.star c).run pre suf g k = starMatch c k pre suf g :=
  rfl

theorem run_alt (r s : Regex) :
    (Regex.alt r s).run pre suf g k = (r.run pre suf g k <|> s.run pre suf g k) := rfl

theorem run_notAhead (r : Regex) : (Regex.notAhead r).run pre suf g k
    = if (r.run pre suf g fun _ _ g' => some g').isSome then none else k pre suf g := rfl

/-- A class takes a character it contains. -/
theorem run_cls_of_test {c : CharClass} {x : Char} {xs : Str} (h : c.test x = true) :
    (Regex.cls c).run pre (x :: xs) g k = k (x :: pre) xs g := by
  simp [Regex.run, h]

/-- A literal fails on a text it does not start. -/
theorem run_lit_of_not_prefix {w : Str} (h : w.isPrefixOf suf = false) :
    (Regex.lit w).run pre suf g k = none := by
  simp [run_lit, h]

/-- A literal that does start the text consumes it. -/
theorem run_lit_append (w rest : Str) :
    (Regex.lit w).run pre (w ++ rest) g k = k (w.reverse ++ pre) rest g := by
  simp [run_lit, List.isPrefixOf_iff_prefix]

-- ================================================================ stars

/-- A choice succeeds iff one of its branches does. -/
theorem isSome_orElse {α : Type} (x y : Option α) : (x <|> y).isSome = (x.isSome || y.isSome) := by
  cases x <;> rfl

/-- One step of a star, as a boolean: take the character and go on, or stop
here. -/
theorem starMatch_cons_isSome (c : CharClass) (x : Char) (xs : Str) :
    (starMatch c k pre (x :: xs) g).isSome
      = ((c.test x && (starMatch c k (x :: pre) xs g).isSome) || (k pre (x :: xs) g).isSome) := by
  by_cases hx : c.test x <;> simp [starMatch, hx, isSome_orElse]

/-- Maximal munch: if the continuation never starts on a character of the
class, the star consumes the whole run. -/
theorem starMatch_of_stop (c : CharClass)
    (hk : ∀ p x xs g', c.test x = true → k p (x :: xs) g' = none) :
    ∀ pre suf, starMatch c k pre suf g
      = k ((suf.takeWhile c.test).reverse ++ pre) (suf.dropWhile c.test) g
  | pre, [] => rfl
  | pre, x :: xs => by
      by_cases hx : c.test x
      · simp [starMatch, hx, hk pre x xs g hx, starMatch_of_stop c hk (x :: pre) xs,
          List.takeWhile_cons_of_pos, List.dropWhile_cons_of_pos]
      · simp [starMatch, hx, List.takeWhile_cons_of_neg, List.dropWhile_cons_of_neg]

/-- A star matches if some run of its class lets the continuation match: the
engine backtracks until it finds that run or an earlier one. -/
theorem starMatch_isSome_of {c : CharClass} :
    ∀ {pre suf : Str} (n : Nat), (suf.take n).all c.test = true →
      (k ((suf.take n).reverse ++ pre) (suf.drop n) g).isSome = true →
        (starMatch c k pre suf g).isSome = true
  | pre, [], n, _, h => by simpa [starMatch] using h
  | pre, x :: xs, 0, _, h => by
      rw [starMatch_cons_isSome]
      simp_all
  | pre, x :: xs, n + 1, hall, h => by
      rw [starMatch_cons_isSome]
      simp only [List.take_succ_cons, List.all_cons, Bool.and_eq_true] at hall
      have := starMatch_isSome_of n hall.2 (by simpa using h)
      simp [hall.1, this]

-- ============================================================ inversion

/-- The group's equation: group 1 is what the group consumed. -/
theorem run_group (r : Regex) : (Regex.group r).run pre suf g k
    = r.run pre suf g fun pre' suf' _ => k pre' suf' (some (suf.take (suf.length - suf'.length))) :=
  rfl

/-- A star that matched took some run of its class, then the continuation
matched. -/
theorem starMatch_eq_some {c : CharClass} {v : Option Str} :
    ∀ {pre suf : Str}, starMatch c k pre suf g = some v →
      ∃ n, (suf.take n).all c.test ∧ k ((suf.take n).reverse ++ pre) (suf.drop n) g = some v
  | pre, [], h => ⟨0, rfl, h⟩
  | pre, x :: xs, h => by
      simp only [starMatch] at h
      cases hs : (if c.test x then starMatch c k (x :: pre) xs g else none) with
      | none => rw [hs] at h; exact ⟨0, rfl, h⟩
      | some v' =>
          rw [hs] at h
          cases h
          split at hs
          · obtain ⟨n, hn, hk⟩ := starMatch_eq_some hs
            exact ⟨n + 1, by simp [*], by simpa using hk⟩
          · cases hs

/-- `^` matched at a line start. -/
theorem run_bol_eq_some {v : Option Str} (h : Regex.bol.run pre suf g k = some v) :
    atLineStart pre = true ∧ k pre suf g = some v := by
  simp only [Regex.run] at h
  split at h
  · exact ⟨‹_›, h⟩
  · cases h

/-- `$` matched at a line end. -/
theorem run_eol_eq_some {v : Option Str} (h : Regex.eol.run pre suf g k = some v) :
    atLineEnd suf = true ∧ k pre suf g = some v := by
  simp only [Regex.run] at h
  split at h
  · exact ⟨‹_›, h⟩
  · cases h

/-- A literal matched its own text. -/
theorem run_lit_eq_some {w : Str} {v : Option Str} (h : (Regex.lit w).run pre suf g k = some v) :
    ∃ rest, suf = w ++ rest ∧ k (w.reverse ++ pre) rest g = some v := by
  simp only [Regex.run] at h
  split at h
  · rename_i hw
    obtain ⟨rest, rfl⟩ := List.isPrefixOf_iff_prefix.1 hw
    exact ⟨rest, rfl, by simpa using h⟩
  · cases h

/-- An alternation matched through one of its branches. -/
theorem run_alt_eq_some {r s : Regex} {v : Option Str} (h : (Regex.alt r s).run pre suf g k = some v) :
    r.run pre suf g k = some v ∨ s.run pre suf g k = some v := by
  simp only [Regex.run] at h
  cases hr : r.run pre suf g k with
  | none => rw [hr] at h; exact .inr h
  | some v' => rw [hr] at h; exact .inl h

/-- A lookahead that matched found no match of its body, and left the
position to the continuation. -/
theorem run_notAhead_eq_some {r : Regex} {v : Option Str}
    (h : (Regex.notAhead r).run pre suf g k = some v) :
    (r.run pre suf g fun _ _ g' => some g').isSome = false ∧ k pre suf g = some v := by
  simp only [Regex.run] at h
  split at h
  · cases h
  · exact ⟨Bool.eq_false_iff.2 ‹_›, h⟩

/-- `re.search` found its match at some later position. -/
theorem searchFrom_eq_some {r : Regex} {v : Option Str} :
    ∀ {pre suf : Str}, r.searchFrom pre suf = some v →
      ∃ n, r.matchAt ((suf.take n).reverse ++ pre) (suf.drop n) = some v
  | pre, [], h => ⟨0, h⟩
  | pre, x :: xs, h => by
      simp only [Regex.searchFrom] at h
      cases hm : r.matchAt pre (x :: xs) with
      | some v' => rw [hm] at h; cases h; exact ⟨0, hm⟩
      | none =>
          rw [hm] at h
          obtain ⟨n, hn⟩ := searchFrom_eq_some h
          exact ⟨n + 1, by simpa using hn⟩

-- ============================================================ captures

/-- A choice of two results that each capture group 1 when they match. -/
theorem orElse_ne_some_none {x y : Option (Option Str)} (hx : x ≠ some none)
    (hy : y ≠ some none) : (x <|> y) ≠ some none := by
  cases x with
  | none => exact hy
  | some v => exact hx

/-- A star hands on only what its continuation returns. -/
theorem starMatch_ne_some_none (c : CharClass) (hk : ∀ p s g', k p s g' ≠ some none) :
    ∀ pre suf, starMatch c k pre suf g ≠ some none
  | pre, [] => hk pre [] g
  | pre, x :: xs => by
      refine orElse_ne_some_none ?_ (hk pre (x :: xs) g)
      split
      · exact starMatch_ne_some_none c hk (x :: pre) xs
      · nofun

/-- If every result of the continuation that is a match captured group 1, so
does every result of the pattern: no constructor forgets a capture. -/
theorem run_ne_some_none :
    ∀ (r : Regex) {pre suf : Str} {g : Option Str} {k : Cont},
      (∀ p s g', k p s g' ≠ some none) → r.run pre suf g k ≠ some none
  | .bol, pre, _, _, _, hk => by
      simp only [Regex.run]
      split
      · exact hk _ _ _
      · nofun
  | .eol, _, suf, _, _, hk => by
      simp only [Regex.run]
      split
      · exact hk _ _ _
      · nofun
  | .lit w, _, suf, _, _, hk => by
      simp only [Regex.run]
      split
      · exact hk _ _ _
      · nofun
  | .cls c, _, [], _, _, _ => nofun
  | .cls c, _, x :: xs, _, _, hk => by
      simp only [Regex.run]
      split
      · exact hk _ _ _
      · nofun
  | .star c, pre, suf, _, _, hk => starMatch_ne_some_none c hk pre suf
  | .seq r s, _, _, _, _, hk => run_ne_some_none r fun _ _ _ => run_ne_some_none s hk
  | .alt r s, _, _, _, _, hk => orElse_ne_some_none (run_ne_some_none r hk) (run_ne_some_none s hk)
  | .group r, _, _, _, _, hk => run_ne_some_none r fun _ _ _ => hk _ _ _
  | .notAhead r, _, _, _, _, hk => by
      simp only [Regex.run]
      split
      · nofun
      · exact hk _ _ _

/-- A group captures: its result, if a match, has group 1 set as soon as the
continuation's matches from a set group 1 do. -/
theorem run_group_ne_some_none (r : Regex) (hk : ∀ p s x, k p s (some x) ≠ some none) :
    (Regex.group r).run pre suf g k ≠ some none :=
  run_ne_some_none r fun _ _ _ => hk _ _ _

/-- `re.search` keeps the captures of its first match. -/
theorem searchFrom_ne_some_none {r : Regex} (hm : ∀ pre suf, r.matchAt pre suf ≠ some none) :
    ∀ pre suf, r.searchFrom pre suf ≠ some none
  | pre, [] => hm pre []
  | pre, x :: xs => orElse_ne_some_none (hm pre (x :: xs)) (searchFrom_ne_some_none hm (x :: pre) xs)

-- =================================================== context independence

/-- `r` has no `^`, the only construct that reads the text before the
position. -/
def Regex.noBol : Regex → Bool
  | .bol => false
  | .seq r s | .alt r s => r.noBol && s.noBol
  | .group r | .notAhead r => r.noBol
  | _ => true

/-- Whether a star matches depends on the text before the position and on
group 1 only through its continuation. -/
theorem starMatch_isSome_congr {c : CharClass} {k k' : Cont}
    (hk : ∀ p p' s g g', (k p s g).isSome = (k' p' s g').isSome) :
    ∀ (pre pre' suf : Str) (g g' : Option Str),
      (starMatch c k pre suf g).isSome = (starMatch c k' pre' suf g').isSome
  | pre, pre', [], g, g' => hk pre pre' [] g g'
  | pre, pre', x :: xs, g, g' => by
      rw [starMatch_cons_isSome, starMatch_cons_isSome,
        starMatch_isSome_congr hk (x :: pre) (x :: pre') xs g g', hk pre pre' (x :: xs) g g']

/-- Without `^`, whether a pattern matches depends on the text before the
position and on group 1 only through its continuation. -/
theorem run_isSome_congr :
    ∀ (r : Regex), r.noBol = true → ∀ {pre pre' suf : Str} {g g' : Option Str} {k k' : Cont},
      (∀ p p' s g g', (k p s g).isSome = (k' p' s g').isSome) →
        (r.run pre suf g k).isSome = (r.run pre' suf g' k').isSome
  | .bol, h, _, _, _, _, _, _, _, _ => by cases h
  | .eol, _, pre, pre', suf, g, g', _, _, hk => by
      simp only [Regex.run]
      split <;> simp [hk pre pre' suf g g']
  | .lit w, _, pre, pre', suf, g, g', _, _, hk => by
      simp only [Regex.run]
      split <;> simp [hk (w.reverse ++ pre) (w.reverse ++ pre') (suf.drop w.length) g g']
  | .cls c, _, _, _, [], _, _, _, _, _ => rfl
  | .cls c, _, pre, pre', x :: xs, g, g', _, _, hk => by
      simp only [Regex.run]
      split <;> simp [hk (x :: pre) (x :: pre') xs g g']
  | .star c, _, pre, pre', suf, g, g', _, _, hk => starMatch_isSome_congr hk pre pre' suf g g'
  | .seq r s, h, _, _, _, _, _, _, _, hk => by
      simp only [Regex.noBol, Bool.and_eq_true] at h
      exact run_isSome_congr r h.1 fun _ _ _ _ _ => run_isSome_congr s h.2 hk
  | .alt r s, h, _, _, _, _, _, _, _, hk => by
      simp only [Regex.noBol, Bool.and_eq_true] at h
      simp only [Regex.run, isSome_orElse]
      rw [run_isSome_congr r h.1 hk, run_isSome_congr s h.2 hk]
  | .group r, h, _, _, suf, _, _, _, _, hk =>
      run_isSome_congr r h fun p p' s _ _ => hk p p' s _ _
  | .notAhead r, h, pre, pre', suf, g, g', _, _, hk => by
      have hr := @run_isSome_congr r h pre pre' suf g g' (fun _ _ g => some g) (fun _ _ g => some g)
        fun _ _ _ _ _ => rfl
      simp only [Regex.run]
      split <;> split <;> simp_all [hk pre pre' suf g g']

/-- `^` after a character holds exactly after a newline. -/
@[simp] theorem atLineStart_cons (c : Char) (p : Str) : atLineStart (c :: p) = decide (c = '\n') := by
  simp [atLineStart]

/-- `$` before a character holds exactly before a newline. -/
@[simp] theorem atLineEnd_cons (c : Char) (s : Str) : atLineEnd (c :: s) = decide (c = '\n') := by
  simp [atLineEnd]

end UvmRegression
