/-
The round trip of the report: whatever rows a run holds, `csv.reader` reads
`uvm_results.csv` back as the header followed by exactly those rows, a record of
four fields each, unless a field is longer than `field_size_limit()`, and then it
raises (`readCsv_csvText`, `runFullRegression_csv_reads_back`). Reasons that keep
a comma or a line break of an exception text (`Copy/Setup failed: ...` and the
`EXEC_FAIL` reasons) are no exception: the writer quotes them.

# Fields

The reader is followed through the text a piece at a time, as the writer lays
it out, each lemma stated on whatever events come after the piece
(`readAll_field`). A plain field goes through `IN_FIELD` a character at a time
(`readAll_plain`). A quoted one goes through `IN_QUOTED_FIELD`, where an
end-of-line mark changes nothing, so the line breaks a field holds do not split
its record, and a doubled quote is one quote (`readAll_escaped`). Every
character added is checked against the limit, and the checks add up to one on
the field's length (`readAll_guard`).

# Records and the file

After a field the parser stands where the delimiter saves the field and opens
the next, and the terminator `\r\n` saves it and ends the record
(`readAll_joinFields`). The one exception is a record of a single empty field,
whose terminator would end the record without saving the field: that is why
`writerow` writes it `""` (`readAll_writeRow`). The file is the header's record
followed by the rows' (`readAll_rows`).
-/
import UvmRegression.Csv
import UvmRegression.Proofs.Loop

namespace UvmRegression

variable {acc : List Str} {es : List Ev}

-- ============================================================ one event

/-- An event that leaves the record open hands the reader on. -/
theorem readAll_cons_ok {r r' : Reader} {e : Ev} (h : r.step e = .ok r')
    (hn : e = .eol → r'.state ≠ .startRecord) : readAll r (e :: es) = readAll r' es := by
  simp only [readAll, h]
  exact if_neg fun h' => hn h'.1 h'.2

/-- A character added to the field, once the field is checked against the
limit: the check and those of the rest of the field add up to one on the length. -/
theorem readAll_guard {r : Reader} {c d : Char} {s : ParserState} {k : Nat}
    {y : Except CsvError (List (List Str))} (h : r.step (.ch d) = r.addChar c s)
    (hy : r.field.length < fieldLimit → readAll ⟨s, r.fields, r.field ++ [c]⟩ es
      = if (r.field ++ [c]).length + k ≤ fieldLimit then y else .error .fieldLimit) :
    readAll r (.ch d :: es)
      = if r.field.length + (k + 1) ≤ fieldLimit then y else .error .fieldLimit := by
  have hstep : readAll r (.ch d :: es) = if r.field.length < fieldLimit
      then readAll ⟨s, r.fields, r.field ++ [c]⟩ es else .error .fieldLimit := by
    by_cases hl : fieldLimit ≤ r.field.length
    · simp [readAll, h, Reader.addChar, hl, Nat.not_lt.mpr hl]
    · simp [readAll, h, Reader.addChar, hl, Nat.lt_of_not_le hl]
  by_cases hl : r.field.length < fieldLimit
  · rw [hstep, if_pos hl, hy hl, List.length_append, List.length_singleton, Nat.add_assoc,
      Nat.add_comm 1 k]
  · rw [hstep, if_neg hl, if_neg (by omega)]

-- ============================================================ fields

/-- In `IN_FIELD`, a character other than a delimiter or a line break goes into
the field. -/
theorem step_inField_char {c : Char} (hcomma : c ≠ ',') (hr : c ≠ '\r') (hn : c ≠ '\n')
    (fld : Str) :
    (⟨.inField, acc, fld⟩ : Reader).step (.ch c)
      = Reader.addChar ⟨.inField, acc, fld⟩ c .inField := by
  unfold Reader.step Reader.step.match_1
  dsimp only
  simp only [dif_neg hn, dif_neg hr, dif_neg hcomma]

/-- In `IN_FIELD`, the characters of a plain field are added one by one. -/
theorem readAll_plain (cs : Str) (hcs : ∀ c ∈ cs, needsQuote c = false) :
    ∀ fld : Str, fld.length ≤ fieldLimit → readAll ⟨.inField, acc, fld⟩ (cs.map .ch ++ es)
      = if fld.length + cs.length ≤ fieldLimit
        then readAll ⟨.inField, acc, fld ++ cs⟩ es else .error .fieldLimit := by
  induction cs with
  | nil => intro fld hfld; simp [hfld]
  | cons c cs ih =>
      intro fld hfld
      have hc := hcs c (List.mem_cons_self c cs)
      simp only [needsQuote, Bool.or_eq_false_iff, beq_eq_false_iff_ne] at hc
      rw [List.map_cons, List.cons_append]
      refine readAll_guard (step_inField_char hc.1.1.1 hc.1.2 hc.2 fld) fun hl => ?_
      dsimp only at hl ⊢
      rw [ih (fun d hd => hcs d (List.mem_cons_of_mem c hd)) (fld ++ [c]) (by simp; omega)]
      simp

/-- In `IN_QUOTED_FIELD`, an end-of-line mark changes nothing. -/
theorem readAll_quoted_eol (fld : Str) :
    readAll ⟨.inQuotedField, acc, fld⟩ (.eol :: es)
      = readAll ⟨.inQuotedField, acc, fld⟩ es :=
  readAll_cons_ok rfl fun _ h => nomatch h

/-- In `IN_QUOTED_FIELD`, a character other than a quote goes into the field. -/
theorem step_quoted_char {c : Char} (hc : c ≠ '"') (fld : Str) :
    (⟨.inQuotedField, acc, fld⟩ : Reader).step (.ch c)
      = Reader.addChar ⟨.inQuotedField, acc, fld⟩ c .inQuotedField := by
  unfold Reader.step Reader.step.match_1
  dsimp only
  simp only [dif_neg hc]

/-- In `IN_QUOTED_FIELD`, a quote ends the quoted part or starts a doubled quote. -/
theorem step_quoted_quote (fld : Str) :
    (⟨.inQuotedField, acc, fld⟩ : Reader).step (.ch '"')
      = .ok ⟨.quoteInQuotedField, acc, fld⟩ :=
  rfl

theorem escapeField_cons {c : Char} (hc : c ≠ '"') (cs : Str) :
    escapeField (c :: cs) = c :: escapeField cs := by
  simp [escapeField, hc]

/-- After the escaped text of a field, what follows starts as it would alone. -/
theorem escapeField_append_head {cs t : Str} (hcs : ∀ cs', cs = '\n' :: cs' → False)
    (ht : t.head? = some '"') : (escapeField cs ++ t).head? ≠ some '\n' := by
  cases cs with
  | nil => simp [escapeField, ht]
  | cons d ds =>
      have hd : d ≠ '\n' := fun h => hcs ds (by rw [h])
      by_cases hq : d = '"' <;> simp [escapeField, hq, hd]

/-- Inside quotes, the reader takes the characters of an escaped field one by
one, whatever line breaks it holds, up to the quote that follows it. -/
theorem readAll_escaped {t : Str} (ht : t.head? = some '"') (f : Str) :
    ∀ fld : Str, fld.length ≤ fieldLimit →
      readAll ⟨.inQuotedField, acc, fld⟩ (breaks (escapeField f ++ t))
        = if fld.length + f.length ≤ fieldLimit
          then readAll ⟨.inQuotedField, acc, fld ++ f⟩ (breaks t) else .error .fieldLimit := by
  induction f using breaks.induct with
  | case1 => intro fld hfld; simp [escapeField, hfld]
  | case2 cs ih =>
      intro fld hfld
      rw [escapeField_cons (by decide), escapeField_cons (by decide), List.cons_append,
        List.cons_append, breaks_crlf]
      refine readAll_guard (step_quoted_char (by decide) fld) fun hl => ?_
      refine readAll_guard (step_quoted_char (by decide) _) fun hl' => ?_
      rw [readAll_quoted_eol, ih _ (by simp at hl' ⊢; omega)]
      simp
  | case3 cs hcs ih =>
      intro fld hfld
      rw [escapeField_cons (by decide), List.cons_append,
        breaks_cr (escapeField_append_head hcs ht)]
      refine readAll_guard (step_quoted_char (by decide) fld) fun hl => ?_
      rw [readAll_quoted_eol, ih _ (by simp at hl ⊢; omega)]
      simp
  | case4 cs ih =>
      intro fld hfld
      rw [escapeField_cons (by decide), List.cons_append, breaks_lf]
      refine readAll_guard (step_quoted_char (by decide) fld) fun hl => ?_
      rw [readAll_quoted_eol, ih _ (by simp at hl ⊢; omega)]
      simp
  | case5 c cs _ hr hn ih =>
      intro fld hfld
      by_cases hq : c = '"'
      · subst hq
        have : escapeField ('"' :: cs) ++ t = '"' :: '"' :: (escapeField cs ++ t) := by
          simp [escapeField]
        rw [this, breaks_cons (by decide) (by decide), breaks_cons (by decide) (by decide),
          readAll_cons_ok (step_quoted_quote fld) (fun h => nomatch h)]
        refine readAll_guard (c := '"') (s := .inQuotedField) rfl fun hl => ?_
        rw [ih _ (by simp at hl ⊢; omega)]
        simp
      · rw [escapeField_cons hq, List.cons_append, breaks_cons hr hn]
        refine readAll_guard (step_quoted_char hq fld) fun hl => ?_
        rw [ih _ (by simp at hl ⊢; omega)]
        simp

/-- The escaped text of a field without quotes is the field. -/
theorem escapeField_of_plain {f : Str} (h : ∀ c ∈ f, c ≠ '"') : escapeField f = f := by
  induction f with
  | nil => rfl
  | cons c cs ih =>
      rw [escapeField_cons (h c (List.mem_cons_self c cs)),
        ih fun d hd => h d (List.mem_cons_of_mem c hd)]

-- ============================================================ a field from its start

/-- Where the parser stands once a field's text is read from the start of a field. -/
def fieldEnd (start : ParserState) (f : Str) : ParserState :=
  if f.any needsQuote then .quoteInQuotedField else if f = [] then start else .inField

/-- At the start of a field, `START_RECORD` falls through to `START_FIELD` on
every character but a line break. -/
theorem step_start {s : ParserState} (hs : s = .startRecord ∨ s = .startField) {c : Char}
    (hr : c ≠ '\r') (hn : c ≠ '\n') (fld : Str) :
    (⟨s, acc, fld⟩ : Reader).step (.ch c) = Reader.startField ⟨s, acc, fld⟩ (.ch c) := by
  unfold Reader.step Reader.step.match_1
  rcases hs with rfl | rfl <;> simp only [dif_neg hn, dif_neg hr]

/-- A field read from the start of a field: the reader stands at `fieldEnd`
with the whole field, if it fits. -/
theorem readAll_field {s : ParserState} (hs : s = .startRecord ∨ s = .startField) (f t : Str) :
    readAll ⟨s, acc, []⟩ (breaks (quoteField f ++ t))
      = if f.length ≤ fieldLimit then readAll ⟨fieldEnd s f, acc, f⟩ (breaks t)
        else .error .fieldLimit := by
  unfold quoteField fieldEnd
  by_cases hq : f.any needsQuote
  · have : '"' :: escapeField f ++ ['"'] ++ t = '"' :: (escapeField f ++ '"' :: t) := by simp
    have hopen :
        (⟨s, acc, []⟩ : Reader).step (.ch '"') = .ok ⟨.inQuotedField, acc, []⟩ := by
      rw [step_start hs (by decide) (by decide)]; rfl
    rw [if_pos hq, if_pos hq, this, breaks_cons (by decide) (by decide),
      readAll_cons_ok hopen (fun h => nomatch h),
      readAll_escaped (t := '"' :: t) rfl f [] (by simp [fieldLimit]),
      breaks_cons (by decide) (by decide), List.length_nil, Nat.zero_add, List.nil_append,
      readAll_cons_ok (step_quoted_quote f) fun h => nomatch h]
  · have hplain : ∀ c ∈ f, needsQuote c = false := by simpa using hq
    have hchar : ∀ c ∈ f, ((c ≠ ',' ∧ c ≠ '"') ∧ c ≠ '\r') ∧ c ≠ '\n' :=
      fun c hc => by simpa [needsQuote] using hplain c hc
    rw [if_neg hq, if_neg hq, escapeField_of_plain fun c hc => (hchar c hc).1.1.2,
      breaks_append_of_plain fun c hc => ⟨(hchar c hc).1.2, (hchar c hc).2⟩]
    cases f with
    | nil => simp [fieldLimit]
    | cons c cs =>
        obtain ⟨⟨⟨hcomma, hquote⟩, hr⟩, hn⟩ := hchar c (List.mem_cons_self c cs)
        rw [List.map_cons, List.cons_append, if_neg (List.cons_ne_nil c cs), List.length_cons,
          ← Nat.zero_add (cs.length + 1)]
        refine readAll_guard (c := c) (s := .inField)
          (by rw [step_start hs hr hn]; simp [Reader.startField, hcomma, hquote, hr, hn])
          fun _ => ?_
        simp only [List.nil_append]
        rw [readAll_plain cs (fun d hd => hplain d (List.mem_cons_of_mem c hd)) [c]
          (by simp [fieldLimit])]
        simp

-- ============================================================ records

/-- After a field, the delimiter saves it and opens the next field. -/
theorem step_fieldEnd_comma {s : ParserState} (hs : s = .startRecord ∨ s = .startField)
    (f : Str) :
    (⟨fieldEnd s f, acc, f⟩ : Reader).step (.ch ',') = .ok ⟨.startField, acc ++ [f], []⟩ := by
  unfold fieldEnd
  split_ifs with hq he
  · rfl
  · subst he
    rcases hs with rfl | rfl <;> rfl
  · rfl

/-- After a field, the terminator saves it and ends the record, unless the
field is empty and the record's only one. -/
theorem readAll_fieldEnd_crlf {s : ParserState} (hs : s = .startRecord ∨ s = .startField)
    {f : Str} (hf : s = .startRecord → f ≠ []) (rest : Str) :
    readAll ⟨fieldEnd s f, acc, f⟩ (breaks ('\r' :: '\n' :: rest))
      = (readAll .init (breaks rest)).map ((acc ++ [f]) :: ·) := by
  have hcr :
      (⟨fieldEnd s f, acc, f⟩ : Reader).step (.ch '\r') = .ok ⟨.eatCrnl, acc ++ [f], []⟩ := by
    unfold fieldEnd
    split_ifs with hq he
    · rfl
    · subst he
      rcases hs with rfl | rfl
      · exact absurd rfl (hf rfl)
      · rfl
    · rfl
  rw [breaks_crlf, readAll_cons_ok hcr (fun h => nomatch h)]
  rfl

theorem joinFields_cons_cons (f g : Str) (gs : List Str) :
    joinFields (f :: g :: gs) = quoteField f ++ ',' :: joinFields (g :: gs) := by
  simp [joinFields]

/-- The fields of a record, read from the start of a field, are saved in order,
and the terminator ends the record. -/
theorem readAll_joinFields (rest : Str) (gs : List Str) :
    ∀ (f : Str) (s : ParserState) (acc : List Str), (s = .startRecord ∨ s = .startField) →
      (s = .startRecord → gs = [] → f ≠ []) →
      readAll ⟨s, acc, []⟩ (breaks (joinFields (f :: gs) ++ '\r' :: '\n' :: rest))
        = if ∀ g ∈ f :: gs, g.length ≤ fieldLimit
          then (readAll .init (breaks rest)).map ((acc ++ f :: gs) :: ·)
          else .error .fieldLimit := by
  induction gs with
  | nil =>
      intro f s acc hs hf
      rw [joinFields, List.flatMap_nil, List.append_nil, readAll_field hs,
        readAll_fieldEnd_crlf hs fun h => hf h rfl]
      simp only [List.forall_mem_singleton]
  | cons g gs ih =>
      intro f s acc hs _
      rw [joinFields_cons_cons, List.append_assoc, List.cons_append, readAll_field hs,
        breaks_cons (by decide) (by decide),
        readAll_cons_ok (step_fieldEnd_comma hs f) (fun h => nomatch h),
        ih g .startField (acc ++ [f]) (.inr rfl) (fun h => nomatch h)]
      simp [ite_and]

theorem quoteField_eq_nil {f : Str} : quoteField f = [] ↔ f = [] := by
  cases f with
  | nil => rfl
  | cons c cs =>
      unfold quoteField
      split
      · simp
      · simp only [escapeField, List.append_eq_nil, reduceCtorEq, iff_false, not_and]
        split <;> simp

/-- A record's text is empty exactly when it has no field or one empty field. -/
theorem joinFields_eq_nil {fs : List Str} : joinFields fs = [] ↔ fs = [] ∨ fs = [[]] := by
  match fs with
  | [] => simp [joinFields]
  | [f] => simp [joinFields, quoteField_eq_nil]
  | _ :: _ :: _ => simp [joinFields_cons_cons]

/-- A record reads back as its fields, if each fits. -/
theorem readAll_writeRow (fs : List Str) (rest : Str) :
    readAll .init (breaks (writeRow fs ++ rest))
      = if ∀ f ∈ fs, f.length ≤ fieldLimit
        then (readAll .init (breaks rest)).map (fs :: ·) else .error .fieldLimit := by
  unfold writeRow
  by_cases he : fs ≠ [] ∧ joinFields fs = []
  · obtain rfl : fs = [[]] := (joinFields_eq_nil.mp he.2).resolve_left he.1
    rw [if_pos he, if_pos (by simp [fieldLimit])]
    rfl
  · rw [if_neg he, List.append_assoc]
    match fs, he with
    | [], _ => rfl
    | f :: gs, he =>
        exact readAll_joinFields rest gs f .startRecord [] (.inl rfl) fun _ hg hf =>
          he ⟨by simp, joinFields_eq_nil.mpr (.inr (by rw [hg, hf]))⟩

/-- The rows' records read back as the rows' fields, if each fits. -/
theorem readAll_rows (rows : List Row) :
    readAll .init (breaks (rows.flatMap fun r => writeRow r.fields))
      = if ∀ r ∈ rows, ∀ f ∈ r.fields, f.length ≤ fieldLimit
        then .ok (rows.map Row.fields) else .error .fieldLimit := by
  induction rows with
  | nil => rfl
  | cons r rs ih =>
      rw [List.flatMap_cons, readAll_writeRow, ih]
      simp only [List.forall_mem_cons, ite_and]
      split_ifs <;> rfl

-- ============================================================ the file

theorem getLast?_writeRow (fs : List Str) : (writeRow fs).getLast? = some '\n' := by
  simp [writeRow, List.getLast?_append]

/-- The report ends with a line terminator. -/
theorem getLast?_csvText (rows : List Row) : (csvText rows).getLast? = some '\n' := by
  suffices ∀ l : Str, l.getLast? = some '\n' →
      (l ++ rows.flatMap fun r => writeRow r.fields).getLast? = some '\n' from
    this _ (getLast?_writeRow fieldnames)
  induction rows with
  | nil => simp
  | cons r rs ih =>
      intro l hl
      rw [List.flatMap_cons, ← List.append_assoc]
      exact ih _ (by rw [List.getLast?_append, getLast?_writeRow]; rfl)

/-- A text that ends with a line terminator has no partial last line. -/
theorem events_of_getLast {s : Str} (h : s.getLast? = some '\n') : events s = breaks s := by
  simp [events, h]

/-- The report reads back as the header and then the rows, one record of four
fields each, if every field fits within `field_size_limit()`; otherwise the
reader raises. -/
theorem readCsv_csvText (rows : List Row) :
    readCsv (csvText rows) = if ∀ r ∈ rows, ∀ f ∈ r.fields, f.length ≤ fieldLimit
      then .ok (fieldnames :: rows.map Row.fields) else .error .fieldLimit := by
  rw [readCsv, events_of_getLast (getLast?_csvText rows), csvText, readAll_writeRow, readAll_rows,
    if_pos (by decide)]
  split_ifs <;> rfl

-- ============================================================ the run

/-- Whatever report a run writes, `csv.reader` reads it back as the header
followed by the run's rows, in order, one record of four fields each, whatever
commas, quotes and line breaks the fields hold, unless a field is longer than
`field_size_limit()`, and then the reader raises. -/
theorem runFullRegression_csv_reads_back {env : Env} {w : World} {tests : List (Str × Str)}
    {text : Str} (h : (runFullRegression env w tests).csvFile = some text) :
    readCsv text = if ∀ r ∈ (runFullRegression env w tests).state.results, ∀ f ∈ r.fields,
        f.length ≤ fieldLimit
      then .ok (fieldnames :: (runFullRegression env w tests).state.results.map Row.fields)
      else .error .fieldLimit := by
  obtain ⟨rows, hcsv, rfl⟩ := Option.map_eq_some'.mp h
  obtain ⟨-, -, -, rfl⟩ := runFullRegression_csv hcsv
  exact readCsv_csvText _

/-- `runFullRegression_csv_reads_back` on a run whose copy raises with a comma,
a line break and quotes in its text: the reason keeps them all and reads back whole. -/
theorem runFullRegression_csv_reads_back_copy_error :
    let env : Env := ⟨"spike".toList, "/tmp".toList,
      fun n => if n = "b.elf".toList then some ⟨[], 420⟩ else none, 420,
      "/work".toList, fun _ => none⟩
    let w : World := ⟨true, none, ⟨fun _ => none, fun _ => none⟩,
      fun _ => { Outcome.quiet with copyElf := some "a,b\n\"c\"".toList }, none, none⟩
    let tests := [("//a:b".toList, "b.elf".toList)]
    let text := csvText (runFullRegression env w tests).state.results
    readCsv text = .ok [fieldnames, ["//a:b".toList, "FAIL".toList,
        "Copy/Setup failed: a,b\n\"c\"".toList, "logs/a_b.log".toList]]
      ∧ (runFullRegression env w tests).csvFile = some text
      ∧ readCsv text = if ∀ r ∈ (runFullRegression env w tests).state.results, ∀ f ∈ r.fields,
          f.length ≤ fieldLimit
        then .ok (fieldnames :: (runFullRegression env w tests).state.results.map Row.fields)
        else .error .fieldLimit :=
  ⟨rfl, rfl, runFullRegression_csv_reads_back rfl⟩

end UvmRegression
