/-
`uvm_results.csv` (`run_uvm_regression.py`, lines 639-646): the report is
written by `csv.DictWriter` over the field names `Target, Status, Reason,
Log Path`, to a file opened with `newline=''`. This module gives the text that
writes, and the records `csv.reader` reads from such a text, both as CPython's
`_csv` module has them for the default `excel` dialect: `,` as delimiter, `"` as
quote character with quotes doubled, no escape character, minimal quoting,
`\r\n` as line terminator, not strict.

# The writer

`join_append_data` quotes a field when it holds the delimiter, the quote
character or a character of the line terminator, and doubles every quote it
copies (`quoteField`). `writerow` puts the delimiter before every field but the
first; a record whose text comes out empty although it has a field is written
`""`, since an empty line reads back as no field at all (`writeRow`).
`DictWriter.writeheader` writes the field names as a record, and `writerow`
each row's values in field-name order (`csvText`).

# The reader

`csv.reader` iterates the lines of the file: opened with `newline=''`, a line
ends after `\n`, after `\r\n` or after a `\r` not followed by `\n`, and keeps its
terminator (`breaks`); a last line without terminator is a line too (`events`).
Each character of a line goes through `parse_process_char`, and so does an
end-of-line mark after it (`Reader.step`). `Reader_iternext` returns a record at
the first end of line that leaves the parser at the start of a record; at the end
of the file a field still open is saved and its record returned (`readAll`). A
field holds at most `field_size_limit()` characters, 131072 unless changed:
`parse_add_char` raises past that. Without an escape character the two escape
states are unreachable, and `skipinitialspace` and `QUOTE_NONNUMERIC` are off. A
NUL is an ordinary character, as in CPython 3.11 and later.
-/
import UvmRegression.Regression

namespace UvmRegression

-- ============================================================ the writer

/-- The characters that make `join_append_data` quote a field under
`QUOTE_MINIMAL`: the delimiter, the quote character, and those of the line
terminator. -/
def needsQuote (c : Char) : Bool := c == ',' || c == '"' || c == '\r' || c == '\n'

/-- The characters `join_append_data` copies for a field: each quote doubled. -/
def escapeField : Str → Str
  | [] => []
  | c :: cs => (if c = '"' then ['"', '"'] else [c]) ++ escapeField cs

/-- A field as its record holds it, quoted when one of its characters asks for it. -/
def quoteField (f : Str) : Str :=
  if f.any needsQuote then '"' :: escapeField f ++ ['"'] else escapeField f

/-- The fields of a record, a delimiter before each but the first. -/
def joinFields : List Str → Str
  | [] => []
  | f :: fs => quoteField f ++ fs.flatMap fun g => ',' :: quoteField g

/-- `writer.writerow(fields)`. -/
def writeRow (fields : List Str) : Str :=
  (if fields ≠ [] ∧ joinFields fields = [] then ['"', '"'] else joinFields fields)
    ++ ['\r', '\n']

/-- `fieldnames` (line 642). -/
def fieldnames : List Str := ["Target".toList, "Status".toList, "Reason".toList, "Log Path".toList]

/-- The values `DictWriter.writerow` takes from a row's dictionary (lines
629-634), in field-name order. -/
def Row.fields (r : Row) : List Str := [r.target, r.status.text, r.reason, r.logPath]

/-- The text of `uvm_results.csv`: `writeheader()`, then `writerow(row)` for each row. -/
def csvText (rows : List Row) : Str :=
  writeRow fieldnames ++ rows.flatMap fun r => writeRow r.fields

/-- The report file of a run, once the run has written it. -/
def RegressionEnd.csvFile (e : RegressionEnd) : Option Str := e.csv.map csvText

-- ============================================================ the lines

/-- What `parse_process_char` is given: a character of a line, or the
end-of-line mark `Reader_iternext` passes after each line. -/
inductive Ev
  | ch (c : Char)
  | eol
  deriving DecidableEq, Repr

/-- The characters of a text, with an end-of-line mark after each line
terminator: `\n`, `\r\n`, or a `\r` not followed by `\n`. -/
def breaks : Str → List Ev
  | [] => []
  | '\r' :: '\n' :: cs => .ch '\r' :: .ch '\n' :: .eol :: breaks cs
  | '\r' :: cs => .ch '\r' :: .eol :: breaks cs
  | '\n' :: cs => .ch '\n' :: .eol :: breaks cs
  | c :: cs => .ch c :: breaks cs

theorem breaks_crlf (cs : Str) :
    breaks ('\r' :: '\n' :: cs) = .ch '\r' :: .ch '\n' :: .eol :: breaks cs :=
  breaks.eq_2 cs

theorem breaks_cr {cs : Str} (h : cs.head? ≠ some '\n') :
    breaks ('\r' :: cs) = .ch '\r' :: .eol :: breaks cs :=
  breaks.eq_3 cs fun _ hc => h (by rw [hc]; rfl)

theorem breaks_lf (cs : Str) : breaks ('\n' :: cs) = .ch '\n' :: .eol :: breaks cs :=
  breaks.eq_4 cs

theorem breaks_cons {c : Char} (hr : c ≠ '\r') (hn : c ≠ '\n') (cs : Str) :
    breaks (c :: cs) = .ch c :: breaks cs :=
  breaks.eq_5 c cs (fun _ h => absurd h hr) hr hn

/-- A text with no line terminator in front is one run of characters. -/
theorem breaks_append_of_plain {f : Str} (hf : ∀ c ∈ f, c ≠ '\r' ∧ c ≠ '\n') (t : Str) :
    breaks (f ++ t) = f.map .ch ++ breaks t := by
  induction f with
  | nil => rfl
  | cons c cs ih =>
      obtain ⟨hr, hn⟩ := hf c (List.mem_cons_self c cs)
      rw [List.cons_append, breaks_cons hr hn, ih fun d hd => hf d (List.mem_cons_of_mem c hd)]
      rfl

/-- What `csv.reader` is given for a file opened with `newline=''`: a last line
without terminator gets its end-of-line mark too. -/
def events (s : Str) : List Ev :=
  breaks s ++ match s.getLast? with
    | none | some '\r' | some '\n' => []
    | some _ => [.eol]

-- ============================================================ the parser

/-- The parser's states, without the two escape states. -/
inductive ParserState
  | startRecord
  | startField
  | inField
  | inQuotedField
  | quoteInQuotedField
  | eatCrnl
  deriving DecidableEq, Repr

/-- The reader: its state, the fields of the record so far, the field being read. -/
structure Reader where
  state : ParserState
  fields : List Str
  field : Str
  deriving DecidableEq, Repr

/-- `parse_reset`. -/
def Reader.init : Reader := ⟨.startRecord, [], []⟩

/-- `field_size_limit()`, unless changed. -/
def fieldLimit : Nat := 131072

/-- The `_csv.Error`s the reader can raise. -/
inductive CsvError
  /-- `field larger than field limit (131072)`. -/
  | fieldLimit
  /-- `new-line character seen in unquoted field`. -/
  | newlineInUnquoted
  deriving DecidableEq, Repr

/-- `parse_save_field`, then the next state. -/
def Reader.saveField (r : Reader) (state : ParserState) : Reader :=
  ⟨state, r.fields ++ [r.field], []⟩

/-- `parse_add_char`, then the next state. -/
def Reader.addChar (r : Reader) (c : Char) (state : ParserState) : Except CsvError Reader :=
  if fieldLimit ≤ r.field.length then .error .fieldLimit
  else .ok ⟨state, r.fields, r.field ++ [c]⟩

/-- The `START_FIELD` case, which `START_RECORD` falls through to. -/
def Reader.startField (r : Reader) : Ev → Except CsvError Reader
  | .eol => .ok (r.saveField .startRecord)
  | .ch '\n' | .ch '\r' => .ok (r.saveField .eatCrnl)
  | .ch '"' => .ok { r with state := .inQuotedField }
  | .ch ',' => .ok (r.saveField .startField)
  | .ch c => r.addChar c .inField

/-- `parse_process_char`. -/
def Reader.step (r : Reader) (e : Ev) : Except CsvError Reader :=
  match r.state, e with
  | .startRecord, .eol => .ok r
  | .startRecord, .ch '\n' | .startRecord, .ch '\r' => .ok { r with state := .eatCrnl }
  | .startRecord, e | .startField, e => r.startField e
  | .inField, .eol => .ok (r.saveField .startRecord)
  | .inField, .ch '\n' | .inField, .ch '\r' => .ok (r.saveField .eatCrnl)
  | .inField, .ch ',' => .ok (r.saveField .startField)
  | .inField, .ch c => r.addChar c .inField
  | .inQuotedField, .eol => .ok r
  | .inQuotedField, .ch '"' => .ok { r with state := .quoteInQuotedField }
  | .inQuotedField, .ch c => r.addChar c .inQuotedField
  | .quoteInQuotedField, .ch '"' => r.addChar '"' .inQuotedField
  | .quoteInQuotedField, .ch ',' => .ok (r.saveField .startField)
  | .quoteInQuotedField, .eol => .ok (r.saveField .startRecord)
  | .quoteInQuotedField, .ch '\n' | .quoteInQuotedField, .ch '\r' => .ok (r.saveField .eatCrnl)
  | .quoteInQuotedField, .ch c => r.addChar c .inField
  | .eatCrnl, .eol => .ok { r with state := .startRecord }
  | .eatCrnl, .ch '\n' | .eatCrnl, .ch '\r' => .ok r
  | .eatCrnl, .ch _ => .error .newlineInUnquoted

/-- `list(csv.reader(f))` from a reader partway through a record. -/
def readAll (r : Reader) : List Ev → Except CsvError (List (List Str))
  | [] => .ok (if r.field ≠ [] ∨ r.state = .inQuotedField then [r.fields ++ [r.field]] else [])
  | e :: es =>
      match r.step e with
      | .error x => .error x
      | .ok r' =>
          if e = .eol ∧ r'.state = .startRecord then (readAll .init es).map (r'.fields :: ·)
          else readAll r' es

/-- The records `csv.reader` reads from a file opened with `newline=''`. -/
def readCsv (s : Str) : Except CsvError (List (List Str)) := readAll .init (events s)

end UvmRegression
