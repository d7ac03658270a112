import MathUnicode.Cli.Arguments
import MathUnicode.Cli.Json
import MathUnicode.Cli.Program
import MathUnicode.Cli.Workspace
import MathUnicode.Proofs.ByteTables
import MathUnicode.Proofs.FailureMark

/-!
# What the program prints for its expressions

A conversion run of the program (no command given) converts its expressions in order.
For each one it prints, on the standard output, the converted text or, without
`--strict`, the failure mark; with `--strict` a failed expression prints its error on the
error stream instead, and the run ends with status 1.  The report lists every expression
with its conversion or its error, in order.  The error stream holds nothing else but
diagnostics, which only `--verbose` adds, and the line that says the report was written.

The program is built on an argument reader and a JSON writer, and what is said here holds
whatever they are: run in a directory on arguments that the reader takes as a conversion
run, the program prints what that run prints and writes the writer's text of the report
(`runIn_writes_report`).

The output is one line per expression only as long as no converted text holds a line feed.
Tables read from a database file can give a line feed as a glyph: a `<super>` record for
`a` whose own code point is U+000A makes `^a` print two lines.

## Strategy

`convertOne_eq` says what converting one expression adds to the run, whatever the
diagnostics are; `foldl_convertOne_eq` adds up a whole run by induction over the
expressions.  Lines are compared as text with `Text.joinLines`; cutting it at line feeds
gives the lines back exactly when none of them holds a line feed
(`splitOn_joinLines_iff`).
-/

namespace MathUnicode

open Markup

namespace Text

/-- Lines of text, each ended by a line feed. -/
def joinLines (ls : List String) : String :=
  String.join (ls.map (· ++ "\n"))

@[simp] theorem joinLines_nil : joinLines [] = "" := rfl

@[simp] theorem joinLines_append (ls ls' : List String) :
    joinLines (ls ++ ls') = joinLines ls ++ joinLines ls' := by
  simp [joinLines, String.join_append]

theorem joinLines_cons (l : String) (ls : List String) :
    joinLines (l :: ls) = l ++ "\n" ++ joinLines ls := by
  simp [joinLines, String.join_cons]

theorem toList_joinLines (ls : List String) :
    (joinLines ls).toList = ls.flatMap (fun l => l.toList ++ ['\n']) := by
  simp [joinLines, String.toList_join, List.flatMap_map]

/-- No piece of a list cut at `a` holds `a`. -/
theorem not_mem_of_mem_splitOn {a : Char} {x : List Char} :
    ∀ {l : List Char}, x ∈ l.splitOn a → a ∉ x
  | [], h => by simp_all
  | b :: l, h => by
    rw [List.splitOn_cons_eq_if_modifyHead] at h
    by_cases hb : b = a
    · simp only [hb, beq_self_eq_true, if_true, List.mem_cons] at h
      rcases h with rfl | h
      · simp
      · exact not_mem_of_mem_splitOn h
    · rw [if_neg (by simpa using hb)] at h
      -- the first piece gets `b` in front; the others are pieces of `l`
      cases hs : l.splitOn a with
      | nil => simp [hs] at h
      | cons y ys =>
          rw [hs, List.modifyHead_cons, List.mem_cons] at h
          rcases h with rfl | h
          · have hy : a ∉ y := not_mem_of_mem_splitOn (hs ▸ List.mem_cons_self)
            simp [hy, Ne.symm hb]
          · exact not_mem_of_mem_splitOn (hs ▸ List.mem_cons_of_mem y h)

/-- Lines joined by line feeds are cut back into themselves exactly when none holds a line
feed. -/
theorem splitOn_joinLines_iff (ls : List String) :
    (joinLines ls).toList.splitOn '\n' = ls.map String.toList ++ [[]] ↔
      ∀ l ∈ ls, '\n' ∉ l.toList := by
  rw [toList_joinLines]
  constructor
  · intro h l hl
    have hmem : l.toList ∈ (ls.flatMap fun l => l.toList ++ ['\n']).splitOn '\n' := by
      rw [h]
      exact List.mem_append_left _ (List.mem_map_of_mem hl)
    exact not_mem_of_mem_splitOn hmem
  · intro h
    induction ls with
    | nil => rfl
    | cons l ls ih =>
        -- the first line runs up to the first line feed
        have hl := h l List.mem_cons_self
        rw [List.flatMap_cons, List.append_assoc, splitOn_append_of_not_mem hl,
          List.singleton_append, List.splitOn_cons_eq_if_modifyHead, if_pos (by simp),
          ih fun l' hl' => h l' (List.mem_cons_of_mem l hl')]
        simp

end Text

namespace Cli

/-! ## Transcripts -/

namespace Transcript

theorem say_eq (tr : Transcript) (l : String) :
    tr.say l = { tr with stdout := tr.stdout ++ Text.joinLines [l] } := by
  simp [say, Text.joinLines_cons, String.append_assoc]

theorem warn_eq (tr : Transcript) (l : String) :
    tr.warn l = { tr with stderr := tr.stderr ++ Text.joinLines [l] } := by
  simp [warn, Text.joinLines_cons, String.append_assoc]

end Transcript

/-- The lines that diagnostics at `level` print, if diagnostics are on. -/
def logLines (on : Bool) (level : String) (messages : List String) : List String :=
  if on then messages.map fun m => "[" ++ level ++ "] " ++ m else []

theorem Transcript.log_eq (tr : Transcript) (on : Bool) (level m : String) :
    tr.log on level m =
      { tr with stderr := tr.stderr ++ Text.joinLines (logLines on level [m]) } := by
  cases on <;> simp [Transcript.log, logLines, Transcript.warn_eq]

theorem Transcript.foldl_log {α : Type} (on : Bool) (level : String) (f : α → String)
    (xs : List α) (tr : Transcript) :
    xs.foldl (fun tr x => tr.log on level (f x)) tr =
      { tr with stderr := tr.stderr ++ Text.joinLines (logLines on level (xs.map f)) } := by
  induction xs generalizing tr with
  | nil => cases on <;> simp [logLines]
  | cons x xs ih =>
      rw [List.foldl_cons, ih, Transcript.log_eq]
      cases on <;> simp [logLines, String.append_assoc, Text.joinLines_cons]

/-- Whether a line of the error stream is a diagnostic: it starts with the bracketed level. -/
def isDiagnostic (l : String) : Bool :=
  l.toList.head? == some '['

theorem isDiagnostic_of_mem_logLines {on : Bool} {level l : String} {ms : List String}
    (h : l ∈ logLines on level ms) : isDiagnostic l = true ∧ on = true := by
  cases on with
  | false => simp [logLines] at h
  | true =>
      simp only [logLines, if_true, List.mem_map] at h
      obtain ⟨m, -, rfl⟩ := h
      have hb : ("[" : String).toList = ['['] := rfl
      simp [isDiagnostic, String.toList_append, hb]

theorem filter_diagnostics {ds : List String} (h : ∀ d ∈ ds, isDiagnostic d = true) :
    ds.filter (fun l => !isDiagnostic l) = [] := by
  rw [List.filter_eq_nil_iff]
  intro d hd
  simp [h d hd]

/-! ## One expression -/

section Expression

variable (t : Tables) (s : Style)

/-- The line an expression prints on the standard output: its converted text, or the
failure mark; with `--strict` a failed expression prints none. -/
def shownLine (strict : Bool) (e : String) : Option String :=
  match convert t s e with
  | .ok c => some c.content
  | .error _ => if strict then none else some failureMark

/-- The line a failed expression prints on the error stream with `--strict`: the stage that
failed, the expression quoted, and the error. -/
def errorLine? (e : String) : Option String :=
  match convert t s e with
  | .ok _ => none
  | .error err =>
    some ((if err.isParseError then "Parse" else "Render") ++ " error in " ++ Text.quote e ++
      ": " ++ err.message)

/-- The error lines an expression prints: with `--strict`, the line of its failure. -/
def strictErrors (strict : Bool) (e : String) : List String :=
  if strict then (errorLine? t s e).toList else []

/-- The report entry of an expression: its conversion, or the message of its error. -/
def entryOf (e : String) : Report.Entry :=
  ⟨e, s, (convert t s e).mapError ConversionError.message⟩

theorem shownLine_false (e : String) : shownLine t s false e = some (convertOrMark t s e) := by
  unfold shownLine convertOrMark
  cases convert t s e <;> rfl

theorem shownLine_true (e : String) :
    shownLine t s true e = (convert t s e).toOption.map Conversion.content := by
  unfold shownLine
  cases convert t s e <;> rfl

theorem isDiagnostic_of_errorLine? {e l : String} (h : errorLine? t s e = some l) :
    isDiagnostic l = false := by
  unfold errorLine? at h
  cases hc : convert t s e with
  | ok c => simp [hc] at h
  | error err =>
      simp only [hc, Option.some.injEq] at h
      subst h
      cases err.isParseError <;> simp [isDiagnostic, String.toList_append]

theorem filter_strictErrors (strict : Bool) (e : String) :
    (strictErrors t s strict e).filter (fun l => !isDiagnostic l) = strictErrors t s strict e := by
  rw [List.filter_eq_self]
  intro l hl
  unfold strictErrors at hl
  cases strict with
  | false => simp at hl
  | true =>
      simp only [if_true, Option.mem_toList] at hl
      simp [isDiagnostic_of_errorLine? t s hl]

variable (o : Options)

/-- Converting one expression prints its line, some diagnostics and (with `--strict`) its
error line, adds its report entry, and records whether it failed. -/
theorem convertOne_eq (p : Progress) (e : String) :
    ∃ ds, (∀ d ∈ ds, isDiagnostic d = true ∧ o.verbose = true) ∧
      convertOne o t s p e =
        { transcript := { p.transcript with
            stdout := p.transcript.stdout ++ Text.joinLines (shownLine t s o.strict e).toList
            stderr := p.transcript.stderr ++
              Text.joinLines (ds ++ strictErrors t s o.strict e) }
          entries := p.entries ++ [entryOf t s e]
          failed := p.failed || !(convert t s e).isOk } := by
  have hlog := fun tr ws => Transcript.foldl_log o.verbose "DEBUG" keptLine ws tr
  unfold shownLine strictErrors errorLine? entryOf
  cases ha : attempt t s e with
  | error pe =>
      have hc : convert t s e = .error (.parse pe) := by simp [convert, ha]
      -- a text that does not parse: the mark, or the error line
      cases hs : o.strict with
      | false =>
          refine ⟨logLines o.verbose "WARN"
            ["Failed to convert " ++ Text.quote e ++ ": " ++ (ConversionError.parse pe).message],
            fun d hd => isDiagnostic_of_mem_logLines hd, ?_⟩
          simp [convertOne, ha, hc, hs, Transcript.log_eq, Transcript.say_eq, Except.mapError,
            Except.isOk, Except.toBool]
      | true =>
          refine ⟨[], by simp, ?_⟩
          simp [convertOne, ha, hc, hs, Transcript.warn_eq, Except.mapError, Except.isOk,
            Except.toBool]
  | ok r =>
      cases hstop : r.stop with
      | none =>
          -- a rendering that meets no unknown symbol: its text, after its diagnostics
          have hc : convert t s e = .ok ⟨r.content, r.warnings⟩ := by simp [convert, ha, hstop]
          refine ⟨logLines o.verbose "DEBUG" (r.warnings.map keptLine),
            fun d hd => isDiagnostic_of_mem_logLines hd, ?_⟩
          simp [convertOne, ha, hc, hstop, hlog, Transcript.say_eq, Except.mapError, Except.isOk,
            Except.toBool]
      | some name =>
          -- an unknown symbol: the diagnostics come twice when the mark is computed again
          have hc : convert t s e = .error (.unknownSymbol name) := by
            simp [convert, ha, hstop]
          cases hs : o.strict with
          | false =>
              refine ⟨logLines o.verbose "DEBUG" (r.warnings.map keptLine) ++
                logLines o.verbose "DEBUG" (r.warnings.map keptLine) ++
                logLines o.verbose "WARN" ["Failed to convert " ++ Text.quote e ++ ": " ++
                  (ConversionError.unknownSymbol name).message], ?_, ?_⟩
              · intro d hd
                simp only [List.mem_append] at hd
                rcases hd with (hd | hd) | hd <;> exact isDiagnostic_of_mem_logLines hd
              · simp only [convertOne, ha, hc, hstop, hs, hlog]
                simp [Transcript.log_eq, Transcript.say_eq, Except.mapError, Except.isOk,
                  Except.toBool, String.append_assoc]
          | true =>
              refine ⟨logLines o.verbose "DEBUG" (r.warnings.map keptLine),
                fun d hd => isDiagnostic_of_mem_logLines hd, ?_⟩
              simp [convertOne, ha, hc, hstop, hs, hlog, Transcript.warn_eq, Except.mapError,
                Except.isOk, Except.toBool, String.append_assoc]

/-- A run over expressions prints their lines in order, and on the error stream, diagnostics
aside, their error lines in order. -/
theorem foldl_convertOne_eq (es : List String) (p : Progress) :
    ∃ ls, (∀ l ∈ ls, isDiagnostic l = true → o.verbose = true) ∧
      ls.filter (fun l => !isDiagnostic l) = es.flatMap (strictErrors t s o.strict) ∧
      es.foldl (convertOne o t s) p =
        { transcript := { p.transcript with
            stdout := p.transcript.stdout ++ Text.joinLines (es.filterMap (shownLine t s o.strict))
            stderr := p.transcript.stderr ++ Text.joinLines ls }
          entries := p.entries ++ es.map (entryOf t s)
          failed := p.failed || es.any fun e => !(convert t s e).isOk } := by
  induction es generalizing p with
  | nil => exact ⟨[], by simp, by simp, by simp⟩
  | cons e es ih =>
      obtain ⟨ds, hds, hone⟩ := convertOne_eq t s o p e
      obtain ⟨ls, hls, hfilter, hrest⟩ := ih (convertOne o t s p e)
      refine ⟨ds ++ strictErrors t s o.strict e ++ ls, ?_, ?_, ?_⟩
      · intro l hl hdiag
        simp only [List.mem_append] at hl
        rcases hl with (hl | hl) | hl
        · exact (hds l hl).2
        · have hnd := List.filter_eq_self.mp (filter_strictErrors t s o.strict e) l hl
          simp [hdiag] at hnd
        · exact hls l hl hdiag
      · -- the diagnostics drop out, the error lines stay
        rw [List.filter_append, List.filter_append, filter_diagnostics fun d hd => (hds d hd).1,
          filter_strictErrors, hfilter,
          List.flatMap_cons, List.nil_append]
      · rw [List.foldl_cons, hrest, hone]
        cases hshown : shownLine t s o.strict e <;>
          simp [hshown, Text.joinLines_cons, String.append_assoc, Bool.or_assoc]

end Expression

/-! ## A conversion run -/

/-- The expressions a run converts: its arguments, or else the lines of the standard input. -/
def Options.inputs (o : Options) (input : List String) : List String :=
  if o.expressions.isEmpty then input else o.expressions

/-- The style a run converts in. -/
def Options.style (o : Options) : Style :=
  if o.math then Style.math else Style.plain

theorem strictErrors_flatMap (t : Tables) (s : Style) (strict : Bool) (es : List String) :
    es.flatMap (strictErrors t s strict) =
      if strict then es.filterMap (errorLine? t s) else [] := by
  cases strict with
  | false => simp [strictErrors]
  | true =>
      induction es with
      | nil => rfl
      | cons e es ih =>
          simp only [List.flatMap_cons, ih, if_true, strictErrors, List.filterMap_cons]
          cases errorLine? t s e <;> rfl

/-- A conversion run prints the lines of its expressions, ends with status 1 exactly when
`--strict` is given and an expression failed, and reports every expression. -/
theorem runOptions_eq (L : Libraries) {o : Options} {file : Option (Except FileError (List UInt8))}
    (input : List String) {t : Tables} (hcmd : o.command = none)
    (ht : loadTables file = .ok t) :
    ∃ ls, (∀ l ∈ ls, isDiagnostic l = true → o.verbose = true) ∧
      ls.filter (fun l => !isDiagnostic l) =
        (if o.strict then (o.inputs input).filterMap (errorLine? t o.style) else []) ∧
      runOptions L o file input =
        ⟨{ stdout := Text.joinLines ((o.inputs input).filterMap (shownLine t o.style o.strict))
           stderr := Text.joinLines ls
           status := if o.strict && (o.inputs input).any (fun e => !(convert t o.style e).isOk)
             then 1 else 0 },
          o.report.map fun path =>
            (path, L.writeJson (Report.document ((o.inputs input).map (entryOf t o.style))))⟩ := by
  obtain ⟨ls, hls, hfilter, hrun⟩ := foldl_convertOne_eq t o.style o (o.inputs input)
    { transcript := ({} : Transcript).log o.verbose "DEBUG" (builtLine t) }
  -- the line about the tables comes first, and is a diagnostic too
  refine ⟨logLines o.verbose "DEBUG" [builtLine t] ++ ls, ?_, ?_, ?_⟩
  · intro l hl hdiag
    rcases List.mem_append.mp hl with hl | hl
    · exact (isDiagnostic_of_mem_logLines hl).2
    · exact hls l hl hdiag
  · rw [List.filter_append, filter_diagnostics fun d hd => (isDiagnostic_of_mem_logLines hd).1,
      hfilter, strictErrors_flatMap, List.nil_append]
  · simp only [runOptions, ht, hcmd]
    rw [show (if o.math then Style.math else Style.plain) = o.style from rfl,
      show (if o.expressions.isEmpty then input else o.expressions) = o.inputs input from rfl,
      hrun]
    simp [Transcript.log_eq, and_comm]

/-- Writing the report adds the line that says so to the error stream, and nothing else. -/
theorem Plan.complete_ok (p : Plan) :
    p.complete (.ok ()) = { p.transcript with
      stderr := p.transcript.stderr ++
        Text.joinLines (p.report.map fun r => "✓ Report written to: " ++ r.1).toList } := by
  unfold Plan.complete
  cases p.report <;> simp [Transcript.warn_eq]

theorem isDiagnostic_report (path : String) :
    isDiagnostic ("✓ Report written to: " ++ path) = false := by
  simp [isDiagnostic, String.toList_append]

/-- The program's conversion run, its report written: without `--strict` it exits 0 and prints
one line per expression, the expression's converted text or the failure mark; with
`--strict` it prints the converted texts of the expressions that convert, and exits 1
exactly when one fails.  The error stream, diagnostics aside, holds with `--strict` one
error line per failed expression, in order, naming the stage that failed, and then the line
about the report; diagnostics come only with `--verbose`.  The report lists every
expression in order with its conversion or its error.  The output reads back as one line
per printed text exactly when no printed text holds a line feed. -/
theorem run_prints_each_expression {L : Libraries} {o : Options}
    {file : Option (Except FileError (List UInt8))} {input : List String} {t : Tables}
    (hcmd : o.command = none) (ht : loadTables file = .ok t) :
    let p := runOptions L o file input
    let tr := p.complete (.ok ())
    let es := o.inputs input
    (o.strict = false →
        tr.stdout = Text.joinLines (es.map (convertOrMark t o.style)) ∧ tr.status = 0) ∧
      (o.strict = true →
        tr.stdout = Text.joinLines
          (es.filterMap fun e => (convert t o.style e).toOption.map Conversion.content) ∧
        (tr.status = 1 ↔ ∃ e ∈ es, (convert t o.style e).isOk = false) ∧
        (tr.status = 0 ∨ tr.status = 1)) ∧
      (∃ ls, tr.stderr = Text.joinLines ls ∧
        ls.filter (fun l => !isDiagnostic l) =
          (if o.strict then es.filterMap (errorLine? t o.style) else []) ++
            (o.report.map ("✓ Report written to: " ++ ·)).toList ∧
        ∀ l ∈ ls, isDiagnostic l = true → o.verbose = true) ∧
      p.report = o.report.map
          (fun path => (path, L.writeJson (Report.document (es.map (entryOf t o.style))))) ∧
      (tr.stdout.toList.splitOn '\n' =
          (es.filterMap (shownLine t o.style o.strict)).map String.toList ++ [[]] ↔
        ∀ l ∈ es.filterMap (shownLine t o.style o.strict), '\n' ∉ l.toList) := by
  intro p tr es
  obtain ⟨ls, hls, hfilter, hrun⟩ := runOptions_eq L input hcmd ht
  have hp : p = _ := hrun
  -- writing the report only adds its line to the error stream
  have htr : tr = { p.transcript with
      stderr := p.transcript.stderr ++
        Text.joinLines (o.report.map ("✓ Report written to: " ++ ·)).toList } := by
    rw [show tr = p.complete (.ok ()) from rfl, Plan.complete_ok, hp]
    simp [Option.map_map, Function.comp_def]
  have hstdout : tr.stdout = Text.joinLines (es.filterMap (shownLine t o.style o.strict)) := by
    rw [htr, hp]
  have hstatus : tr.status =
      if o.strict && es.any (fun e => !(convert t o.style e).isOk) then 1 else 0 := by
    rw [htr, hp]
  refine ⟨?_, ?_, ?_, by rw [hp], by rw [hstdout]; exact Text.splitOn_joinLines_iff _⟩
  · intro hs
    refine ⟨?_, by simp [hstatus, hs]⟩
    rw [hstdout, hs]
    simp [shownLine_false]
  · intro hs
    refine ⟨?_, ?_, ?_⟩
    · rw [hstdout, hs]
      simp [shownLine_true]
    · simp [hstatus, hs]
    · rw [hstatus]
      split <;> simp
  · -- the report line is no diagnostic
    have hreport : ∀ l ∈ (o.report.map ("✓ Report written to: " ++ ·)).toList,
        isDiagnostic l = false := by
      cases o.report <;> simp [isDiagnostic_report]
    refine ⟨ls ++ (o.report.map ("✓ Report written to: " ++ ·)).toList, ?_, ?_, ?_⟩
    · rw [htr, hp]
      simp
    · rw [List.filter_append, hfilter, List.filter_eq_self.mpr (fun l hl => by simp [hreport l hl])]
    · intro l hl hdiag
      rcases List.mem_append.mp hl with hl | hl
      · exact hls l hl hdiag
      · simp [hreport l hl] at hdiag

/-- The bundled tables and the libraries the program runs with, an expression given as an
argument: the run prints its converted text on a line. -/
theorem run_prints_each_expression_builtin :
    ({ expressions := ["x"] } : Options).command = none ∧
      loadTables none = .ok Tables.builtin ∧
      ((runOptions ⟨Request.ofArgs, Report.Value.pretty⟩ { expressions := ["x"] } none []).complete
          (.ok ())).stdout =
        Text.joinLines ((({ expressions := ["x"] } : Options).inputs []).map
          (convertOrMark Tables.builtin ({ expressions := ["x"] } : Options).style)) :=
  ⟨rfl, rfl,
    ((@run_prints_each_expression ⟨Request.ofArgs, Report.Value.pretty⟩ { expressions := ["x"] }
      none [] Tables.builtin rfl rfl).1 rfl).1⟩

/-! ## The program in a directory -/

/-- The program run in a directory, on arguments that its argument reader takes as a
conversion run with a report: it prints what the run with those options prints, and the
directory after it is the one where the report file holds the JSON writer's text of the
entries of the expressions, whatever the two libraries are. -/
theorem runIn_writes_report {L : Libraries} {args : List String} {stdin : String}
    {w w' : Workspace} {o : Options} {t : Tables} {path : String}
    (hread : L.readArgs args = .ok (.run o)) (hcmd : o.command = none)
    (ht : loadTables (o.unicodeData.map w.read) = .ok t) (hpath : o.report = some path)
    (hwrite : w.write path
      (L.writeJson (Report.document ((o.inputs (Text.lines stdin)).map (entryOf t o.style)))) =
        .ok w') :
    runIn L args stdin w =
      ((runOptions L o (o.unicodeData.map w.read) (Text.lines stdin)).complete (.ok ()), w') := by
  obtain ⟨ls, -, -, hrun⟩ := runOptions_eq L (Text.lines stdin) hcmd ht
  -- the reader's request fixes the database file read and the plan
  have hplan : plan L args (o.unicodeData.map w.read) (Text.lines stdin) =
      runOptions L o (o.unicodeData.map w.read) (Text.lines stdin) := by
    simp only [plan, hread]
  have hreport : (runOptions L o (o.unicodeData.map w.read) (Text.lines stdin)).report =
      some (path, L.writeJson
        (Report.document ((o.inputs (Text.lines stdin)).map (entryOf t o.style)))) := by
    rw [hrun, hpath, Option.map_some]
  simp only [runIn, hread, hplan, hreport, hwrite]

/-! ## A glyph that is a line feed -/

/-- Tables that give a line feed as the superscript form of `a` render `^a` as a line feed. -/
theorem attempt_superscript_line_feed {t : Tables} (h : t.superscript? 'a' = some '\n') :
    attempt t .plain "^a" = .ok { content := "\n" } := by
  have hparse : Formula.parse "^a" = .ok ⟨[.apply .superscript [.literal "a"]]⟩ := rfl
  have hslots : Formula.slots ⟨[.apply .superscript [.literal "a"]]⟩ =
      [.char 'a' [.superscript]] :=
    rfl
  have hraised : Tables.shown t (Style.plain.within [.superscript]) 'a' = '\n' ∧
      Tables.missed t (Style.plain.within [.superscript]) 'a' = none := by
    have hkeep : (Style.plain.within [.superscript]).keeps 'a' = false := by decide
    have hup : (Style.plain.within [.superscript]).superscript = true := by decide
    simp [Tables.shown, Tables.missed, Tables.form?, hkeep, hup, h]
  unfold attempt
  rw [hparse]
  simp only [Except.map, Formula.render_eq_slots, hslots, List.findSome?_cons,
    List.takeWhile_cons, List.filterMap_cons, List.filterMap_nil, List.findSome?_nil,
    List.takeWhile_nil, Slot.unknown?, Slot.isKnown, Slot.output, Slot.warning, hraised,
    ↓reduceIte]

/-- A database file with a `<super>` record for `a` whose own code point is U+000A: the one
expression `^a` prints two lines, both empty. -/
theorem run_line_feed_glyph :
    (runOptions ⟨Request.ofArgs, Report.Value.pretty⟩
        { unicodeData := some "db.txt", expressions := ["^a"] }
        (some (.ok "000A;X;Lm;0;L;<super> 0061;;;;N;;;;;".toUTF8.data.toList)) []).complete
        (.ok ()) = { stdout := "\n\n" } ∧
      Text.lines "\n\n" = ["", ""] := by
  have htables : Tables.ofString "000A;X;Lm;0;L;<super> 0061;;;;N;;;;;" =
      .ok (Tables.finish (({} : Tables).addMapping .superscript 'a' '\n' "X")) := rfl
  have hsup : (Tables.finish (({} : Tables).addMapping .superscript 'a' '\n' "X")).superscript?
      'a' = some '\n' := by
    simp only [Tables.finish, Tables.addMapping, Tables.superscript?, Tables.greekSuperscripts,
      List.foldl_cons, List.foldl_nil, Std.HashMap.getElem?_insert]
    simp
  have hload : loadTables (some (.ok "000A;X;Lm;0;L;<super> 0061;;;;N;;;;;".toUTF8.data.toList)) =
      .ok (Tables.finish (({} : Tables).addMapping .superscript 'a' '\n' "X")) := by
    rw [loadTables, Tables.ofBytes_toUTF8, htables]
  refine ⟨?_, rfl⟩
  simp only [runOptions, hload]
  simp [convertOne, attempt_superscript_line_feed hsup, Plan.complete, Transcript.log,
    Transcript.say]

end Cli

end MathUnicode
