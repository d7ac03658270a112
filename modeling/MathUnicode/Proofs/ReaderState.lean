import MathUnicode.Proofs.Scanning
import MathUnicode.Proofs.ReaderComplete

/-!
# The reader's state and faults, prefix by prefix

`Reader.Scanned r u` says that the reader `r` stands where the text `u` leaves it, in terms
of the text alone (`Proofs/Scanning.lean`).  This file shows that it holds after every
prefix that the reader reads without fault, and says what each fault tells about the text:

* reading a character `c` after `u` fails only where `c` cannot stand (`StepFault`): a
  character that starts no item, an escaped `}` with no escaped `{` open, a script
  operator without an operand, a brace that would open one group too many, or a brace
  after a name that no command has;
* the end of the text fails only where something is left open (`FinishFault`): an operator
  or a backslash, the innermost group, or else the earliest escaped `{`.

## Strategy

One lemma per pending state gives the outcome of one step (`Reader.Scanned.step`):
either the invariant one character further, or the fault.  The reader's idle step is
shared by three of them, since a character that ends a name or a lone backslash is read
afresh; it is stated for any lexer state that reads the character as text after at most a
control word (`idle_outcome`).  Runs follow by induction on the characters read
(`Reader.scanned_of_scan`, `Reader.scan_eq_error_iff`), and so does where a parse fails
(`Reader.parse_error_cases`).
-/

namespace MathUnicode.Markup

open DyckStep

/-! ## What the text says of its end -/

/-- Whether a lexeme is a script operator. -/
def Lexeme.isOperator : Lexeme → Bool
  | .operator _ => true
  | _ => false

/-- Whether the last lexeme of `u` is a script operator, whose operand comes next. -/
def awaitsOperand (u : List Char) : Bool :=
  (LexState.emitted .text u).getLast?.any Lexeme.isOperator

/-- The character `c` after `u` is read where an item may start: not as the operand of a
script operator, not escaped, and not as a letter or digit of a name or the brace of a
command. -/
def StartsItem (u : List Char) (c : Char) : Prop :=
  match LexState.after .text u with
  | .text => awaitsOperand u = false
  | .backslash => isEscapable c = false ∧ Unicode.isAlphanumeric c = false
  | .name _ => Unicode.isAlphanumeric c = false ∧ c ≠ '{'

/-- A brace after `u` opens a group: `u` ends with a script operator waiting for its operand,
or in the name of a control word that names a command. -/
def OpensGroup (u : List Char) : Prop :=
  (LexState.after .text u = .text ∧ awaitsOperand u = true) ∨
    ∃ n k, LexState.after .text u = .name n ∧ Command.ofName? (String.ofList n) = some k

theorem after_append_singleton (u : List Char) (c : Char) :
    LexState.after .text (u ++ [c]) = ((LexState.after .text u).next c).1 := by
  rw [LexState.after_append]
  rfl

theorem awaitsOperand_append_singleton {u : List Char} {c : Char} {l : Lexeme}
    (h : ((LexState.after .text u).next c).2.getLast? = some l) :
    awaitsOperand (u ++ [c]) = l.isOperator := by
  rw [awaitsOperand, LexState.emitted_append]
  simp [LexState.emitted, h, List.getLast?_append]

theorem BracketKind.brackets_singleton (κ : BracketKind) (st : LexState) (c : Char) :
    brackets κ.bracket st [c] = (st.next c).2.flatMap κ.bracket := by
  rw [κ.brackets_eq_emitted]
  simp [LexState.emitted]

theorem utf8ByteSize_append_backslash (u : List Char) :
    (String.ofList (u ++ ['\\'])).utf8ByteSize = (String.ofList u).utf8ByteSize + 1 := by
  rw [utf8ByteSize_ofList_append, utf8ByteSize_ofList_singleton]
  rfl

/-! ## The invariant -/

namespace Reader

/-- What `r` waits for is what the lexer is in the middle of at the end of `u`; a waiting
operator or backslash is the last character of `u`, at the offset the reader recorded. -/
def PendsOn (r : Reader) (u : List Char) : Prop :=
  match r.pending with
  | .idle => LexState.after .text u = .text ∧ awaitsOperand u = false
  | .operand k op q => LexState.after .text u = .text ∧ awaitsOperand u = true ∧
      Command.ofOperator? op = some k ∧ ∃ u', u = u' ++ [op] ∧ q = (String.ofList u').utf8ByteSize
  | .backslash q => LexState.after .text u = .backslash ∧
      ∃ u', u = u' ++ ['\\'] ∧ q = (String.ofList u').utf8ByteSize
  | .name n _ => LexState.after .text u = .name n.toList

/-- The reader `r` stands where reading `u` leaves it: it waits for what the lexer is in the
middle of, its open groups are the unescaped `{` of `u` left open, innermost first, its
escaped opening braces the `\{` of `u` left open, latest first, and at most `maxDepth`
groups are open. -/
structure Scanned (r : Reader) (u : List Char) : Prop where
  pends : r.PendsOn u
  groups : Unclosed groupKind (r.groups.map (·.openAt)) u
  escapes : Unclosed escapeKind r.escapes u
  depth_le : r.groups.length ≤ maxDepth

theorem scanned_empty : ({} : Reader).Scanned [] where
  pends := ⟨rfl, rfl⟩
  groups := rfl
  escapes := rfl
  depth_le := by simp [maxDepth]

/-- The open groups a reader holds are counted by the text. -/
theorem openGroups_eq_of_unclosed {gs : List Group} {u : List Char}
    (h : Unclosed groupKind (gs.map (·.openAt)) u) : openGroups u = some gs.length := by
  have hcount := h.count
  rw [List.length_map] at hcount
  exact hcount

/-- A character that the lexer reads without a bracket of either kind keeps the invariant,
once the reader waits for what the lexer is in the middle of. -/
theorem Scanned.of_silent {r r' : Reader} {u : List Char} {c : Char} (hs : r.Scanned u)
    (hsilent : ∀ κ : BracketKind, ((LexState.after .text u).next c).2.flatMap κ.bracket = [])
    (hpends : r'.PendsOn (u ++ [c])) (hgroups : r'.groups = r.groups)
    (hescapes : r'.escapes = r.escapes) : r'.Scanned (u ++ [c]) where
  pends := hpends
  groups := hgroups ▸ hs.groups.append_no_brackets
    (by rw [groupKind.brackets_singleton, hsilent])
  escapes := hescapes ▸ hs.escapes.append_no_brackets
    (by rw [escapeKind.brackets_singleton, hsilent])
  depth_le := hgroups ▸ hs.depth_le

/-- What a fault raised by reading `c` after `u` says about the text. -/
def StepFault (u : List Char) (c : Char) : ParseError → Prop
  | .unexpectedCharacter c' p => c' = c ∧ p = (String.ofList u).utf8ByteSize ∧
      ((StartsItem u c ∧ isAllowed c = false ∧ c ≠ '^' ∧ c ≠ '_' ∧ c ≠ '\\' ∧
          (c = '}' → openGroups u = some 0)) ∨
        (c = '}' ∧ LexState.after .text u = .backslash ∧ openEscapes u = some 0))
  | .danglingOperator op p => (op = '^' ∨ op = '_') ∧
      ∃ u', u = u' ++ [op] ∧ p = (String.ofList u').utf8ByteSize
  | .nestingTooDeep d p => d = maxDepth ∧ p = (String.ofList u).utf8ByteSize ∧ c = '{' ∧
      OpensGroup u ∧ openGroups u = some maxDepth
  | .unterminatedGroup _ => False
  | .unsupportedCommand n =>
      c = '{' ∧ LexState.after .text u = .name n.toList ∧ Command.ofName? n = none

/-- What reading `c` after `u` leads to: the invariant one character further, or a fault
placed in the text. -/
def StepOutcome (u : List Char) (c : Char) : Except ParseError Reader → Prop
  | .ok r => r.Scanned (u ++ [c])
  | .error e => StepFault u c e

/-! ## Reading a character where an item may start -/

/-- Reading `c` with nothing waiting, when the lexer reads `c` as text after at most a
control word. -/
theorem idle_outcome {r : Reader} {u : List Char} {c : Char} (pre : List Lexeme)
    (hgroups : Unclosed groupKind (r.groups.map (·.openAt)) u)
    (hesc : Unclosed escapeKind r.escapes u) (hdepth : r.groups.length ≤ maxDepth)
    (hpend : r.pending = .idle)
    (hnext : (LexState.after .text u).next c =
      ((LexState.ofText c).1, pre ++ (LexState.ofText c).2))
    (hpre : ∀ κ : BracketKind, pre.flatMap κ.bracket = [])
    (hstart : StartsItem u c) :
    StepOutcome u c (r.idle (String.ofList u).utf8ByteSize c) := by
  have hafter : LexState.after .text (u ++ [c]) = (LexState.ofText c).1 := by
    rw [after_append_singleton, hnext]
  have hbr : ∀ κ : BracketKind, brackets κ.bracket (LexState.after .text u) [c] =
      (LexState.ofText c).2.flatMap κ.bracket := fun κ => by
    rw [κ.brackets_singleton, hnext, List.flatMap_append, hpre, List.nil_append]
  cases hk : Command.ofOperator? c with
  | some k =>
      -- an operator ends the run of text and waits for its operand
      have hop := ofOperator?_eq_some hk
      have htext : LexState.ofText c = (.text, [.operator c]) := by
        rcases hop with rfl | rfl <;> rfl
      rw [idle_of_operator hk]
      refine ⟨?_, ?_, ?_, by simpa using hdepth⟩
      · refine ⟨by rw [hafter, htext], ?_, hk, u, rfl, rfl⟩
        rw [awaitsOperand_append_singleton (l := .operator c) (by simp [hnext, htext])]
        rfl
      · simpa using hgroups.append_no_brackets (by rw [hbr, htext]; rfl)
      · simpa using hesc.append_no_brackets (by rw [hbr, htext]; rfl)
  | none =>
      by_cases hb : c = '\\'
      · -- a backslash waits for what follows it
        subst hb
        rw [idle_backslash]
        refine ⟨⟨by rw [hafter]; rfl, u, rfl, rfl⟩, ?_, ?_, hdepth⟩
        · exact hgroups.append_no_brackets (by rw [hbr]; rfl)
        · exact hesc.append_no_brackets (by rw [hbr]; rfl)
      by_cases hc : c = '}'
      · subst hc
        have hlast : ((LexState.after .text u).next '}').2.getLast? = some (.brace '}') := by
          simp [hnext, LexState.ofText]
        cases hg : r.groups with
        | nil =>
            -- no group is open to close
            have hfail : r.idle (String.ofList u).utf8ByteSize '}' =
                .error (.unexpectedCharacter '}' (String.ofList u).utf8ByteSize) := by
              simp [idle, Command.ofOperator?, hg]
            rw [hfail]
            refine ⟨rfl, rfl, .inl ⟨hstart, by decide, by decide, by decide, by decide,
              fun _ => ?_⟩⟩
            rw [hg] at hgroups
            exact hgroups
        | cons g rest =>
            -- a closing brace ends the innermost group
            rw [idle_close hg]
            rw [hg] at hgroups hdepth
            refine ⟨?_, ?_, ?_, ?_⟩
            · simp only [PendsOn, closeGroup, flush_pending, hpend]
              refine ⟨by rw [hafter]; rfl, ?_⟩
              rw [awaitsOperand_append_singleton hlast]
              rfl
            · simpa [closeGroup] using hgroups.pop (by rw [hbr]; rfl)
            · simpa [closeGroup] using hesc.append_no_brackets (by rw [hbr]; rfl)
            · simp only [closeGroup]
              simp at hdepth
              omega
      by_cases ha : isAllowed c = true
      · -- an allowed character extends the run of text
        have hesc' := isEscapable_of_isAllowed ha
        have htext := LexState.ofText_of_isEscapable_eq_false hesc'
        have hbrace : c ≠ '{' ∧ c ≠ '}' := by
          constructor <;> rintro rfl <;> simp [isEscapable] at hesc'
        rw [idle_of_isAllowed ha]
        refine ⟨?_, ?_, ?_, hdepth⟩
        · simp only [PendsOn, hpend]
          refine ⟨by rw [hafter, htext], ?_⟩
          rw [awaitsOperand_append_singleton (l := .char c) (by simp [hnext, htext])]
          rfl
        · refine hgroups.append_no_brackets ?_
          rw [hbr, htext]
          simp [groupKind, Lexeme.groupBracket]
        · refine hesc.append_no_brackets ?_
          rw [hbr, htext]
          simpa using escapeKind.char_bracket c hbrace.1 hbrace.2
      · -- any other character starts no item
        have hfail : r.idle (String.ofList u).utf8ByteSize c =
            .error (.unexpectedCharacter c (String.ofList u).utf8ByteSize) := by
          simp [idle, hk, hb, hc, ha]
        rw [hfail]
        have hnot : c ≠ '^' ∧ c ≠ '_' := by
          constructor <;> rintro rfl <;> simp [Command.ofOperator?] at hk
        exact ⟨rfl, rfl, .inl ⟨hstart, by simpa using ha, hnot.1, hnot.2, hb,
          fun h => absurd h hc⟩⟩

/-- Opening a group at a brace that the lexer reads as a brace after at most a control
word: the brace is left open, unless `maxDepth` groups are already open. -/
theorem openGroup_outcome {r : Reader} {u : List Char} {k : Command} (pre : List Lexeme)
    (hgroups : Unclosed groupKind (r.groups.map (·.openAt)) u)
    (hesc : Unclosed escapeKind r.escapes u) (hdepth : r.groups.length ≤ maxDepth)
    (hnext : (LexState.after .text u).next '{' = (.text, pre ++ [.brace '{']))
    (hpre : ∀ κ : BracketKind, pre.flatMap κ.bracket = [])
    (hst : LexState.after .text u ≠ .backslash) (hopens : OpensGroup u) :
    StepOutcome u '{' (r.openGroup k (String.ofList u).utf8ByteSize) := by
  have hbr : ∀ κ : BracketKind, brackets κ.bracket (LexState.after .text u) ['{'] =
      [.brace '{'].flatMap κ.bracket := fun κ => by
    rw [κ.brackets_singleton, hnext, List.flatMap_append, hpre, List.nil_append]
  by_cases hd : r.groups.length < maxDepth
  · rw [openGroup_of_lt hd]
    refine ⟨⟨by rw [after_append_singleton, hnext], ?_⟩, ?_, ?_, by simp; omega⟩
    · rw [awaitsOperand_append_singleton (l := .brace '{') (by simp [hnext])]
      rfl
    · exact hgroups.push hst
    · exact hesc.append_no_brackets (by rw [hbr]; rfl)
  · -- the brace would open one group more than `maxDepth`
    have hfail : r.openGroup k (String.ofList u).utf8ByteSize =
        .error (.nestingTooDeep maxDepth (String.ofList u).utf8ByteSize) := by
      simp [openGroup, Nat.not_lt.mp hd]
    rw [hfail]
    have hlen : r.groups.length = maxDepth := by omega
    refine ⟨rfl, rfl, rfl, hopens, ?_⟩
    rw [openGroups_eq_of_unclosed hgroups, hlen]

/-- Reading the operand of a script operator: a brace opens its group, and an allowed
character completes the script; anything else leaves the operator without an operand. -/
theorem operand_outcome {r : Reader} {u : List Char} {k : Command} {op : Char} {q : Nat}
    (hs : r.Scanned u) (hp : r.pending = .operand k op q) (c : Char) :
    StepOutcome u c (r.step ((String.ofList u).utf8ByteSize, c)) := by
  have hpends := hs.pends
  simp only [PendsOn, hp] at hpends
  obtain ⟨hafter, hawait, hk, u', hu, hq⟩ := hpends
  by_cases hb : c = '{'
  · subst hb
    rw [step_operand_open hp]
    exact openGroup_outcome [] hs.groups hs.escapes hs.depth_le (by rw [hafter]; rfl)
      (fun _ => rfl) (by rw [hafter]; simp) (.inl ⟨hafter, hawait⟩)
  by_cases ha : isAllowed c = true
  · -- one allowed character completes the script
    have hesc' := isEscapable_of_isAllowed ha
    have hnext : (LexState.after .text u).next c = (.text, [.char c]) := by
      rw [hafter]
      exact LexState.ofText_of_isEscapable_eq_false hesc'
    have hbrace : c ≠ '{' ∧ c ≠ '}' := by
      constructor <;> rintro rfl <;> simp [isEscapable] at hesc'
    rw [step_operand_allowed hp ha]
    refine hs.of_silent (fun κ => by simpa [hnext] using κ.char_bracket c hbrace.1 hbrace.2)
      ⟨by rw [after_append_singleton, hnext], ?_⟩ (by simp) (by simp)
    rw [awaitsOperand_append_singleton (l := .char c) (by simp [hnext])]
    rfl
  · have hfail : r.step ((String.ofList u).utf8ByteSize, c) = .error (.danglingOperator op q) := by
      simp [step, hp, hb, ha]
    rw [hfail]
    exact ⟨ofOperator?_eq_some hk, u', hu, hq⟩

/-- Reading after a backslash: an escape joins the run of text and opens or closes an escaped
brace, a letter or digit starts a name, and any other character ends an empty name and is
read afresh. -/
theorem backslash_outcome {r : Reader} {u : List Char} {q : Nat} (hs : r.Scanned u)
    (hp : r.pending = .backslash q) (c : Char) :
    StepOutcome u c (r.step ((String.ofList u).utf8ByteSize, c)) := by
  have hpends := hs.pends
  simp only [PendsOn, hp] at hpends
  obtain ⟨hafter, u', rfl, rfl⟩ := hpends
  by_cases hesc : isEscapable c = true
  · have hnext : (LexState.after .text (u' ++ ['\\'])).next c = (.text, [.char c]) := by
      simp [hafter, LexState.next, hesc]
    have hpends' : (({ r with text := r.text.push c, pending := .idle } : Reader)).PendsOn
        (u' ++ ['\\'] ++ [c]) := by
      refine ⟨by rw [after_append_singleton, hnext], ?_⟩
      rw [awaitsOperand_append_singleton (l := .char c) (by simp [hnext])]
      rfl
    have hgroups : ∀ es : List Nat, Unclosed groupKind
        (({ r with text := r.text.push c, pending := .idle, escapes := es } : Reader).groups.map
          (·.openAt)) (u' ++ ['\\'] ++ [c]) :=
      fun _ => hs.groups.append_no_brackets (by rw [groupKind.brackets_singleton, hnext]; rfl)
    rw [step_backslash_escape hp hesc]
    by_cases hl : c = '{'
    · -- an escaped opening brace is left open
      subst hl
      have hst : LexState.after .text u' ≠ .backslash := by
        rw [after_append_singleton] at hafter
        exact LexState.ne_backslash_of_next hafter
      have hopen := hs.escapes.dropLast_backslash.push (κ := escapeKind) hst
      simp only [escape, beq_self_eq_true, if_true]
      exact ⟨hpends', hgroups _, by simpa [escapeKind] using hopen, hs.depth_le⟩
    by_cases hr : c = '}'
    · subst hr
      cases he : r.escapes with
      | nil =>
          -- no escaped opening brace is open to close
          have hfail : r.escape (String.ofList u').utf8ByteSize '}' =
              .error (.unexpectedCharacter '}' ((String.ofList u').utf8ByteSize + 1)) := by
            simp [escape, he]
          rw [hfail]
          have hnone := hs.escapes
          rw [he] at hnone
          exact ⟨rfl, (utf8ByteSize_append_backslash u').symm, .inr ⟨rfl, hafter, hnone⟩⟩
      | cons e rest =>
          -- an escaped closing brace closes the latest escaped opening brace
          have hsucc : r.escape (String.ofList u').utf8ByteSize '}' =
              .ok { r with text := r.text.push '}', pending := .idle, escapes := rest } := by
            simp [escape, he]
          rw [hsucc]
          have hesc₂ := hs.escapes
          rw [he] at hesc₂
          exact ⟨hpends', hgroups _,
            hesc₂.pop (by rw [escapeKind.brackets_singleton, hnext]; rfl), hs.depth_le⟩
    · -- the other escapes are plain text
      have hsucc : r.escape (String.ofList u').utf8ByteSize c =
          .ok { r with text := r.text.push c, pending := .idle } := by
        simp [escape, hl, hr]
      rw [hsucc]
      exact hs.of_silent (fun κ => by simpa [hnext] using κ.char_bracket c hl hr) hpends' rfl rfl
  by_cases hal : Unicode.isAlphanumeric c = true
  · -- a letter or digit starts a name
    have hnext : (LexState.after .text (u' ++ ['\\'])).next c = (.name [c], []) := by
      simp [hafter, LexState.next, hesc, hal]
    rw [step_backslash_alnum hp hal]
    refine hs.of_silent (fun κ => by rw [hnext]; rfl) ?_ (by simp) (by simp)
    simp only [PendsOn]
    rw [after_append_singleton, hnext]
    simp
  · -- the character ends an empty name and is read afresh
    have hesc' : isEscapable c = false := by simpa using hesc
    have hal' : Unicode.isAlphanumeric c = false := by simpa using hal
    have hstep : r.step ((String.ofList (u' ++ ['\\'])).utf8ByteSize, c) =
        ({ r.flush.emit (.symbol "") with pending := .idle } : Reader).idle
          (String.ofList (u' ++ ['\\'])).utf8ByteSize c := by
      simp [step, hp, hesc', hal']
    rw [hstep]
    refine idle_outcome [.word "" (c == '{')] (by simpa using hs.groups)
      (by simpa using hs.escapes) (by simpa using hs.depth_le) rfl ?_
      (fun κ => by simp [κ.word_bracket]) ?_
    · simp [hafter, LexState.next, hesc', hal', LexState.endWord]
    · simp only [StartsItem, hafter]
      exact ⟨hesc', hal'⟩

/-- Reading after a name: a letter or digit extends it, a brace opens the group of the
command it names, and any other character ends the symbol and is read afresh. -/
theorem name_outcome {r : Reader} {u : List Char} {n : String} {q : Nat} (hs : r.Scanned u)
    (hp : r.pending = .name n q) (c : Char) :
    StepOutcome u c (r.step ((String.ofList u).utf8ByteSize, c)) := by
  have hafter : LexState.after .text u = .name n.toList := by
    have hpends := hs.pends
    simpa only [PendsOn, hp] using hpends
  by_cases hal : Unicode.isAlphanumeric c = true
  · -- a letter or digit lengthens the name
    have hnext : (LexState.after .text u).next c = (.name (n.toList ++ [c]), []) := by
      simp [hafter, LexState.next, hal]
    rw [step_name_alnum hp hal]
    exact hs.of_silent (fun κ => by rw [hnext]; rfl)
      (by simp [PendsOn, after_append_singleton, hnext, String.toList_push]) (by simp) (by simp)
  have hal' : Unicode.isAlphanumeric c = false := by simpa using hal
  by_cases hb : c = '{'
  · subst hb
    cases hk : Command.ofName? n with
    | none =>
        -- a brace after a name that no command has
        have hfail : r.step ((String.ofList u).utf8ByteSize, '{') =
            .error (.unsupportedCommand n) := by
          simp [step, hp, hal', hk]
        rw [hfail]
        exact ⟨rfl, hafter, hk⟩
    | some k =>
        rw [step_name_open hp hk]
        refine openGroup_outcome [.word (String.ofList n.toList) true] hs.groups
          hs.escapes hs.depth_le ?_ (fun κ => by simp [κ.word_bracket]) (by simp [hafter])
          (.inr ⟨n.toList, k, hafter, by rwa [String.ofList_toList]⟩)
        simp [hafter, LexState.next, hal', LexState.endWord, LexState.ofText]
  · -- the character ends the symbol and is read afresh
    have hstep : r.step ((String.ofList u).utf8ByteSize, c) =
        ({ r.emit (.symbol n) with pending := .idle } : Reader).idle
          (String.ofList u).utf8ByteSize c := by
      simp [step, hp, hal', hb]
    rw [hstep]
    refine idle_outcome [.word (String.ofList n.toList) (c == '{')]
      (by simpa using hs.groups) (by simpa using hs.escapes) (by simpa using hs.depth_le) rfl ?_
      (fun κ => by simp [κ.word_bracket]) ?_
    · simp [hafter, LexState.next, hal', LexState.endWord]
    · simp only [StartsItem, hafter]
      exact ⟨hal', hb⟩

/-- One character: the invariant one character further, or a fault placed in the text. -/
theorem Scanned.step {r : Reader} {u : List Char} (hs : r.Scanned u) (c : Char) :
    StepOutcome u c (r.step ((String.ofList u).utf8ByteSize, c)) := by
  cases hp : r.pending with
  | idle =>
      have hpends := hs.pends
      simp only [PendsOn, hp] at hpends
      have hstep : r.step ((String.ofList u).utf8ByteSize, c) =
          r.idle (String.ofList u).utf8ByteSize c := by
        simp [Reader.step, hp]
      rw [hstep]
      refine idle_outcome [] hs.groups hs.escapes hs.depth_le hp
        (by rw [hpends.1]; rfl) (fun _ => rfl) ?_
      simp only [StartsItem, hpends.1]
      exact hpends.2
  | operand k op q => exact operand_outcome hs hp c
  | backslash q => exact backslash_outcome hs hp c
  | name n q => exact name_outcome hs hp c

/-! ## Runs -/

/-- The reader after the characters `u`, with their offsets counted from the start. -/
def scan (u : List Char) : Except ParseError Reader :=
  (positioned.go 0 u).foldlM Reader.step {}

theorem parse_eq_scan (s : String) : Formula.parse s = scan s.toList >>= finish := rfl

theorem scan_append (u w : List Char) :
    scan (u ++ w) = scan u >>= fun r =>
      (positioned.go (String.ofList u).utf8ByteSize w).foldlM Reader.step r := by
  rw [scan, positioned_go_append, List.foldlM_append, Nat.zero_add]
  rfl

theorem utf8ByteSize_append_singleton (u : List Char) (c : Char) :
    (String.ofList (u ++ [c])).utf8ByteSize = (String.ofList u).utf8ByteSize + c.utf8Size := by
  rw [utf8ByteSize_ofList_append, utf8ByteSize_ofList_singleton]

/-- A run that reads `w` after `u` without fault keeps the invariant. -/
theorem Scanned.foldlM {r r' : Reader} {u : List Char} (hs : r.Scanned u) (w : List Char)
    (h : (positioned.go (String.ofList u).utf8ByteSize w).foldlM Reader.step r = .ok r') :
    r'.Scanned (u ++ w) := by
  induction w generalizing r u with
  | nil =>
      simp only [positioned.go, List.foldlM_nil] at h
      cases h
      simpa using hs
  | cons c w ih =>
      rw [positioned.go, List.foldlM_cons] at h
      have hout := hs.step c
      cases hr : r.step ((String.ofList u).utf8ByteSize, c) with
      | error e => simp [hr, bind, Except.bind] at h
      | ok r₁ =>
          rw [hr] at h hout
          rw [← utf8ByteSize_append_singleton] at h
          simpa using ih hout h

/-- The reader stands where every prefix it reads without fault leaves it. -/
theorem scanned_of_scan {u : List Char} {r : Reader} (h : scan u = .ok r) : r.Scanned u := by
  simpa using scanned_empty.foldlM u h

/-- A run that fails stops at its first fault: it read the characters before it. -/
theorem foldlM_eq_error {p : Nat} {w : List Char} {r : Reader} {e : ParseError}
    (h : (positioned.go p w).foldlM Reader.step r = .error e) :
    ∃ w₁ c w₂ r₁, w = w₁ ++ c :: w₂ ∧ (positioned.go p w₁).foldlM Reader.step r = .ok r₁ ∧
      r₁.step (p + (String.ofList w₁).utf8ByteSize, c) = .error e := by
  induction w generalizing p r with
  | nil => simp [positioned.go, pure, Except.pure] at h
  | cons c w ih =>
      rw [positioned.go, List.foldlM_cons] at h
      cases hr : r.step (p, c) with
      | error e' =>
          rw [hr] at h
          cases h
          exact ⟨[], c, w, r, rfl, rfl, by simpa using hr⟩
      | ok r₁ =>
          rw [hr] at h
          obtain ⟨w₁, c', w₂, r₂, rfl, hrun, hstep⟩ := ih h
          refine ⟨c :: w₁, c', w₂, r₂, rfl, ?_, ?_⟩
          · rw [positioned.go, foldlM_cons_of_step hr, hrun]
          · rw [← hstep, ← List.singleton_append, utf8ByteSize_ofList_append,
              utf8ByteSize_ofList_singleton, Nat.add_assoc]

/-- Reading fails exactly where the first character that the reader refuses stands. -/
theorem scan_eq_error_iff {s : List Char} {e : ParseError} :
    scan s = .error e ↔ ∃ u c v r, s = u ++ c :: v ∧ scan u = .ok r ∧
      r.step ((String.ofList u).utf8ByteSize, c) = .error e := by
  constructor
  · intro h
    obtain ⟨u, c, v, r, rfl, hrun, hstep⟩ := foldlM_eq_error h
    exact ⟨u, c, v, r, rfl, hrun, by simpa using hstep⟩
  · rintro ⟨u, c, v, r, rfl, hrun, hstep⟩
    rw [scan_append, hrun]
    simp [positioned.go, hstep, bind, Except.bind]

/-! ## The end of the text -/

/-- What a fault raised at the end of the text `u` says about it: an operator or a backslash
ends it, or a group is left open and the fault is at its `{`, the innermost one, or else
no group is open and the fault is at the backslash of the earliest `\{` left open. -/
def FinishFault (u : List Char) : ParseError → Prop
  | .danglingOperator op p => (op = '^' ∨ op = '_' ∨ op = '\\') ∧
      ∃ u', u = u' ++ [op] ∧ p = (String.ofList u').utf8ByteSize
  | .unterminatedGroup p =>
      (∃ u₁ w, u = u₁ ++ '{' :: w ∧ p = (String.ofList u₁).utf8ByteSize ∧
          LexState.after .text u₁ ≠ .backslash ∧ openGroups w = some 0) ∨
        (openGroups u = some 0 ∧ ∃ u₁ w, u = u₁ ++ '\\' :: '{' :: w ∧
          p = (String.ofList u₁).utf8ByteSize ∧ LexState.after .text u₁ ≠ .backslash ∧
          openEscapes u₁ = some 0 ∧ (openEscapes w).isSome)
  | .unexpectedCharacter _ _ => False
  | .nestingTooDeep _ _ => False
  | .unsupportedCommand _ => False

/-- With nothing waiting, the end fails at the innermost open group, or else at the earliest
open escaped brace. -/
theorem finish_fault_of_idle {r : Reader} {u : List Char} {e : ParseError}
    (hgroups : Unclosed groupKind (r.groups.map (·.openAt)) u)
    (hesc : Unclosed escapeKind r.escapes u) (hp : r.pending = .idle)
    (h : r.finish = .error e) : FinishFault u e := by
  cases hg : r.groups with
  | cons g rest =>
      -- the innermost group is reported
      have he : e = .unterminatedGroup g.openAt := by
        simp [finish, hp, hg, pure, Except.pure, bind, Except.bind, throw, throwThe,
          MonadExceptOf.throw] at h
        exact h.symm
      rw [hg] at hgroups
      obtain ⟨u₁, w, rfl, hpos, hst, -, hw⟩ := hgroups
      subst he
      exact .inl ⟨u₁, w, by simp [groupKind], hpos, hst, hw⟩
  | nil =>
      cases hl : r.escapes.getLast? with
      | none =>
          simp [finish, hp, hg, hl, pure, Except.pure, bind, Except.bind] at h
      | some q =>
          -- with no group open, the earliest escaped brace is reported
          have he : e = .unterminatedGroup q := by
            simp [finish, hp, hg, hl, pure, Except.pure, bind, Except.bind, throw, throwThe,
              MonadExceptOf.throw] at h
            exact h.symm
          obtain ⟨ps, hps⟩ := List.getLast?_eq_some_iff.mp hl
          rw [hps] at hesc
          obtain ⟨u₁, w, rfl, hpos, hst, hu₁, hw⟩ := hesc.earliest
          have hw' : openEscapes w = some ps.length := hw
          rw [hg] at hgroups
          subst he
          exact .inr ⟨hgroups, u₁, w, by simp [escapeKind], hpos, hst, hu₁, by simp [hw']⟩

/-- The end of a text read without fault fails only where something is left open. -/
theorem Scanned.finish_fault {r : Reader} {u : List Char} {e : ParseError} (hs : r.Scanned u)
    (h : r.finish = .error e) : FinishFault u e := by
  have hpends := hs.pends
  cases hp : r.pending with
  | idle => exact finish_fault_of_idle hs.groups hs.escapes hp h
  | operand k op q =>
      simp only [PendsOn, hp] at hpends
      obtain ⟨-, -, hk, u', rfl, rfl⟩ := hpends
      simp [finish, hp, bind, Except.bind, throw, throwThe, MonadExceptOf.throw] at h
      subst h
      rcases ofOperator?_eq_some hk with rfl | rfl
      · exact ⟨.inl rfl, u', rfl, rfl⟩
      · exact ⟨.inr (.inl rfl), u', rfl, rfl⟩
  | backslash q =>
      simp only [PendsOn, hp] at hpends
      obtain ⟨-, u', rfl, rfl⟩ := hpends
      simp [finish, hp, bind, Except.bind, throw, throwThe, MonadExceptOf.throw] at h
      subst h
      exact ⟨.inr (.inr rfl), u', rfl, rfl⟩
  | name n q =>
      -- the name becomes a symbol, and the end is reached with nothing waiting
      rw [finish_of_name hp] at h
      exact finish_fault_of_idle (by simpa using hs.groups) (by simpa using hs.escapes) rfl h

/-- A parse fails either while reading, at a character after a prefix read without fault,
or at the end of a text read without fault. -/
theorem parse_error_cases {s : String} {e : ParseError} (h : Formula.parse s = .error e) :
    (∃ u c v, s.toList = u ++ c :: v ∧ (∃ r, scan u = .ok r) ∧ StepFault u c e) ∨
      FinishFault s.toList e := by
  rw [parse_eq_scan] at h
  cases hs : scan s.toList with
  | error e' =>
      -- a fault while reading: the step that raised it places it
      simp only [hs, bind, Except.bind, Except.error.injEq] at h
      subst h
      obtain ⟨u, c, v, r, hsplit, hrun, hstep⟩ := scan_eq_error_iff.mp hs
      have hfault := (scanned_of_scan hrun).step c
      rw [hstep] at hfault
      exact .inl ⟨u, c, v, hsplit, ⟨r, hrun⟩, hfault⟩
  | ok r =>
      -- a fault at the end: what the text leaves open places it
      simp only [hs, bind, Except.bind] at h
      exact .inr ((scanned_of_scan hs).finish_fault h)

end Reader

end MathUnicode.Markup
