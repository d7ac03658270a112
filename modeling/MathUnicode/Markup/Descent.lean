import MathUnicode.Markup.Parse

/-!
# Reading a formula by recursive descent

The grammar of `Markup/Parse.lean`, read the way a hand-written reader reads it: one reader
per production, each consuming the characters of its item from the front of the text and
calling the others for what is nested.

* `Descent.sequence` reads items until the end of the text, or until the `}` that closes
  its group; each pass of its loop reads one item (`Descent.item`), dispatched on the next
  character and, for a backslash, on the one after it.
* A run of text (`Descent.textRunFrom`) goes on while the next character is allowed or
  is a backslash before an escapable character; escaped braces must balance
  (`Descent.trackEscapedBrace`).
* A script (`Descent.script`) takes one allowed character or a braced group; a control word
  (`Descent.controlWord`) takes the longest run of letters and digits (`Descent.nameFrom`)
  and, before a brace, the group of the command of that name.
* A group (`Descent.group`) refuses to open beyond `maxDepth` groups.

Each reader is a function of the state it starts from, and returns with its result the
state it leaves, as a state that has not gone back in the text (`Descent.Within`); an item
returns a state that has gone on by at least one character (`Descent.Past`).  These facts
are the termination argument: the readers recurse on the length of the rest of the text and,
at equal length, in the order group, sequence, item.  A script and a control word go on by
their first character, a group by its brace; a run of text goes on because the loop of a
sequence dispatches to it exactly where the run's own loop goes on
(`Descent.textRunFrom_advances`).  That the descent reads what `Formula.parse` reads is a
theorem (`Proofs/Descent.lean`).
-/

namespace MathUnicode.Markup

/-- The state of the descent: the characters not yet read, each with its byte offset; the
offsets of the backslashes of the escaped opening braces not yet closed, the latest first;
and the number of groups open. -/
structure Descent where
  /-- The characters not yet read, with their byte offsets. -/
  input : List (Nat × Char)
  /-- Escaped opening braces not yet closed, the latest first. -/
  escapes : List Nat := []
  /-- The number of open groups. -/
  depth : Nat := 0
  deriving Repr, Inhabited

namespace Descent

/-- A state of the descent that has read on from `d`, or stayed where `d` is. -/
abbrev Within (d : Descent) : Type := {d' : Descent // d'.input.length ≤ d.input.length}

/-- A state of the descent that has read at least one character on from `d`. -/
abbrev Past (d : Descent) : Type := {d' : Descent // d'.input.length < d.input.length}

/-- The state `d` itself. -/
def stay (d : Descent) : Within d :=
  ⟨d, Nat.le_refl _⟩

/-- A state within one that is within `d` is within `d`. -/
def Within.widen {d d₁ : Descent} (d₂ : Within d₁)
    (h : d₁.input.length ≤ d.input.length) : Within d :=
  ⟨d₂.1, Nat.le_trans d₂.2 h⟩

/-- A state within one that is past `d` is past `d`. -/
def Within.past {d d₁ : Descent} (d₂ : Within d₁) (h : d₁.input.length < d.input.length) :
    Past d :=
  ⟨d₂.1, Nat.lt_of_le_of_lt d₂.2 h⟩

/-- A state past `d` is within `d`. -/
def Past.within {d : Descent} (d' : Past d) : Within d :=
  ⟨d'.1, Nat.le_of_lt d'.2⟩

/-- The state after the next character, `x`. -/
def advance (d : Descent) {x : Nat × Char} {rest : List (Nat × Char)}
    (h : d.input = x :: rest) : Past d :=
  ⟨{ d with input := rest }, by rw [h]; exact Nat.lt_succ_self _⟩

@[simp] theorem val_stay (d : Descent) : (stay d).1 = d := rfl

@[simp] theorem val_widen {d d₁ : Descent} (d₂ : Within d₁)
    (h : d₁.input.length ≤ d.input.length) : (d₂.widen h).1 = d₂.1 := rfl

@[simp] theorem val_past {d d₁ : Descent} (d₂ : Within d₁)
    (h : d₁.input.length < d.input.length) : (d₂.past h).1 = d₂.1 := rfl

@[simp] theorem val_within {d : Descent} (d' : Past d) : d'.within.1 = d'.1 := rfl

@[simp] theorem val_advance (d : Descent) {x : Nat × Char} {rest : List (Nat × Char)}
    (h : d.input = x :: rest) : (d.advance h).1 = { d with input := rest } := rfl

/-- Records the escape `\escaped` whose backslash is at `p` in the escaped opening braces
open, `escapes`: an escaped opening brace stays open until an escaped closing brace closes
it, and a closing one with none open is a fault at its brace. -/
def trackEscapedBrace (escaped : Char) (p : Nat) (escapes : List Nat) :
    Except ParseError (List Nat) :=
  if escaped == '{' then
    return p :: escapes
  else if escaped == '}' then
    match escapes with
    | [] => throw (.unexpectedCharacter '}' (p + 1))
    | _ :: rest => return rest
  else
    return escapes

/-- The rest of a run of text whose text so far is `text`: it goes on with an allowed
character or with a backslash before an escapable character, and ends before anything
else. -/
def textRunFrom (text : String) (d : Descent) : Except ParseError (Node × Within d) :=
  match hin : d.input with
  | (p, c) :: rest =>
    if c == '\\' then
      match (rest.head?.map Prod.snd).filter isEscapable with
      | some e => do
        let escapes ← trackEscapedBrace e p d.escapes
        let (n, d') ← textRunFrom (text.push e) { d with input := rest.tail, escapes }
        return (n, d'.widen (by simp only [hin, List.length_tail, List.length_cons]; omega))
      | none => return (.literal text, stay d)
    else if isAllowed c then do
      let (n, d') ← textRunFrom (text.push c) (d.advance hin).1
      return (n, d'.widen (Nat.le_of_lt (d.advance hin).2))
    else
      return (.literal text, stay d)
  | [] => return (.literal text, stay d)
termination_by d.input.length
decreasing_by
  · simp only [hin, List.length_tail, List.length_cons]
    omega
  · exact (d.advance hin).2

/-- Where the loop of a sequence dispatches to a run of text, at an allowed character or at
a backslash before an escapable one that does not start a control word, the run's own loop
goes on: the run reads at least one character. -/
theorem textRunFrom_advances {t : String} {d : Descent} {p : Nat} {c : Char}
    {rest : List (Nat × Char)} (hin : d.input = (p, c) :: rest)
    (hcw : (c == '\\' && !(rest.head?.map Prod.snd).any isEscapable) = false)
    (htext : (c == '\\' || isAllowed c) = true) {n : Node} {d' : Within d}
    (h : textRunFrom t d = .ok (n, d')) : d'.1.input.length < d.input.length := by
  rw [textRunFrom] at h
  split at h
  · rename_i p' c' rest' hin'
    obtain ⟨⟨rfl, rfl⟩, rfl⟩ : (p, c) = (p', c') ∧ rest = rest' := by
      simpa using hin.symm.trans hin'
    by_cases hb : c = '\\'
    · -- an escape: the backslash and the escaped character are read
      subst hb
      obtain ⟨e, he, hesc⟩ :
          ∃ e, rest.head?.map Prod.snd = some e ∧ isEscapable e = true := by
        simpa [Option.any_eq_true] using hcw
      simp only [beq_self_eq_true, if_true, he, Option.filter_some, hesc, bind,
        Except.bind] at h
      split at h
      · exact nomatch h
      split at h
      · exact nomatch h
      rename_i x _
      simp only [pure, Except.pure, Except.ok.injEq, Prod.mk.injEq] at h
      obtain ⟨-, rfl⟩ := h
      have hx := x.2.2
      simp only [val_widen, hin, List.length_cons]
      simp only [List.length_tail] at hx
      omega
    · -- an allowed character is read
      have ha : isAllowed c = true := by simpa [hb] using htext
      simp only [beq_iff_eq, hb, if_false, ha, if_true, bind, Except.bind] at h
      split at h
      · exact nomatch h
      rename_i x _
      simp only [pure, Except.pure, Except.ok.injEq, Prod.mk.injEq] at h
      obtain ⟨-, rfl⟩ := h
      exact Nat.lt_of_le_of_lt x.2.2 (d.advance hin').2
  · rename_i hnil
    simp [hnil] at hin

/-- A run of text where the loop of a sequence dispatches to one, with what the dispatch
tested: it reads at least one character. -/
def textRun (d : Descent) {p : Nat} {c : Char} {rest : List (Nat × Char)}
    (hin : d.input = (p, c) :: rest)
    (hcw : (c == '\\' && !(rest.head?.map Prod.snd).any isEscapable) = false)
    (htext : (c == '\\' || isAllowed c) = true) : Except ParseError (Node × Past d) :=
  match h : textRunFrom "" d with
  | .ok (n, d') => .ok (n, ⟨d'.1, textRunFrom_advances hin hcw htext h⟩)
  | .error e => .error e

/-- The rest of the name of a control word whose letters so far are `name`: the longest run
of letters and digits. -/
def nameFrom (name : String) (d : Descent) : String × Within d :=
  match hin : d.input with
  | (_, c) :: _ =>
    if Unicode.isAlphanumeric c then
      let (name, d') := nameFrom (name.push c) (d.advance hin).1
      (name, d'.widen (Nat.le_of_lt (d.advance hin).2))
    else
      (name, stay d)
  | [] => (name, stay d)
termination_by d.input.length
decreasing_by exact (d.advance hin).2

mutual

/-- The items of a sequence after the nodes `nodes`: up to the end of the text at the top,
and up to the `}` that closes it in the group opened at `group`. -/
def sequence (group : Option Nat) (nodes : List Node) (d : Descent) :
    Except ParseError (List Node × Within d) :=
  match hin : d.input with
  | [] =>
    match group with
    | some p => throw (.unterminatedGroup p)
    | none => return (nodes, stay d)
  | (p, c) :: _ =>
    if c == '}' && group.isSome then
      return (nodes, (d.advance hin).within)
    else do
      let (n, d₁) ← item p c d hin
      let (nodes, d₂) ← sequence group (nodes ++ [n]) d₁.1
      return (nodes, d₂.widen (Nat.le_of_lt d₁.2))
termination_by (d.input.length, 1)
decreasing_by
  · exact Prod.Lex.right _ (by decide)
  · exact Prod.Lex.left _ _ d₁.2

/-- One item, whose first character is `c` at `p`: a script after `^` or `_`, a control word
after a backslash that escapes nothing, a run of text after an allowed character or an
escape; any other character is a fault. -/
def item (p : Nat) (c : Char) (d : Descent) {rest : List (Nat × Char)}
    (hin : d.input = (p, c) :: rest) : Except ParseError (Node × Past d) :=
  if c == '^' || c == '_' then do
    let (n, d') ← script c p (d.advance hin).1
    return (n, d'.past (d.advance hin).2)
  else if hcw : c == '\\' && !(rest.head?.map Prod.snd).any isEscapable then do
    let (n, d') ← controlWord p (d.advance hin).1
    return (n, d'.past (d.advance hin).2)
  else if htext : c == '\\' || isAllowed c then
    textRun d hin (Bool.eq_false_iff.mpr hcw) htext
  else
    throw (.unexpectedCharacter c p)
termination_by (d.input.length, 0)
decreasing_by all_goals exact Prod.Lex.left _ _ (d.advance hin).2

/-- The items of the group whose `{` at `openAt` has just been read, up to its `}`. -/
def group (openAt : Nat) (d : Descent) : Except ParseError (List Node × Within d) :=
  if maxDepth ≤ d.depth then
    throw (.nestingTooDeep maxDepth openAt)
  else do
    let (nodes, d') ← sequence (some openAt) [] { d with depth := d.depth + 1 }
    return (nodes, ⟨{ d'.1 with depth := d'.1.depth - 1 }, d'.2⟩)
termination_by (d.input.length, 2)
decreasing_by exact Prod.Lex.right _ (by decide)

/-- The operand of the script operator `operator`, read at `p`: a braced group, or one
allowed character. -/
def script (operator : Char) (p : Nat) (d : Descent) : Except ParseError (Node × Within d) := do
  let some k := Command.ofOperator? operator | throw (.unexpectedCharacter operator p)
  match hin : d.input with
  | (q, c) :: _ =>
    if c == '{' then
      let (operands, d') ← group q (d.advance hin).1
      return (.apply k operands, d'.widen (Nat.le_of_lt (d.advance hin).2))
    else if isAllowed c then
      return (.apply k [.literal (String.singleton c)], (d.advance hin).within)
    else
      throw (.danglingOperator operator p)
  | [] => throw (.danglingOperator operator p)
termination_by (d.input.length, 0)
decreasing_by exact Prod.Lex.left _ _ (d.advance hin).2

/-- A control word whose backslash at `p` has been read: its name, and the group of the
command of that name if a brace follows; otherwise a symbol, which needs a name or a
character after the backslash. -/
def controlWord (p : Nat) (d : Descent) : Except ParseError (Node × Within d) := do
  let (name, d₁) := nameFrom "" d
  match hin : d₁.1.input with
  | (q, c) :: _ =>
    if c == '{' then
      let some k := Command.ofName? name | throw (.unsupportedCommand name)
      let (operands, d₂) ← group q (d₁.1.advance hin).1
      return (.apply k operands,
        d₂.widen (Nat.le_trans (Nat.le_of_lt (d₁.1.advance hin).2) d₁.2))
    else
      return (.symbol name, d₁)
  | [] =>
    if name.isEmpty then
      throw (.danglingOperator '\\' p)
    else
      return (.symbol name, d₁)
termination_by (d.input.length, 0)
decreasing_by exact Prod.Lex.left _ _ (Nat.lt_of_lt_of_le (d₁.1.advance hin).2 d₁.2)

end

/-- A whole formula: the items of the text, then no escaped opening brace left open; the
earliest one left open is the fault. -/
def parse (d : Descent) : Except ParseError Formula := do
  let (nodes, d') ← sequence none [] d
  match d'.1.escapes.getLast? with
  | some p => throw (.unterminatedGroup p)
  | none => return ⟨nodes⟩

end Descent

/-- The formula that the descent reads from a text, or the fault it stops at. -/
def Formula.descend (s : String) : Except ParseError Formula :=
  Descent.parse { input := positioned s }

end MathUnicode.Markup
