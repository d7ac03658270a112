import MathUnicode.Markup.Formula
import MathUnicode.Markup.Error
import MathUnicode.Markup.CharClass

/-!
# Reading a formula

The grammar of the markup:

* a formula is a sequence of items;
* an item is a run of text, a script, a symbol or a command;
* a run of text is a maximal sequence of allowed characters and escapes `\c`, where `c`
  is one of the five escapable characters;
* a script is `^` or `_` followed by one allowed character or by a braced group;
* `\name` is a symbol, and a command when a braced group follows the name at once;
  the name is the longest run of letters and digits after the backslash.

The reader is a pushdown machine that consumes the text one character at a time, left to
right.  Its stack holds the open groups; besides it keeps the run of text being read, the
operator or command name waiting for what follows, and the escaped opening braces `\{`
not yet closed by `\}` (escaped braces must balance over the whole text).

`Formula.parse` folds `Reader.step` over the characters and then calls `Reader.finish`.
Since the fold stops at the first fault, a fault is decided by the text up to the
character where it is found; faults that only the end reveals (an open group, a dangling
operator, an unclosed `\{`) are reported by `finish`.
-/

namespace MathUnicode.Markup

/-- The characters of a text, each paired with its byte offset in UTF-8. -/
def positioned (s : String) : List (Nat × Char) :=
  go 0 s.toList
where
  /-- Pairs each character with its offset, counting from `p`. -/
  go (p : Nat) : List Char → List (Nat × Char)
    | [] => []
    | c :: cs => (p, c) :: go (p + c.utf8Size) cs

/-- What the reader has consumed that still waits for the next character. -/
inductive Pending
  /-- Nothing waits. -/
  | idle
  /-- A script operator, read at `position`, waits for its operand. -/
  | operand (command : Command) (operator : Char) (position : Nat)
  /-- A backslash read at `position`: an escape or a name follows. -/
  | backslash (position : Nat)
  /-- The name of a symbol or command, begun by the backslash at `position`. -/
  | name (chars : String) (position : Nat)
  deriving Repr, Inhabited

/-- An open braced group. -/
structure Group where
  /-- The command applied to the group. -/
  command : Command
  /-- Byte offset of the opening brace. -/
  openAt : Nat
  /-- The nodes of the enclosing sequence before the command. -/
  before : List Node
  deriving Repr, Inhabited

/-- The state of the reader between two characters. -/
structure Reader where
  /-- Open groups, the innermost first. -/
  groups : List Group := []
  /-- The nodes read so far in the innermost open sequence. -/
  nodes : List Node := []
  /-- The run of text being read; empty when none is. -/
  text : String := ""
  /-- What waits for the next character. -/
  pending : Pending := .idle
  /-- Byte offsets of the escaped opening braces not yet closed, the latest first. -/
  escapes : List Nat := []
  deriving Repr, Inhabited

namespace Reader

/-- Appends a node to the innermost sequence. -/
def emit (r : Reader) (n : Node) : Reader :=
  { r with nodes := r.nodes ++ [n] }

/-- Ends the run of text being read, appending it as a literal if it is not empty. -/
def flush (r : Reader) : Reader :=
  if r.text.isEmpty then r else { r.emit (.literal r.text) with text := "" }

/-- Opens a group for `k` at the brace at `p`, unless the nesting is already at its limit. -/
def openGroup (r : Reader) (k : Command) (p : Nat) : Except ParseError Reader :=
  if maxDepth ≤ r.groups.length then
    .error (.nestingTooDeep maxDepth p)
  else
    .ok { r with groups := ⟨k, p, r.nodes⟩ :: r.groups, nodes := [], pending := .idle }

/-- Closes the innermost group: its nodes become the operands of its command. -/
def closeGroup (r : Reader) (g : Group) (rest : List Group) : Reader :=
  let r := r.flush
  { r with groups := rest, nodes := g.before ++ [.apply g.command r.nodes] }

/-- Reads the escape `\c` whose backslash is at `p`; escaped braces must balance. -/
def escape (r : Reader) (p : Nat) (c : Char) : Except ParseError Reader :=
  let r := { r with text := r.text.push c, pending := .idle }
  if c == '{' then
    .ok { r with escapes := p :: r.escapes }
  else if c == '}' then
    match r.escapes with
    | [] => .error (.unexpectedCharacter '}' (p + 1))
    | _ :: rest => .ok { r with escapes := rest }
  else
    .ok r

/-- Reads the character `c` at `p` when nothing waits. -/
def idle (r : Reader) (p : Nat) (c : Char) : Except ParseError Reader :=
  match Command.ofOperator? c with
  | some k => .ok { r.flush with pending := .operand k c p }
  | none =>
    if c == '\\' then
      .ok { r with pending := .backslash p }
    else if c == '}' then
      match r.groups with
      | g :: rest => .ok (r.closeGroup g rest)
      | [] => .error (.unexpectedCharacter c p)
    else if isAllowed c then
      .ok { r with text := r.text.push c }
    else
      .error (.unexpectedCharacter c p)

/-- Reads one character with its byte offset. -/
def step (r : Reader) (pc : Nat × Char) : Except ParseError Reader :=
  let p := pc.1
  let c := pc.2
  match r.pending with
  | .idle => r.idle p c
  | .operand k op q =>
    if c == '{' then
      r.openGroup k p
    else if isAllowed c then
      .ok { r.emit (.apply k [.literal (String.singleton c)]) with pending := .idle }
    else
      .error (.danglingOperator op q)
  | .backslash q =>
    if isEscapable c then
      r.escape q c
    else if Unicode.isAlphanumeric c then
      .ok { r.flush with pending := .name (String.singleton c) q }
    else
      ({ r.flush.emit (.symbol "") with pending := .idle }).idle p c
  | .name n q =>
    if Unicode.isAlphanumeric c then
      .ok { r with pending := .name (n.push c) q }
    else if c == '{' then
      match Command.ofName? n with
      | some k => r.openGroup k p
      | none => .error (.unsupportedCommand n)
    else
      ({ r.emit (.symbol n) with pending := .idle }).idle p c

/-- Ends the text: settles what waits, then checks that every group and every escaped
brace was closed. -/
def finish (r : Reader) : Except ParseError Formula := do
  let r ← match r.pending with
    | .idle => pure r
    | .operand _ op q => throw (.danglingOperator op q)
    | .backslash q => throw (.danglingOperator '\\' q)
    | .name n _ => pure { r.emit (.symbol n) with pending := .idle }
  let r := r.flush
  match r.groups with
  | g :: _ => throw (.unterminatedGroup g.openAt)
  | [] =>
    match r.escapes.getLast? with
    | some p => throw (.unterminatedGroup p)
    | none => pure ⟨r.nodes⟩

end Reader

/-- Reads a formula from its text, or reports the first fault. -/
def Formula.parse (s : String) : Except ParseError Formula :=
  (positioned s).foldlM Reader.step {} >>= Reader.finish

end MathUnicode.Markup
