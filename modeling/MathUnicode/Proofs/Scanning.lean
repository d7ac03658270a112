import MathUnicode.Proofs.Content

/-!
# What the reader has seen of a prefix

`Formula.parse` reads its text one character at a time.  This file gives the notions, in
terms of the text alone, with which `Proofs/ReaderState.lean` says where the reader stands
after any prefix `u` that it read without fault:

* what it waits for is what the lexer of `Proofs/Content.lean` is in the middle of at the
  end of `u`: nothing, the operand of a script operator, what follows a backslash, or the
  rest of a name (`Reader.PendsOn`);
* its open groups are the unescaped opening braces of `u` that no later brace closes, with
  their byte offsets, the innermost first; its escaped opening braces are likewise the
  escapes `\{` of `u` that no later `\}` closes (`Unclosed`).

Together these are `Reader.Scanned`, which holds after every prefix that the reader reads
without fault (`Reader.scanned_of_scan`).  Braces are counted as brackets over the lexemes
(`brackets`), so that an escaped brace never counts as a group's and an unescaped one never
counts as an escape's.

## Strategy

The lexer is a fold over the characters, so its state and output after `u ++ w` are those
of `w` read from its state after `u` (`lexFrom_append`).  The two kinds of brackets share
one account (`BracketKind`), in which an opener adds one open bracket and leaves the lexer
in text, and `Unclosed` is built by recursion on the list of open offsets: the latest
opener splits the prefix into what comes before it, where the older openers stand, and a
balanced rest.  Opening, closing and reading past a character are then one lemma each
(`Unclosed.push`, `Unclosed.pop`, `Unclosed.append`), and each of the reader's steps is a
case of them.
-/

namespace MathUnicode.Markup

open DyckStep

/-! ## Byte offsets -/

theorem utf8ByteSize_ofList_append (u w : List Char) :
    (String.ofList (u ++ w)).utf8ByteSize =
      (String.ofList u).utf8ByteSize + (String.ofList w).utf8ByteSize := by
  rw [String.ofList_append, String.utf8ByteSize_append]

theorem utf8ByteSize_ofList_singleton (c : Char) :
    (String.ofList [c]).utf8ByteSize = c.utf8Size := by
  rw [← String.singleton_eq_ofList, String.utf8ByteSize_singleton]

/-- The offsets of the characters after `u` count on from the length of `u` in bytes. -/
theorem positioned_go_append (p : Nat) (u w : List Char) :
    positioned.go p (u ++ w) =
      positioned.go p u ++ positioned.go (p + (String.ofList u).utf8ByteSize) w := by
  induction u generalizing p with
  | nil => simp [positioned.go]
  | cons c u ih =>
      rw [List.cons_append, positioned.go, positioned.go, ih, List.cons_append,
        ← List.singleton_append (l := u), utf8ByteSize_ofList_append,
        utf8ByteSize_ofList_singleton, Nat.add_assoc]

/-! ## The lexer part way -/

namespace LexState

/-- The lexer's state after reading `u` from `st`. -/
def after (st : LexState) (u : List Char) : LexState :=
  u.foldl (fun st c => (st.next c).1) st

/-- The lexemes the lexer emits while reading `u` from `st`; a control word still open at
the end is not among them. -/
def emitted : LexState → List Char → List Lexeme
  | _, [] => []
  | st, c :: u => (st.next c).2 ++ emitted (st.next c).1 u

@[simp] theorem after_nil (st : LexState) : st.after [] = st := rfl

@[simp] theorem after_cons (st : LexState) (c : Char) (u : List Char) :
    st.after (c :: u) = (st.next c).1.after u := rfl

theorem after_append (st : LexState) (u w : List Char) :
    st.after (u ++ w) = (st.after u).after w := by
  simp [after, List.foldl_append]

@[simp] theorem emitted_nil (st : LexState) : st.emitted [] = [] := rfl

theorem emitted_append (st : LexState) (u w : List Char) :
    st.emitted (u ++ w) = st.emitted u ++ (st.after u).emitted w := by
  induction u generalizing st with
  | nil => rfl
  | cons c u ih => simp [emitted, ih]

/-- What the lexer makes of `u` is what it emits, and then the control word it is in at the
end, if any. -/
theorem lexFrom_eq_emitted (st : LexState) (u : List Char) :
    lexFrom st u = st.emitted u ++ (st.after u).close := by
  induction u generalizing st with
  | nil => simp
  | cons c u ih => simp [lexFrom_cons, emitted, ih]

theorem lexFrom_append (st : LexState) (u w : List Char) :
    lexFrom st (u ++ w) = st.emitted u ++ lexFrom (st.after u) w := by
  rw [lexFrom_eq_emitted, emitted_append, after_append, List.append_assoc,
    ← lexFrom_eq_emitted]

/-- A backslash leaves the lexer waiting after it only when it is not itself escaped. -/
theorem ne_backslash_of_next {st : LexState} (h : (st.next '\\').1 = .backslash) :
    st ≠ .backslash := by
  rintro rfl
  simp [next, isEscapable] at h

end LexState

/-! ## Braces as brackets -/

/-- The bracket that an unescaped brace stands for: `{` opens a group, `}` closes one. -/
def Lexeme.groupBracket : Lexeme → List DyckStep
  | .brace '{' => [U]
  | .brace '}' => [D]
  | _ => []

/-- The bracket that an escaped brace stands for: `\{` opens one, `\}` closes one.  Only an
escape lexes as the character of a brace. -/
def Lexeme.escapeBracket : Lexeme → List DyckStep
  | .char c => escapedBracket c
  | _ => []

/-- The brackets of the lexemes of `u`, read from `st`, each lexeme read by `b`. -/
def brackets (b : Lexeme → List DyckStep) (st : LexState) (u : List Char) : List DyckStep :=
  (lexFrom st u).flatMap b

/-- The unescaped opening braces of `u` that no later brace closes, counted; `none` when a
closing brace finds none open. -/
def openGroups (u : List Char) : Option Nat :=
  bracketsOpen 0 (brackets Lexeme.groupBracket .text u)

/-- The escapes `\{` of `u` that no later `\}` closes, counted; `none` when a `\}` finds none
open. -/
def openEscapes (u : List Char) : Option Nat :=
  bracketsOpen 0 (brackets Lexeme.escapeBracket .text u)

/-- A way of reading lexemes as brackets, with the text that opens one: control words are no
brackets, and the opener, read anywhere but right after a backslash, is one opening bracket
and leaves the lexer in text. -/
structure BracketKind where
  /-- The brackets a lexeme stands for. -/
  bracket : Lexeme → List DyckStep
  /-- The characters that open a bracket. -/
  opener : List Char
  word_bracket : ∀ n braced, bracket (.word n braced) = []
  operator_bracket : ∀ op, bracket (.operator op) = []
  char_bracket : ∀ c, c ≠ '{' → c ≠ '}' → bracket (.char c) = []
  opener_after : ∀ st : LexState, st ≠ .backslash → st.after opener = .text
  opener_brackets : ∀ st : LexState, st ≠ .backslash → (st.emitted opener).flatMap bracket = [U]
  opener_getLast : opener.getLast? = some '{'

namespace BracketKind

variable (κ : BracketKind)

theorem close_brackets (st : LexState) : st.close.flatMap κ.bracket = [] := by
  cases st <;> simp [LexState.close, κ.word_bracket]

theorem brackets_eq_emitted (st : LexState) (u : List Char) :
    brackets κ.bracket st u = (st.emitted u).flatMap κ.bracket := by
  rw [brackets, LexState.lexFrom_eq_emitted, List.flatMap_append, close_brackets,
    List.append_nil]

theorem brackets_append (st : LexState) (u w : List Char) :
    brackets κ.bracket st (u ++ w) =
      brackets κ.bracket st u ++ brackets κ.bracket (st.after u) w := by
  rw [brackets, LexState.lexFrom_append, List.flatMap_append, brackets_eq_emitted]
  rfl

theorem brackets_opener (st : LexState) (hst : st ≠ .backslash) :
    brackets κ.bracket st κ.opener = [U] := by
  rw [brackets_eq_emitted, κ.opener_brackets st hst]

/-- A backslash is no bracket, whatever it follows: it waits, ends a control word, or is
escaped. -/
theorem brackets_backslash (st : LexState) : brackets κ.bracket st ['\\'] = [] := by
  rw [brackets_eq_emitted]
  cases st with
  | text => rfl
  | backslash =>
      simp [LexState.emitted, LexState.next, isEscapable,
        κ.char_bracket '\\' (by decide) (by decide)]
  | name n =>
      simp [LexState.emitted, LexState.next, Unicode.isAlphanumeric, LexState.endWord,
        LexState.ofText, κ.word_bracket]

end BracketKind

/-- Unescaped braces, opened by `{`. -/
def groupKind : BracketKind where
  bracket := Lexeme.groupBracket
  opener := ['{']
  word_bracket _ _ := rfl
  operator_bracket _ := rfl
  char_bracket _ _ _ := rfl
  opener_after st hst := by
    cases st with
    | text => rfl
    | backslash => exact absurd rfl hst
    | name n => simp [LexState.next, Unicode.isAlphanumeric, LexState.endWord, LexState.ofText]
  opener_brackets st hst := by
    cases st with
    | text => rfl
    | backslash => exact absurd rfl hst
    | name n =>
        simp [LexState.emitted, LexState.next, Unicode.isAlphanumeric, LexState.endWord,
          LexState.ofText, Lexeme.groupBracket]
  opener_getLast := rfl

/-- Escaped braces, opened by `\{`. -/
def escapeKind : BracketKind where
  bracket := Lexeme.escapeBracket
  opener := ['\\', '{']
  word_bracket _ _ := rfl
  operator_bracket _ := rfl
  char_bracket c h₁ h₂ := by
    unfold Lexeme.escapeBracket escapedBracket
    split <;> simp_all
  opener_after st hst := by
    cases st with
    | text => rfl
    | backslash => exact absurd rfl hst
    | name n =>
        simp [LexState.next, Unicode.isAlphanumeric, LexState.endWord, LexState.ofText, isEscapable]
  opener_brackets st hst := by
    cases st with
    | text => rfl
    | backslash => exact absurd rfl hst
    | name n =>
        simp [LexState.emitted, LexState.next, Unicode.isAlphanumeric, LexState.endWord,
          LexState.ofText, Lexeme.escapeBracket, isEscapable, escapedBracket]
  opener_getLast := rfl

/-! ## Brackets left open -/

theorem bracketsOpen_add {n m : Nat} {bs : List DyckStep} (h : bracketsOpen n bs = some m)
    (k : Nat) : bracketsOpen (n + k) bs = some (m + k) := by
  induction bs generalizing n with
  | nil => simpa using h
  | cons b bs ih =>
      cases b with
      | U =>
          simp only [bracketsOpen] at h ⊢
          rw [Nat.add_right_comm]
          exact ih h
      | D =>
          cases n with
          | zero => simp [bracketsOpen] at h
          | succ n =>
              simp only [bracketsOpen] at h
              rw [Nat.add_right_comm, bracketsOpen]
              exact ih h

/-- `Unclosed κ ps u`: reading `u` closes no bracket of kind `κ` that it has not opened, and
the openers it leaves open stand at the byte offsets `ps`, the latest first.  The latest
splits `u` into the text before it, where the others stand, and a balanced rest. -/
def Unclosed (κ : BracketKind) : List Nat → List Char → Prop
  | [], u => bracketsOpen 0 (brackets κ.bracket .text u) = some 0
  | p :: ps, u => ∃ u₁ w, u = u₁ ++ κ.opener ++ w ∧ p = (String.ofList u₁).utf8ByteSize ∧
      LexState.after .text u₁ ≠ .backslash ∧ Unclosed κ ps u₁ ∧
      bracketsOpen 0 (brackets κ.bracket .text w) = some 0

namespace Unclosed

variable {κ : BracketKind} {ps : List Nat} {u x : List Char}

theorem after_opener {u₁ : List Char} (hst : LexState.after .text u₁ ≠ .backslash)
    (w : List Char) :
    LexState.after .text (u₁ ++ κ.opener ++ w) = LexState.after .text w := by
  rw [LexState.after_append, LexState.after_append, κ.opener_after _ hst]

theorem brackets_split {u₁ : List Char} (hst : LexState.after .text u₁ ≠ .backslash)
    (w : List Char) :
    brackets κ.bracket .text (u₁ ++ κ.opener ++ w) =
      brackets κ.bracket .text u₁ ++ [U] ++ brackets κ.bracket .text w := by
  rw [κ.brackets_append, κ.brackets_append, κ.brackets_opener _ hst,
    LexState.after_append, κ.opener_after _ hst]

/-- As many brackets are open as there are offsets. -/
theorem count (h : Unclosed κ ps u) :
    bracketsOpen 0 (brackets κ.bracket .text u) = some ps.length := by
  induction ps generalizing u with
  | nil => exact h
  | cons p ps ih =>
      obtain ⟨u₁, w, rfl, -, hst, h₁, hw⟩ := h
      rw [brackets_split hst, List.append_assoc, bracketsOpen_append, ih h₁, Option.bind_some,
        List.singleton_append]
      simpa [bracketsOpen] using bracketsOpen_add hw (ps.length + 1)

/-- An opener read where it opens a bracket is left open. -/
theorem push (h : Unclosed κ ps u) (hst : LexState.after .text u ≠ .backslash) :
    Unclosed κ ((String.ofList u).utf8ByteSize :: ps) (u ++ κ.opener) :=
  ⟨u, [], by simp, rfl, hst, h, by simp [brackets, LexState.close]⟩

/-- Text that is balanced in brackets leaves the same openers open. -/
theorem append (h : Unclosed κ ps u)
    (hx : bracketsOpen 0 (brackets κ.bracket (LexState.after .text u) x) = some 0) :
    Unclosed κ ps (u ++ x) := by
  cases ps with
  | nil =>
      show bracketsOpen 0 (brackets κ.bracket .text (u ++ x)) = some 0
      rw [κ.brackets_append, bracketsOpen_append, count h]
      exact hx
  | cons p ps =>
      obtain ⟨u₁, w, rfl, hp, hst, h₁, hw⟩ := h
      refine ⟨u₁, w ++ x, by simp, hp, hst, h₁, ?_⟩
      rw [after_opener hst] at hx
      rw [κ.brackets_append, bracketsOpen_append, hw]
      exact hx

/-- A closing bracket closes the latest opener. -/
theorem pop {p : Nat} (h : Unclosed κ (p :: ps) u)
    (hx : brackets κ.bracket (LexState.after .text u) x = [D]) : Unclosed κ ps (u ++ x) := by
  obtain ⟨u₁, w, rfl, -, hst, h₁, hw⟩ := h
  rw [after_opener hst] at hx
  have hsplit : u₁ ++ κ.opener ++ w ++ x = u₁ ++ (κ.opener ++ w ++ x) := by simp
  rw [hsplit]
  apply h₁.append
  -- the opener, the balanced rest and the closing bracket are balanced together
  have hw₁ : bracketsOpen 1 (brackets κ.bracket .text w) = some 1 := by
    simpa using bracketsOpen_add hw 1
  rw [κ.brackets_append, κ.brackets_append, κ.brackets_opener _ hst, LexState.after_append,
    κ.opener_after _ hst, hx, List.append_assoc, List.singleton_append, bracketsOpen,
    bracketsOpen_append, hw₁]
  rfl

theorem append_no_brackets (h : Unclosed κ ps u)
    (hx : brackets κ.bracket (LexState.after .text u) x = []) : Unclosed κ ps (u ++ x) :=
  h.append (by rw [hx]; rfl)

/-- A backslash at the end opens and closes nothing. -/
theorem dropLast_backslash (h : Unclosed κ ps (u ++ ['\\'])) : Unclosed κ ps u := by
  cases ps with
  | nil =>
      show bracketsOpen 0 (brackets κ.bracket .text u) = some 0
      have h' : bracketsOpen 0 (brackets κ.bracket .text (u ++ ['\\'])) = some 0 := h
      rwa [κ.brackets_append, κ.brackets_backslash, List.append_nil] at h'
  | cons p ps =>
      obtain ⟨u₁, w, hu, hp, hst, h₁, hw⟩ := h
      rcases List.eq_nil_or_concat w with rfl | ⟨w', y, rfl⟩
      · -- the opener ends in a brace, not a backslash
        have hlast := congrArg List.getLast? hu
        simp [List.getLast?_append, κ.opener_getLast] at hlast
      · rw [List.concat_eq_append] at hu hw
        rw [← List.append_assoc] at hu
        obtain ⟨hu', hy⟩ := List.append_inj' hu rfl
        obtain rfl : y = '\\' := by simpa using hy.symm
        refine ⟨u₁, w', hu', hp, hst, h₁, ?_⟩
        rwa [κ.brackets_append, κ.brackets_backslash, List.append_nil] at hw

/-- The earliest opener left open: before it every bracket is closed, and after it as many
stay open as there are later offsets. -/
theorem earliest {p : Nat} (h : Unclosed κ (ps ++ [p]) u) :
    ∃ u₁ w, u = u₁ ++ κ.opener ++ w ∧ p = (String.ofList u₁).utf8ByteSize ∧
      LexState.after .text u₁ ≠ .backslash ∧
      bracketsOpen 0 (brackets κ.bracket .text u₁) = some 0 ∧
      bracketsOpen 0 (brackets κ.bracket .text w) = some ps.length := by
  induction ps generalizing u with
  | nil =>
      obtain ⟨u₁, w, hu, hp, hst, h₁, hw⟩ := h
      exact ⟨u₁, w, hu, hp, hst, h₁, hw⟩
  | cons q ps ih =>
      obtain ⟨v₁, v, rfl, -, hst, h₁, hv⟩ := h
      obtain ⟨u₁, w, rfl, hp, hst₁, hu₁, hw⟩ := ih h₁
      refine ⟨u₁, w ++ κ.opener ++ v, by simp, hp, hst₁, hu₁, ?_⟩
      rw [after_opener hst₁] at hst
      rw [brackets_split hst, List.append_assoc, bracketsOpen_append, hw, Option.bind_some,
        List.singleton_append]
      simpa [bracketsOpen] using bracketsOpen_add hv (ps.length + 1)

end Unclosed

end MathUnicode.Markup
