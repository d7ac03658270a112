import MathUnicode.Proofs.ReaderState

/-!
# Where a formula fails to parse

Every fault that `Formula.parse` reports with a position carries the byte offset, in UTF-8,
of a character of the text, and that character is the one to blame.  `ParseError.Placed s e`
says so for each kind of fault, with the offset written as the length in bytes of the
prefix `u` of `s` before the character, so that it is a character boundary of `s` by
construction.

The reader's invariant (`Proofs/ReaderState.lean`) does the work: a fault raised while
reading is placed by the step that raised it, after a prefix read without fault, and a
fault raised at the end is placed by what the whole text leaves open.

The same split shows which faults the text after them cannot change
(`Formula.parse_append_of_error`): every fault but an unterminated group and an operator or
backslash that ends the text is raised while reading, and reading stops there.
-/

namespace MathUnicode.Markup

/-- What the fault `e` says about the text `s`.

* An unexpected character `c` at `p` starts the rest of `s` after a prefix `u` of `p` bytes:
  either `c` stands where an item may start and starts none (it is not allowed in text, not a
  script operator, not a backslash, and a `}` there closes no group), or `c` is the `}` of an
  escaped closing brace and no escaped opening brace before it is left to match it.
* A dangling operator `^`, `_` or backslash stands at `p`.
* A group nested too deeply is opened by the `{` at `p`, where `maxDepth` groups are open.
* An unterminated group is the `{` at `p` of the innermost group still open at the end;
  when no group is open, it is the backslash at `p` of the earliest escaped opening brace
  that no escaped closing brace after it matches.
* An unsupported command is a name of no command, followed by `{`. -/
def ParseError.Placed (s : List Char) : ParseError → Prop
  | .unexpectedCharacter c p => ∃ u v, s = u ++ c :: v ∧ p = (String.ofList u).utf8ByteSize ∧
      ((StartsItem u c ∧ isAllowed c = false ∧ c ≠ '^' ∧ c ≠ '_' ∧ c ≠ '\\' ∧
          (c = '}' → openGroups u = some 0)) ∨
        (c = '}' ∧ LexState.after .text u = .backslash ∧ openEscapes u = some 0))
  | .danglingOperator op p => (op = '^' ∨ op = '_' ∨ op = '\\') ∧
      ∃ u v, s = u ++ op :: v ∧ p = (String.ofList u).utf8ByteSize
  | .nestingTooDeep d p => d = maxDepth ∧ ∃ u v, s = u ++ '{' :: v ∧
      p = (String.ofList u).utf8ByteSize ∧ OpensGroup u ∧ openGroups u = some maxDepth
  | .unterminatedGroup p =>
      (∃ u v, s = u ++ '{' :: v ∧ p = (String.ofList u).utf8ByteSize ∧
          LexState.after .text u ≠ .backslash ∧ openGroups v = some 0) ∨
        (openGroups s = some 0 ∧ ∃ u v, s = u ++ '\\' :: '{' :: v ∧
          p = (String.ofList u).utf8ByteSize ∧ LexState.after .text u ≠ .backslash ∧
          openEscapes u = some 0 ∧ (openEscapes v).isSome)
  | .unsupportedCommand n => ∃ u v, s = u ++ '{' :: v ∧
      LexState.after .text u = .name n.toList ∧ Command.ofName? n = none

namespace Reader

/-- A fault raised by reading `c` after `u` is placed in every text that goes on from there. -/
theorem StepFault.placed {u : List Char} {c : Char} {e : ParseError} (h : StepFault u c e)
    (v : List Char) : e.Placed (u ++ c :: v) := by
  cases e with
  | unexpectedCharacter c' p =>
      obtain ⟨rfl, hp, hwhy⟩ := h
      exact ⟨u, v, rfl, hp, hwhy⟩
  | danglingOperator op p =>
      -- the operator is the last character of `u`, not `c`
      obtain ⟨hop, u', rfl, hp⟩ := h
      exact ⟨hop.imp_right .inl, u', c :: v, by simp, hp⟩
  | nestingTooDeep d p =>
      obtain ⟨hd, hp, rfl, hopens, hdepth⟩ := h
      exact ⟨hd, u, v, rfl, hp, hopens, hdepth⟩
  | unterminatedGroup p => exact h.elim
  | unsupportedCommand n =>
      obtain ⟨rfl, hafter, hk⟩ := h
      exact ⟨u, v, rfl, hafter, hk⟩

/-- A fault raised at the end of the text is placed in it. -/
theorem FinishFault.placed {u : List Char} {e : ParseError} (h : FinishFault u e) :
    e.Placed u := by
  cases e with
  | danglingOperator op p =>
      obtain ⟨hop, u', rfl, hp⟩ := h
      exact ⟨hop, u', [], rfl, hp⟩
  | unterminatedGroup p => exact h
  | unexpectedCharacter _ _ | nestingTooDeep _ _ | unsupportedCommand _ => exact h.elim

end Reader

/-- Every fault of a parse is placed in the text: its position is the offset in bytes of the
character it blames, and that character is one that the fault's kind describes. -/
theorem Formula.parse_error_placed {s : String} {e : ParseError}
    (h : Formula.parse s = .error e) : e.Placed s.toList := by
  rcases Reader.parse_error_cases h with ⟨u, c, v, hsplit, -, hfault⟩ | hfault
  · rw [hsplit]
    exact hfault.placed v
  · exact hfault.placed

/-- A closing brace with no group open, after two letters of two bytes each. -/
theorem parse_error_placed_close_brace :
    Formula.parse "αβ\x7d" = .error (.unexpectedCharacter '}' 4) ∧
      (ParseError.unexpectedCharacter '}' 4).Placed "αβ\x7d".toList :=
  ⟨rfl, Formula.parse_error_placed rfl⟩

/-! ## Faults decided by a prefix -/

/-- A fault that the end of the text does not cause is decided by the text up to it: whatever
follows `s`, the longer text fails with the same fault.  The end causes an unterminated
group, and an operator or a backslash dangling at the last character of `s`, whose offset is
the length in bytes of `s` without that character. -/
theorem Formula.parse_append_of_error {s : String} {e : ParseError} (t : String)
    (h : Formula.parse s = .error e) (hgroup : ∀ p, e ≠ .unterminatedGroup p)
    (hlast : ∀ op, e ≠ .danglingOperator op (String.ofList s.toList.dropLast).utf8ByteSize) :
    Formula.parse (s ++ t) = .error e := by
  rw [Reader.parse_eq_scan] at h ⊢
  rw [String.toList_append, Reader.scan_append]
  cases hs : Reader.scan s.toList with
  | error e' =>
      -- reading `s` already failed, and the fold stops at its fault
      simp only [hs, bind, Except.bind] at h ⊢
      exact h
  | ok r =>
      -- the fault is raised at the end of `s`: only the two excluded kinds are
      rw [hs] at h
      have hfault := (Reader.scanned_of_scan hs).finish_fault h
      cases e with
      | unterminatedGroup p => exact absurd rfl (hgroup p)
      | danglingOperator op p =>
          obtain ⟨-, u, hu, rfl⟩ := hfault
          exact absurd (by rw [hu, List.dropLast_concat]) (hlast op)
      | unexpectedCharacter _ _ | nestingTooDeep _ _ | unsupportedCommand _ => exact hfault.elim

/-- A script operator before a closing brace dangles at its own offset, not at the last
character, and no text after the brace rescues it. -/
theorem parse_append_of_error_dangling :
    Formula.parse "^\x7d" = .error (.danglingOperator '^' 0) ∧
      (∀ p, ParseError.danglingOperator '^' 0 ≠ .unterminatedGroup p) ∧
      (∀ op, ParseError.danglingOperator '^' 0 ≠
        .danglingOperator op (String.ofList "^\x7d".toList.dropLast).utf8ByteSize) ∧
      Formula.parse ("^\x7d" ++ "a") = .error (.danglingOperator '^' 0) :=
  have h : Formula.parse "^\x7d" = .error (.danglingOperator '^' 0) := rfl
  have hgroup : ∀ p, ParseError.danglingOperator '^' 0 ≠ .unterminatedGroup p := by simp
  have hlast : ∀ op, ParseError.danglingOperator '^' 0 ≠
      .danglingOperator op (String.ofList "^\x7d".toList.dropLast).utf8ByteSize := by
    intro op
    have hsize : (String.ofList "^\x7d".toList.dropLast).utf8ByteSize = 1 := by decide
    rw [hsize]
    simp
  ⟨h, hgroup, hlast, Formula.parse_append_of_error "a" h hgroup hlast⟩

end MathUnicode.Markup
