import Mathlib.Combinatorics.Enumerative.DyckWord
import MathUnicode.Markup.Parse

/-!
# Reading a formula item by item

`Formula.parse` reads its text one character at a time.  This file describes the same
reading one item at a time, the way a recursive-descent reader takes a formula apart:
`Reads d e s ns r e'` says that inside `d` open groups, with `e` escaped opening braces not
yet closed, the front of `s` reads as the nodes `ns` and leaves `r`, with `e'` escaped
opening braces open.

* A run of text is a sequence of allowed characters and escapes (`TextUnits`) that the
  text after it cannot continue (`continuesText`).
* A script is an operator and one allowed character, or an operator and a braced group.
* A symbol is a backslash and the longest run of letters and digits after it.  The name
  may be empty, but then a character that is not escapable follows at once.
* A command is a backslash, a name that `Command.ofName?` knows, and a braced group.

A group may be opened only while fewer than `maxDepth` groups are open.  The escaped
braces count as brackets (`bracketsOpen`): every `\}` closes an earlier `\{`, across group
boundaries.

The relation is where the later statements about parsing are proved: the reader's
character-by-character run is shown to follow it (`Proofs/ReaderSound.lean`), and it is
compared with the grammar of the markup (`Proofs/Grammar.lean`).
-/

namespace MathUnicode.Markup

open DyckStep

/-! ## Escaped braces as brackets -/

/-- The bracket that an escape writes: `\{` opens one, `\}` closes one, and the other three
escapes write none. -/
def escapedBracket : Char → List DyckStep
  | '{' => [U]
  | '}' => [D]
  | _ => []

/-- Reads brackets with `n` of them open: the number left open at the end, or `none` when
a closing bracket finds none open. -/
def bracketsOpen : Nat → List DyckStep → Option Nat
  | n, [] => some n
  | n, U :: bs => bracketsOpen (n + 1) bs
  | 0, D :: _ => none
  | n + 1, D :: bs => bracketsOpen n bs

@[simp] theorem bracketsOpen_nil (n : Nat) : bracketsOpen n [] = some n := by
  simp [bracketsOpen]

theorem bracketsOpen_append (n : Nat) (bs cs : List DyckStep) :
    bracketsOpen n (bs ++ cs) = (bracketsOpen n bs).bind fun m => bracketsOpen m cs := by
  induction bs generalizing n with
  | nil => simp
  | cons b bs ih =>
      cases b with
      | U => simp [bracketsOpen, ih]
      | D =>
          cases n with
          | zero => simp [bracketsOpen]
          | succ n => simp [bracketsOpen, ih]

theorem bracketsOpen_append_eq_some {n n' : Nat} {bs cs : List DyckStep} :
    bracketsOpen n (bs ++ cs) = some n' ↔
      ∃ m, bracketsOpen n bs = some m ∧ bracketsOpen m cs = some n' := by
  rw [bracketsOpen_append, Option.bind_eq_some_iff]

/-- The count of open brackets moves by the number of opening brackets less the closing
ones, and a prefix never closes more than was open. -/
theorem bracketsOpen_eq_some_iff {n n' : Nat} {bs : List DyckStep} :
    bracketsOpen n bs = some n' ↔
      (∀ i, (bs.take i).count D ≤ n + (bs.take i).count U) ∧
        n + bs.count U = n' + bs.count D := by
  induction bs generalizing n with
  | nil =>
      constructor
      · intro h
        simp only [bracketsOpen_nil, Option.some.injEq] at h
        simp [h]
      · rintro ⟨-, h⟩
        simpa using h
  | cons b bs ih =>
      -- a prefix of `b :: bs` is empty or `b` followed by a prefix of `bs`
      have htake : ∀ P : List DyckStep → Prop, (∀ i, P ((b :: bs).take i)) ↔
          P [] ∧ ∀ i, P (b :: bs.take i) := by
        intro P
        constructor
        · intro h
          exact ⟨h 0, fun i => h (i + 1)⟩
        · rintro ⟨h0, hs⟩ (_ | i)
          exacts [h0, hs i]
      cases b with
      | U =>
          simp only [bracketsOpen, ih]
          rw [htake (fun l => l.count D ≤ n + l.count U)]
          simp only [List.count_cons, List.count_nil]
          constructor
          · rintro ⟨hle, heq⟩
            refine ⟨⟨by omega, fun i => ?_⟩, by simp at heq ⊢; omega⟩
            have := hle i
            simp at this ⊢
            omega
          · rintro ⟨⟨-, hle⟩, heq⟩
            refine ⟨fun i => ?_, by simp at heq ⊢; omega⟩
            have := hle i
            simp at this ⊢
            omega
      | D =>
          rw [htake (fun l => l.count D ≤ n + l.count U)]
          cases n with
          | zero =>
              simp only [bracketsOpen, reduceCtorEq, false_iff]
              rintro ⟨⟨-, hle⟩, -⟩
              have := hle 0
              simp at this
          | succ n =>
              simp only [bracketsOpen, ih, List.count_cons, List.count_nil]
              constructor
              · rintro ⟨hle, heq⟩
                refine ⟨⟨by omega, fun i => ?_⟩, by simp at heq ⊢; omega⟩
                have := hle i
                simp at this ⊢
                omega
              · rintro ⟨⟨-, hle⟩, heq⟩
                refine ⟨fun i => ?_, by simp at heq ⊢; omega⟩
                have := hle i
                simp at this ⊢
                omega

/-- A sequence of brackets is balanced, a Dyck word, exactly when reading it from none open
ends with none open. -/
theorem exists_dyckWord_iff (bs : List DyckStep) :
    (∃ w : DyckWord, w.toList = bs) ↔ bracketsOpen 0 bs = some 0 := by
  rw [bracketsOpen_eq_some_iff]
  constructor
  · rintro ⟨w, rfl⟩
    exact ⟨fun i => by simpa using w.count_D_le_count_U i, by simp [w.count_U_eq_count_D]⟩
  · rintro ⟨hle, heq⟩
    exact ⟨⟨bs, by simpa using heq, fun i => by simpa using hle i⟩, rfl⟩

/-! ## Runs of text -/

/-- `TextUnits e u t e'`: the characters `u` are allowed characters and escapes, in order,
and read as the text `t`; their escaped braces take the count of open ones from `e` to
`e'`.  Units are added at the end, as the reader adds them. -/
inductive TextUnits : Nat → List Char → List Char → Nat → Prop
  | nil {e : Nat} : TextUnits e [] [] e
  | plain {e e' : Nat} {u t : List Char} {c : Char} :
      TextUnits e u t e' → isAllowed c = true → TextUnits e (u ++ [c]) (t ++ [c]) e'
  | escape {e e' e'' : Nat} {u t : List Char} {c : Char} :
      TextUnits e u t e' → isEscapable c = true → bracketsOpen e' (escapedBracket c) = some e'' →
      TextUnits e (u ++ ['\\', c]) (t ++ [c]) e''

/-- Whether a run of text goes on at the front of `r`: with an allowed character, or with
an escape. -/
def continuesText : List Char → Bool
  | [] => false
  | c :: cs => isAllowed c || (c == '\\' && cs.head?.any isEscapable)

theorem TextUnits.eq_nil_of_text_nil {e e' : Nat} {u : List Char} (h : TextUnits e u [] e') :
    u = [] ∧ e' = e := by
  generalize ht : ([] : List Char) = t at h
  cases h with
  | nil => exact ⟨rfl, rfl⟩
  | plain _ _ => simp at ht
  | escape _ _ _ => simp at ht

theorem TextUnits.text_eq_nil_iff {e e' : Nat} {u t : List Char} (h : TextUnits e u t e') :
    t = [] ↔ u = [] := by
  cases h with
  | nil => simp
  | plain _ _ => simp
  | escape _ _ _ => simp

theorem TextUnits.escapes_eq_of_nil {e e' : Nat} {t : List Char} (h : TextUnits e [] t e') :
    e' = e := by
  have ht : t = [] := h.text_eq_nil_iff.mpr rfl
  subst ht
  exact h.eq_nil_of_text_nil.2

theorem isEscapable_of_isAllowed {c : Char} (hc : isAllowed c = true) : isEscapable c = false := by
  cases h : isEscapable c
  · rfl
  · rw [isAllowed_of_isEscapable h] at hc
    cases hc

theorem isEscapable_of_isAlphanumeric {c : Char} (hc : Unicode.isAlphanumeric c = true) :
    isEscapable c = false :=
  isEscapable_of_isAllowed (by simp [isAllowed, hc])

theorem isAlphanumeric_of_isEscapable {c : Char} (hc : isEscapable c = true) :
    Unicode.isAlphanumeric c = false :=
  Bool.eq_false_iff.mpr fun h => by
    rw [isEscapable_of_isAlphanumeric h] at hc
    cases hc

/-! ## Openers of groups -/

/-- Only the two script operators name commands. -/
theorem ofOperator?_eq_some {op : Char} {k : Command} (h : Command.ofOperator? op = some k) :
    op = '^' ∨ op = '_' := by
  unfold Command.ofOperator? at h
  split at h <;> simp_all

/-- `Opens k o`: the characters `o` open a group for the command `k`: a script operator
and `{`, or a backslash, a name of `k` and `{`. -/
inductive Opens : Command → List Char → Prop
  | script {k : Command} {op : Char} : Command.ofOperator? op = some k → Opens k [op, '{']
  | command {k : Command} {name : List Char} :
      (∀ c ∈ name, Unicode.isAlphanumeric c = true) →
      Command.ofName? (String.ofList name) = some k → Opens k ('\\' :: (name ++ ['{']))

/-! ## The relation -/

/-- `Reads d e s ns r e'`: inside `d` open groups and with `e` escaped opening braces open,
the front of `s` reads as the nodes `ns`, leaving `r` and `e'` escaped opening braces
open.  Reading may stop anywhere; whoever reads a sequence says where it must end: at the
end of the text, or at the `}` of its group. -/
inductive Reads : Nat → Nat → List Char → List Node → List Char → Nat → Prop
  | nil {d e : Nat} {r : List Char} : Reads d e r [] r e
  /-- A run of text that the rest cannot continue. -/
  | text {d e e₁ e' : Nat} {u t m r : List Char} {ns : List Node} :
      TextUnits e u t e₁ → t ≠ [] → continuesText m = false → Reads d e₁ m ns r e' →
      Reads d e (u ++ m) (.literal (String.ofList t) :: ns) r e'
  /-- A script operator and one allowed character. -/
  | script {d e e' : Nat} {op a : Char} {k : Command} {m r : List Char} {ns : List Node} :
      Command.ofOperator? op = some k → isAllowed a = true → Reads d e m ns r e' →
      Reads d e (op :: a :: m) (.apply k [.literal (String.singleton a)] :: ns) r e'
  /-- A backslash and the longest run of letters and digits after it, with no brace after
  it; an empty name needs a character after it that is not escapable. -/
  | symbol {d e e' : Nat} {name m r : List Char} {ns : List Node} :
      (∀ c ∈ name, Unicode.isAlphanumeric c = true) →
      (∀ c ∈ m.head?, Unicode.isAlphanumeric c = false ∧ c ≠ '{') →
      (name = [] → ∃ c rest, m = c :: rest ∧ isEscapable c = false) →
      Reads d e m ns r e' →
      Reads d e ('\\' :: (name ++ m)) (.symbol (String.ofList name) :: ns) r e'
  /-- An opener, the items of the group up to its `}`, and the `}`. -/
  | group {d e e₁ e' : Nat} {k : Command} {o g m r : List Char} {inner ns : List Node} :
      Opens k o → d < maxDepth → Reads (d + 1) e g inner ('}' :: m) e₁ →
      Reads d e₁ m ns r e' → Reads d e (o ++ g) (.apply k inner :: ns) r e'

/-- The character after the backslash of a symbol is never escapable: it starts the name, or
it follows an empty name, which only a character that is not escapable may follow. -/
theorem head?_not_escapable_of_symbol {name m : List Char}
    (hname : ∀ c ∈ name, Unicode.isAlphanumeric c = true)
    (hempty : name = [] → ∃ c rest, m = c :: rest ∧ isEscapable c = false) :
    ∀ c ∈ (name ++ m).head?, isEscapable c = false := by
  intro c hc
  cases name with
  | nil =>
      obtain ⟨c', rest, rfl, hc'⟩ := hempty rfl
      simp only [List.nil_append, List.head?_cons, Option.mem_def, Option.some.injEq] at hc
      exact hc ▸ hc'
  | cons c₀ name =>
      simp only [List.cons_append, List.head?_cons, Option.mem_def, Option.some.injEq] at hc
      subst hc
      exact isEscapable_of_isAlphanumeric (hname _ (by simp))

/-- A text reads as a formula when the items read from it reach its end, outside every
group and with every escaped opening brace closed. -/
def Formula.Reads (s : List Char) (f : Formula) : Prop :=
  Markup.Reads 0 0 s f.nodes [] 0

namespace Reads

variable {d e e₁ e' : Nat} {s m r : List Char} {ns ns' : List Node}

/-- Items read one after the other read as the nodes of both. -/
theorem append (h₁ : Reads d e s ns m e₁) (h₂ : Reads d e₁ m ns' r e') :
    Reads d e s (ns ++ ns') r e' := by
  induction h₁ with
  | nil => exact h₂
  | text hu ht hm _ ih => exact .text hu ht hm (ih h₂)
  | script hk ha _ ih => exact .script hk ha (ih h₂)
  | symbol hname hend hempty _ ih => exact .symbol hname hend hempty (ih h₂)
  | group ho hd hg _ _ ih => exact .group ho hd hg (ih h₂)

/-- One run of text, read as one literal. -/
theorem text_single {u t : List Char} (hu : TextUnits e u t e₁) (ht : t ≠ [])
    (hr : continuesText r = false) :
    Reads d e (u ++ r) [.literal (String.ofList t)] r e₁ :=
  .text hu ht hr .nil

/-- One group, read as the command applied to its items. -/
theorem group_single {k : Command} {o g : List Char} {inner : List Node} (ho : Opens k o)
    (hd : d < maxDepth) (hg : Reads (d + 1) e g inner ('}' :: r) e₁) :
    Reads d e (o ++ g) [.apply k inner] r e₁ :=
  .group ho hd hg .nil

end Reads

end MathUnicode.Markup
