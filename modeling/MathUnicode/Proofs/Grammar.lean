import MathUnicode.Proofs.Reading

/-!
# The grammar of the markup

The markup is documented by a grammar:

    Latex   → Expr*
    Expr    → TextRun | Script | Word
    TextRun → (a | '\' e)+
    Script  → ('^' | '_') (a | '{' Expr* '}')
    Word    → '\' N ('{' Expr* '}')?

where `a` is an allowed character, `e` an escapable one and `N` the longest run of letters
and digits after the backslash.  A word's backslash is never followed by an escapable
character (that would be an escape), a braced word names a command, and a word with an
empty name does not end the text.  Besides, the escaped braces of the whole text, read
left to right across all groups, form a balanced bracket sequence, and no group lies more
than `maxDepth` deep.

`Generates d s next bs` says that `s` is a sequence of expressions inside `d` groups, that
`next` is the character after it in the whole text (`none` at the end), and that `bs`
lists its escaped braces, in order, as brackets.  The grammar is ambiguous (adjacent runs
of text may be split anywhere), and where the reader settles each item by the character
after it, the grammar only constrains a word by the character after it.

Main statement: `Formula.generates_of_reads`, whatever the reading relation reads is
generated by the grammar, with balanced escaped braces.
-/

namespace MathUnicode.Markup

open DyckStep

/-- `TextRun u bs`: `u` is a nonempty sequence of allowed characters and escapes, and `bs`
lists the brackets of its escaped braces. -/
inductive TextRun : List Char → List DyckStep → Prop
  | plain {a : Char} : isAllowed a = true → TextRun [a] []
  | escape {c : Char} : isEscapable c = true → TextRun ['\\', c] (escapedBracket c)
  | append {u v : List Char} {bs cs : List DyckStep} :
      TextRun u bs → TextRun v cs → TextRun (u ++ v) (bs ++ cs)

/-- `Generates d s next bs`: `s` is a sequence of expressions inside `d` groups, followed in
the whole text by the character `next`, and `bs` lists its escaped braces. -/
inductive Generates : Nat → List Char → Option Char → List DyckStep → Prop
  | nil {d : Nat} {next : Option Char} : Generates d [] next []
  | text {d : Nat} {u s : List Char} {next : Option Char} {bs cs : List DyckStep} :
      TextRun u bs → Generates d s next cs → Generates d (u ++ s) next (bs ++ cs)
  /-- The short form of a script: one allowed character. -/
  | script {d : Nat} {op a : Char} {s : List Char} {next : Option Char} {cs : List DyckStep} :
      (op = '^' ∨ op = '_') → isAllowed a = true → Generates d s next cs →
      Generates d (op :: a :: s) next cs
  | scriptGroup {d : Nat} {op : Char} {g s : List Char} {next : Option Char}
      {bs cs : List DyckStep} :
      (op = '^' ∨ op = '_') → d < maxDepth → Generates (d + 1) g (some '}') bs →
      Generates d s next cs → Generates d (op :: '{' :: (g ++ '}' :: s)) next (bs ++ cs)
  /-- A word without a group.  The character after the backslash is not escapable, the
  name is not followed by a letter or digit, and an empty name does not end the text. -/
  | word {d : Nat} {name s : List Char} {next : Option Char} {cs : List DyckStep} :
      (∀ c ∈ name, Unicode.isAlphanumeric c = true) →
      (∀ c ∈ (name ++ s).head?.or next, isEscapable c = false) →
      (∀ c ∈ s.head?.or next, Unicode.isAlphanumeric c = false) →
      (name = [] → (s.head?.or next).isSome) →
      Generates d s next cs → Generates d ('\\' :: (name ++ s)) next cs
  /-- A word with a group: its name must be the name of a command. -/
  | command {d : Nat} {name g s : List Char} {next : Option Char} {bs cs : List DyckStep} :
      (∀ c ∈ name, Unicode.isAlphanumeric c = true) →
      (∀ c ∈ (name ++ ['{']).head?, isEscapable c = false) →
      (Command.ofName? (String.ofList name)).isSome → d < maxDepth →
      Generates (d + 1) g (some '}') bs → Generates d s next cs →
      Generates d ('\\' :: (name ++ '{' :: (g ++ '}' :: s))) next (bs ++ cs)

/-! ## What the reading relation reads is generated -/

/-- Units of text that read as a nonempty run are a run of the grammar, and count the same
escaped braces. -/
theorem TextUnits.textRun {e e' : Nat} {u t : List Char} (h : TextUnits e u t e')
    (hu : u ≠ []) : ∃ bs, TextRun u bs ∧ bracketsOpen e bs = some e' := by
  induction h with
  | nil => exact absurd rfl hu
  | @plain e' v t c hv hc ih =>
      by_cases hv0 : v = []
      · subst hv0
        rw [hv.escapes_eq_of_nil]
        exact ⟨[], .plain hc, by simp⟩
      · obtain ⟨bs, hrun, hbs⟩ := ih hv0
        exact ⟨bs ++ [], hrun.append (.plain hc), by simpa [bracketsOpen_append] using hbs⟩
  | @escape e' e'' v t c hv hc hbr ih =>
      by_cases hv0 : v = []
      · subst hv0
        rw [hv.escapes_eq_of_nil] at hbr
        exact ⟨escapedBracket c, .escape hc, hbr⟩
      · obtain ⟨bs, hrun, hbs⟩ := ih hv0
        refine ⟨bs ++ escapedBracket c, hrun.append (.escape hc), ?_⟩
        rw [bracketsOpen_append, hbs]
        exact hbr

theorem ofName?_empty : Command.ofName? (String.ofList []) = none := rfl

/-- Every command that has a name has a nonempty one. -/
theorem ne_nil_of_ofName?_eq_some {name : List Char} {k : Command}
    (h : Command.ofName? (String.ofList name) = some k) : name ≠ [] := by
  rintro rfl
  rw [ofName?_empty] at h
  cases h

/-- Whatever the reading relation reads, up to where it stops, is generated by the grammar
with the character after it as the next one, and its escaped braces move the count of open
ones as the relation does. -/
theorem Reads.generates {d e e' : Nat} {s r : List Char} {ns : List Node}
    (h : Reads d e s ns r e') :
    ∃ seg bs, s = seg ++ r ∧ Generates d seg r.head? bs ∧ bracketsOpen e bs = some e' := by
  induction h with
  | nil => exact ⟨[], [], rfl, .nil, by simp⟩
  | @text d e e₁ e' u t m r ns hu ht _ _ ih =>
      obtain ⟨seg, bs, rfl, hgen, hbs⟩ := ih
      obtain ⟨bs₀, hrun, hbs₀⟩ := hu.textRun fun hu0 => ht (hu.text_eq_nil_iff.mpr hu0)
      refine ⟨u ++ seg, bs₀ ++ bs, by simp, .text hrun hgen, ?_⟩
      rw [bracketsOpen_append, hbs₀]
      exact hbs
  | script hk ha _ ih =>
      obtain ⟨seg, bs, rfl, hgen, hbs⟩ := ih
      exact ⟨_ :: _ :: seg, bs, by simp, .script (ofOperator?_eq_some hk) ha hgen, hbs⟩
  | @symbol d e e' name m r ns hname hend hempty _ ih =>
      obtain ⟨seg, bs, rfl, hgen, hbs⟩ := ih
      refine ⟨'\\' :: (name ++ seg), bs, by simp, .word hname ?_ ?_ ?_ hgen, hbs⟩
      · intro c hc
        rw [← List.head?_append, List.append_assoc] at hc
        exact head?_not_escapable_of_symbol hname hempty c hc
      · intro c hc
        rw [← List.head?_append] at hc
        exact (hend c hc).1
      · intro hname0
        subst hname0
        obtain ⟨c', rest, hm, -⟩ := hempty rfl
        rw [← List.head?_append, hm]
        rfl
  | @group d e e₁ e' k o g m r inner ns ho hd _ _ ihg ihm =>
      obtain ⟨segg, bsg, rfl, hgeng, hbsg⟩ := ihg
      obtain ⟨seg, bs, rfl, hgen, hbs⟩ := ihm
      have hcount : bracketsOpen e (bsg ++ bs) = some e' := by
        rw [bracketsOpen_append, hbsg]
        exact hbs
      cases ho with
      | @script op hk =>
          exact ⟨op :: '{' :: (segg ++ '}' :: seg), bsg ++ bs, by simp,
            .scriptGroup (ofOperator?_eq_some hk) hd (by simpa using hgeng) hgen, hcount⟩
      | @command name hname hk =>
          have hne : name ≠ [] := ne_nil_of_ofName?_eq_some hk
          refine ⟨'\\' :: (name ++ '{' :: (segg ++ '}' :: seg)), bsg ++ bs, by simp,
            .command hname ?_ (by simp [hk]) hd (by simpa using hgeng) hgen, hcount⟩
          obtain ⟨c₀, name, rfl⟩ := List.exists_cons_of_ne_nil hne
          intro c hc
          simp only [List.cons_append, List.head?_cons, Option.mem_def, Option.some.injEq] at hc
          subst hc
          exact isEscapable_of_isAlphanumeric (hname _ (by simp))

/-- A formula read from a text is generated by the grammar, with its escaped braces
balanced. -/
theorem Formula.generates_of_reads {s : List Char} {f : Formula} (h : Formula.Reads s f) :
    ∃ bs, Generates 0 s none bs ∧ ∃ w : DyckWord, w.toList = bs := by
  obtain ⟨seg, bs, hs, hgen, hbs⟩ := Reads.generates h
  rw [List.append_nil] at hs
  subst hs
  exact ⟨bs, hgen, (exists_dyckWord_iff bs).mpr hbs⟩

end MathUnicode.Markup
