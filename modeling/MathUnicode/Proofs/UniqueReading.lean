import MathUnicode.Proofs.ReaderComplete
import MathUnicode.Proofs.Content

/-!
# A text has one reading

The reading relation of `Proofs/Reading.lean` takes a text apart item by item, and each item
is settled by the text in front of it: a run of text is the longest run of allowed
characters and escapes, a script operator takes one allowed character or a brace, and a
backslash takes an escape or the longest run of letters and digits, which names a command
when a brace follows at once.  So a text read up to its end, or up to the `}` that closes
its group, is read in one way only (`Reads.unique`).

Together with the soundness and the completeness of the reader this pins down what the
reader returns: `Formula.parse s = .ok f` exactly when `f` is the reading of `s`
(`Formula.parse_eq_ok_iff`).

## Strategy

By induction on one reading and case analysis on the other.  The two first items are of one
kind: a run of text is the only item that the text after it would continue
(`continuesText`), the scripts start with an operator and the other items with a backslash,
a one-character script never takes a brace, and a symbol's name is never followed by a
brace.  Two items of one kind read the same characters: runs of text because both are
longest (`textSpan`), names because both are longest runs of letters and digits
(`eq_of_alphanumeric_append`).
-/

namespace MathUnicode.Markup

/-! ## The longest run of text -/

/-- Splits off the longest run of allowed characters and escapes at the front of a text. -/
def textSpan : List Char → List Char × List Char
  | [] => ([], [])
  | c :: cs =>
    if isAllowed c then
      (c :: (textSpan cs).1, (textSpan cs).2)
    else if c = '\\' then
      match cs with
      | x :: xs =>
        if isEscapable x then ('\\' :: x :: (textSpan xs).1, (textSpan xs).2)
        else ([], c :: cs)
      | [] => ([], [c])
    else ([], c :: cs)

theorem textSpan_of_isAllowed {c : Char} {cs : List Char} (hc : isAllowed c = true) :
    textSpan (c :: cs) = (c :: (textSpan cs).1, (textSpan cs).2) := by
  rw [textSpan.eq_def]
  simp [hc]

theorem textSpan_escape {x : Char} {xs : List Char} (hx : isEscapable x = true) :
    textSpan ('\\' :: x :: xs) = ('\\' :: x :: (textSpan xs).1, (textSpan xs).2) := by
  rw [textSpan.eq_def]
  simp [hx, show isAllowed '\\' = false by decide]

/-- Where no run of text goes on, the longest run is empty. -/
theorem textSpan_of_continuesText {m : List Char} (h : continuesText m = false) :
    textSpan m = ([], m) := by
  cases m with
  | nil => rfl
  | cons c cs =>
      simp only [continuesText, Bool.or_eq_false_iff, Bool.and_eq_false_iff, beq_eq_false_iff_ne,
        ne_eq] at h
      obtain ⟨hc, hesc⟩ := h
      rw [textSpan.eq_def]
      by_cases hb : c = '\\'
      · subst hb
        cases cs with
        | nil => rfl
        | cons x xs =>
            have hx : isEscapable x = false := by simpa using hesc
            simp [hc, hx]
      · simp [hc, hb]

/-- The units of a run of text are taken whole into the longest run. -/
theorem TextUnits.textSpan_append {e e' : Nat} {u t : List Char} (h : TextUnits e u t e')
    (x : List Char) : textSpan (u ++ x) = (u ++ (textSpan x).1, (textSpan x).2) := by
  induction h generalizing x with
  | nil => rfl
  | plain _ hc ih =>
      rw [List.append_assoc, List.singleton_append, ih, textSpan_of_isAllowed hc]
      simp
  | escape _ hc _ ih =>
      rw [List.append_assoc, List.cons_append, List.singleton_append, ih, textSpan_escape hc]
      simp

/-- Two runs of text at the front of one text, each ended where no run goes on, are the
same run. -/
theorem TextUnits.eq_of_append_eq {e e' e₁ e₁' : Nat} {u u' t t' m m' : List Char}
    (h : TextUnits e u t e') (h' : TextUnits e₁ u' t' e₁') (hm : Markup.continuesText m = false)
    (hm' : Markup.continuesText m' = false) (hs : u ++ m = u' ++ m') : u = u' ∧ m = m' := by
  have hspan := h.textSpan_append m
  have hspan' := h'.textSpan_append m'
  rw [textSpan_of_continuesText hm, List.append_nil] at hspan
  rw [textSpan_of_continuesText hm', List.append_nil, ← hs, hspan] at hspan'
  simpa using hspan'

/-- A run ending in a character and a run ending in an escape end in the same character. -/
theorem eq_of_append_eq_escape {v v' : List Char} {c c' : Char} (h : v ++ [c] = v' ++ ['\\', c']) :
    c = c' := by
  have hlast := congrArg List.getLast? h
  simp only [List.getLast?_append, List.getLast?_singleton, Option.some_or,
    List.getLast?_cons_cons] at hlast
  exact Option.some.inj hlast

/-- The units of a run of text fix its text and the escaped braces it leaves open. -/
theorem TextUnits.unique {e e₁ e₁' : Nat} {u t t' : List Char} (h : TextUnits e u t e₁)
    (h' : TextUnits e u t' e₁') : t = t' ∧ e₁ = e₁' := by
  induction h generalizing t' e₁' with
  | nil =>
      have ht := h'.text_eq_nil_iff.mpr rfl
      exact ⟨ht.symm, h'.escapes_eq_of_nil.symm⟩
  | @plain _ v t c _ hc ih =>
      generalize hw : v ++ [c] = w at h'
      cases h' with
      | nil => simp at hw
      | plain hv' _ =>
          obtain ⟨rfl, hcc⟩ := List.append_inj' hw rfl
          obtain ⟨rfl, rfl⟩ := ih hv'
          simp_all
      | escape _ hc' _ =>
          -- the last character would be allowed and escapable at once
          obtain rfl := eq_of_append_eq_escape hw
          rw [isAllowed_of_isEscapable hc'] at hc
          cases hc
  | @escape _ _ v t c _ hc hbr ih =>
      generalize hw : v ++ ['\\', c] = w at h'
      cases h' with
      | nil => simp at hw
      | plain _ hc' =>
          obtain rfl := eq_of_append_eq_escape hw.symm
          rw [isAllowed_of_isEscapable hc] at hc'
          cases hc'
      | escape hv' _ hbr' =>
          obtain ⟨rfl, hcc⟩ := List.append_inj' hw rfl
          obtain ⟨rfl, rfl⟩ := ih hv'
          simp only [List.cons.injEq, true_and, and_true] at hcc
          subst hcc
          exact ⟨rfl, Option.some.inj (hbr.symm.trans hbr')⟩

/-- A nonempty run of text is continued by the text that follows it. -/
theorem TextUnits.continuesText_of_ne {e e' : Nat} {u t : List Char} (h : TextUnits e u t e')
    (ht : t ≠ []) (x : List Char) : Markup.continuesText (u ++ x) = true :=
  h.continuesText (fun hu0 => ht (h.text_eq_nil_iff.mpr hu0)) x

/-! ## Names -/

theorem isAlphanumeric_brace : Unicode.isAlphanumeric '{' = false :=
  isAlphanumeric_of_isEscapable (by decide)

/-- A longest run of letters and digits is fixed by the text it starts: two names followed
by no letter or digit split one text in the same place. -/
theorem eq_of_alphanumeric_append {n₁ n₂ m₁ m₂ : List Char}
    (h₁ : ∀ c ∈ n₁, Unicode.isAlphanumeric c = true)
    (h₂ : ∀ c ∈ n₂, Unicode.isAlphanumeric c = true)
    (hm₁ : ∀ c ∈ m₁.head?, Unicode.isAlphanumeric c = false)
    (hm₂ : ∀ c ∈ m₂.head?, Unicode.isAlphanumeric c = false) (h : n₁ ++ m₁ = n₂ ++ m₂) :
    n₁ = n₂ ∧ m₁ = m₂ := by
  induction n₁ generalizing n₂ with
  | nil =>
      cases n₂ with
      | nil => exact ⟨rfl, h⟩
      | cons c n₂ =>
          subst h
          have := hm₁ c (by simp)
          rw [h₂ c (by simp)] at this
          cases this
  | cons c n₁ ih =>
      cases n₂ with
      | nil =>
          subst h
          have := hm₂ c (by simp)
          rw [h₁ c (by simp)] at this
          cases this
      | cons c' n₂ =>
          simp only [List.cons_append, List.cons.injEq] at h
          obtain ⟨rfl, h⟩ := h
          obtain ⟨rfl, rfl⟩ := ih (fun x hx => h₁ x (by simp [hx]))
            (fun x hx => h₂ x (by simp [hx])) h
          exact ⟨rfl, rfl⟩

/-- Two openers at the front of one text are the same opener, for the same command. -/
theorem Opens.unique {k k' : Command} {o o' g g' : List Char} (h : Opens k o) (h' : Opens k' o')
    (hs : o ++ g = o' ++ g') : k = k' ∧ o = o' ∧ g = g' := by
  cases h with
  | @script op hk =>
      cases h' with
      | @script op' hk' =>
          simp only [List.cons_append, List.nil_append, List.cons.injEq, true_and] at hs
          obtain ⟨rfl, rfl⟩ := hs
          exact ⟨Option.some.inj (hk.symm.trans hk'), rfl, rfl⟩
      | command _ _ =>
          simp only [List.cons_append, List.cons.injEq] at hs
          rcases ofOperator?_eq_some hk with rfl | rfl <;> simp at hs
  | @command name hname hk =>
      cases h' with
      | @script op' hk' =>
          simp only [List.cons_append, List.cons.injEq] at hs
          rcases ofOperator?_eq_some hk' with rfl | rfl <;> simp at hs
      | @command name' hname' hk' =>
          simp only [List.cons_append, List.append_assoc, List.cons.injEq, true_and] at hs
          obtain ⟨rfl, hg⟩ := eq_of_alphanumeric_append hname hname'
            (by simp [isAlphanumeric_brace]) (by simp [isAlphanumeric_brace]) hs
          simp only [List.cons.injEq, true_and] at hg
          exact ⟨Option.some.inj (hk.symm.trans hk'), rfl, hg⟩

/-! ## What the first item starts with -/

/-- A text that ends a reading: it is over, or it closes the group being read. -/
def Stops (r : List Char) : Prop :=
  ∀ c ∈ r.head?, c = '}'

theorem continuesText_of_stops {r : List Char} (h : Stops r) : continuesText r = false := by
  cases r with
  | nil => rfl
  | cons c _ =>
      obtain rfl := h c rfl
      rfl

theorem continuesText_script {op a : Char} {k : Command} (hk : Command.ofOperator? op = some k)
    (m : List Char) : continuesText (op :: a :: m) = false :=
  continuesText_operator hk (a :: m)

theorem continuesText_symbol {name m : List Char}
    (hname : ∀ c ∈ name, Unicode.isAlphanumeric c = true)
    (hempty : name = [] → ∃ c rest, m = c :: rest ∧ isEscapable c = false) :
    continuesText ('\\' :: (name ++ m)) = false := by
  have hhead := head?_not_escapable_of_symbol hname hempty
  have hb : isAllowed '\\' = false := by decide
  cases hnm : name ++ m with
  | nil => simp [continuesText, hb]
  | cons c rest =>
      rw [hnm] at hhead
      simp [continuesText, hb, hhead c rfl]

theorem Opens.continuesText {k : Command} {o : List Char} (h : Opens k o) (g : List Char) :
    continuesText (o ++ g) = false := by
  cases h with
  | script hk => exact continuesText_operator hk _
  | @command name hname hk =>
      obtain ⟨c, name, rfl⟩ := List.exists_cons_of_ne_nil (ne_nil_of_ofName?_eq_some hk)
      have hc := isEscapable_of_isAlphanumeric (hname c (by simp))
      simp [Markup.continuesText, hc, show isAllowed '\\' = false by decide]

/-- A script operator is no backslash: a script never starts like a symbol or a command. -/
theorem ne_backslash_of_ofOperator? {op : Char} {k : Command}
    (hk : Command.ofOperator? op = some k) : op ≠ '\\' := by
  rcases ofOperator?_eq_some hk with rfl | rfl <;> decide

/-- Nothing is read from a text that stops. -/
theorem Reads.eq_nil_of_stops {d e e' : Nat} {s r : List Char} {ns : List Node}
    (h : Reads d e s ns r e') (hs : Stops s) : ns = [] ∧ r = s ∧ e' = e := by
  have hc := continuesText_of_stops hs
  cases h with
  | nil => exact ⟨rfl, rfl, rfl⟩
  | text hu ht _ _ =>
      rw [hu.continuesText (fun hu0 => ht (hu.text_eq_nil_iff.mpr hu0))] at hc
      cases hc
  | script hk _ _ =>
      rcases ofOperator?_eq_some hk with rfl | rfl <;> simp [Stops] at hs
  | symbol _ _ _ _ => simp [Stops] at hs
  | group ho _ _ _ =>
      cases ho with
      | script hk => rcases ofOperator?_eq_some hk with rfl | rfl <;> simp [Stops] at hs
      | command _ _ => simp [Stops] at hs

/-! ## Uniqueness -/

/-- Two readings of one text, each up to the end of the text or the `}` of its group, read
the same nodes, stop at the same place and leave the same escaped braces open. -/
theorem Reads.unique {d e e' : Nat} {s r : List Char} {ns : List Node}
    (h₁ : Reads d e s ns r e') :
    ∀ {ns' : List Node} {r' : List Char} {e'' : Nat}, Reads d e s ns' r' e'' → Stops r →
      Stops r' → ns = ns' ∧ r = r' ∧ e' = e'' := by
  induction h₁ with
  | nil =>
      intro ns' r' e'' h₂ hr _
      obtain ⟨rfl, rfl, rfl⟩ := h₂.eq_nil_of_stops hr
      exact ⟨rfl, rfl, rfl⟩
  | @text d e e₁ e' u t m r ns hu ht hm _ ih =>
      intro ns' r' e'' h₂ hr hr'
      have hcont := hu.continuesText_of_ne ht m
      generalize hx : u ++ m = x at h₂ hcont
      cases h₂ with
      | nil => rw [continuesText_of_stops hr'] at hcont; cases hcont
      | text hu' _ hm' h₂ =>
          obtain ⟨rfl, rfl⟩ := hu.eq_of_append_eq hu' hm hm' hx
          obtain ⟨rfl, rfl⟩ := hu.unique hu'
          obtain ⟨rfl, rfl, rfl⟩ := ih h₂ hr hr'
          exact ⟨rfl, rfl, rfl⟩
      | script hk _ _ => rw [continuesText_script hk] at hcont; cases hcont
      | symbol hname _ hempty _ => rw [continuesText_symbol hname hempty] at hcont; cases hcont
      | group ho _ _ _ => rw [ho.continuesText] at hcont; cases hcont
  | @script d e e' op a k m r ns hk ha _ ih =>
      intro ns' r' e'' h₂ hr hr'
      have hop := ofOperator?_eq_some hk
      have hcont := continuesText_script (a := a) hk m
      generalize hx : op :: a :: m = x at h₂ hcont
      cases h₂ with
      | nil => rcases hop with rfl | rfl <;> simp [← hx, Stops] at hr'
      | text hu' ht' _ _ => rw [hu'.continuesText_of_ne ht'] at hcont; cases hcont
      | script hk' _ h₂ =>
          simp only [List.cons.injEq] at hx
          obtain ⟨rfl, rfl, rfl⟩ := hx
          obtain rfl := Option.some.inj (hk.symm.trans hk')
          obtain ⟨rfl, rfl, rfl⟩ := ih h₂ hr hr'
          exact ⟨rfl, rfl, rfl⟩
      | symbol _ _ _ _ =>
          simp only [List.cons.injEq] at hx
          exact absurd hx.1 (ne_backslash_of_ofOperator? hk)
      | group ho _ _ _ =>
          cases ho with
          | script _ =>
              -- a one-character script never takes a brace
              simp only [List.cons_append, List.nil_append, List.cons.injEq] at hx
              obtain ⟨-, rfl, -⟩ := hx
              simp [isAllowed, punctuation, isAlphanumeric_brace] at ha
          | command _ _ =>
              simp only [List.cons_append, List.cons.injEq] at hx
              exact absurd hx.1 (ne_backslash_of_ofOperator? hk)
  | @symbol d e e' name m r ns hname hend hempty _ ih =>
      intro ns' r' e'' h₂ hr hr'
      have hcont := continuesText_symbol hname hempty
      generalize hx : '\\' :: (name ++ m) = x at h₂ hcont
      cases h₂ with
      | nil => simp [← hx, Stops] at hr'
      | text hu' ht' _ _ => rw [hu'.continuesText_of_ne ht'] at hcont; cases hcont
      | script hk _ _ =>
          simp only [List.cons.injEq] at hx
          exact absurd hx.1.symm (ne_backslash_of_ofOperator? hk)
      | symbol hname' hend₂ _ h₂ =>
          simp only [List.cons.injEq, true_and] at hx
          obtain ⟨rfl, rfl⟩ := eq_of_alphanumeric_append hname hname'
            (fun c hc => (hend c hc).1) (fun c hc => (hend₂ c hc).1) hx
          obtain ⟨rfl, rfl, rfl⟩ := ih h₂ hr hr'
          exact ⟨rfl, rfl, rfl⟩
      | group ho _ _ _ =>
          cases ho with
          | script hk =>
              simp only [List.cons_append, List.cons.injEq] at hx
              exact absurd hx.1.symm (ne_backslash_of_ofOperator? hk)
          | command hname' _ =>
              -- a symbol's name is never followed by a brace
              simp only [List.cons_append, List.append_assoc, List.cons.injEq, true_and] at hx
              obtain ⟨-, rfl⟩ := eq_of_alphanumeric_append hname hname'
                (fun c hc => (hend c hc).1) (by simp [isAlphanumeric_brace]) hx
              exact absurd rfl (hend '{' rfl).2
  | @group d e e₁ e' k o g m r inner ns ho _ _ _ ihg ihm =>
      intro ns' r' e'' h₂ hr hr'
      have hcont := ho.continuesText g
      generalize hx : o ++ g = x at h₂ hcont
      cases h₂ with
      | nil =>
          cases ho with
          | script hk => rcases ofOperator?_eq_some hk with rfl | rfl <;> simp [← hx, Stops] at hr'
          | command _ _ => simp [← hx, Stops] at hr'
      | text hu' ht' _ _ => rw [hu'.continuesText_of_ne ht'] at hcont; cases hcont
      | script hk ha _ =>
          cases ho with
          | script _ =>
              simp only [List.cons_append, List.nil_append, List.cons.injEq] at hx
              obtain ⟨-, rfl, -⟩ := hx
              simp [isAllowed, punctuation, isAlphanumeric_brace] at ha
          | command _ _ =>
              simp only [List.cons_append, List.cons.injEq] at hx
              exact absurd hx.1.symm (ne_backslash_of_ofOperator? hk)
      | symbol hname' hend₂ _ _ =>
          cases ho with
          | script hk =>
              simp only [List.cons_append, List.cons.injEq] at hx
              exact absurd hx.1 (ne_backslash_of_ofOperator? hk)
          | command hname _ =>
              simp only [List.cons_append, List.append_assoc, List.cons.injEq, true_and] at hx
              obtain ⟨-, rfl⟩ := eq_of_alphanumeric_append hname hname'
                (by simp [isAlphanumeric_brace]) (fun c hc => (hend₂ c hc).1) hx
              exact absurd rfl (hend₂ '{' rfl).2
      | group ho' _ hg' h₂ =>
          obtain ⟨rfl, rfl, rfl⟩ := ho.unique ho' hx
          obtain ⟨rfl, hm, rfl⟩ := ihg hg' (by simp [Stops]) (by simp [Stops])
          obtain rfl := List.cons_injective hm
          obtain ⟨rfl, rfl, rfl⟩ := ihm h₂ hr hr'
          exact ⟨rfl, rfl, rfl⟩

/-- A text read to its end has one reading. -/
theorem Formula.reads_unique {s : List Char} {f f' : Formula} (h : Formula.Reads s f)
    (h' : Formula.Reads s f') : f = f' := by
  obtain ⟨hn, -, -⟩ := Reads.unique h h' (by simp [Stops]) (by simp [Stops])
  cases f
  cases f'
  simpa using hn

/-- The reader returns exactly the reading of its text. -/
theorem Formula.parse_eq_ok_iff (s : String) (f : Formula) :
    Formula.parse s = .ok f ↔ Formula.Reads s.toList f := by
  refine ⟨Formula.reads_of_parse, fun h => ?_⟩
  obtain ⟨f', hf'⟩ := (Formula.parse_ok_iff s).mpr (Formula.generates_of_reads h)
  rw [hf', Formula.reads_unique (Formula.reads_of_parse hf') h]

end MathUnicode.Markup
