import MathUnicode.Proofs.Reading

/-!
# The reader follows the reading relation

`Formula.parse` folds `Reader.step` over the characters of its text.  This file shows that
whatever it returns is read by the relation of `Proofs/Reading.lean`:
`Formula.parse s = .ok f → Formula.Reads s.toList f` (`Formula.reads_of_parse`).

## Strategy

The reader keeps a zipper of the tree it builds.  After it has read a prefix `p` of the
text, `p` splits as

  `q ++ done ++ u`

where `q` holds the levels of the open groups, each a run of finished items followed by
the opener of the next group (`Frames`), `done` holds the finished items of the current
level, which read as `r.nodes`, and `u` is what the pending state holds: the units of the
run of text being read, an operator waiting for its operand, a backslash, or a name
(`Holds`).  Together these are `Reader.ReadUpTo`.

The finished items of a level are read before every continuation of the text: a finished
item never depends on more than the character after it, and the reader has always read
that character when it finishes an item.  The one exception is a symbol finished by the
character after its name, which then goes on to be read as the start of the next item;
there the invariant holds with that character as a known lookahead (`la`), and
`ReadUpTo.idle` reads it from there.

Each pending state has its step lemma, and `ReadUpTo.foldlM` carries the invariant over a
whole run; `ReadUpTo.finish` reads the result off at the end.
-/

namespace MathUnicode.Markup

namespace Reader

/-! ## The reader's small steps -/

variable {r : Reader}

@[simp] theorem emit_groups (n : Node) : (r.emit n).groups = r.groups := rfl
@[simp] theorem emit_nodes (n : Node) : (r.emit n).nodes = r.nodes ++ [n] := rfl
@[simp] theorem emit_text (n : Node) : (r.emit n).text = r.text := rfl
@[simp] theorem emit_pending (n : Node) : (r.emit n).pending = r.pending := rfl
@[simp] theorem emit_escapes (n : Node) : (r.emit n).escapes = r.escapes := rfl

theorem flush_of_text_eq (h : r.text = "") : r.flush = r := by
  simp [flush, h]

theorem flush_nodes_of_text_ne (h : r.text ≠ "") :
    r.flush.nodes = r.nodes ++ [.literal r.text] := by
  simp [flush, String.isEmpty_iff, h]

@[simp] theorem flush_groups : r.flush.groups = r.groups := by
  unfold flush; split <;> rfl

@[simp] theorem flush_text : r.flush.text = "" := by
  unfold flush; split <;> simp_all [String.isEmpty_iff]

@[simp] theorem flush_pending : r.flush.pending = r.pending := by
  unfold flush; split <;> rfl

@[simp] theorem flush_escapes : r.flush.escapes = r.escapes := by
  unfold flush; split <;> rfl

/-- An escape adds its character to the run of text and counts its brace. -/
theorem escape_ok {r' : Reader} {p : Nat} {c : Char} (h : r.escape p c = .ok r') :
    r'.groups = r.groups ∧ r'.nodes = r.nodes ∧ r'.text = r.text.push c ∧
      r'.pending = .idle ∧
      bracketsOpen r.escapes.length (escapedBracket c) = some r'.escapes.length := by
  unfold escape at h
  by_cases hl : c = '{'
  · subst hl
    simp only [beq_self_eq_true, if_true, Except.ok.injEq] at h
    subst h
    simp [escapedBracket, bracketsOpen]
  by_cases hr : c = '}'
  · subst hr
    have hne : ('}' : Char) ≠ '{' := by decide
    simp only [beq_iff_eq, hne, if_false, if_true] at h
    cases he : r.escapes with
    | nil => simp [he] at h
    | cons x rest =>
        simp only [he, Except.ok.injEq] at h
        subst h
        simp [escapedBracket, bracketsOpen]
  · simp only [beq_iff_eq, hl, hr, if_false, Except.ok.injEq] at h
    subst h
    have : escapedBracket c = [] := by
      unfold escapedBracket; split <;> simp_all
    simp [this]

/-- What reading a character can do when nothing waits: wait for the operand of an
operator, wait after a backslash, close the innermost group, or extend the run of text. -/
theorem idle_cases {r' : Reader} {q : Nat} {c : Char} (h : r.idle q c = .ok r') :
    (∃ k, Command.ofOperator? c = some k ∧ r' = { r.flush with pending := .operand k c q }) ∨
      (c = '\\' ∧ r' = { r with pending := .backslash q }) ∨
      (c = '}' ∧ ∃ g rest, r.groups = g :: rest ∧ r' = r.closeGroup g rest) ∨
      (isAllowed c = true ∧ r' = { r with text := r.text.push c }) := by
  unfold idle at h
  cases hk : Command.ofOperator? c with
  | some k =>
      simp only [hk, Except.ok.injEq] at h
      exact .inl ⟨k, rfl, h.symm⟩
  | none =>
      simp only [hk] at h
      by_cases hb : c = '\\'
      · subst hb
        simp only [beq_self_eq_true, if_true, Except.ok.injEq] at h
        exact .inr (.inl ⟨rfl, h.symm⟩)
      have hb' : (c == '\\') = false := by simpa using hb
      simp only [hb', Bool.false_eq_true, if_false] at h
      by_cases hc : c = '}'
      · subst hc
        cases hg : r.groups with
        | nil => simp [hg] at h
        | cons g rest =>
            simp only [beq_self_eq_true, if_true, hg, Except.ok.injEq] at h
            exact .inr (.inr (.inl ⟨rfl, g, rest, rfl, h.symm⟩))
      have hc' : (c == '}') = false := by simpa using hc
      simp only [hc', Bool.false_eq_true, if_false] at h
      by_cases ha : isAllowed c = true
      · simp only [ha, if_true, Except.ok.injEq] at h
        exact .inr (.inr (.inr ⟨ha, h.symm⟩))
      · simp [ha] at h

/-- With nothing waiting, the reader finishes when every group and every escaped brace is
closed, with the nodes it holds once its run of text ends. -/
theorem finish_of_idle {f : Formula} (hp : r.pending = .idle) (h : r.finish = .ok f) :
    r.groups = [] ∧ r.escapes = [] ∧ f = ⟨r.flush.nodes⟩ := by
  simp only [finish, hp, pure, Except.pure, bind, Except.bind] at h
  split at h
  · simp [throw, throwThe, MonadExceptOf.throw] at h
  · split at h
    · simp [throw, throwThe, MonadExceptOf.throw] at h
    · simp only [Except.ok.injEq] at h
      simp_all

/-- A name waiting at the end becomes a symbol. -/
theorem finish_of_name {n : String} {pos : Nat} (hp : r.pending = .name n pos) :
    r.finish = { r.emit (.symbol n) with pending := .idle }.finish := by
  simp [finish, hp, pure, Except.pure, bind, Except.bind]

/-- An operator or a backslash waiting at the end has no operand. -/
theorem finish_of_dangling {f : Formula}
    (hp : (∃ k op pos, r.pending = .operand k op pos) ∨ ∃ pos, r.pending = .backslash pos) :
    r.finish ≠ .ok f := by
  rcases hp with ⟨k, op, pos, hp⟩ | ⟨pos, hp⟩ <;>
    simp [finish, hp, bind, Except.bind, throw, throwThe, MonadExceptOf.throw]

end Reader

/-! ## The invariant -/

/-- `Frames gs q e`: the open groups `gs`, innermost first, were opened while reading `q`,
which leaves `e` escaped braces open.  Each level of `q` is a run of finished items, which
read as the `before` nodes of the group opened next, and then that group's opener. -/
inductive Frames : List Group → List Char → Nat → Prop
  | top : Frames [] [] 0
  | push {gs : List Group} {q done o : List Char} {e e₁ : Nat} {k : Command} {p : Nat}
      {ns : List Node} :
      Frames gs q e → gs.length < maxDepth → Opens k o →
      (∀ y, Reads gs.length e (done ++ o ++ y) ns (o ++ y) e₁) →
      Frames (⟨k, p, ns⟩ :: gs) (q ++ done ++ o) e₁

/-- What the pending state of `r` holds: `u` is the text read since the last finished item
of the current level, after which `e` escaped braces were open. -/
def Holds (r : Reader) (e : Nat) (u : List Char) : Prop :=
  match r.pending with
  | .idle => TextUnits e u r.text.toList r.escapes.length
  | .operand k op _ =>
    r.text = "" ∧ u = [op] ∧ Command.ofOperator? op = some k ∧ r.escapes.length = e
  | .backslash _ => ∃ v, u = v ++ ['\\'] ∧ TextUnits e v r.text.toList r.escapes.length
  | .name n _ =>
    r.text = "" ∧ u = '\\' :: n.toList ∧ n ≠ "" ∧
      (∀ c ∈ n.toList, Unicode.isAlphanumeric c = true) ∧ r.escapes.length = e

/-- The reader `r` has read `p`, and `la` is known to follow it: `p` splits into the open
levels, the finished items of the current level and what the pending state holds; the
finished items read as `r.nodes` before every continuation of `la`. -/
def Reader.ReadUpTo (r : Reader) (p la : List Char) : Prop :=
  ∃ q done u e e₁, Frames r.groups q e ∧ p = q ++ done ++ u ∧
    (∀ y, Reads r.groups.length e (done ++ u ++ la ++ y) r.nodes (u ++ la ++ y) e₁) ∧
    Holds r e₁ u

theorem Reader.readUpTo_empty : ({} : Reader).ReadUpTo [] [] :=
  ⟨[], [], [], 0, 0, .top, rfl, fun _ => .nil, .nil⟩

/-! ## Finishing items -/

/-- Ending the run of text: its units join the finished items as one literal, when what
follows them cannot continue it. -/
theorem reads_flush {r : Reader} {d e e₁ : Nat} {done u x : List Char}
    (hr : Reads d e (done ++ u ++ x) r.nodes (u ++ x) e₁)
    (hu : TextUnits e₁ u r.text.toList r.escapes.length) (hx : continuesText x = false) :
    Reads d e (done ++ u ++ x) r.flush.nodes x r.escapes.length := by
  by_cases ht : r.text = ""
  · rw [ht] at hu
    obtain ⟨rfl, he⟩ := hu.eq_nil_of_text_nil
    rw [Reader.flush_of_text_eq ht, he]
    simpa using hr
  · rw [Reader.flush_nodes_of_text_ne ht]
    have hitem := Reads.text_single (d := d) hu (by simpa [String.toList_eq_nil_iff] using ht) hx
    rw [String.ofList_toList] at hitem
    exact hr.append hitem

theorem continuesText_operator {c : Char} {k : Command} (hk : Command.ofOperator? c = some k)
    (y : List Char) : continuesText (c :: y) = false := by
  rcases ofOperator?_eq_some hk with rfl | rfl <;> rfl

theorem continuesText_close (y : List Char) : continuesText ('}' :: y) = false := rfl

theorem continuesText_backslash {c : Char} (hc : isEscapable c = false) (y : List Char) :
    continuesText ('\\' :: c :: y) = false := by
  simp [continuesText, hc, show isAllowed '\\' = false by decide]

/-! ## One step -/

namespace Reader.ReadUpTo

variable {r r' : Reader} {p : List Char} {q : Nat} {c : Char}

/-- Reading a character when nothing waits.  The character is only needed as lookahead
before it is read: this is where a symbol ended by it goes on. -/
theorem idle (hr : r.ReadUpTo p [c]) (hp : r.pending = .idle) (h : r.idle q c = .ok r') :
    r'.ReadUpTo (p ++ [c]) [] := by
  obtain ⟨q₀, done, u, e, e₁, hf, rfl, hreads, hholds⟩ := hr
  simp only [Holds, hp] at hholds
  rcases Reader.idle_cases h with ⟨k, hk, rfl⟩ | ⟨rfl, rfl⟩ | ⟨rfl, g, rest, hg, rfl⟩ | ⟨ha, rfl⟩
  · -- an operator ends the run of text and waits for its operand
    refine ⟨q₀, done ++ u, [c], e, r.escapes.length, by simpa using hf, by simp, ?_, ?_⟩
    · intro y
      have hend := reads_flush (x := c :: y) (by simpa using hreads y) hholds
        (continuesText_operator hk y)
      simpa [List.append_assoc] using hend
    · simp [Holds, hk]
  · -- a backslash waits for what follows it
    exact ⟨q₀, done, u ++ ['\\'], e, e₁, hf, by simp, by simpa using hreads, ⟨u, rfl, hholds⟩⟩
  · -- a closing brace ends the innermost group, which joins the items around it
    rw [hg] at hf hreads
    obtain ⟨k, pos, before⟩ := g
    cases hf with
    | @push _ q₁ done₀ o e₀ _ _ _ _ hf hdepth ho hbefore =>
        refine ⟨q₁, done₀ ++ o ++ done ++ u ++ ['}'], [], e₀, r.escapes.length, hf,
          by simp, fun y => ?_, ?_⟩
        · have hclosed : Reads (rest.length + 1) e (done ++ u ++ '}' :: y) r.flush.nodes
              ('}' :: y) r.escapes.length := by
            simpa using reads_flush (x := '}' :: y) (by simpa using hreads y) hholds
              (continuesText_close y)
          have hgroup := Reads.group_single ho hdepth hclosed
          simpa [closeGroup, List.append_assoc] using
            (hbefore (done ++ u ++ '}' :: y)).append hgroup
        · simp [Holds, closeGroup, hp, TextUnits.nil]
  · -- an allowed character extends the run of text
    refine ⟨q₀, done, u ++ [c], e, e₁, hf, by simp, by simpa using hreads, ?_⟩
    simpa [Holds, hp, String.toList_push] using hholds.plain ha

/-- Known characters after the read text are known to follow it. -/
theorem lookahead (hr : r.ReadUpTo p []) (la : List Char) : r.ReadUpTo p la := by
  obtain ⟨q₀, done, u, e, e₁, hf, hp, hreads, hholds⟩ := hr
  exact ⟨q₀, done, u, e, e₁, hf, hp, fun y => by simpa using hreads (la ++ y), hholds⟩

/-- Opening a group once its opener is read: the items before the opener become a frame,
and the group starts with nothing read. -/
theorem openGroup {k : Command} {q₀ done o : List Char} {e e₁ : Nat}
    (hf : Frames r.groups q₀ e) (ho : Opens k o)
    (hreads : ∀ y, Reads r.groups.length e (done ++ o ++ y) r.nodes (o ++ y) e₁)
    (htext : r.text = "") (he : r.escapes.length = e₁) (h : r.openGroup k q = .ok r') :
    r'.ReadUpTo (q₀ ++ done ++ o) [] := by
  simp only [Reader.openGroup] at h
  -- a group past the deepest nesting is refused
  by_cases hdepth : maxDepth ≤ r.groups.length
  · simp [hdepth] at h
  simp only [hdepth, if_false, Except.ok.injEq] at h
  subst h
  refine ⟨q₀ ++ done ++ o, [], [], e₁, e₁, .push hf (by omega) ho hreads, by simp,
    fun y => .nil, ?_⟩
  simp [Holds, htext, he, TextUnits.nil]

/-- Reading the operand of a script operator: a brace opens its group, and one allowed
character completes the script. -/
theorem operand {k : Command} {op : Char} {pos : Nat} (hr : r.ReadUpTo p [])
    (hp : r.pending = .operand k op pos) (h : r.step (q, c) = .ok r') :
    r'.ReadUpTo (p ++ [c]) [] := by
  obtain ⟨q₀, done, u, e, e₁, hf, rfl, hreads, hholds⟩ := hr
  simp only [Holds, hp] at hholds
  obtain ⟨htext, rfl, hk, he⟩ := hholds
  simp only [Reader.step, hp] at h
  by_cases hb : c = '{'
  · subst hb
    simp only [beq_self_eq_true, if_true] at h
    simpa using openGroup hf (.script hk) (fun y => by simpa using hreads ('{' :: y)) htext he h
  have hne : (c == '{') = false := by simpa using hb
  simp only [hne, Bool.false_eq_true, if_false] at h
  by_cases ha : isAllowed c = true
  · simp only [ha, if_true, Except.ok.injEq] at h
    subst h
    refine ⟨q₀, done ++ [op, c], [], e, e₁, hf, by simp, fun y => ?_, ?_⟩
    · have hscript := (hreads (c :: y)).append
        (Reads.script (d := r.groups.length) (m := y) hk ha .nil)
      simpa using hscript
    · simp [Holds, htext, he, TextUnits.nil]
  · simp [ha] at h

/-- Reading after a backslash: an escape joins the run of text, a letter or digit begins a
name, and any other character ends an empty name and is read afresh. -/
theorem backslash {pos : Nat} (hr : r.ReadUpTo p []) (hp : r.pending = .backslash pos)
    (h : r.step (q, c) = .ok r') : r'.ReadUpTo (p ++ [c]) [] := by
  obtain ⟨q₀, done, u, e, e₁, hf, rfl, hreads, hholds⟩ := hr
  simp only [Holds, hp] at hholds
  obtain ⟨v, rfl, hv⟩ := hholds
  simp only [Reader.step, hp] at h
  by_cases hesc : isEscapable c = true
  · simp only [hesc, if_true] at h
    obtain ⟨hg, hn, htext, hpend, hbr⟩ := Reader.escape_ok h
    refine ⟨q₀, done, v ++ ['\\', c], e, e₁, by rwa [hg], by simp, fun y => ?_, ?_⟩
    · rw [hg, hn]
      simpa using hreads (c :: y)
    · simp only [Holds, hpend, htext, String.toList_push]
      exact hv.escape hesc hbr
  have hesc' : isEscapable c = false := by simpa using hesc
  simp only [hesc', Bool.false_eq_true, if_false] at h
  have hflush : ∀ y, Reads r.groups.length e (done ++ v ++ '\\' :: c :: y) r.flush.nodes
      ('\\' :: c :: y) r.escapes.length := fun y =>
    reads_flush (by simpa using hreads (c :: y)) hv (continuesText_backslash hesc' y)
  by_cases hal : Unicode.isAlphanumeric c = true
  · simp only [hal, if_true, Except.ok.injEq] at h
    subst h
    refine ⟨q₀, done ++ v, ['\\', c], e, r.escapes.length, by simpa using hf, by simp,
      fun y => by simpa using hflush y, ?_⟩
    simp [Holds, hal]
  have hal' : Unicode.isAlphanumeric c = false := by simpa using hal
  have hbrace : c ≠ '{' := by
    rintro rfl
    simp [isEscapable] at hesc'
  simp only [hal', Bool.false_eq_true, if_false] at h
  refine ReadUpTo.idle ?_ (by simp) h
  refine ⟨q₀, done ++ v ++ ['\\'], [], e, r.escapes.length, by simpa using hf, by simp,
    fun y => ?_, by simp [Holds, TextUnits.nil]⟩
  have hsym : Reads r.groups.length r.escapes.length ('\\' :: ([] ++ c :: y))
      [.symbol (String.ofList [])] (c :: y) r.escapes.length :=
    .symbol (by simp) (by simp [hal', hbrace]) (fun _ => ⟨c, y, rfl, hesc'⟩) .nil
  simpa using (hflush y).append hsym

/-- Reading after a name: a letter or digit extends it, a brace opens the group of its
command, and any other character ends the symbol and is read afresh. -/
theorem name {n : String} {pos : Nat} (hr : r.ReadUpTo p []) (hp : r.pending = .name n pos)
    (h : r.step (q, c) = .ok r') : r'.ReadUpTo (p ++ [c]) [] := by
  obtain ⟨q₀, done, u, e, e₁, hf, rfl, hreads, hholds⟩ := hr
  simp only [Holds, hp] at hholds
  obtain ⟨htext, rfl, hn, hal, he⟩ := hholds
  simp only [Reader.step, hp] at h
  by_cases hc : Unicode.isAlphanumeric c = true
  · simp only [hc, if_true, Except.ok.injEq] at h
    subst h
    refine ⟨q₀, done, '\\' :: (n.push c).toList, e, e₁, hf, by simp [String.toList_push],
      fun y => by simpa [String.toList_push] using hreads (c :: y), ?_⟩
    refine ⟨htext, rfl, ?_, ?_, he⟩
    · simp [← String.toList_eq_nil_iff, String.toList_push]
    · intro x hx
      simp only [String.toList_push, List.mem_append, List.mem_singleton] at hx
      rcases hx with hx | rfl
      exacts [hal x hx, hc]
  have hc' : Unicode.isAlphanumeric c = false := by simpa using hc
  simp only [hc', Bool.false_eq_true, if_false] at h
  by_cases hb : c = '{'
  · subst hb
    simp only [beq_self_eq_true, if_true] at h
    cases hk : Command.ofName? n with
    | none => simp [hk] at h
    | some k =>
        simp only [hk] at h
        have ho : Opens k ('\\' :: (n.toList ++ ['{'])) :=
          .command hal (by rwa [String.ofList_toList])
        simpa using openGroup hf ho (fun y => by simpa using hreads ('{' :: y)) htext he h
  have hne : (c == '{') = false := by simpa using hb
  simp only [hne, Bool.false_eq_true, if_false] at h
  refine ReadUpTo.idle ?_ (by simp) h
  refine ⟨q₀, done ++ '\\' :: n.toList, [], e, e₁, hf, by simp, fun y => ?_,
    by simp [Holds, htext, he, TextUnits.nil]⟩
  have hsym : Reads r.groups.length e₁ ('\\' :: (n.toList ++ c :: y))
      [.symbol (String.ofList n.toList)] (c :: y) e₁ :=
    .symbol hal (by simp [hc', hb])
      (fun h0 => absurd (String.toList_eq_nil_iff.mp h0) hn) .nil
  rw [String.ofList_toList] at hsym
  have hdone : Reads r.groups.length e (done ++ '\\' :: (n.toList ++ c :: y)) r.nodes
      ('\\' :: (n.toList ++ c :: y)) e₁ := by
    simpa using hreads (c :: y)
  simpa using hdone.append hsym

/-- One character keeps the reader consistent with the reading relation. -/
theorem step (hr : r.ReadUpTo p []) (h : r.step (q, c) = .ok r') :
    r'.ReadUpTo (p ++ [c]) [] := by
  cases hp : r.pending with
  | idle => exact (hr.lookahead [c]).idle hp (by simpa [Reader.step, hp] using h)
  | operand k op pos => exact hr.operand hp h
  | backslash pos => exact hr.backslash hp h
  | name n pos => exact hr.name hp h

/-- A whole run keeps the reader consistent with the reading relation. -/
theorem foldlM {ps : List (Nat × Char)} (hr : r.ReadUpTo p [])
    (h : ps.foldlM Reader.step r = .ok r') : r'.ReadUpTo (p ++ ps.map Prod.snd) [] := by
  induction ps generalizing r p with
  | nil =>
      simp only [List.foldlM_nil] at h
      cases h
      simpa using hr
  | cons x ps ih =>
      obtain ⟨q, c⟩ := x
      rw [List.foldlM_cons] at h
      cases hx : r.step (q, c) with
      | error err => simp [hx, bind, Except.bind] at h
      | ok r₁ =>
          rw [hx] at h
          simpa using ih (hr.step hx) h

/-- At the end of the text, the formula the reader returns is read from the whole text. -/
theorem finish {f : Formula} (hr : r.ReadUpTo p []) (h : r.finish = .ok f) :
    Formula.Reads p f := by
  obtain ⟨q₀, done, u, e, e₁, hf, rfl, hreads, hholds⟩ := hr
  cases hp : r.pending with
  | operand k op pos => exact absurd h (Reader.finish_of_dangling (.inl ⟨k, op, pos, hp⟩))
  | backslash pos => exact absurd h (Reader.finish_of_dangling (.inr ⟨pos, hp⟩))
  | idle =>
      obtain ⟨hg, he, rfl⟩ := Reader.finish_of_idle hp h
      simp only [Holds, hp] at hholds
      rw [hg] at hf hreads
      cases hf
      have hend := reads_flush (x := []) (by simpa using hreads []) hholds rfl
      simpa [Formula.Reads, he] using hend
  | name n pos =>
      rw [Reader.finish_of_name hp] at h
      obtain ⟨hg, he, rfl⟩ := Reader.finish_of_idle rfl h
      simp only [Holds, hp] at hholds
      obtain ⟨htext, rfl, hn, hal, hesc⟩ := hholds
      simp only [Reader.emit_groups, Reader.emit_escapes] at hg he
      rw [hg] at hf hreads
      cases hf
      have hsym : Reads 0 e₁ ('\\' :: (n.toList ++ [])) [.symbol (String.ofList n.toList)] []
          e₁ :=
        .symbol hal (by simp) (fun h0 => absurd (String.toList_eq_nil_iff.mp h0) hn) .nil
      rw [String.ofList_toList, List.append_nil] at hsym
      have hdone : Reads 0 0 (done ++ '\\' :: n.toList) r.nodes ('\\' :: n.toList) e₁ := by
        simpa using hreads []
      have hnodes : ({ r.emit (.symbol n) with pending := .idle } : Reader).flush.nodes =
          r.nodes ++ [.symbol n] := by
        simp [Reader.flush, htext]
      simp only [he, List.length_nil] at hesc
      subst hesc
      rw [hnodes]
      simpa [Formula.Reads] using hdone.append hsym

end Reader.ReadUpTo

theorem positioned_go_map_snd (p : Nat) (cs : List Char) :
    (positioned.go p cs).map Prod.snd = cs := by
  induction cs generalizing p with
  | nil => rfl
  | cons c cs ih => simp [positioned.go, ih]

/-- The positions the reader is given leave the characters of the text unchanged. -/
theorem positioned_map_snd (s : String) : (positioned s).map Prod.snd = s.toList :=
  positioned_go_map_snd 0 s.toList

/-- Whatever the reader returns is read from its text by the reading relation. -/
theorem Formula.reads_of_parse {s : String} {f : Formula} (h : Formula.parse s = .ok f) :
    Formula.Reads s.toList f := by
  unfold Formula.parse at h
  cases hrun : (positioned s).foldlM Reader.step {} with
  | error err => simp [hrun, bind, Except.bind] at h
  | ok r =>
      rw [hrun] at h
      have hread := Reader.readUpTo_empty.foldlM hrun
      rw [List.nil_append, positioned_map_snd] at hread
      exact hread.finish h

end MathUnicode.Markup
