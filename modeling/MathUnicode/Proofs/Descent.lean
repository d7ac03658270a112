import MathUnicode.Markup.Descent
import MathUnicode.Proofs.ReaderComplete
import MathUnicode.Proofs.Nesting

/-!
# The descent reads as the reader does

`Formula.descend` runs the recursive descent of `Markup/Descent.lean`, whose readers are well
founded on the length of the rest of the text.  The main statement,
`Formula.descend_eq_parse`, says that on every text the descent gives the formula or the
fault that `Formula.parse` gives.

## Strategy

The descent and the reader read the same characters in the same order, and the proof runs
them side by side.  `Descent.Agrees P r input o` says that the outcome `o` of a reader of the
descent matches the reader `r` on the rest of the text `input`: a fault is the fault that the
reader reaches on `input`, and a result leaves the descent after characters that take the
reader to a state with `P`.  It composes along `>>=` (`Descent.Agrees.bind`) and along
characters that both have read (`Descent.Agrees.append`).

Between two items the reader may still wait for the character that ends the last one, a
name or a lone backslash, and it keeps the run of text last read open; `Descent.Mirrors`
says how it stands at the head of the loop of a sequence.  There the descent's own depth
counter, raised for a group and restored at its end, is the reader's count of open groups,
and so the number of groups the text read so far leaves open
(`Descent.Mirrors.depth_eq_openGroups`): the descent refuses a `{` exactly where that text
leaves `maxDepth` groups open (`Descent.Mirrors.refuses_iff`).

Each reader of the descent has its lemma.  Those of the five mutually recursive readers call
each other as the readers do, and are proved by the recursion that defines the readers: on
the length of the rest of the text and, at equal length, in the order group, sequence, item.
-/

namespace MathUnicode.Markup

namespace Reader

variable {r : Reader}

/-- Two readers are equal when their fields are. -/
theorem ext_fields {r' : Reader} (hg : r.groups = r'.groups) (hn : r.nodes = r'.nodes)
    (ht : r.text = r'.text) (hp : r.pending = r'.pending) (he : r.escapes = r'.escapes) :
    r = r' := by
  cases r
  cases r'
  simp_all

theorem step_of_idle {q : Nat} {c : Char} (hp : r.pending = .idle) :
    r.step (q, c) = r.idle q c := by
  simp [step, hp]

/-- Ending the run of text adds it to the nodes, whatever waits. -/
@[simp] theorem flush_nodes_pending (x : Pending) :
    ({ r with pending := x }).flush.nodes = r.flush.nodes := by
  by_cases h : r.text.isEmpty <;> simp [flush, h]

/-- A character that starts no item: not a script operator, not a backslash, not allowed in
text, and not a `}` that closes a group. -/
theorem idle_of_unexpected {q : Nat} {c : Char} (hop : Command.ofOperator? c = none)
    (hb : c ≠ '\\') (hclose : c = '}' → r.groups = []) (ha : isAllowed c = false) :
    r.idle q c = .error (.unexpectedCharacter c q) := by
  unfold idle
  by_cases hc : c = '}'
  · subst hc
    simp [hop, hclose rfl]
  · simp [hop, hb, hc, ha]

/-- Letters and digits after a name extend it. -/
theorem foldlM_name_eq {n : String} {pos : Nat} (hp : r.pending = .name n pos)
    {ps : List (Nat × Char)} (hal : ∀ x ∈ ps, Unicode.isAlphanumeric x.2 = true) :
    ps.foldlM Reader.step r =
      .ok { r with pending := .name (n ++ String.ofList (ps.map Prod.snd)) pos } := by
  induction ps generalizing r n with
  | nil => simp [hp.symm, pure, Except.pure]
  | cons x ps ih =>
      obtain ⟨q, c⟩ := x
      simp only [List.mem_cons, forall_eq_or_imp] at hal
      rw [foldlM_cons_of_step (step_name_alnum hp hal.1), ih rfl hal.2]
      simp only [List.map_cons, String.ofList_cons, String.push_eq_append, String.append_assoc]

/-- A backslash and a name of letters and digits after it leave the name waiting, with the
run of text before the backslash ended. -/
theorem foldlM_backslash_name {p : Nat} (hp : r.pending = .backslash p) {N : List (Nat × Char)}
    (hN : N ≠ []) (hal : ∀ x ∈ N, Unicode.isAlphanumeric x.2 = true) :
    N.foldlM Reader.step r =
      .ok { r.flush with pending := .name (String.ofList (N.map Prod.snd)) p } := by
  obtain ⟨⟨q, c⟩, N, rfl⟩ := List.exists_cons_of_ne_nil hN
  simp only [List.mem_cons, forall_eq_or_imp] at hal
  rw [foldlM_cons_of_step (step_backslash_alnum hp hal.1), foldlM_name_eq rfl hal.2]
  simp only [List.map_cons, String.ofList_cons]

/-- Between two items and before a `}`, the innermost group closes on the nodes read. -/
theorem settle_closeGroup {k : Nat} {next : Option Char} {g : Group} {rest : List Group}
    (hb : r.Between k next) :
    r.settle.closeGroup g rest =
      { groups := rest, nodes := g.before ++ [.apply g.command r.settle.flush.nodes],
        escapes := r.escapes } :=
  ext_fields rfl rfl (by simp [closeGroup]) (by simp [closeGroup, settle_pending hb])
    (by simp [closeGroup])

/-- An operator waiting at the end of the text has no operand. -/
theorem finish_of_operand {k : Command} {op : Char} {p : Nat} (hp : r.pending = .operand k op p) :
    r.finish = .error (.danglingOperator op p) := by
  simp [finish, hp, bind, Except.bind, throw, throwThe, MonadExceptOf.throw]

/-- A lone backslash at the end of the text has no name. -/
theorem finish_of_backslash {p : Nat} (hp : r.pending = .backslash p) :
    r.finish = .error (.danglingOperator '\\' p) := by
  simp [finish, hp, bind, Except.bind, throw, throwThe, MonadExceptOf.throw]

/-- At the end of the text, between two items and inside a group, the innermost group is
left open. -/
theorem finish_of_between_open {k : Nat} {g : Group} {rest : List Group}
    (hb : r.Between k none) (hg : r.groups = g :: rest) :
    r.finish = .error (.unterminatedGroup g.openAt) := by
  obtain ⟨-, hwait⟩ := hb
  cases hp : r.pending with
  | idle =>
      simp [finish, hp, hg, bind, Except.bind, throw, throwThe, MonadExceptOf.throw, pure,
        Except.pure]
  | operand _ _ _ => simp [hp] at hwait
  | backslash _ => simp [hp] at hwait
  | name n _ =>
      rw [finish_of_name hp]
      simp [finish, hg, bind, Except.bind, throw, throwThe, MonadExceptOf.throw, pure,
        Except.pure]

/-- At the end of the text, between two items and outside every group, the end settles what
waits and checks the escaped braces. -/
theorem finish_of_between_top {k : Nat} (hb : r.Between k none) (hg : r.groups = []) :
    r.finish = match r.escapes.getLast? with
      | some p => .error (.unterminatedGroup p)
      | none => .ok ⟨r.settle.flush.nodes⟩ := by
  obtain ⟨-, hwait⟩ := hb
  cases hp : r.pending with
  | idle =>
      cases hl : r.escapes.getLast? <;>
        simp [finish, settle, hp, hg, hl, bind, Except.bind, throw, throwThe,
          MonadExceptOf.throw, pure, Except.pure]
  | operand _ _ _ => simp [hp] at hwait
  | backslash _ => simp [hp] at hwait
  | name n _ =>
      rw [finish_of_name hp]
      cases hl : r.escapes.getLast? <;>
        simp [finish, settle, hp, hg, hl, bind, Except.bind, throw, throwThe,
          MonadExceptOf.throw, pure, Except.pure]

end Reader

namespace Descent

/-! ## Outcomes that agree with the reader -/

/-- The outcome `o` of a reader of the descent agrees with the reader `r` on the rest of the
text `input`: a fault is the fault that the reader reaches on `input`; a result `a` leaves
the descent at a state `d'` after characters of `input` that take the reader to `r'`, with
`P a d' r'`. -/
def Agrees {α : Type} {R : Descent → Prop} (P : α → Descent → Reader → Prop) (r : Reader)
    (input : List (Nat × Char)) : Except ParseError (α × Subtype R) → Prop
  | .error e => (input.foldlM Reader.step r >>= Reader.finish) = .error e
  | .ok (a, d') => ∃ ps r', input = ps ++ d'.1.input ∧
      ps.foldlM Reader.step r = .ok r' ∧ P a d'.1 r'

section Agrees

variable {α β γ : Type} {R R' : Descent → Prop} {P P' : α → Descent → Reader → Prop}
  {Q : β → Descent → Reader → Prop} {r : Reader} {input : List (Nat × Char)}
  {o : Except ParseError (α × Subtype R)}

theorem Agrees.pure {a : α} {d : Subtype R} (hd : d.1.input = input) (h : P a d.1 r) :
    Agrees P r input (.ok (a, d)) :=
  ⟨[], r, by simp [hd], rfl, h⟩

/-- A fault of the reader at the next character. -/
theorem Agrees.step_fault {x : Nat × Char} {rest : List (Nat × Char)} {e : ParseError}
    (hsplit : input = x :: rest) (h : r.step x = .error e) :
    Agrees P r input (.error e : Except ParseError (α × Subtype R)) := by
  show (List.foldlM Reader.step r input >>= Reader.finish) = .error e
  simp [hsplit, List.foldlM_cons, h, bind, Except.bind]

/-- A fault of the reader at the end of the text. -/
theorem Agrees.finish_fault {e : ParseError} (hnil : input = []) (h : r.finish = .error e) :
    Agrees P r input (.error e : Except ParseError (α × Subtype R)) := by
  show (List.foldlM Reader.step r input >>= Reader.finish) = .error e
  rw [hnil]
  exact h

/-- Characters that the reader reads without fault before an agreeing outcome. -/
theorem Agrees.append {ps rest : List (Nat × Char)} {r' : Reader} (hsplit : input = ps ++ rest)
    (hrun : ps.foldlM Reader.step r = .ok r') (h : Agrees P r' rest o) : Agrees P r input o := by
  subst hsplit
  rcases o with e | ⟨a, d'⟩
  · show (List.foldlM Reader.step r (ps ++ rest) >>= Reader.finish) = _
    rw [List.foldlM_append, hrun]
    exact h
  · obtain ⟨ps₂, r'', hsplit₂, hrun₂, hP⟩ := h
    refine ⟨ps ++ ps₂, r'', by rw [hsplit₂, List.append_assoc], ?_, hP⟩
    rw [List.foldlM_append, hrun]
    exact hrun₂

/-- A character that the reader reads without fault before an agreeing outcome. -/
theorem Agrees.advance {x : Nat × Char} {rest : List (Nat × Char)} {r₁ : Reader}
    (hsplit : input = x :: rest) (hx : r.step x = .ok r₁) (h : Agrees P r₁ rest o) :
    Agrees P r input o :=
  Agrees.append (hsplit.trans List.singleton_append.symm) (by rw [List.foldlM_cons, hx]; rfl) h

theorem Agrees.mono (h : Agrees P r input o) (hP : ∀ a d' r', P a d' r' → P' a d' r') :
    Agrees P' r input o := by
  rcases o with e | ⟨a, d'⟩
  · exact h
  · obtain ⟨ps, r', hsplit, hrun, hPa⟩ := h
    exact ⟨ps, r', hsplit, hrun, hP a d'.1 r' hPa⟩

/-- Outcomes that agree compose along `>>=`. -/
theorem Agrees.bind {x : Except ParseError (α × Subtype R)}
    {f : α × Subtype R → Except ParseError (β × Subtype R')} (hx : Agrees P r input x)
    (hf : ∀ a d' ps r', input = ps ++ d'.1.input → ps.foldlM Reader.step r = .ok r' →
      P a d'.1 r' → Agrees Q r' d'.1.input (f (a, d'))) :
    Agrees Q r input (x >>= f) := by
  rcases x with e | ⟨a, d'⟩
  · exact hx
  · obtain ⟨ps, r', hsplit, hrun, hP⟩ := hx
    exact Agrees.append hsplit hrun (hf a d' ps r' hsplit hrun hP)

/-- A step of the descent that reads nothing and cannot fail. -/
theorem Agrees.ok_bind {c : γ} {f : γ → Except ParseError (β × Subtype R')}
    (h : Agrees Q r input (f c)) : Agrees Q r input (.ok c >>= f) :=
  h

/-- Two readers that read the next character alike agree on every outcome that reads it. -/
theorem Agrees.congr_head {r₁ : Reader} {x : Nat × Char} {rest : List (Nat × Char)}
    (hsplit : input = x :: rest) (hx : r₁.step x = r.step x) (h : Agrees P r input o)
    (hread : ∀ a d' r', P a d' r' → d'.input ≠ input) : Agrees P r₁ input o := by
  subst hsplit
  rcases o with e | ⟨a, d'⟩
  · show (List.foldlM Reader.step r₁ (x :: rest) >>= Reader.finish) = _
    rw [List.foldlM_cons, hx]
    exact h
  · obtain ⟨ps, r', hsplit, hrun, hP⟩ := h
    cases ps with
    | nil => exact absurd hsplit.symm (hread a d'.1 r' hP)
    | cons y ps =>
        have hy := (List.cons.inj hsplit).1
        subst hy
        refine ⟨x :: ps, r', hsplit, ?_, hP⟩
        rw [List.foldlM_cons, hx, ← List.foldlM_cons]
        exact hrun

end Agrees

/-! ## Runs of text -/

/-- The reader reads an escape as the descent does: it adds the escaped character to the run
of text, and counts an escaped brace as the descent counts it. -/
theorem escape_eq_map (r : Reader) (p : Nat) (c : Char) :
    r.escape p c = (trackEscapedBrace c p r.escapes).map
      fun E => { r with text := r.text.push c, pending := .idle, escapes := E } := by
  unfold Reader.escape trackEscapedBrace
  by_cases hl : c = '{'
  · subst hl
    rfl
  by_cases hr : c = '}'
  · subst hr
    cases r.escapes <;> rfl
  · simp [hl, hr, Except.map, pure, Except.pure]

theorem singleton_append_ne_empty (c : Char) (u : String) : String.singleton c ++ u ≠ "" := by
  intro h
  have hlen := congrArg String.length h
  simp at hlen

/-- How a run of text ends that began with the text `t`, with the reader at `r` and the
descent at `d`: the descent gives the literal `t ++ u`, the reader has added `u` to its run of
text and changed nothing else but the escaped braces, the next character cannot go on with
the run, and the run has read something unless `u` is empty. -/
def RunEnds (t : String) (r : Reader) (d : Descent) (n : Node) (d' : Descent) (r' : Reader) :
    Prop :=
  ∃ u : String, n = .literal (t ++ u) ∧
    r' = { r with text := r.text ++ u, escapes := d'.escapes } ∧ d'.depth = d.depth ∧
    continuesText (d'.input.map Prod.snd) = false ∧ (u = "" → d'.input = d.input)

/-- A run that goes on with the unit that reads as `c` ends as the run from there does. -/
theorem RunEnds.unit {t : String} {r r₂ : Reader} {d d₂ : Descent} {c : Char} {n : Node}
    {d' : Descent} {r' : Reader} (h : RunEnds (t.push c) r₂ d₂ n d' r')
    (hr₂ : r₂ = { r with text := r.text.push c, escapes := d₂.escapes })
    (hd₂ : d₂.depth = d.depth) : RunEnds t r d n d' r' := by
  obtain ⟨u, rfl, rfl, hdepth, hcont, -⟩ := h
  refine ⟨String.singleton c ++ u, ?_, ?_, hdepth.trans hd₂, hcont,
    fun hu => absurd hu (singleton_append_ne_empty c u)⟩
  · rw [String.push_eq_append, String.append_assoc]
  · subst hr₂
    refine Reader.ext_fields rfl rfl ?_ rfl rfl
    simp only [String.push_eq_append, String.append_assoc]

/-- The loop of a run of text, from a reader with nothing waiting, agrees with the reader:
it reads the longest run of allowed characters and escapes, and fails where the reader fails
on an escaped brace. -/
theorem textRunFrom_agrees (t : String) (r : Reader) (d : Descent) (hp : r.pending = .idle)
    (he : r.escapes = d.escapes) :
    Agrees (RunEnds t r d) r d.input (textRunFrom t d) := by
  -- where the run cannot go on, it ends with nothing read
  have hend : continuesText (d.input.map Prod.snd) = false →
      Agrees (RunEnds t r d) r d.input (.ok (.literal t, stay d)) := fun hc =>
    Agrees.pure rfl ⟨"", by simp, Reader.ext_fields rfl rfl (by simp) rfl he, rfl, hc,
      fun _ => rfl⟩
  have hbs : isAllowed '\\' = false := by decide
  rw [textRunFrom.eq_def]
  split
  · rename_i p c rest hin
    by_cases hb : c = '\\'
    · subst hb
      have hr₁ : r.step (p, '\\') = .ok { r with pending := .backslash p } := by
        rw [Reader.step_of_idle hp, Reader.idle_backslash]
      simp only [beq_self_eq_true, if_true]
      rcases rest with _ | ⟨⟨q, e⟩, rest⟩
      · exact hend (by simp [hin, continuesText, hbs])
      by_cases hesc : isEscapable e = true
      · -- an escape: both read two characters and count the brace
        simp only [List.head?_cons, Option.map_some, Option.filter_some, hesc, if_true,
          List.tail_cons]
        -- the reader counts the escaped brace as the descent does
        have hstep : ({ r with pending := .backslash p }).step (q, e) =
            (trackEscapedBrace e p d.escapes).map
              fun E => { r with text := r.text.push e, pending := .idle, escapes := E } := by
          rw [Reader.step_backslash_escape (q := q) (r := { r with pending := .backslash p }) rfl
            hesc, escape_eq_map, ← he]
        cases htrack : trackEscapedBrace e p d.escapes with
        | error err =>
            rw [htrack] at hstep
            exact Agrees.advance hin hr₁ (Agrees.step_fault rfl hstep)
        | ok E =>
            rw [htrack] at hstep
            have hlt : rest.length < d.input.length := by
              simp only [hin, List.length_cons]
              omega
            refine Agrees.advance hin hr₁ (Agrees.advance rfl hstep ?_)
            refine Agrees.ok_bind (Agrees.bind (textRunFrom_agrees (t.push e)
              { r with text := r.text.push e, pending := .idle, escapes := E }
              { d with input := rest, escapes := E } rfl rfl) ?_)
            rintro n d' - r' - - h
            exact Agrees.pure rfl (h.unit (Reader.ext_fields rfl rfl rfl hp.symm rfl) rfl)
      · -- a backslash that escapes nothing ends the run
        simp only [List.head?_cons, Option.map_some, Option.filter_some, hesc,
          Bool.false_eq_true, if_false]
        exact hend (by rw [hin]; exact continuesText_backslash (Bool.eq_false_iff.mpr hesc) _)
    by_cases ha : isAllowed c = true
    · -- an allowed character
      simp only [beq_iff_eq, hb, if_false, ha, if_true]
      have hr₁ : r.step (p, c) = .ok { r with text := r.text.push c } := by
        rw [Reader.step_of_idle hp, Reader.idle_of_isAllowed ha]
      refine Agrees.advance hin hr₁ (Agrees.bind (textRunFrom_agrees (t.push c)
        { r with text := r.text.push c } (d.advance hin).1 hp he) ?_)
      rintro n d' - r' - - h
      exact Agrees.pure rfl (h.unit (Reader.ext_fields rfl rfl rfl rfl he) rfl)
    · simp only [beq_iff_eq, hb, if_false, ha, Bool.false_eq_true]
      exact hend (by simp [hin, continuesText, hb, ha])
  · rename_i hin
    exact hend (by simp [hin, continuesText])
termination_by d.input.length
decreasing_by
  · exact hlt
  · exact (Descent.advance _ _).2

/-- A run of text where the loop of a sequence dispatches agrees as the loop of the run
does. -/
theorem Agrees.textRun {P : Node → Descent → Reader → Prop} {r : Reader}
    {input : List (Nat × Char)} {d : Descent} {p : Nat} {c : Char} {rest : List (Nat × Char)}
    (hin : d.input = (p, c) :: rest)
    (hcw : (c == '\\' && !(rest.head?.map Prod.snd).any isEscapable) = false)
    (htext : (c == '\\' || isAllowed c) = true) (h : Agrees P r input (textRunFrom "" d)) :
    Agrees P r input (textRun d hin hcw htext) := by
  unfold Descent.textRun
  split
  · rename_i n d' heq
    rw [heq] at h
    exact h
  · rename_i e heq
    rw [heq] at h
    exact h

/-- The name of a control word is the longest run of letters and digits, and the descent
stands after it. -/
theorem nameFrom_eq (name : String) (d : Descent) :
    (nameFrom name d).1 = name ++ String.ofList
        ((d.input.takeWhile fun x => Unicode.isAlphanumeric x.2).map Prod.snd) ∧
      (nameFrom name d).2.1 =
        { d with input := d.input.dropWhile fun x => Unicode.isAlphanumeric x.2 } := by
  rw [nameFrom.eq_def]
  split
  · rename_i q c rest hin
    by_cases hc : Unicode.isAlphanumeric c = true
    · simp only [hc, if_true]
      obtain ⟨hname, hstate⟩ := nameFrom_eq (name.push c) (d.advance hin).1
      rcases hr : nameFrom (name.push c) (d.advance hin).1 with ⟨n', d'⟩
      rw [hr] at hname hstate
      simp only [val_advance] at hname hstate
      dsimp only
      simp only [val_widen, hin, List.takeWhile_cons, List.dropWhile_cons, hc, if_true,
        List.map_cons]
      refine ⟨?_, hstate⟩
      rw [hname, String.ofList_cons, String.push_eq_append, String.append_assoc]
    · simp only [hc, Bool.false_eq_true, if_false, val_stay, hin, List.takeWhile_cons,
        List.dropWhile_cons, List.map_nil, String.ofList_nil, String.append_empty, true_and]
      rw [← hin]
  · rename_i hin
    simp only [val_stay, hin, List.takeWhile_nil, List.dropWhile_nil, List.map_nil,
      String.ofList_nil, String.append_empty, true_and]
    rw [← hin]
termination_by d.input.length
decreasing_by exact (Descent.advance _ _).2

/-! ## Between two items -/

/-- The reader `r` stands where the descent at `d` stands at the head of the loop of a
sequence whose nodes so far are `acc`: it has read the items before `d.input` and waits at
most for the character that ends the last one; the escaped braces and the depth agree; once
what waits is settled and the run of text is ended, its nodes are `acc`; and a run of text is
still open only before a character that cannot go on with it. -/
structure Mirrors (r : Reader) (d : Descent) (acc : List Node) : Prop where
  between : r.Between d.depth (d.input.head?.map Prod.snd)
  escapes : r.escapes = d.escapes
  nodes : r.settle.flush.nodes = acc
  text : r.settle.text = "" ∨ continuesText (d.input.map Prod.snd) = false

/-- Between two items, the descent's depth counter is the number of groups that the text
read so far leaves open, at most `maxDepth`. -/
theorem Mirrors.depth_eq_openGroups {u : List Char} {r : Reader} {d : Descent} {acc : List Node}
    (hscan : Reader.scan u = .ok r) (hm : Mirrors r d acc) :
    openGroups u = some d.depth ∧ d.depth ≤ maxDepth := by
  -- the counter is the reader's count of open groups
  have hcount : r.groups.length = d.depth := hm.between.1
  rw [← hcount]
  exact Reader.openGroups_of_scan hscan

/-- Between two items, the descent refuses a group, one level too deep, exactly where the
text read so far leaves `maxDepth` groups open. -/
theorem Mirrors.refuses_iff {u : List Char} {r : Reader} {d : Descent} {acc : List Node}
    (hscan : Reader.scan u = .ok r) (hm : Mirrors r d acc) :
    maxDepth ≤ d.depth ↔ openGroups u = some maxDepth := by
  obtain ⟨hopen, hle⟩ := hm.depth_eq_openGroups hscan
  rw [hopen, Option.some.injEq]
  omega

/-- A reader with nothing waiting and no run of text open stands between two items. -/
theorem Mirrors.of_idle {r : Reader} {d : Descent} (hp : r.pending = .idle) (ht : r.text = "")
    (hd : r.groups.length = d.depth) (he : r.escapes = d.escapes) : Mirrors r d r.nodes where
  between := Reader.between_of_idle hp hd
  escapes := he
  nodes := by simp [Reader.settle, hp, Reader.flush_of_text_eq ht]
  text := .inl (by simp [Reader.settle, hp, ht])

/-- A reader with nothing waiting and a run of text open, before a character that cannot go
on with the run, stands between two items, the run being the last. -/
theorem Mirrors.of_run {r : Reader} {d : Descent} {acc : List Node} (hp : r.pending = .idle)
    (ht : r.text ≠ "") (hd : r.groups.length = d.depth) (he : r.escapes = d.escapes)
    (hc : continuesText (d.input.map Prod.snd) = false)
    (hacc : r.nodes ++ [.literal r.text] = acc) : Mirrors r d acc where
  between := Reader.between_of_idle hp hd
  escapes := he
  nodes := by simp [Reader.settle, hp, Reader.flush_nodes_of_text_ne ht, hacc]
  text := .inr hc

/-- The reader `r'` stands at the head of the loop again, under the groups of `r`, with the
node `n` after the nodes that `r` had read. -/
def Continues (r : Reader) (n : Node) (d' : Descent) (r' : Reader) : Prop :=
  r'.groups = r.groups ∧ Mirrors r' d' (r.flush.nodes ++ [n])

/-- One pass of the loop of a sequence that started with the reader at `r` and the nodes
`acc` has added the node `n`, and left the reader `r'` at the head of the loop again. -/
def ItemRead (r : Reader) (acc : List Node) (n : Node) (d' : Descent) (r' : Reader) : Prop :=
  r'.groups = r.groups ∧ Mirrors r' d' (acc ++ [n])

/-- An item whose reader took over from `r₁` after the first character. -/
theorem ItemRead.of_continues {r r₁ r' : Reader} {d' : Descent} {acc : List Node} {n : Node}
    (hgroups : r₁.groups = r.groups) (hnodes : r₁.flush.nodes = acc)
    (h : Continues r₁ n d' r') : ItemRead r acc n d' r' :=
  ⟨h.1.trans hgroups, hnodes ▸ h.2⟩

/-- The groups `gs` open where a sequence starts: the innermost one opened at `q` for the
sequence of a group, none at the top. -/
def OpenAt : Option Nat → List Group → Prop
  | some q, gs => ∃ g rest, gs = g :: rest ∧ g.openAt = q
  | none, gs => gs = []

/-- How a sequence ends that started under the open groups `gs`: in a group, after its `}`,
with the reader's innermost group closed on the nodes of the sequence; at the top, at the
end of the text, with the reader between the last item and the end. -/
def SequenceEnd (gs : List Group) : Option Nat → List Node → Descent → Reader → Prop
  | some _, nodes, d', r' => ∃ g rest, gs = g :: rest ∧ d'.depth = gs.length ∧
      r' = { groups := rest, nodes := g.before ++ [.apply g.command nodes], escapes := d'.escapes }
  | none, nodes, d', r' => d'.input = [] ∧ r'.groups = [] ∧ Mirrors r' d' nodes

/-- How a group ends whose brace the reader `r` reads, with the descent at `d` after it: the
depth is back, and the reader has the command applied to the items of the group after its
nodes. -/
def GroupEnd (r : Reader) (d : Descent) (k : Command) (inner : List Node) (d' : Descent)
    (r' : Reader) : Prop :=
  d'.depth = d.depth ∧
    r' = { groups := r.groups, nodes := r.nodes ++ [.apply k inner], escapes := d'.escapes }

/-- A group closed after the items of a script or a command leaves the reader between two
items. -/
theorem GroupEnd.continues {r r' : Reader} {d d' : Descent} {k : Command} {inner : List Node}
    (ht : r.text = "") (hd : r.groups.length = d.depth) (h : GroupEnd r d k inner d' r') :
    Continues r (.apply k inner) d' r' := by
  obtain ⟨hdepth, rfl⟩ := h
  refine ⟨rfl, ?_⟩
  rw [Reader.flush_of_text_eq ht]
  exact Mirrors.of_idle rfl rfl (by simp [hd, hdepth]) rfl

/-- The loop of a sequence dispatches to a run of text exactly where the run's own loop goes
on: at an allowed character, or at a backslash before an escapable character.  The loop
tests the backslash and the character after it first, for a control word. -/
theorem continuesText_iff_dispatch {c : Char} {rest : List (Nat × Char)} :
    continuesText (c :: rest.map Prod.snd) = true ↔
      (c == '\\' && !(rest.head?.map Prod.snd).any isEscapable) = false ∧
        (c == '\\' || isAllowed c) = true := by
  by_cases hb : c = '\\'
  · subst hb
    simp [continuesText, List.head?_map, show isAllowed '\\' = false by decide]
  · simp [continuesText, hb]

theorem ofOperator?_eq_none {c : Char} (hop : ¬(c == '^' || c == '_') = true) :
    Command.ofOperator? c = none := by
  cases h : Command.ofOperator? c with
  | none => rfl
  | some k => exact absurd (by rcases ofOperator?_eq_some h with rfl | rfl <;> rfl) hop

/-- A lone backslash before a character that neither escapes nor starts a name is an empty
symbol, and leaves the reader between two items. -/
theorem Mirrors.of_backslash {r : Reader} {d : Descent} {p : Nat} (hp : r.pending = .backslash p)
    (hd : r.groups.length = d.depth) (he : r.escapes = d.escapes)
    (hnext : ∃ c ∈ d.input.head?.map Prod.snd, isEscapable c = false ∧
      Unicode.isAlphanumeric c = false) :
    Mirrors r d (r.flush.nodes ++ [.symbol ""]) where
  between := ⟨hd, by rw [hp]; exact hnext⟩
  escapes := he
  nodes := by simp [Reader.settle, hp, Reader.flush_of_text_eq]
  text := .inl (by simp [Reader.settle, hp])

/-- A name before a character that neither goes on with it nor opens a group is a symbol,
and leaves the reader between two items. -/
theorem Mirrors.of_name {r : Reader} {d : Descent} {n : String} {p : Nat}
    (hp : r.pending = .name n p) (hn : n ≠ "") (ht : r.text = "")
    (hd : r.groups.length = d.depth) (he : r.escapes = d.escapes)
    (hnext : ∀ c ∈ d.input.head?.map Prod.snd, Unicode.isAlphanumeric c = false ∧ c ≠ '{') :
    Mirrors r d (r.nodes ++ [.symbol n]) where
  between := ⟨hd, by rw [hp]; exact ⟨hn, hnext⟩⟩
  escapes := he
  nodes := by simp [Reader.settle, hp, Reader.flush_of_text_eq, ht]
  text := .inl (by simp [Reader.settle, hp, ht])

theorem Continues.congr {r r₁ r' : Reader} {n : Node} {d' : Descent}
    (hg : r₁.groups = r.groups) (hn : r₁.flush.nodes = r.flush.nodes)
    (h : Continues r₁ n d' r') : Continues r n d' r' :=
  ⟨h.1.trans hg, hn ▸ h.2⟩

/-! ## The readers of the descent -/

mutual

/-- The items of a sequence, read from between two items, agree with the reader up to where
the sequence ends. -/
theorem sequence_agrees (g : Option Nat) (acc : List Node) (r : Reader) (d : Descent)
    (hm : Mirrors r d acc) (hg : OpenAt g r.groups) :
    Agrees (SequenceEnd r.groups g) r d.input (sequence g acc d) := by
  rw [sequence.eq_def]
  split
  · -- the end of the text
    rename_i hin
    have hb : r.Between d.depth none := by simpa [hin] using hm.between
    cases g with
    | none => exact Agrees.pure rfl ⟨hin, hg, hm⟩
    | some q =>
        obtain ⟨G, rest', hgs, rfl⟩ := hg
        exact Agrees.finish_fault hin (Reader.finish_of_between_open hb hgs)
  rename_i p c rest hin
  by_cases hclose : c = '}' ∧ g.isSome
  · -- the `}` of the group
    obtain ⟨rfl, hsome⟩ := hclose
    obtain ⟨q, rfl⟩ := Option.isSome_iff_exists.mp hsome
    obtain ⟨G, rest', hgs, rfl⟩ := hg
    have hb : r.Between d.depth (some '}') := by simpa [hin] using hm.between
    have hstep : r.step (p, '}') = .ok
        { groups := rest', nodes := G.before ++ [.apply G.command acc], escapes := d.escapes } := by
      rw [Reader.step_of_between hb, Reader.idle_close (by rw [Reader.settle_groups, hgs]),
        Reader.settle_closeGroup hb, hm.nodes, hm.escapes]
    simp only [beq_self_eq_true, Option.isSome_some, Bool.and_self, if_true]
    refine Agrees.advance hin hstep (Agrees.pure rfl ⟨G, rest', hgs, ?_, rfl⟩)
    simpa using hm.between.1.symm
  · -- one item, then the loop again
    have hitem : c = '}' → r.groups = [] := by
      intro hc
      cases g with
      | none => exact hg
      | some q => exact absurd ⟨hc, rfl⟩ hclose
    have hif : (c == '}' && g.isSome) = false := by
      simpa [Bool.and_eq_true, beq_iff_eq] using hclose
    simp only [hif, Bool.false_eq_true, if_false]
    refine Agrees.bind (item_agrees p c acc r d rest hm hin hitem) ?_
    rintro n d₁ - r₁ - - ⟨hgroups, hm₁⟩
    refine Agrees.bind (sequence_agrees g (acc ++ [n]) r₁ d₁.1 hm₁ (hgroups ▸ hg)) ?_
    rintro nodes d₂ - r₂ - - h
    exact Agrees.pure rfl (hgroups ▸ h)
termination_by (d.input.length, 1)
decreasing_by
  · exact Prod.Lex.right _ (by decide)
  · exact Prod.Lex.left _ _ d₁.2

/-- One item, read from between two items, agrees with the reader. -/
theorem item_agrees (p : Nat) (c : Char) (acc : List Node) (r : Reader) (d : Descent)
    (rest : List (Nat × Char)) (hm : Mirrors r d acc) (hin : d.input = (p, c) :: rest)
    (hclose : c = '}' → r.groups = []) :
    Agrees (ItemRead r acc) r d.input (item p c d hin) := by
  have hb : r.Between d.depth (some c) := by simpa [hin] using hm.between
  rw [item.eq_def]
  split_ifs with hop hcw htext
  · -- a script: its operator, then its operand
    obtain ⟨k, hk⟩ := exists_ofOperator? (by simpa using hop)
    have hstep : r.step (p, c) = .ok { r.settle.flush with pending := .operand k c p } :=
      (Reader.step_of_between hb).trans (Reader.idle_of_operator hk)
    refine Agrees.advance hin hstep (Agrees.bind (script_agrees c p k _ (d.advance hin).1 hk rfl
      (by simp) (by simp [hm.escapes]) (by simpa using hb.1)) ?_)
    rintro n d' - r' - - h
    exact Agrees.pure rfl (ItemRead.of_continues (by simp)
      (by simp [Reader.flush_of_text_eq, hm.nodes]) h)
  · -- a control word: its backslash, then its name
    obtain ⟨rfl, hnext⟩ : c = '\\' ∧ (rest.head?.map Prod.snd).any isEscapable = false := by
      simpa using hcw
    have hstep : r.step (p, '\\') = .ok { r.settle with pending := .backslash p } :=
      (Reader.step_of_between hb).trans Reader.idle_backslash
    refine Agrees.advance hin hstep (Agrees.bind (controlWord_agrees p _ (d.advance hin).1 rfl
      hnext (by simp [hm.escapes]) (by simpa using hb.1)) ?_)
    rintro n d' - r' - - h
    exact Agrees.pure rfl (ItemRead.of_continues (by simp)
      (by rw [← hm.nodes]; exact Reader.flush_nodes_pending _) h)
  · -- a run of text: the dispatch agrees with the run's own loop
    have hcont : continuesText (d.input.map Prod.snd) = true := by
      rw [hin, List.map_cons]
      exact continuesText_iff_dispatch.mpr ⟨Bool.eq_false_iff.mpr hcw, htext⟩
    have htext₀ : r.settle.text = "" := hm.text.resolve_right (by rw [hcont]; decide)
    have hrun := textRunFrom_agrees "" r.settle d (Reader.settle_pending hb)
      (by simp [hm.escapes])
    refine Agrees.textRun hin _ htext ((hrun.congr_head hin ?_ ?_).mono ?_)
    · rw [Reader.step_of_between hb, Reader.step_of_idle (Reader.settle_pending hb)]
    · rintro n d' r' ⟨u, -, -, -, hc', -⟩ heq
      rw [heq, hcont] at hc'
      cases hc'
    · rintro n d' r' ⟨u, rfl, rfl, hdepth, hc', hu⟩
      have hne : d'.input ≠ d.input := fun h => by
        rw [h, hcont] at hc'
        cases hc'
      have hu' : u ≠ "" := fun h => hne (hu h)
      refine ⟨by simp, ?_⟩
      refine Mirrors.of_run (Reader.settle_pending hb) (by simpa [htext₀])
        (by simp [hdepth, hb.1]) rfl hc' ?_
      simp [htext₀, ← hm.nodes, Reader.flush_of_text_eq htext₀]
  · -- a character that starts no item
    have hb' : c ≠ '\\' := by
      rintro rfl
      simp at htext
    have ha : isAllowed c = false := by simpa [hb'] using htext
    exact Agrees.step_fault hin ((Reader.step_of_between hb).trans
      (Reader.idle_of_unexpected (ofOperator?_eq_none hop) hb' (by simpa using hclose) ha))
termination_by (d.input.length, 0)
decreasing_by all_goals exact Prod.Lex.left _ _ (d.advance hin).2

/-- A group whose brace the reader `r` reads, with the descent after the brace, agrees with
the reader: both refuse it one level too deep, and otherwise read its items up to its `}`. -/
theorem group_agrees (q : Nat) (k : Command) (r : Reader) (d : Descent)
    {input : List (Nat × Char)} (hsplit : input = (q, '{') :: d.input)
    (hopen : r.step (q, '{') = r.openGroup k q) (ht : r.text = "") (he : r.escapes = d.escapes)
    (hd : r.groups.length = d.depth) :
    Agrees (GroupEnd r d k) r input (group q d) := by
  rw [group.eq_def]
  by_cases hdeep : maxDepth ≤ d.depth
  · -- one group too many: both refuse its brace
    rw [if_pos hdeep]
    exact Agrees.step_fault hsplit (by rw [hopen, Reader.openGroup, if_pos (hd ▸ hdeep)])
  · rw [if_neg hdeep]
    have hopened : r.step (q, '{') = .ok
        { r with groups := ⟨k, q, r.nodes⟩ :: r.groups, nodes := [], pending := .idle } := by
      rw [hopen, Reader.openGroup_of_lt (by omega)]
    refine Agrees.advance hsplit hopened (Agrees.bind (sequence_agrees (some q) [] _
      { d with depth := d.depth + 1 } (Mirrors.of_idle rfl ht (by simp [hd]) he)
      ⟨_, _, rfl, rfl⟩) ?_)
    rintro inner d₂ - r₂ - - ⟨G, rest, hgs, hdepth, rfl⟩
    simp only [List.cons.injEq] at hgs
    obtain ⟨rfl, rfl⟩ := hgs
    refine Agrees.pure rfl ⟨?_, rfl⟩
    simp only [List.length_cons] at hdepth
    simp only
    omega
termination_by (d.input.length, 2)
decreasing_by exact Prod.Lex.right _ (by decide)

/-- The operand of a script, read after its operator, agrees with the reader. -/
theorem script_agrees (op : Char) (p : Nat) (k : Command) (r : Reader) (d : Descent)
    (hk : Command.ofOperator? op = some k) (hp : r.pending = .operand k op p) (ht : r.text = "")
    (he : r.escapes = d.escapes) (hd : r.groups.length = d.depth) :
    Agrees (Continues r) r d.input (script op p d) := by
  rw [script.eq_def]
  simp only [hk]
  split
  · rename_i q c rest hin
    by_cases hc : c = '{'
    · -- a group
      subst hc
      simp only [beq_self_eq_true, if_true]
      refine Agrees.bind (group_agrees q k r (d.advance hin).1 hin (Reader.step_operand_open hp)
        ht he hd) ?_
      rintro inner d' - r' - - h
      exact Agrees.pure rfl (h.continues ht hd)
    by_cases ha : isAllowed c = true
    · -- one allowed character
      simp only [beq_iff_eq, hc, if_false, ha, if_true]
      refine Agrees.advance hin (Reader.step_operand_allowed hp ha) (Agrees.pure rfl ⟨rfl, ?_⟩)
      rw [Reader.flush_of_text_eq ht]
      exact Mirrors.of_idle rfl ht (by simp [hd]) he
    · -- anything else leaves the operator dangling
      simp only [beq_iff_eq, hc, if_false, ha, Bool.false_eq_true]
      exact Agrees.step_fault hin (by simp [Reader.step, hp, hc, ha])
  · -- nothing after the operator
    rename_i hin
    exact Agrees.finish_fault hin (Reader.finish_of_operand hp)
termination_by (d.input.length, 0)
decreasing_by exact Prod.Lex.left _ _ (Descent.advance _ _).2

/-- A control word, read after its backslash, agrees with the reader. -/
theorem controlWord_agrees (p : Nat) (r : Reader) (d : Descent) (hp : r.pending = .backslash p)
    (hnext : (d.input.head?.map Prod.snd).any isEscapable = false)
    (he : r.escapes = d.escapes) (hd : r.groups.length = d.depth) :
    Agrees (Continues r) r d.input (controlWord p d) := by
  rw [controlWord.eq_def]
  -- the name is the longest run of letters and digits after the backslash
  obtain ⟨hname, hstate⟩ := nameFrom_eq "" d
  rcases hn : nameFrom "" d with ⟨name, d₁⟩
  rw [hn] at hname hstate
  dsimp only at hname hstate ⊢
  have hsplit : d.input = d.input.takeWhile (fun x => Unicode.isAlphanumeric x.2) ++
      d.input.dropWhile (fun x => Unicode.isAlphanumeric x.2) :=
    List.takeWhile_append_dropWhile.symm
  have hal : ∀ x ∈ d.input.takeWhile (fun x => Unicode.isAlphanumeric x.2),
      Unicode.isAlphanumeric x.2 = true := List.all_eq_true.mp List.all_takeWhile
  have hstop : ∀ x ∈ (d.input.dropWhile (fun x => Unicode.isAlphanumeric x.2)).head?,
      Unicode.isAlphanumeric x.2 = false := by
    intro x hx
    have h := List.head?_dropWhile_not (fun x : Nat × Char => Unicode.isAlphanumeric x.2) d.input
    rw [Option.mem_def.mp hx] at h
    exact h
  generalize d.input.takeWhile (fun x => Unicode.isAlphanumeric x.2) = N at hsplit hal hname
  generalize d.input.dropWhile (fun x => Unicode.isAlphanumeric x.2) = D at hsplit hstop hstate
  rw [String.empty_append] at hname
  subst hname
  -- the descent after the name keeps the depth and the escaped braces of `d`
  have hD : d₁.1.input = D := by rw [hstate]
  have hd₁ : r.groups.length = d₁.1.depth := by rw [hd, hstate]
  have he₁ : r.escapes = d₁.1.escapes := by rw [he, hstate]
  cases N with
  | nil =>
      -- an empty name: the backslash stands alone
      rw [List.nil_append] at hsplit
      simp only [List.map_nil, String.ofList_nil]
      split
      · rename_i q c rest hin
        have hdin : d.input = (q, c) :: rest := by rw [hsplit, ← hD, hin]
        have hc : isEscapable c = false := by simpa [hdin] using hnext
        have hc' : c ≠ '{' := by
          rintro rfl
          cases hc
        simp only [beq_iff_eq, hc', if_false]
        refine Agrees.pure (by rw [hin, hdin]) ⟨rfl, Mirrors.of_backslash hp hd₁ he₁ ?_⟩
        exact ⟨c, by simp [hin], hc, hstop (q, c) (by rw [← hD, hin]; rfl)⟩
      · rename_i hin
        simp only [String.isEmpty_iff, if_true]
        exact Agrees.finish_fault (by rw [hsplit, ← hD, hin]) (Reader.finish_of_backslash hp)
  | cons x N =>
      -- a name: the reader reads it too, and waits for what ends it
      have hrun := Reader.foldlM_backslash_name hp (N := x :: N) (by simp) hal
      have hname : String.ofList ((x :: N).map Prod.snd) ≠ "" := by simp
      generalize String.ofList ((x :: N).map Prod.snd) = n at hrun hname ⊢
      refine Agrees.append hsplit hrun ?_
      split
      · rename_i q c rest hin
        have hal' : Unicode.isAlphanumeric c = false := hstop (q, c) (by rw [← hD, hin]; rfl)
        by_cases hc : c = '{'
        · subst hc
          simp only [beq_self_eq_true, if_true]
          cases hk : Command.ofName? n with
          | none =>
              exact Agrees.step_fault (hD.symm.trans hin) (by simp [Reader.step, hal', hk])
          | some k =>
              refine Agrees.bind (group_agrees q k _ (d₁.1.advance hin).1 (hD.symm.trans hin)
                (Reader.step_name_open rfl hk) (by simp) (by simpa using he₁)
                (by simpa using hd₁)) ?_
              rintro inner d' - r' - - h
              refine Agrees.pure rfl ((h.continues (by simp) (by simpa using hd₁)).congr
                (by simp) ?_)
              rw [Reader.flush_nodes_pending, Reader.flush_of_text_eq Reader.flush_text]
        · simp only [beq_iff_eq, hc, if_false]
          refine Agrees.pure hD ⟨by simp, ?_⟩
          exact Mirrors.of_name rfl hname (by simp) (by simpa using hd₁) (by simpa using he₁)
            (by simp [hin, hal', hc])
      · rename_i hin
        simp only [String.isEmpty_iff, hname, if_false]
        refine Agrees.pure hD ⟨by simp, ?_⟩
        exact Mirrors.of_name rfl hname (by simp) (by simpa using hd₁) (by simpa using he₁)
          (by simp [hin])
termination_by (d.input.length, 0)
decreasing_by exact Prod.Lex.left _ _ (Nat.lt_of_lt_of_le (Descent.advance _ _).2 d₁.2)

end

end Descent

/-- The descent reads every text as the reader does: it gives the formula or the fault that
`Formula.parse` gives. -/
theorem Formula.descend_eq_parse (s : String) : Formula.descend s = Formula.parse s := by
  have h := Descent.sequence_agrees none [] {} { input := positioned s }
    (Descent.Mirrors.of_idle rfl rfl rfl rfl) rfl
  unfold Formula.descend Descent.parse
  rw [Formula.parse]
  rcases hseq : Descent.sequence none [] { input := positioned s } with e | ⟨nodes, d'⟩
  · rw [hseq] at h
    exact h.symm
  · rw [hseq] at h
    obtain ⟨ps, r', hsplit, hrun, hnil, hgroups, hm⟩ := h
    have hread : (positioned s).foldlM Reader.step {} = .ok r' := by
      have hps : positioned s = ps := by simpa [hnil] using hsplit
      rw [hps]
      exact hrun
    have hb := hm.between
    simp only [hnil, List.head?_nil, Option.map_none] at hb
    -- the escaped braces left open are the reader's, and the nodes are those it settles on
    have hfinish := Reader.finish_of_between_top hb hgroups
    rw [hm.escapes] at hfinish
    rw [hread]
    simp only [bind, Except.bind]
    rw [hfinish]
    cases d'.1.escapes.getLast? with
    | some p => rfl
    | none =>
        rw [hm.nodes]
        rfl

end MathUnicode.Markup
