import MathUnicode.Proofs.Grammar
import MathUnicode.Proofs.ReaderSound

/-!
# The reader accepts the grammar

Every text that the grammar of `Proofs/Grammar.lean` generates, with its escaped braces
balanced, is read by `Formula.parse` without a fault.  With `Formula.reads_of_parse` and
`Formula.generates_of_reads` this gives the main statement, `Formula.parse_ok_iff`: the
reader accepts a text exactly when the grammar generates it, its escaped braces balance
and its groups nest at most `maxDepth` deep.

## Strategy

The run follows a derivation of the grammar, item by item (`Generates.run`).  Between two
items the reader is `Between` them: nothing waits, or a name or a lone backslash waits for
a character that ends it.  The grammar promises that character: a name is longest, and a
backslash before an empty name is followed by a character that is not escapable.  The
first character of every item then reads as if the reader had settled what waited
(`Reader.step_of_between`), and from there each item runs through a fixed sequence of
steps.  Adjacent runs of text of the grammar simply run into one.
-/

namespace MathUnicode.Markup

namespace Reader

variable {r : Reader} {q : Nat} {c : Char}

/-! ## What each step does -/

theorem idle_of_operator {k : Command} (hk : Command.ofOperator? c = some k) :
    r.idle q c = .ok { r.flush with pending := .operand k c q } := by
  simp [idle, hk]

theorem idle_backslash : r.idle q '\\' = .ok { r with pending := .backslash q } := by
  simp [idle, Command.ofOperator?]

theorem idle_close {g : Group} {rest : List Group} (hg : r.groups = g :: rest) :
    r.idle q '}' = .ok (r.closeGroup g rest) := by
  simp [idle, Command.ofOperator?, hg]

theorem idle_of_isAllowed (ha : isAllowed c = true) :
    r.idle q c = .ok { r with text := r.text.push c } := by
  have hesc := isEscapable_of_isAllowed ha
  have hop : Command.ofOperator? c = none := by
    unfold Command.ofOperator?
    split <;> simp_all [isEscapable]
  have hb : c ≠ '\\' := by rintro rfl; simp [isEscapable] at hesc
  have hc : c ≠ '}' := by rintro rfl; simp [isEscapable] at hesc
  simp [idle, hop, hb, hc, ha]

theorem openGroup_of_lt {k : Command} (h : r.groups.length < maxDepth) :
    r.openGroup k q =
      .ok { r with groups := ⟨k, q, r.nodes⟩ :: r.groups, nodes := [], pending := .idle } := by
  simp [openGroup, Nat.not_le.mpr h]

/-- An escaped brace that closes an open one, or any other escape, is read. -/
theorem escape_of_bracketsOpen {p k : Nat}
    (h : bracketsOpen r.escapes.length (escapedBracket c) = some k) :
    ∃ r', r.escape p c = .ok r' ∧ r'.pending = .idle ∧ r'.groups = r.groups ∧
      r'.escapes.length = k := by
  unfold escape
  by_cases hl : c = '{'
  · subst hl
    simp only [escapedBracket, bracketsOpen, Option.some.injEq] at h
    refine ⟨_, rfl, rfl, rfl, ?_⟩
    simp [h]
  by_cases hr : c = '}'
  · subst hr
    have hne : ('}' : Char) ≠ '{' := by decide
    simp only [beq_iff_eq, hne, if_false, if_true]
    cases he : r.escapes with
    | nil => simp [he, escapedBracket, bracketsOpen] at h
    | cons x rest =>
        simp only [he, escapedBracket, List.length_cons, bracketsOpen, Option.some.injEq] at h
        refine ⟨_, rfl, rfl, rfl, ?_⟩
        simp [h]
  · have hnil : escapedBracket c = [] := by
      unfold escapedBracket; split <;> simp_all
    simp only [hnil, bracketsOpen_nil, Option.some.injEq] at h
    simp only [beq_iff_eq, hl, hr, if_false]
    exact ⟨_, rfl, rfl, rfl, h⟩

theorem step_operand_open {k : Command} {op : Char} {pos : Nat}
    (hp : r.pending = .operand k op pos) : r.step (q, '{') = r.openGroup k q := by
  simp [step, hp]

theorem step_operand_allowed {k : Command} {op : Char} {pos : Nat}
    (hp : r.pending = .operand k op pos) (ha : isAllowed c = true) :
    r.step (q, c) =
      .ok { r.emit (.apply k [.literal (String.singleton c)]) with pending := .idle } := by
  have hc : c ≠ '{' := by
    rintro rfl
    simp [show isAllowed '{' = false by decide] at ha
  simp [step, hp, hc, ha]

theorem step_backslash_escape {pos : Nat} (hp : r.pending = .backslash pos)
    (hc : isEscapable c = true) : r.step (q, c) = r.escape pos c := by
  simp [step, hp, hc]

theorem step_backslash_alnum {pos : Nat} (hp : r.pending = .backslash pos)
    (hc : Unicode.isAlphanumeric c = true) :
    r.step (q, c) = .ok { r.flush with pending := .name (String.singleton c) pos } := by
  simp [step, hp, hc, isEscapable_of_isAlphanumeric hc]

theorem step_name_alnum {n : String} {pos : Nat} (hp : r.pending = .name n pos)
    (hc : Unicode.isAlphanumeric c = true) :
    r.step (q, c) = .ok { r with pending := .name (n.push c) pos } := by
  simp [step, hp, hc]

theorem step_name_open {n : String} {pos : Nat} {k : Command} (hp : r.pending = .name n pos)
    (hk : Command.ofName? n = some k) : r.step (q, '{') = r.openGroup k q := by
  have hal : Unicode.isAlphanumeric '{' = false := by decide
  simp [step, hp, hal, hk]

/-- Letters and digits after a name extend it. -/
theorem foldlM_name {n : String} {pos : Nat} (hp : r.pending = .name n pos)
    {ps : List (Nat × Char)} (hal : ∀ c ∈ ps.map Prod.snd, Unicode.isAlphanumeric c = true) :
    ∃ r' n', ps.foldlM Reader.step r = .ok r' ∧ r'.pending = .name n' pos ∧
      r'.groups = r.groups ∧ r'.escapes = r.escapes ∧ n'.toList = n.toList ++ ps.map Prod.snd := by
  induction ps generalizing r n with
  | nil => exact ⟨r, n, rfl, hp, rfl, rfl, by simp⟩
  | cons x ps ih =>
      obtain ⟨q, c⟩ := x
      simp only [List.map_cons, List.mem_cons, forall_eq_or_imp] at hal
      obtain ⟨r', n', hrun, hp', hg, he, hn⟩ := ih (r := { r with pending := .name (n.push c) pos })
        rfl hal.2
      refine ⟨r', n', ?_, hp', hg, he, by simp [hn, String.toList_push]⟩
      simp [List.foldlM_cons, step_name_alnum hp hal.1, bind, Except.bind, hrun]

theorem foldlM_cons_of_step {x : Nat × Char} {ps : List (Nat × Char)} {r₁ : Reader}
    (h : r.step x = .ok r₁) : (x :: ps).foldlM Reader.step r = ps.foldlM Reader.step r₁ := by
  simp [List.foldlM_cons, h, bind, Except.bind]

/-! ## Between two items -/

/-- The reader stands between two items at depth `d`, and `next` is the character after
them: nothing waits, or a name or a lone backslash that `next` ends. -/
def Between (r : Reader) (d : Nat) (next : Option Char) : Prop :=
  r.groups.length = d ∧
    match r.pending with
    | .idle => True
    | .operand .. => False
    | .backslash _ => ∃ c ∈ next, isEscapable c = false ∧ Unicode.isAlphanumeric c = false
    | .name n _ => n ≠ "" ∧ ∀ c ∈ next, Unicode.isAlphanumeric c = false ∧ c ≠ '{'

/-- What waits once a character comes that ends it: a name becomes a symbol, and a lone
backslash an empty symbol after the run of text before it. -/
def settle (r : Reader) : Reader :=
  match r.pending with
  | .name n _ => { r.emit (.symbol n) with pending := .idle }
  | .backslash _ => { r.flush.emit (.symbol "") with pending := .idle }
  | _ => r

theorem between_of_idle {d : Nat} {next : Option Char} (hp : r.pending = .idle)
    (hd : r.groups.length = d) : r.Between d next := by
  simp [Between, hp, hd]

theorem settle_pending {d : Nat} {next : Option Char} (h : r.Between d next) :
    r.settle.pending = .idle := by
  obtain ⟨-, h⟩ := h
  cases hp : r.pending <;> simp_all [settle]

@[simp] theorem settle_groups : r.settle.groups = r.groups := by
  unfold settle; split <;> simp

@[simp] theorem settle_escapes : r.settle.escapes = r.escapes := by
  unfold settle; split <;> simp

/-- The character after what waits reads as if what waits had been settled. -/
theorem step_of_between {d : Nat} (h : r.Between d (some c)) :
    r.step (q, c) = r.settle.idle q c := by
  obtain ⟨-, h⟩ := h
  cases hp : r.pending with
  | idle => simp [step, settle, hp]
  | operand k op pos => simp [hp] at h
  | backslash pos =>
      simp only [hp, Option.mem_def, Option.some.injEq] at h
      obtain ⟨c, rfl, hesc, hal⟩ := h
      simp [step, settle, hp, hesc, hal]
  | name n pos =>
      simp only [hp, Option.mem_def, Option.some.injEq] at h
      obtain ⟨hal, hbrace⟩ := h.2 c rfl
      simp [step, settle, hp, hal, hbrace]

/-- With every group and escaped brace closed, a reader between two items finishes. -/
theorem finish_of_between (h : r.Between 0 none) (he : r.escapes = []) :
    ∃ f, r.finish = .ok f := by
  obtain ⟨hg, hwait⟩ := h
  rw [List.length_eq_zero_iff] at hg
  have hidle : ∀ r₁ : Reader, r₁.pending = .idle → r₁.groups = [] → r₁.escapes = [] →
      r₁.finish = .ok ⟨r₁.flush.nodes⟩ := by
    intro r₁ hp hg he
    simp [finish, hp, hg, he, pure, Except.pure, bind, Except.bind]
  cases hp : r.pending with
  | idle => exact ⟨_, hidle r hp hg he⟩
  | operand k op pos => simp [hp] at hwait
  | backslash pos => simp [hp] at hwait
  | name n pos =>
      rw [finish_of_name hp]
      exact ⟨_, hidle _ rfl (by simpa using hg) (by simpa using he)⟩

end Reader

theorem map_snd_eq_cons {ps : List (Nat × Char)} {c : Char} {cs : List Char}
    (h : ps.map Prod.snd = c :: cs) : ∃ q ps', ps = (q, c) :: ps' ∧ ps'.map Prod.snd = cs := by
  obtain ⟨⟨q, c'⟩, ps', rfl, rfl, hps⟩ := List.map_eq_cons_iff.mp h
  exact ⟨q, ps', rfl, hps⟩

/-! ## Runs of text -/

theorem TextRun.ne_nil {u : List Char} {bs : List DyckStep} (h : TextRun u bs) : u ≠ [] := by
  induction h with
  | plain _ => simp
  | escape _ => simp
  | append _ _ ih _ => simp [ih]

theorem TextRun.head?_ne_brace {u : List Char} {bs : List DyckStep} (h : TextRun u bs) :
    u.head? ≠ some '{' := by
  induction h with
  | plain ha =>
      rintro ⟨⟩
      simp [show isAllowed '{' = false by decide] at ha
  | escape _ => simp
  | append hu _ ih _ =>
      obtain ⟨a, u, rfl⟩ := List.exists_cons_of_ne_nil hu.ne_nil
      simpa using ih

/-- A run of text of the grammar is read from between two items, and leaves nothing
waiting. -/
theorem TextRun.run {u : List Char} {bs : List DyckStep} (h : TextRun u bs) :
    ∀ {d : Nat} {r : Reader} {ps : List (Nat × Char)} {k : Nat}, ps.map Prod.snd = u →
      r.Between d u.head? → bracketsOpen r.escapes.length bs = some k →
      ∃ r', ps.foldlM Reader.step r = .ok r' ∧ r'.pending = .idle ∧ r'.groups = r.groups ∧
        r'.escapes.length = k := by
  induction h with
  | @plain a ha =>
      intro d r ps k hps hr hk
      obtain ⟨q, ps', rfl, hps'⟩ := map_snd_eq_cons hps
      rw [List.map_eq_nil_iff] at hps'
      subst hps'
      simp only [bracketsOpen_nil, Option.some.injEq] at hk
      have h₁ := (Reader.step_of_between (q := q) hr).trans (Reader.idle_of_isAllowed ha)
      refine ⟨_, by rw [Reader.foldlM_cons_of_step h₁]; rfl, ?_, by simp, by simp [hk]⟩
      exact Reader.settle_pending hr
  | @escape c hc =>
      intro d r ps k hps hr hk
      obtain ⟨q₁, ps', rfl, hps'⟩ := map_snd_eq_cons hps
      obtain ⟨q₂, ps'', rfl, hps''⟩ := map_snd_eq_cons hps'
      rw [List.map_eq_nil_iff] at hps''
      subst hps''
      have h₁ := (Reader.step_of_between (q := q₁) hr).trans Reader.idle_backslash
      obtain ⟨r₂, h₂, hp₂, hg₂, he₂⟩ := Reader.escape_of_bracketsOpen (r := { r.settle with
        pending := .backslash q₁ }) (p := q₁) (by simpa using hk)
      refine ⟨r₂, ?_, hp₂, by simp [hg₂], he₂⟩
      rw [Reader.foldlM_cons_of_step h₁, Reader.foldlM_cons_of_step
        ((Reader.step_backslash_escape rfl hc).trans h₂)]
      rfl
  | @append u v bs cs hu _ ihu ihv =>
      intro d r ps k hps hr hk
      obtain ⟨ps₁, ps₂, rfl, hps₁, hps₂⟩ := List.map_eq_append_iff.mp hps
      obtain ⟨m, hm, hk'⟩ := bracketsOpen_append_eq_some.mp hk
      obtain ⟨a, u', rfl⟩ := List.exists_cons_of_ne_nil hu.ne_nil
      obtain ⟨r₁, hrun₁, hp₁, hg₁, he₁⟩ := ihu hps₁ (by simpa using hr) hm
      obtain ⟨r₂, hrun₂, hp₂, hg₂, he₂⟩ :=
        ihv hps₂ (Reader.between_of_idle hp₁ (hg₁ ▸ hr.1)) (he₁ ▸ hk')
      exact ⟨r₂, by simp [List.foldlM_append, hrun₁, hrun₂, bind, Except.bind], hp₂,
        hg₂.trans hg₁, he₂⟩

/-! ## Sequences of expressions -/

theorem Generates.head?_ne_brace {d : Nat} {s : List Char} {next : Option Char}
    {bs : List DyckStep} (h : Generates d s next bs) : s.head? ≠ some '{' := by
  cases h with
  | nil => simp
  | text hrun _ =>
      obtain ⟨a, u, rfl⟩ := List.exists_cons_of_ne_nil hrun.ne_nil
      simpa using hrun.head?_ne_brace
  | script hop _ _ => rcases hop with rfl | rfl <;> simp
  | scriptGroup hop _ _ _ => rcases hop with rfl | rfl <;> simp
  | word _ _ _ _ _ => simp
  | command _ _ _ _ _ _ => simp

theorem exists_ofOperator? {op : Char} (hop : op = '^' ∨ op = '_') :
    ∃ k, Command.ofOperator? op = some k := by
  rcases hop with rfl | rfl <;> exact ⟨_, rfl⟩

/-- A backslash between two items waits for what follows it. -/
theorem run_backslash {d : Nat} {r : Reader} {q : Nat} (hr : r.Between d (some '\\')) :
    ∃ r', r.step (q, '\\') = .ok r' ∧ r'.pending = .backslash q ∧ r'.groups = r.groups ∧
      r'.escapes = r.escapes :=
  ⟨_, (Reader.step_of_between hr).trans Reader.idle_backslash, rfl, by simp, by simp⟩

/-- A script operator between two items waits for its operand. -/
theorem run_operator {d : Nat} {r : Reader} {q : Nat} {op : Char} {k : Command}
    (hr : r.Between d (some op)) (hk : Command.ofOperator? op = some k) :
    ∃ r', r.step (q, op) = .ok r' ∧ r'.pending = .operand k op q ∧ r'.groups = r.groups ∧
      r'.escapes = r.escapes :=
  ⟨_, (Reader.step_of_between hr).trans (Reader.idle_of_operator hk), rfl, by simp, by simp⟩

/-- Reading a backslash and a nonempty name of letters and digits leaves the name waiting. -/
theorem run_name {d : Nat} {r : Reader} {q : Nat} {c : Char} {name : List Char}
    {ps : List (Nat × Char)} (hr : r.Between d (some '\\')) (hps : ps.map Prod.snd = c :: name)
    (hal : ∀ x ∈ c :: name, Unicode.isAlphanumeric x = true) :
    ∃ r' n, ((q, '\\') :: ps).foldlM Reader.step r = .ok r' ∧ r'.pending = .name n q ∧
      n.toList = c :: name ∧ r'.groups = r.groups ∧ r'.escapes = r.escapes := by
  obtain ⟨q₂, ps', rfl, hps'⟩ := map_snd_eq_cons hps
  obtain ⟨r₁, h₁, hp₁, hg₁, he₁⟩ := run_backslash (q := q) hr
  have h₂ := Reader.step_backslash_alnum (q := q₂) hp₁ (hal c (by simp))
  have hal' : ∀ x ∈ ps'.map Prod.snd, Unicode.isAlphanumeric x = true :=
    fun x hx => hal x (by simp [← hps', hx])
  obtain ⟨r', n, hrun, hp, hg, he, hn⟩ :=
    Reader.foldlM_name (r := { r₁.flush with pending := .name (String.singleton c) q }) rfl hal'
  refine ⟨r', n, ?_, hp, by simpa [hps'] using hn, by simp [hg, hg₁], by simp [he, he₁]⟩
  rw [Reader.foldlM_cons_of_step h₁, Reader.foldlM_cons_of_step h₂, hrun]

/-- Reading a group from its opening brace to its closing brace, at depth `d`, once the
operator or the name that opens it waits. -/
theorem run_group {d : Nat} {r : Reader} {k : Command} {g : List Char} {bs : List DyckStep}
    {ps : List (Nat × Char)} {m : Nat} (hopen : ∀ q, r.step (q, '{') = r.openGroup k q)
    (hd : r.groups.length = d) (hdepth : d < maxDepth)
    (ih : ∀ {r : Reader} {ps : List (Nat × Char)} {k : Nat}, ps.map Prod.snd = g →
      r.Between (d + 1) (g.head?.or (some '}')) → bracketsOpen r.escapes.length bs = some k →
      ∃ r', ps.foldlM Reader.step r = .ok r' ∧ r'.Between (d + 1) (some '}') ∧
        r'.escapes.length = k)
    (hps : ps.map Prod.snd = '{' :: (g ++ ['}'])) (hm : bracketsOpen r.escapes.length bs = some m) :
    ∃ r', ps.foldlM Reader.step r = .ok r' ∧ r'.pending = .idle ∧ r'.groups.length = d ∧
      r'.escapes.length = m := by
  obtain ⟨q, ps', rfl, hps'⟩ := map_snd_eq_cons hps
  obtain ⟨psg, psc, rfl, hpsg, hpsc⟩ := List.map_eq_append_iff.mp hps'
  obtain ⟨q₃, psn, rfl, hpsn⟩ := map_snd_eq_cons hpsc
  rw [List.map_eq_nil_iff] at hpsn
  subst hpsn
  obtain ⟨r₁, h₁, hp₁, hg₁, he₁⟩ : ∃ r₁ : Reader, r.step (q, '{') = .ok r₁ ∧
      r₁.pending = .idle ∧ r₁.groups.length = d + 1 ∧ r₁.escapes = r.escapes :=
    ⟨_, (hopen q).trans (Reader.openGroup_of_lt (hd ▸ hdepth)), rfl, by simp [hd], rfl⟩
  obtain ⟨r₂, hrun₂, hb₂, he₂⟩ := ih (r := r₁) hpsg (Reader.between_of_idle hp₁ hg₁) (by rwa [he₁])
  -- the group opened above is still open: close it
  obtain ⟨g₀, rest, hg₂, hrest⟩ : ∃ g₀ rest, r₂.settle.groups = g₀ :: rest ∧ rest.length = d := by
    have hlen := hb₂.1
    cases h : r₂.groups with
    | nil => simp [h] at hlen
    | cons g₀ rest => exact ⟨g₀, rest, by simp [h], by simpa [h] using hlen⟩
  have h₃ := (Reader.step_of_between (q := q₃) hb₂).trans (Reader.idle_close hg₂)
  refine ⟨r₂.settle.closeGroup g₀ rest, ?_, by simp [Reader.closeGroup, Reader.settle_pending hb₂],
    by simp [Reader.closeGroup, hrest], by simp [Reader.closeGroup, he₂]⟩
  rw [Reader.foldlM_cons_of_step h₁, List.foldlM_append, hrun₂]
  simp [bind, Except.bind, h₃, pure, Except.pure]

/-- Reading a group and then the items after it, once the operator or the name that opens
the group waits. -/
theorem run_group_then {d : Nat} {r : Reader} {k : Command} {g s : List Char}
    {next : Option Char} {bs cs : List DyckStep} {ps : List (Nat × Char)} {m : Nat}
    (hopen : ∀ q, r.step (q, '{') = r.openGroup k q) (hd : r.groups.length = d)
    (hdepth : d < maxDepth)
    (ihg : ∀ {r : Reader} {ps : List (Nat × Char)} {k : Nat}, ps.map Prod.snd = g →
      r.Between (d + 1) (g.head?.or (some '}')) → bracketsOpen r.escapes.length bs = some k →
      ∃ r', ps.foldlM Reader.step r = .ok r' ∧ r'.Between (d + 1) (some '}') ∧
        r'.escapes.length = k)
    (ihs : ∀ {r : Reader} {ps : List (Nat × Char)} {k : Nat}, ps.map Prod.snd = s →
      r.Between d (s.head?.or next) → bracketsOpen r.escapes.length cs = some k →
      ∃ r', ps.foldlM Reader.step r = .ok r' ∧ r'.Between d next ∧ r'.escapes.length = k)
    (hps : ps.map Prod.snd = '{' :: (g ++ '}' :: s))
    (hm : bracketsOpen r.escapes.length (bs ++ cs) = some m) :
    ∃ r', ps.foldlM Reader.step r = .ok r' ∧ r'.Between d next ∧ r'.escapes.length = m := by
  obtain ⟨psg, pss, rfl, hpsg, hpss⟩ :=
    List.map_eq_append_iff.mp (show ps.map Prod.snd = ('{' :: (g ++ ['}'])) ++ s by
      simpa using hps)
  obtain ⟨m₁, hm₁, hm₂⟩ := bracketsOpen_append_eq_some.mp hm
  obtain ⟨r₂, hrun₂, hp₂, hg₂, he₂⟩ := run_group hopen hd hdepth ihg hpsg hm₁
  obtain ⟨r₃, hrun₃, hb₃, he₃⟩ := ihs hpss (Reader.between_of_idle hp₂ hg₂) (he₂ ▸ hm₂)
  refine ⟨r₃, ?_, hb₃, he₃⟩
  rw [List.foldlM_append, hrun₂]
  exact hrun₃

/-- A sequence of expressions of the grammar is read from between two items, and leaves the
reader between two items again, with the escaped braces counted. -/
theorem Generates.run {d : Nat} {s : List Char} {next : Option Char} {bs : List DyckStep}
    (h : Generates d s next bs) :
    next ≠ some '{' → ∀ {r : Reader} {ps : List (Nat × Char)} {k : Nat}, ps.map Prod.snd = s →
      r.Between d (s.head?.or next) → bracketsOpen r.escapes.length bs = some k →
      ∃ r', ps.foldlM Reader.step r = .ok r' ∧ r'.Between d next ∧ r'.escapes.length = k := by
  induction h with
  | nil =>
      intro _ r ps k hps hr hk
      rw [List.map_eq_nil_iff] at hps
      subst hps
      simp only [bracketsOpen_nil, Option.some.injEq] at hk
      exact ⟨r, rfl, by simpa using hr, hk⟩
  | @text d u s next bs cs hrun _ ih =>
      intro hnext r ps k hps hr hk
      obtain ⟨ps₁, ps₂, rfl, hps₁, hps₂⟩ := List.map_eq_append_iff.mp hps
      obtain ⟨m, hm, hk'⟩ := bracketsOpen_append_eq_some.mp hk
      obtain ⟨a, u', rfl⟩ := List.exists_cons_of_ne_nil hrun.ne_nil
      obtain ⟨r₁, hrun₁, hp₁, hg₁, he₁⟩ := hrun.run hps₁ (by simpa using hr) hm
      obtain ⟨r₂, hrun₂, hb₂, he₂⟩ :=
        ih hnext hps₂ (Reader.between_of_idle hp₁ (hg₁ ▸ hr.1)) (he₁ ▸ hk')
      refine ⟨r₂, ?_, hb₂, he₂⟩
      rw [List.foldlM_append, hrun₁]
      exact hrun₂
  | @script d op a s next cs hop ha _ ih =>
      intro hnext r ps k hps hr hk
      obtain ⟨q₁, ps', rfl, hps'⟩ := map_snd_eq_cons hps
      obtain ⟨q₂, ps'', rfl, hps''⟩ := map_snd_eq_cons hps'
      obtain ⟨kop, hkop⟩ := exists_ofOperator? hop
      obtain ⟨r₁, h₁, hp₁, hg₁, he₁⟩ := run_operator (q := q₁) (by simpa using hr) hkop
      have h₂ := Reader.step_operand_allowed (q := q₂) hp₁ ha
      obtain ⟨r', hrun, hb, he⟩ :=
        ih (r := { r₁.emit (.apply kop [.literal (String.singleton a)]) with pending := .idle })
          hnext hps'' (Reader.between_of_idle rfl (by simp [hg₁, hr.1])) (by simpa [he₁] using hk)
      refine ⟨r', ?_, hb, he⟩
      rw [Reader.foldlM_cons_of_step h₁, Reader.foldlM_cons_of_step h₂]
      exact hrun
  | @scriptGroup d op g s next bs cs hop hd _ _ ihg ihs =>
      intro hnext r ps k hps hr hk
      obtain ⟨q₁, ps', rfl, hps'⟩ := map_snd_eq_cons hps
      obtain ⟨kop, hkop⟩ := exists_ofOperator? hop
      obtain ⟨r₁, h₁, hp₁, hg₁, he₁⟩ := run_operator (q := q₁) (by simpa using hr) hkop
      obtain ⟨r', hrun, hb, he⟩ :=
        run_group_then (fun q => Reader.step_operand_open hp₁) (by rw [hg₁]; exact hr.1) hd
          (ihg (by simp)) (ihs hnext) hps' (by rwa [he₁])
      refine ⟨r', ?_, hb, he⟩
      rw [Reader.foldlM_cons_of_step h₁]
      exact hrun
  | @word d name s next cs hname hesc hal hempty hrest ih =>
      intro hnext r ps k hps hr hk
      obtain ⟨q₁, ps', rfl, hps'⟩ := map_snd_eq_cons hps
      obtain ⟨psn, pss, rfl, hpsn, hpss⟩ := List.map_eq_append_iff.mp hps'
      have hr' : r.Between d (some '\\') := by simpa using hr
      -- after the word, a lone backslash or its name waits for the character that ends it
      obtain ⟨r₁, hrun₁, hb₁, he₁⟩ : ∃ r₁, ((q₁, '\\') :: psn).foldlM Reader.step r = .ok r₁ ∧
          r₁.Between d (s.head?.or next) ∧ r₁.escapes = r.escapes := by
        cases name with
        | nil =>
            rw [List.map_eq_nil_iff] at hpsn
            subst hpsn
            obtain ⟨r₁, h₁, hp₁, hg₁, he₁⟩ := run_backslash (q := q₁) hr'
            obtain ⟨c, hc⟩ := Option.isSome_iff_exists.mp (hempty rfl)
            refine ⟨r₁, by rw [Reader.foldlM_cons_of_step h₁]; rfl, ⟨by rw [hg₁]; exact hr.1, ?_⟩,
              he₁⟩
            simp only [hp₁]
            exact ⟨c, hc, hesc c (by simpa using hc), hal c (by simp [hc])⟩
        | cons c name =>
            obtain ⟨r₁, n, hrun₁, hp₁, hn, hg₁, he₁⟩ := run_name hr' hpsn hname
            refine ⟨r₁, hrun₁, ⟨by rw [hg₁]; exact hr.1, ?_⟩, he₁⟩
            simp only [hp₁]
            refine ⟨by rintro rfl; simp at hn, fun x hx => ⟨hal x hx, ?_⟩⟩
            -- no item starts with a brace, and the end of a group is its closing brace
            rintro rfl
            cases s with
            | nil => exact hnext (by simpa using hx)
            | cons y s => exact hrest.head?_ne_brace (by simpa using hx)
      obtain ⟨r₂, hrun₂, hb₂, he₂⟩ := ih hnext hpss hb₁ (he₁ ▸ hk)
      refine ⟨r₂, ?_, hb₂, he₂⟩
      rw [← List.cons_append, List.foldlM_append, hrun₁]
      exact hrun₂
  | @command d name g s next bs cs hname _ hk hd _ _ ihg ihs =>
      intro hnext r ps k hps hr hkk
      obtain ⟨kc, hkc⟩ := Option.isSome_iff_exists.mp hk
      obtain ⟨c, name', rfl⟩ := List.exists_cons_of_ne_nil (ne_nil_of_ofName?_eq_some hkc)
      obtain ⟨q₁, ps', rfl, hps'⟩ := map_snd_eq_cons hps
      obtain ⟨psn, psr, rfl, hpsn, hpsr⟩ :=
        List.map_eq_append_iff.mp (show ps'.map Prod.snd = (c :: name') ++
          ('{' :: (g ++ '}' :: s)) by simpa using hps')
      obtain ⟨r₁, n, hrun₁, hp₁, hn, hg₁, he₁⟩ := run_name (by simpa using hr) hpsn hname
      have hnk : Command.ofName? n = some kc := by
        rwa [← String.ofList_toList (s := n), hn]
      obtain ⟨r', hrun, hb, he⟩ :=
        run_group_then (fun q => Reader.step_name_open hp₁ hnk) (by rw [hg₁]; exact hr.1) hd
          (ihg (by simp)) (ihs hnext) hpsr (by rwa [he₁])
      refine ⟨r', ?_, hb, he⟩
      rw [← List.cons_append, List.foldlM_append, hrun₁]
      exact hrun

/-- The reader accepts a text exactly when the grammar generates it with its escaped braces
balanced: a sequence of runs of text, scripts and words inside at most `maxDepth` nested
groups, with every `\}` closing an earlier `\{`, and none left open. -/
theorem Formula.parse_ok_iff (s : String) :
    (∃ f, Formula.parse s = .ok f) ↔
      ∃ bs, Generates 0 s.toList none bs ∧ ∃ w : DyckWord, w.toList = bs := by
  constructor
  · rintro ⟨f, h⟩
    exact Formula.generates_of_reads (Formula.reads_of_parse h)
  · rintro ⟨bs, hgen, hw⟩
    obtain ⟨r, hrun, hb, he⟩ := hgen.run (by simp) (r := {}) (positioned_map_snd s)
      (Reader.between_of_idle rfl rfl) ((exists_dyckWord_iff bs).mp hw)
    obtain ⟨f, hf⟩ := Reader.finish_of_between hb (List.length_eq_zero_iff.mp he)
    refine ⟨f, ?_⟩
    rw [Formula.parse, hrun]
    exact hf

end MathUnicode.Markup
