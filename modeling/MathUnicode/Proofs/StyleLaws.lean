import Mathlib.Data.List.Forall2
import MathUnicode.Proofs.RenderSemantics

/-!
# Laws of styles

A command derives the style of its operands by writing some axes: true to those it sets,
false to those it clears (`Style.apply`).  This file states what follows, for any sequence of
changes to a style, commands or single axes set to a value, and then for rendering.

* The last write wins.  After a sequence of changes every axis has the value written to it by
  the last change that writes it, and its first value if none does
  (`Style.get_changeAll_of_last`, `Style.get_changeAll_of_not_written`).  No command sets an
  axis and also clears it (`Style.not_mem_clears_of_mem_sets`), so what one change writes to
  an axis is one value.
* Hence a command inside the same command renders as the command once, but for `\vec`, whose
  arrow is drawn twice (`Node.pieces_apply_apply_self`); and two commands that write no axis
  with different values render alike in either order (`Node.pieces_apply_comm`).
* No command clears a script axis.  Once raised or lowered, a character stays so inside
  every command, and its form is then looked up by the script axes alone: inside a script
  the font axes make no difference to the output, only to the style that warnings name
  (`Converter.render_within_script`).
-/

namespace MathUnicode

open Markup

namespace Style

/-! ## What a change writes -/

/-- No command sets an axis and also clears it. -/
theorem not_mem_clears_of_mem_sets {k : Command} {a : Axis} (h : a ∈ sets k) : a ∉ clears k := by
  cases k <;> cases a <;> simp_all [sets, clears]

/-- A change to a style: the style of the operands of a command, or one axis set to a value. -/
inductive Change
  /-- The style of the operands of the command. -/
  | command (k : Command)
  /-- The axis set to the value. -/
  | assign (a : Axis) (v : Bool)

/-- The values a change writes: a command writes true to the axes it sets and false to those
it clears. -/
def Change.writes : Change → List (Axis × Bool)
  | .command k => (sets k).map (·, true) ++ (clears k).map (·, false)
  | .assign a v => [(a, v)]

/-- The style after one change. -/
def change (s : Style) : Change → Style
  | .command k => s.apply k
  | .assign a v => s.set v a

/-- The style after the changes, one after the other. -/
def changeAll (s : Style) (chs : List Change) : Style :=
  chs.foldl change s

@[simp] theorem changeAll_nil (s : Style) : s.changeAll [] = s := rfl

@[simp] theorem changeAll_cons (s : Style) (ch : Change) (chs : List Change) :
    s.changeAll (ch :: chs) = (s.change ch).changeAll chs := rfl

theorem changeAll_append (s : Style) (xs ys : List Change) :
    s.changeAll (xs ++ ys) = (s.changeAll xs).changeAll ys :=
  List.foldl_append

/-- A change gives an axis the value it writes to it. -/
theorem get_change_of_mem {s : Style} {ch : Change} {a : Axis} {v : Bool}
    (h : (a, v) ∈ ch.writes) : (s.change ch).get a = v := by
  cases ch with
  | command k =>
      simp only [Change.writes, List.mem_append, List.mem_map, Prod.mk.injEq] at h
      rw [change, get_apply]
      rcases h with ⟨b, hb, rfl, rfl⟩ | ⟨b, hb, rfl, rfl⟩
      · rw [if_neg (not_mem_clears_of_mem_sets hb), if_pos hb]
      · rw [if_pos hb]
  | assign b w =>
      simp only [Change.writes, List.mem_singleton, Prod.mk.injEq] at h
      obtain ⟨rfl, rfl⟩ := h
      rw [change, get_set, if_pos rfl]

/-- A change keeps an axis it does not write. -/
theorem get_change_of_not_mem {s : Style} {ch : Change} {a : Axis}
    (h : ∀ v, (a, v) ∉ ch.writes) : (s.change ch).get a = s.get a := by
  cases ch with
  | command k =>
      have hs : a ∉ sets k := fun hs => h true (by simp [Change.writes, hs])
      have hc : a ∉ clears k := fun hc => h false (by simp [Change.writes, hc])
      rw [change, get_apply, if_neg hc, if_neg hs]
  | assign b w =>
      have hb : b ≠ a := by
        rintro rfl
        exact h w (by simp [Change.writes])
      rw [change, get_set, if_neg hb]

/-- Changes that do not write an axis keep it. -/
theorem get_changeAll_of_not_written {s : Style} {chs : List Change} {a : Axis}
    (h : ∀ ch ∈ chs, ∀ v, (a, v) ∉ ch.writes) : (s.changeAll chs).get a = s.get a := by
  induction chs generalizing s with
  | nil => rfl
  | cons ch chs ih =>
      rw [changeAll_cons, ih fun ch' hch' => h ch' (List.mem_cons_of_mem ch hch'),
        get_change_of_not_mem (h ch List.mem_cons_self)]

/-- An axis has the value that the last change writing it wrote. -/
theorem get_changeAll_of_last {s : Style} {pre post : List Change} {ch : Change} {a : Axis}
    {v : Bool} (hv : (a, v) ∈ ch.writes) (hpost : ∀ ch' ∈ post, ∀ v', (a, v') ∉ ch'.writes) :
    (s.changeAll (pre ++ ch :: post)).get a = v := by
  rw [changeAll_append, changeAll_cons, get_changeAll_of_not_written hpost, get_change_of_mem hv]

theorem ext_get {s t : Style} (h : ∀ a, s.get a = t.get a) : s = t := by
  cases s
  cases t
  simp only [mk.injEq]
  exact ⟨h .bold, h .doubleStruck, h .fraktur, h .italic, h .sansSerif, h .script, h .subscript,
    h .superscript⟩

/-- A command applied twice is applied once: the second writes what the first wrote. -/
theorem apply_apply_self (s : Style) (k : Command) : (s.apply k).apply k = s.apply k := by
  apply ext_get
  intro a
  rw [get_apply, get_apply]
  split_ifs <;> rfl

/-- Two commands that write no axis with different values can be applied in either order. -/
theorem apply_comm (s : Style) {k₁ k₂ : Command}
    (h : ∀ a v₁ v₂, (a, v₁) ∈ (Change.command k₁).writes →
      (a, v₂) ∈ (Change.command k₂).writes → v₁ = v₂) :
    (s.apply k₁).apply k₂ = (s.apply k₂).apply k₁ := by
  apply ext_get
  intro a
  show ((s.change (.command k₁)).change (.command k₂)).get a =
    ((s.change (.command k₂)).change (.command k₁)).get a
  -- an axis written by the outer command has its value; otherwise the inner one decides
  by_cases h₂ : ∃ v, (a, v) ∈ (Change.command k₂).writes
  · obtain ⟨v₂, hv₂⟩ := h₂
    rw [get_change_of_mem hv₂]
    by_cases h₁ : ∃ v, (a, v) ∈ (Change.command k₁).writes
    · obtain ⟨v₁, hv₁⟩ := h₁
      rw [get_change_of_mem hv₁, h a v₁ v₂ hv₁ hv₂]
    · rw [get_change_of_not_mem (not_exists.mp h₁), get_change_of_mem hv₂]
  · rw [get_change_of_not_mem (not_exists.mp h₂)]
    by_cases h₁ : ∃ v, (a, v) ∈ (Change.command k₁).writes
    · obtain ⟨v₁, hv₁⟩ := h₁
      rw [get_change_of_mem hv₁, get_change_of_mem hv₁]
    · rw [get_change_of_not_mem (not_exists.mp h₁), get_change_of_not_mem (not_exists.mp h₁),
        get_change_of_not_mem (not_exists.mp h₂)]

end Style

/-! ## Rendering nested commands -/

namespace Markup

theorem Node.piecesList_singleton (t : Tables) (s : Style) (n : Node) :
    Node.piecesList t s [n] = Node.pieces t s n := by
  rw [Node.piecesList, Node.piecesList, List.append_nil]

/-- A command inside the same command renders as the command once, `\vec` apart. -/
theorem Node.pieces_apply_apply_self (t : Tables) (s : Style) {k : Command} (hk : k ≠ .vector)
    (ops : List Node) :
    Node.pieces t s (.apply k [.apply k ops]) = Node.pieces t s (.apply k ops) := by
  rw [Node.pieces_apply_of_ne t s _ hk, Node.piecesList_singleton, Node.pieces_apply_of_ne t _ _ hk,
    Style.apply_apply_self, Node.pieces_apply_of_ne t s _ hk]

/-- `\vec` commutes with every other command: its arrow follows the operands either way. -/
theorem Node.pieces_vector_comm (t : Tables) (s : Style) {k : Command} (hk : k ≠ .vector)
    (ops : List Node) :
    Node.pieces t s (.apply .vector [.apply k ops]) =
      Node.pieces t s (.apply k [.apply .vector ops]) := by
  rw [Node.pieces_apply_vector, Node.piecesList_singleton, Node.pieces_apply_of_ne t s _ hk,
    Node.pieces_apply_of_ne t s _ hk, Node.piecesList_singleton, Node.pieces_apply_vector]

/-- Two commands that write no axis with different values render alike in either order. -/
theorem Node.pieces_apply_comm (t : Tables) (s : Style) {k₁ k₂ : Command}
    (h : ∀ a v₁ v₂, (a, v₁) ∈ (Style.Change.command k₁).writes →
      (a, v₂) ∈ (Style.Change.command k₂).writes → v₁ = v₂)
    (ops : List Node) :
    Node.pieces t s (.apply k₁ [.apply k₂ ops]) = Node.pieces t s (.apply k₂ [.apply k₁ ops]) := by
  by_cases h₁ : k₁ = .vector <;> by_cases h₂ : k₂ = .vector
  · subst h₁ h₂
    rfl
  · subst h₁
    exact Node.pieces_vector_comm t s h₂ ops
  · subst h₂
    exact (Node.pieces_vector_comm t s h₁ ops).symm
  · rw [Node.pieces_apply_of_ne t s _ h₁, Node.piecesList_singleton,
      Node.pieces_apply_of_ne t _ _ h₂, Node.pieces_apply_of_ne t s _ h₂,
      Node.piecesList_singleton, Node.pieces_apply_of_ne t _ _ h₁, Style.apply_comm s h]

end Markup

/-- Formulas of one node whose pieces agree render alike. -/
theorem Converter.render_single_congr (conv : Converter) (c : Style) {n₁ n₂ : Node}
    (h : Node.pieces conv.tables c n₁ = Node.pieces conv.tables c n₂) :
    conv.render ⟨[n₁]⟩ c = conv.render ⟨[n₂]⟩ c := by
  rw [Converter.render_eq, Converter.render_eq, Formula.render_eq_ofPieces,
    Formula.render_eq_ofPieces]
  simp only [Node.piecesList_singleton, h]

/-- The innermost write wins.  After any sequence of changes to a style, commands or single
axes set to a value, each axis has the value written to it by the last change that writes
it, and its first value if none does.  Hence a command nested inside itself renders as the
command once, for every command but `\vec`; and two nested commands that write no axis with
different values render alike in either order. -/
theorem Style.innermost_write_wins :
    (∀ (c : Style) (chs : List Style.Change) (a : Axis),
      ((∀ ch ∈ chs, ∀ v, (a, v) ∉ ch.writes) → (c.changeAll chs).get a = c.get a) ∧
      ∀ pre ch post v, chs = pre ++ ch :: post → (a, v) ∈ ch.writes →
        (∀ ch' ∈ post, ∀ v', (a, v') ∉ ch'.writes) → (c.changeAll chs).get a = v) ∧
    (∀ (conv : Converter) (c : Style) (k : Command) (ops : List Node), k ≠ .vector →
      conv.render ⟨[.apply k [.apply k ops]]⟩ c = conv.render ⟨[.apply k ops]⟩ c) ∧
    (∀ (conv : Converter) (c : Style) (k₁ k₂ : Command) (ops : List Node),
      (∀ a v₁ v₂, (a, v₁) ∈ (Style.Change.command k₁).writes →
        (a, v₂) ∈ (Style.Change.command k₂).writes → v₁ = v₂) →
      conv.render ⟨[.apply k₁ [.apply k₂ ops]]⟩ c = conv.render ⟨[.apply k₂ [.apply k₁ ops]]⟩ c) := by
  refine ⟨fun c chs a => ⟨Style.get_changeAll_of_not_written, ?_⟩, ?_, ?_⟩
  · rintro pre ch post v rfl hv hpost
    exact Style.get_changeAll_of_last hv hpost
  · intro conv c k ops hk
    exact conv.render_single_congr c (Node.pieces_apply_apply_self conv.tables c hk ops)
  · intro conv c k₁ k₂ ops h
    exact conv.render_single_congr c (Node.pieces_apply_comm conv.tables c h ops)

theorem Style.innermost_write_wins_bold_calligraphic :
    (Style.plain.changeAll [.command .bold]).get .superscript = Style.plain.get .superscript ∧
      (Style.plain.changeAll [.command .italic, .command .doubleStruck]).get .italic = false ∧
      ({ tables := {} } : Converter).render ⟨[.apply .bold [.apply .bold [.literal "x"]]]⟩
          Style.plain =
        ({ tables := {} } : Converter).render ⟨[.apply .bold [.literal "x"]]⟩ Style.plain ∧
      ({ tables := {} } : Converter).render ⟨[.apply .bold [.apply .calligraphic [.literal "x"]]]⟩
          Style.plain =
        ({ tables := {} } : Converter).render ⟨[.apply .calligraphic [.apply .bold [.literal "x"]]]⟩
          Style.plain := by
  have hdisjoint : ∀ a v₁ v₂, (a, v₁) ∈ (Style.Change.command .bold).writes →
      (a, v₂) ∈ (Style.Change.command .calligraphic).writes → v₁ = v₂ := by
    intro a v₁ v₂ h₁ h₂
    simp only [Style.Change.writes, Style.sets, Style.clears, List.map_cons, List.map_nil,
      List.cons_append, List.nil_append, List.mem_cons, Prod.mk.injEq, List.not_mem_nil,
      or_false] at h₁ h₂
    rcases h₁ with ⟨rfl, rfl⟩ | ⟨rfl, rfl⟩ <;> rcases h₂ with ⟨h, -⟩ | ⟨h, -⟩ <;> cases h
  exact ⟨(Style.innermost_write_wins.1 _ _ _).1 (by decide),
    (Style.innermost_write_wins.1 _ _ _).2 [.command .italic] _ [] false rfl (by decide)
      (by decide),
    Style.innermost_write_wins.2.1 _ _ _ _ (by decide),
    Style.innermost_write_wins.2.2 _ _ _ _ _ hdisjoint⟩

/-! ## Scripts -/

namespace Style

/-- The styles raise and lower alike, and do raise or lower. -/
structure SameScript (s₁ s₂ : Style) : Prop where
  superscript_eq : s₁.superscript = s₂.superscript
  subscript_eq : s₁.subscript = s₂.subscript
  scripted : s₁.superscript = true ∨ s₁.subscript = true

/-- No command clears a script axis: it is set or keeps its value. -/
theorem get_apply_script (s : Style) (k : Command) {a : Axis}
    (ha : a = .superscript ∨ a = .subscript) :
    (s.apply k).get a = (decide (a ∈ sets k) || s.get a) := by
  have hc : a ∉ clears k := by rcases ha with rfl | rfl <;> cases k <;> simp [clears]
  rw [get_apply, if_neg hc]
  by_cases hs : a ∈ sets k <;> simp [hs]

/-- Every command keeps two styles raising and lowering alike. -/
theorem SameScript.apply {s₁ s₂ : Style} (h : SameScript s₁ s₂) (k : Command) :
    SameScript (s₁.apply k) (s₂.apply k) := by
  have hkeep : ∀ a, (a = .superscript ∨ a = .subscript) → s₁.get a = s₂.get a →
      (s₁.apply k).get a = (s₂.apply k).get a := by
    intro a ha heq
    rw [get_apply_script s₁ k ha, get_apply_script s₂ k ha, heq]
  refine ⟨hkeep _ (.inl rfl) h.superscript_eq, hkeep _ (.inr rfl) h.subscript_eq, ?_⟩
  change (s₁.apply k).get .superscript = true ∨ (s₁.apply k).get .subscript = true
  rw [get_apply_script s₁ k (.inl rfl), get_apply_script s₁ k (.inr rfl)]
  rcases h.scripted with h | h <;> simp [get, h]

/-- Inside any commands two styles that raise and lower alike still do. -/
theorem SameScript.within {c₁ c₂ : Style} (h : SameScript c₁ c₂) (around : List Command) :
    SameScript (c₁.within around) (c₂.within around) := by
  unfold Style.within
  -- a fold of `apply` over the commands that are not `\vec`
  induction (around.filter (· != .vector)) generalizing c₁ c₂ with
  | nil => exact h
  | cons k ks ih => exact ih (h.apply k)

theorem isPlain_eq_false {s : Style} (h : s.superscript = true ∨ s.subscript = true) :
    s.isPlain = false := by
  rcases h with h | h <;> simp [isPlain, Axis.all, get, h]

/-- A style that raises or lowers keeps only white space, whatever its font axes. -/
theorem SameScript.keeps_eq {s₁ s₂ : Style} (h : SameScript s₁ s₂) (x : Char) :
    s₁.keeps x = s₂.keeps x := by
  have h₂ : s₂.superscript = true ∨ s₂.subscript = true := by
    rw [← h.superscript_eq, ← h.subscript_eq]
    exact h.scripted
  simp [keeps, isPlain_eq_false h.scripted, isPlain_eq_false h₂]

theorem SameScript.missing_eq {s₁ s₂ : Style} (h : SameScript s₁ s₂) :
    s₁.missing = s₂.missing := by
  unfold missing
  rw [h.superscript_eq, h.subscript_eq]

end Style

/-- Styles that raise and lower alike, and do raise or lower, give every character the same
form: the superscript form, or else the subscript form. -/
theorem Style.SameScript.form?_eq {s₁ s₂ : Style} (h : s₁.SameScript s₂) (t : Tables)
    (x : Char) : t.form? s₁ x = t.form? s₂ x := by
  unfold Tables.form?
  rw [← h.superscript_eq, ← h.subscript_eq]
  rcases h.scripted with h | h
  · simp [h]
  · by_cases hsup : s₁.superscript = true <;> simp [hsup, h]

namespace Slot

variable {c₁ c₂ : Style}

/-- Inside a script a slot writes the same character whatever the font axes. -/
theorem output_eq_of_sameScript (h : c₁.SameScript c₂) (t : Tables) (sl : Slot) :
    sl.output t c₁ = sl.output t c₂ := by
  cases sl with
  | char x around =>
      have hw := h.within around
      simp only [output, Tables.shown, hw.keeps_eq x, hw.form?_eq t x]
  | arrow => rfl
  | unknown name => rfl

/-- Inside a script a slot raises a warning exactly when it does from the other style, of the
same kind and for the same character. -/
theorem warning_rel_of_sameScript (h : c₁.SameScript c₂) (t : Tables) (sl : Slot) :
    Option.Rel (fun w₁ w₂ => w₁.kind = w₂.kind ∧ w₁.character = w₂.character)
      (sl.warning t c₁) (sl.warning t c₂) := by
  cases sl with
  | char x around =>
      have hw := h.within around
      simp only [warning, Tables.missed, hw.keeps_eq x, hw.form?_eq t x]
      split
      · exact .none
      · exact .some ⟨hw.missing_eq, rfl⟩
  | arrow => exact .none
  | unknown name => exact .none

end Slot

/-- Scripts absorb font styling.  Rendered from two styles that raise and lower alike, and do
raise or lower, a formula fails in both with the same error or succeeds in both with the
same text; the warnings appended are the same in kind and character, one for one, and differ
at most in the style they name.  So inside a script neither the font axes of the starting
style nor any font command changes the output. -/
theorem Converter.render_within_script (conv : Converter) (f : Formula) {c₁ c₂ : Style}
    (hsup : c₁.superscript = c₂.superscript) (hsub : c₁.subscript = c₂.subscript)
    (hscript : c₁.superscript = true ∨ c₁.subscript = true) :
    (conv.render f c₁).1 = (conv.render f c₂).1 ∧
      List.Forall₂ (fun w₁ w₂ => w₁.kind = w₂.kind ∧ w₁.character = w₂.character)
        (conv.render f c₁).2.pending (conv.render f c₂).2.pending := by
  have hs : c₁.SameScript c₂ := ⟨hsup, hsub, hscript⟩
  have houtput : (f.slots.takeWhile Slot.isKnown).filterMap (Slot.output conv.tables c₁) =
      (f.slots.takeWhile Slot.isKnown).filterMap (Slot.output conv.tables c₂) :=
    List.filterMap_congr fun sl _ => Slot.output_eq_of_sameScript hs conv.tables sl
  have hwarnings : List.Forall₂ (fun w₁ w₂ => w₁.kind = w₂.kind ∧ w₁.character = w₂.character)
      ((f.slots.takeWhile Slot.isKnown).filterMap (Slot.warning conv.tables c₁))
      ((f.slots.takeWhile Slot.isKnown).filterMap (Slot.warning conv.tables c₂)) :=
    List.rel_filterMap (fun sl _ h => h ▸ Slot.warning_rel_of_sameScript hs conv.tables sl)
      (List.forall₂_same.mpr fun _ _ => rfl)
  -- the outputs are equal, and the warnings before this rendering are the same list
  rw [Converter.render_eq, Converter.render_eq]
  simp only [Formula.render_eq_slots, Rendering.result, houtput, true_and]
  exact List.rel_append (List.forall₂_same.mpr fun w _ => ⟨rfl, rfl⟩) hwarnings

theorem Converter.render_within_script_bold :
    (({ tables := {} } : Converter).render ⟨[.literal "x"]⟩
        { superscript := true, bold := true }).1 =
      (({ tables := {} } : Converter).render ⟨[.literal "x"]⟩ { superscript := true }).1 ∧
    List.Forall₂ (fun w₁ w₂ => w₁.kind = w₂.kind ∧ w₁.character = w₂.character)
      (({ tables := {} } : Converter).render ⟨[.literal "x"]⟩
        { superscript := true, bold := true }).2.pending
      (({ tables := {} } : Converter).render ⟨[.literal "x"]⟩ { superscript := true }).2.pending :=
  Converter.render_within_script _ _ rfl rfl (.inl rfl)

end MathUnicode
