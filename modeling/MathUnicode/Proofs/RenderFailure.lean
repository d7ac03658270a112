import MathUnicode.Proofs.RenderSemantics

/-!
# Failed renderings and the warning buffer

A rendering fails exactly when the formula names a symbol that the catalog lacks, and then
it fails at the first such symbol in document order (`Formula.firstUnknown?`).  The
warnings it raised before that symbol stay in the converter: a rendering appends the
warnings of the slots before its first unknown one (`Formula.raised`), whether it
succeeds or not.

So a converter is a buffer of warnings.  Over any session of calls, each take returns the
warnings raised by the renderings since the take before it, in order, and leaves the
buffer empty (`Call.takes`).

Main statement: `Converter.render_failure_and_warnings`.

## Strategy

The unknown slots of a formula are its unknown symbols, in order
(`Node.unknowns_slots`, by structural recursion on the nodes), so the first unknown slot,
where the rendering stops, is the first unknown symbol.  The session law is a run lemma:
by induction on the calls, from what one rendering does to the buffer
(`Converter.render_pending`).
-/

namespace MathUnicode

open Markup

/-- Whether the catalog lacks the symbol `name`. -/
def Symbols.isUnknown (name : String) : Bool :=
  (Symbols.lookup? name).isNone

namespace Markup

mutual

/-- The names of the symbols of a node, in document order. -/
def Node.symbols : Node → List String
  | .literal _ => []
  | .symbol name => [name]
  | .apply _ ns => Node.symbolsList ns

/-- The names of the symbols of a sequence of nodes, in document order. -/
def Node.symbolsList : List Node → List String
  | [] => []
  | n :: ns => Node.symbols n ++ Node.symbolsList ns

end

/-- The names of the symbols of a formula, in document order. -/
def Formula.symbols (f : Formula) : List String :=
  Node.symbolsList f.nodes

/-- The first symbol of the formula, in document order, that the catalog lacks. -/
def Formula.firstUnknown? (f : Formula) : Option String :=
  f.symbols.find? Symbols.isUnknown

/-- The warnings a rendering of the formula raises from the style `c`: those of the slots
before its first unknown symbol. -/
def Formula.raised (t : Tables) (c : Style) (f : Formula) : List Warning :=
  (f.slots.takeWhile Slot.isKnown).filterMap (Slot.warning t c)

/-! ## Unknown slots are unknown symbols -/

mutual

/-- The unknown slots of a node are its unknown symbols, in order. -/
theorem Node.unknowns_slots :
    ∀ (around : List Command) (n : Node),
      (n.slots around).filterMap Slot.unknown? = n.symbols.filter Symbols.isUnknown
  | around, .literal text => by
      simp [Node.slots, Node.symbols, List.filterMap_map, Function.comp_def, Slot.unknown?]
  | around, .symbol name => by
      unfold Node.slots
      cases h : Symbols.lookup? name <;>
        simp [Node.symbols, Symbols.isUnknown, h, Slot.unknown?]
  | around, .apply k ns => by
      rw [Node.slots_apply, List.filterMap_append, Node.unknowns_slotsList (around ++ [k]) ns]
      by_cases hk : k = .vector
      · simp [hk, Node.symbols, Slot.unknown?]
      · simp [hk, Node.symbols]

/-- The unknown slots of a sequence of nodes are its unknown symbols, in order. -/
theorem Node.unknowns_slotsList :
    ∀ (around : List Command) (ns : List Node),
      (Node.slotsList around ns).filterMap Slot.unknown? =
        (Node.symbolsList ns).filter Symbols.isUnknown
  | _, [] => rfl
  | around, n :: ns => by
      rw [Node.slotsList, Node.symbolsList, List.filterMap_append, List.filter_append,
        Node.unknowns_slots around n, Node.unknowns_slotsList around ns]

end

/-- The first unknown slot of a formula is its first unknown symbol. -/
theorem Formula.findSome?_slots (f : Formula) :
    f.slots.findSome? Slot.unknown? = f.firstUnknown? := by
  rw [Formula.firstUnknown?, ← List.head?_filterMap, ← List.head?_filter, Formula.slots,
    Formula.symbols, Node.unknowns_slotsList]

theorem Formula.firstUnknown?_isSome_iff (f : Formula) :
    f.firstUnknown?.isSome ↔ ∃ n ∈ f.symbols, Symbols.lookup? n = none := by
  simp [Formula.firstUnknown?, Symbols.isUnknown, List.find?_isSome]

end Markup

/-! ## One rendering -/

namespace Converter

/-- A rendering stops at the first unknown symbol; otherwise it writes its slots. -/
theorem render_result (conv : Converter) (f : Formula) (c : Style) :
    (conv.render f c).1 = match f.firstUnknown? with
      | some name => .error (.unknownSymbol name)
      | none => .ok (String.ofList (f.slots.filterMap (Slot.output conv.tables c))) := by
  have hr := Formula.render_eq_slots conv.tables c f
  rw [Formula.findSome?_slots] at hr
  rw [Converter.render_eq]
  simp only [Rendering.result, hr]
  cases hfirst : f.firstUnknown? with
  | some name => rfl
  | none =>
      -- with no unknown symbol, no slot stops the rendering
      rw [← Formula.findSome?_slots] at hfirst
      rw [Slot.takeWhile_isKnown_of_findSome?_eq_none hfirst]

/-- A rendering, failed or not, appends the warnings it raised. -/
theorem render_pending (conv : Converter) (f : Formula) (c : Style) :
    (conv.render f c).2.pending = conv.pending ++ f.raised conv.tables c := by
  rw [Converter.render_eq, Formula.render_eq_slots, Formula.raised]

@[simp] theorem render_tables (conv : Converter) (f : Formula) (c : Style) :
    (conv.render f c).2.tables = conv.tables := by
  rw [Converter.render_eq]

end Converter

/-! ## Sessions -/

/-- A call on a converter: a rendering, or a take of the pending warnings. -/
inductive Call
  | render (f : Formula) (c : Style)
  | take

/-- Makes the calls one after the other on the converter; returns what each take returned,
in order, and the converter after the calls. -/
def Converter.session : Converter → List Call → List (List Warning) × Converter
  | conv, [] => ([], conv)
  | conv, .render f c :: calls => Converter.session (conv.render f c).2 calls
  | conv, .take :: calls =>
    let (taken, rest) := Converter.session conv.takeWarnings.2 calls
    (conv.takeWarnings.1 :: taken, rest)

/-- What the takes of a session return: each take returns `acc`, the warnings raised by the
renderings since the take before it, and the warnings gather again from none. -/
def Call.takes (t : Tables) : List Warning → List Call → List (List Warning)
  | _, [] => []
  | acc, .render f c :: calls => Call.takes t (acc ++ f.raised t c) calls
  | acc, .take :: calls => acc :: Call.takes t [] calls

/-- Each take of a session returns the warnings of the renderings since the take before
it, after the warnings pending at the start for the first take. -/
theorem Converter.session_takes (conv : Converter) (calls : List Call) :
    (conv.session calls).1 = Call.takes conv.tables conv.pending calls := by
  induction calls generalizing conv with
  | nil => rfl
  | cons call calls ih =>
      cases call with
      | render f c =>
          rw [Converter.session, ih, Converter.render_pending, Converter.render_tables]
          rfl
      | take =>
          simp only [Converter.session, Call.takes, ih]
          rfl

/-! ## Main statement -/

/-- A rendering fails exactly when the formula names a symbol that the catalog lacks, and
then with the first such symbol in document order.  Failed or not, it appends the warnings
of the characters before that symbol, all of them when it succeeds; and over any session,
each take returns the warnings of the renderings since the take before it. -/
theorem Converter.render_failure_and_warnings (conv : Converter) (f : Formula) (c : Style) :
    ((∃ e, (conv.render f c).1 = .error e) ↔ ∃ n ∈ f.symbols, Symbols.lookup? n = none) ∧
      (conv.render f c).1 = (match f.firstUnknown? with
        | some name => .error (.unknownSymbol name)
        | none => .ok (String.ofList (f.slots.filterMap (Slot.output conv.tables c)))) ∧
      (conv.render f c).2.pending = conv.pending ++ f.raised conv.tables c ∧
      (∀ out, (conv.render f c).1 = .ok out →
        (conv.render f c).2.pending =
          conv.pending ++ f.slots.filterMap (Slot.warning conv.tables c)) ∧
      ∀ calls, (conv.session calls).1 = Call.takes conv.tables conv.pending calls := by
  have hresult := Converter.render_result conv f c
  refine ⟨?_, hresult, Converter.render_pending conv f c, ?_, Converter.session_takes conv⟩
  · -- failing is having a first unknown symbol
    rw [hresult, ← Formula.firstUnknown?_isSome_iff]
    cases f.firstUnknown? with
    | some name => simp
    | none => simp
  · -- a rendering that succeeds meets no unknown symbol, so it raises every warning
    intro out hok
    have hnone : f.firstUnknown? = none := by
      rw [hresult] at hok
      cases hfirst : f.firstUnknown? with
      | none => rfl
      | some name => simp [hfirst] at hok
    rw [← Formula.findSome?_slots] at hnone
    rw [Converter.render_pending, Formula.raised,
      Slot.takeWhile_isKnown_of_findSome?_eq_none hnone]

theorem render_vector_raises_all :
    (({ tables := {} } : Converter).render ⟨[.apply .vector [.literal "a"]]⟩ .plain).1 =
        .ok "a⃗" ∧
      (({ tables := {} } : Converter).render ⟨[.apply .vector [.literal "a"]]⟩ .plain).2.pending =
        ({ tables := {} } : Converter).pending ++
          (Formula.slots ⟨[.apply .vector [.literal "a"]]⟩).filterMap
            (Slot.warning ({ tables := {} } : Converter).tables .plain) :=
  ⟨by rfl,
    (Converter.render_failure_and_warnings { tables := {} } ⟨[.apply .vector [.literal "a"]]⟩
      .plain).2.2.2.1 "a⃗" (by rfl)⟩

example :
    (({ tables := {} } : Converter).render ⟨[.literal "x", .symbol "nosuch", .symbol "none"]⟩
      .plain).1 = .error (.unknownSymbol "nosuch") := by
  rfl

end MathUnicode
