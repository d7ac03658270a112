import Mathlib.Data.List.TakeDrop
import Mathlib.Data.List.TakeWhile
import MathUnicode.Tables.Build

/-!
# Reading the tables from the database

What `Tables.ofString` makes of a database text, said line by line.

A line is *relevant* when it is not empty, its sixth field starts with `<`, the part of that
field before its first space is one of the tags `<super>`, `<sub>` and `<font>`, the rest is
exactly one word, and that word and the first field are the hexadecimal codes of scalar
values.  It then maps its glyph, the first field, onto its base, the word, in the layout of
its tag (`Entry.ofLine?`).  A line is *offending* when reading stops at it (`lineFault?`): it
does not have 15 fields, or its first field is not a hexadecimal number of 32 bits, or, only
when it is tagged with one base word, that word or the first field is not the code of a
scalar value.

Main statements:

* `Tables.ofString_eq_error_iff`: reading fails exactly when some line offends, and then with
  the error of the first offending line, numbered from 1 among all lines;
* `Tables.lookups_of_ofString`: after a successful reading, a character's superscript and
  subscript forms are the glyphs of the last relevant lines for it, four Greek letters
  excepted, and its variants are read off all its relevant `<font>` lines, in order.

## Strategy

`Tables.addLine_eq` says once what one line does: it fails with the line's fault, or it
records the line's mapping, if any.  Over the numbered lines this gives `Tables.addLines_eq`
through `foldlM_eq_findSome?`, which says the same of any fold whose step fails with the
element's fault or else moves on; the lookups in a sequence of recorded mappings follow by
induction over the mappings.
-/

namespace MathUnicode

open Std

/-! ## Words -/

namespace Unicode

theorem wordsStep_noWhiteSpace {acc : List (List Char) × List Char} {c : Char}
    (h₁ : ∀ w ∈ acc.1, ∀ x ∈ w, isWhiteSpace x = false) (h₂ : ∀ x ∈ acc.2, isWhiteSpace x = false) :
    (∀ w ∈ (wordsStep acc c).1, ∀ x ∈ w, isWhiteSpace x = false) ∧
      ∀ x ∈ (wordsStep acc c).2, isWhiteSpace x = false := by
  unfold wordsStep
  by_cases hc : isWhiteSpace c = true
  · rw [if_pos hc]
    refine ⟨?_, by simp⟩
    split
    · exact h₁
    · intro w hw
      simp only [List.mem_append, List.mem_singleton] at hw
      rcases hw with hw | rfl
      exacts [h₁ w hw, h₂]
  · rw [if_neg hc]
    refine ⟨h₁, fun x hx => ?_⟩
    simp only [List.mem_append, List.mem_singleton] at hx
    rcases hx with hx | rfl
    exacts [h₂ x hx, by simpa using hc]

/-- Words hold no white space. -/
theorem noWhiteSpace_of_mem_wordsOf {cs w : List Char} (hw : w ∈ wordsOf cs) :
    ∀ x ∈ w, isWhiteSpace x = false := by
  -- every word done and the word being read are free of white space along the fold
  have hfold : ∀ (cs : List Char) (acc : List (List Char) × List Char),
      (∀ w ∈ acc.1, ∀ x ∈ w, isWhiteSpace x = false) → (∀ x ∈ acc.2, isWhiteSpace x = false) →
      (∀ w ∈ (cs.foldl wordsStep acc).1, ∀ x ∈ w, isWhiteSpace x = false) ∧
        ∀ x ∈ (cs.foldl wordsStep acc).2, isWhiteSpace x = false := by
    intro cs
    induction cs with
    | nil => exact fun acc h₁ h₂ => ⟨h₁, h₂⟩
    | cons c cs ih =>
        intro acc h₁ h₂
        obtain ⟨h₁', h₂'⟩ := wordsStep_noWhiteSpace (c := c) h₁ h₂
        exact ih _ h₁' h₂'
  obtain ⟨h₁, h₂⟩ := hfold cs ([], []) (by simp) (by simp)
  unfold wordsOf at hw
  generalize cs.foldl wordsStep ([], []) = p at hw h₁ h₂
  obtain ⟨done, current⟩ := p
  dsimp only at hw h₁ h₂
  split at hw
  · exact h₁ w hw
  · simp only [List.mem_append, List.mem_singleton] at hw
    rcases hw with hw | rfl
    exacts [h₁ w hw, h₂]

theorem trimChars_of_noWhiteSpace {w : List Char} (h : ∀ x ∈ w, isWhiteSpace x = false) :
    trimChars w = w := by
  have hdrop : ∀ l : List Char, (∀ x ∈ l, isWhiteSpace x = false) → l.dropWhile isWhiteSpace = l :=
    fun l hl => List.dropWhile_eq_self_iff.mpr fun h0 => by simp [hl _ (List.getElem_mem h0)]
  unfold trimChars
  rw [hdrop w h, hdrop w.reverse (by simpa using h), List.reverse_reverse]

/-- A word has nothing to trim. -/
theorem trim_of_mem_words {s w : String} (hw : w ∈ words s) : trim w = w := by
  obtain ⟨l, hl, rfl⟩ := List.mem_map.mp hw
  simp [trim, trimChars_of_noWhiteSpace (noWhiteSpace_of_mem_wordsOf hl)]

end Unicode

/-! ## What a line says -/

/-- The layout and base word of a decomposition field: the field starts with `<`, the part
before its first space is one of the three tags, and what follows that space is exactly one
word. -/
def taggedBase? (d : String) : Option (Layout × String) :=
  if d.toList.head? = some '<' then
    match Layout.ofTag? (String.ofList (d.toList.takeWhile (· != ' '))),
        Unicode.words (String.ofList ((d.toList.dropWhile (· != ' ')).drop 1)) with
    | some layout, [word] => some (layout, word)
    | _, _ => none
  else none

/-- A mapping stated by a line of the database: the glyph is a form of the base in the
layout, and the name is the glyph's character name. -/
structure Entry where
  /-- The layout named by the tag. -/
  layout : Layout
  /-- The base character. -/
  base : Char
  /-- The character of the line. -/
  glyph : Char
  /-- The character name of the line. -/
  name : String

/-- The mapping stated by a relevant line: the line is not empty, its sixth field is tagged
with one base word, the word is the hexadecimal code of a scalar value, the base, and so is
the first field, the glyph; the second field is the name. -/
def Entry.ofLine? (line : String) : Option Entry :=
  if line.isEmpty then none
  else
    let fs := Record.fields line
    match taggedBase? (fs.getD 5 "") with
    | none => none
    | some (layout, word) =>
      match (Text.parseHex? word).bind Text.scalar?,
          (Text.parseHex? (Unicode.trim (fs.getD 0 ""))).bind Text.scalar? with
      | some base, some glyph => some ⟨layout, base, glyph, fs.getD 1 ""⟩
      | _, _ => none

/-- Why reading stops at the line numbered `n`, if it does.  The checks come in this order:
the number of fields; the first field as a hexadecimal number of 32 bits, reported as
written; and only for a decomposition tagged with one base word, that word as the code of a
scalar value, reported as written, and then the first field as one, reported as its number
in hexadecimal. -/
def lineFault? (n : Nat) (line : String) : Option BuildError :=
  if line.isEmpty then none
  else
    let fs := Record.fields line
    if fs.length ≠ fieldCount then some (.malformedRecord n fs.length)
    else
      match Text.parseHex? (Unicode.trim (fs.getD 0 "")) with
      | none => some (.invalidCodePoint n (fs.getD 0 ""))
      | some code =>
        match taggedBase? (fs.getD 5 "") with
        | none => none
        | some (_, word) =>
          if ((Text.parseHex? word).bind Text.scalar?).isNone then
            some (.invalidCodePoint n word)
          else if (Text.scalar? code).isNone then
            some (.invalidCodePoint n (Text.hex4 code))
          else none

/-- The styling that the words of a character name announce: a flag is set exactly when its
word is among them. -/
def Variant.named (glyph : Char) (words : List String) : Variant where
  glyph := glyph
  bold := words.contains "BOLD"
  doubleStruck := words.contains "DOUBLE-STRUCK"
  fraktur := words.contains "FRAKTUR" || words.contains "BLACK-LETTER"
  italic := words.contains "ITALIC"
  mathematical := words.contains "MATHEMATICAL"
  monospace := words.contains "MONOSPACE"
  sansSerif := words.contains "SANS-SERIF"
  script := words.contains "SCRIPT"

/-- A base word reads as a scalar value exactly when it is the hexadecimal code of one; it is
reported as written otherwise. -/
theorem Record.parseScalar_eq (n : Nat) {word : String} (hw : Unicode.trim word = word) :
    Record.parseScalar n word =
      match (Text.parseHex? word).bind Text.scalar? with
      | some c => .ok c
      | none => .error (.invalidCodePoint n word) := by
  unfold Record.parseScalar Record.parseCodePoint
  rw [hw]
  cases Text.parseHex? word with
  | none => rfl
  | some b => cases Text.scalar? b <;> rfl

/-- A fold whose step fails with the fault of the element, if it has one, and otherwise moves
on, fails with the first fault, and otherwise is the plain fold of the moves. -/
theorem foldlM_eq_findSome? {σ α ε : Type} {step : σ → α → Except ε σ}
    (fault : α → Option ε) (next : σ → α → σ)
    (hstep : ∀ t x, step t x =
      match fault x with
      | some e => .error e
      | none => .ok (next t x))
    (xs : List α) (t : σ) :
    xs.foldlM step t =
      match xs.findSome? fault with
      | some e => .error e
      | none => .ok (xs.foldl next t) := by
  induction xs generalizing t with
  | nil => rfl
  | cons x xs ih =>
      rw [List.foldlM_cons, hstep, List.findSome?_cons]
      cases fault x with
      | some e => rfl
      | none => exact ih (next t x)

namespace Tables

/-- Records the mapping of an entry. -/
def addEntry (t : Tables) (e : Entry) : Tables :=
  t.addMapping e.layout e.base e.glyph e.name

/-! ## One line -/

theorem mapping?_eq_taggedBase? (r : Record) : r.mapping? = taggedBase? r.decomposition := by
  unfold Record.mapping? Record.splitTag taggedBase?
  by_cases he : r.decomposition.isEmpty = true
  · have hd : r.decomposition = "" := String.isEmpty_iff.mp he
    simp [hd]
  · by_cases hl : r.decomposition.toList.head? = some '<'
    · simp only [he, hl, if_true, Bool.false_eq_true, if_false, List.span_eq_takeWhile_dropWhile,
        Option.bind_some]
      split <;> split <;> simp_all
    · simp [he, hl]

/-- The base word of a tagged decomposition has nothing to trim. -/
theorem trim_of_taggedBase? {d word : String} {layout : Layout}
    (h : taggedBase? d = some (layout, word)) : Unicode.trim word = word := by
  unfold taggedBase? at h
  split at h
  · split at h
    · rename_i hw
      simp only [Option.some.injEq, Prod.mk.injEq] at h
      obtain ⟨-, rfl⟩ := h
      exact Unicode.trim_of_mem_words (by rw [hw]; simp)
    · cases h
  · cases h

/-- One line fails with its fault, or records its mapping, if it states one. -/
theorem addLine_eq (t : Tables) (n : Nat) (line : String) :
    t.addLine n line =
      match lineFault? n line with
      | some err => .error err
      | none => .ok ((Entry.ofLine? line).elim t t.addEntry) := by
  unfold addLine lineFault? Entry.ofLine?
  by_cases he : line.isEmpty = true
  · simp [he]
  simp only [he, Bool.false_eq_true, if_false, Record.parse, Record.parseCodePoint]
  by_cases hn : (Record.fields line).length = fieldCount
  · simp only [hn, if_true, ne_eq, not_true_eq_false, if_false]
    cases hc : Text.parseHex? (Unicode.trim ((Record.fields line).getD 0 "")) with
    | none => simp [bind, Except.bind]
    | some code =>
        simp only [bind, Except.bind, pure, Except.pure]
        rw [mapping?_eq_taggedBase?]
        dsimp only
        cases ht : taggedBase? ((Record.fields line).getD 5 "") with
        | none => rfl
        | some p =>
            obtain ⟨layout, word⟩ := p
            dsimp only
            rw [Record.parseScalar_eq n (trim_of_taggedBase? ht)]
            -- the base is checked before the glyph
            cases hb : (Text.parseHex? word).bind Text.scalar? with
            | none => rfl
            | some base =>
                cases hg : Text.scalar? code with
                | none => rfl
                | some glyph => simp [hg, addEntry]
  · simp [hn, bind, Except.bind]

/-! ## All lines -/

/-- Reading numbered lines fails with the fault of the first offending line, or else records
the mappings of the relevant lines in order. -/
theorem addLines_eq (t : Tables) (ls : List (String × Nat)) :
    t.addLines ls =
      match ls.findSome? (fun l => lineFault? l.2 l.1) with
      | some err => .error err
      | none => .ok ((ls.filterMap fun l => Entry.ofLine? l.1).foldl addEntry t) := by
  rw [addLines, foldlM_eq_findSome? (fun l => lineFault? l.2 l.1)
    (fun t l => (Entry.ofLine? l.1).elim t t.addEntry)
    (fun t l => by rw [addLine_eq]; cases lineFault? l.2 l.1 <;> rfl), List.foldl_filterMap]
  cases ls.findSome? (fun l => lineFault? l.2 l.1) with
  | some err => rfl
  | none =>
      -- the lines that state no mapping leave the tables as they are
      dsimp only
      congr 2
      funext t l
      cases Entry.ofLine? l.1 <;> rfl

/-- Reading a database text fails with the fault of its first offending line, numbered from 1;
otherwise it records the mappings of its relevant lines in order and then the four Greek
superscripts. -/
theorem ofString_eq (data : String) :
    ofString data =
      match ((Text.lines data).zipIdx 1).findSome? (fun l => lineFault? l.2 l.1) with
      | some err => .error err
      | none => .ok (finish (((Text.lines data).filterMap Entry.ofLine?).foldl addEntry {})) := by
  have hlines : (((Text.lines data).zipIdx 1).filterMap fun l => Entry.ofLine? l.1) =
      (Text.lines data).filterMap Entry.ofLine? := by
    rw [← List.zipIdx_map_fst 1 (Text.lines data), List.filterMap_map, List.zipIdx_map_fst]
    rfl
  rw [ofString, addLines_eq, hlines]
  split <;> rfl

/-! ## Lookups -/

/-- The table of the single forms of a layout: the superscripts or the subscripts; a font
has variants instead. -/
def forms (t : Tables) : Layout → HashMap Nat Char
  | .superscript => t.superscripts
  | .subscript => t.subscripts
  | .font => {}

theorem superscript?_eq_forms (t : Tables) (x : Char) :
    t.superscript? x = (t.forms .superscript)[x.toNat]? :=
  rfl

theorem subscript?_eq_forms (t : Tables) (x : Char) :
    t.subscript? x = (t.forms .subscript)[x.toNat]? :=
  rfl

theorem forms_addEntry (t : Tables) (e : Entry) {l : Layout} (hl : l ≠ .font) (x : Char) :
    ((t.addEntry e).forms l)[x.toNat]? =
      if e.layout = l ∧ e.base = x then some e.glyph else (t.forms l)[x.toNat]? := by
  cases l <;> cases he : e.layout <;>
    simp_all [forms, addEntry, addMapping, HashMap.getElem?_insert, Char.toNat_inj]

/-- After a sequence of mappings, the single form of `x` is the glyph of the last mapping
onto `x` in the layout, if there is one. -/
theorem forms_foldl_addEntry (es : List Entry) (t : Tables) {l : Layout} (hl : l ≠ .font)
    (x : Char) :
    ((es.foldl addEntry t).forms l)[x.toNat]? =
      ((es.filter fun e => e.layout = l ∧ e.base = x).getLast?.map (·.glyph)).or
        (t.forms l)[x.toNat]? := by
  induction es generalizing t with
  | nil => simp
  | cons e es ih =>
      rw [List.foldl_cons, ih, forms_addEntry t e hl x]
      by_cases hp : e.layout = l ∧ e.base = x
      · rw [if_pos hp, List.filter_cons_of_pos (by simpa using hp), List.getLast?_cons]
        cases (es.filter fun e => e.layout = l ∧ e.base = x).getLast? <;> simp
      · rw [if_neg hp, List.filter_cons_of_neg (by simpa using hp)]

theorem variantsOf_addEntry (t : Tables) (e : Entry) (x : Char) :
    (t.addEntry e).variantsOf x =
      if e.layout = .font ∧ e.base = x then t.variantsOf x ++ [Variant.ofName e.glyph e.name]
      else t.variantsOf x := by
  cases he : e.layout with
  | font =>
      by_cases hb : e.base = x
      · simp [variantsOf, addEntry, addMapping, he, hb]
      · simp [variantsOf, addEntry, addMapping, he, hb, HashMap.getD_insert, Char.toNat_inj]
  | superscript => simp [variantsOf, addEntry, addMapping, he]
  | subscript => simp [variantsOf, addEntry, addMapping, he]

/-- After a sequence of mappings, the variants of `x` are followed by those of the font
mappings onto `x`, in order. -/
theorem variantsOf_foldl_addEntry (es : List Entry) (t : Tables) (x : Char) :
    (es.foldl addEntry t).variantsOf x =
      t.variantsOf x ++
        (es.filter fun e => e.layout = .font ∧ e.base = x).map fun e =>
          Variant.ofName e.glyph e.name := by
  induction es generalizing t with
  | nil => simp
  | cons e es ih =>
      rw [List.foldl_cons, ih, variantsOf_addEntry]
      by_cases hp : e.layout = .font ∧ e.base = x <;> simp [hp]

theorem superscript?_finish (t : Tables) (x : Char) :
    (finish t).superscript? x =
      ([('\u03B1', '\u1D45'), ('\u03F5', '\u1D4B'), ('\u03B9', '\u1DA5'),
        ('\u03D5', '\u1DB2')].lookup x).or (t.superscript? x) := by
  simp only [finish, superscript?, greekSuperscripts, List.foldl_cons, List.foldl_nil,
    HashMap.getElem?_insert]
  by_cases h₁ : x = '\u03B1'
  · subst h₁; simp
  by_cases h₂ : x = '\u03F5'
  · subst h₂; simp [List.lookup_cons]
  by_cases h₃ : x = '\u03B9'
  · subst h₃; simp [List.lookup_cons]
  by_cases h₄ : x = '\u03D5'
  · subst h₄; simp [List.lookup_cons]
  -- any other character keeps the form the database gives it
  have hne : ∀ c : Char, x ≠ c → (c.toNat == x.toNat) = false := fun c h => by
    simpa [Char.toNat_inj] using Ne.symm h
  have hbeq : ∀ c : Char, x ≠ c → (x == c) = false := fun c h => by simpa using h
  simp only [List.lookup_cons, List.lookup_nil]
  rw [hne _ h₄, hne _ h₃, hne _ h₂, hne _ h₁, hbeq _ h₁, hbeq _ h₂, hbeq _ h₃, hbeq _ h₄]
  simp

theorem subscript?_finish (t : Tables) (x : Char) : (finish t).subscript? x = t.subscript? x :=
  rfl

theorem variantsOf_finish (t : Tables) (x : Char) : (finish t).variantsOf x = t.variantsOf x :=
  rfl

end Tables

/-! ## Character names -/

theorem Variant.foldl_readWord (v : Variant) (ws : List String) :
    ws.foldl readWord v =
      { glyph := v.glyph
        bold := v.bold || ws.contains "BOLD"
        doubleStruck := v.doubleStruck || ws.contains "DOUBLE-STRUCK"
        fraktur := v.fraktur || ws.contains "FRAKTUR" || ws.contains "BLACK-LETTER"
        italic := v.italic || ws.contains "ITALIC"
        mathematical := v.mathematical || ws.contains "MATHEMATICAL"
        monospace := v.monospace || ws.contains "MONOSPACE"
        sansSerif := v.sansSerif || ws.contains "SANS-SERIF"
        script := v.script || ws.contains "SCRIPT" } := by
  induction ws generalizing v with
  | nil => simp
  | cons w ws ih =>
      rw [List.foldl_cons, ih]
      unfold readWord
      split
      all_goals simp_all
      -- a word that names no flag adds none
      simp_all [@eq_comm String _ w]

/-- A glyph's styling has exactly the flags whose words its character name holds. -/
theorem Variant.ofName_eq_named (glyph : Char) (name : String) :
    Variant.ofName glyph name = Variant.named glyph (name.splitOn " ") := by
  rw [ofName, foldl_readWord]
  simp [named]

namespace Tables

/-! ## Main statements -/

/-- Reading a database text fails exactly when one of its lines offends, and then with the
fault of the first offending line, lines numbered from 1 with the empty ones counted. -/
theorem ofString_eq_error_iff (data : String) (err : BuildError) :
    ((∃ e, ofString data = .error e) ↔
        ∃ l ∈ (Text.lines data).zipIdx 1, (lineFault? l.2 l.1).isSome) ∧
      (ofString data = .error err ↔
        ∃ pre l post, (Text.lines data).zipIdx 1 = pre ++ l :: post ∧
          lineFault? l.2 l.1 = some err ∧ ∀ p ∈ pre, lineFault? p.2 p.1 = none) := by
  rw [ofString_eq, ← List.findSome?_isSome_iff, ← List.findSome?_eq_some_iff]
  cases ((Text.lines data).zipIdx 1).findSome? (fun l => lineFault? l.2 l.1) <;> simp

/-- The tables read from a database text: a character's superscript form is that of the
four Greek overrides, else the glyph of the last relevant `<super>` line for it; its
subscript form is the glyph of the last relevant `<sub>` line for it; and its variants are
read off its relevant `<font>` lines, in order, from the words of their names. -/
theorem lookups_of_ofString {data : String} {T : Tables} (h : ofString data = .ok T)
    (x : Char) :
    T.superscript? x =
        ([('\u03B1', '\u1D45'), ('\u03F5', '\u1D4B'), ('\u03B9', '\u1DA5'),
          ('\u03D5', '\u1DB2')].lookup x).or
          ((((Text.lines data).filterMap Entry.ofLine?).filter fun e =>
            e.layout = .superscript ∧ e.base = x).getLast?.map (·.glyph)) ∧
      T.subscript? x =
        (((Text.lines data).filterMap Entry.ofLine?).filter fun e =>
          e.layout = .subscript ∧ e.base = x).getLast?.map (·.glyph) ∧
      T.variantsOf x =
        (((Text.lines data).filterMap Entry.ofLine?).filter fun e =>
          e.layout = .font ∧ e.base = x).map fun e => Variant.named e.glyph (e.name.splitOn " ") := by
  rw [ofString_eq] at h
  split at h
  · cases h
  · obtain rfl := Except.ok.inj h
    refine ⟨?_, ?_, ?_⟩
    · rw [superscript?_finish, superscript?_eq_forms, forms_foldl_addEntry _ _ (by decide)]
      simp [forms]
    · rw [subscript?_finish, subscript?_eq_forms, forms_foldl_addEntry _ _ (by decide)]
      simp [forms]
    · rw [variantsOf_finish, variantsOf_foldl_addEntry]
      simp [variantsOf, Variant.ofName_eq_named]

/-- The modifier letter small a is read as the superscript form of `a`. -/
theorem lookups_of_ofString_small_a :
    ∃ T, ofString "1D43;MODIFIER LETTER SMALL A;Lm;0;L;<super> 0061;;;;N;;;;;" = .ok T ∧
      (T.superscript? 'a' =
          ([('\u03B1', '\u1D45'), ('\u03F5', '\u1D4B'), ('\u03B9', '\u1DA5'),
            ('\u03D5', '\u1DB2')].lookup 'a').or
            ((((Text.lines "1D43;MODIFIER LETTER SMALL A;Lm;0;L;<super> 0061;;;;N;;;;;").filterMap
              Entry.ofLine?).filter fun e => e.layout = .superscript ∧ e.base = 'a').getLast?.map
                (·.glyph)) ∧
        T.subscript? 'a' =
          (((Text.lines "1D43;MODIFIER LETTER SMALL A;Lm;0;L;<super> 0061;;;;N;;;;;").filterMap
            Entry.ofLine?).filter fun e => e.layout = .subscript ∧ e.base = 'a').getLast?.map
              (·.glyph) ∧
        T.variantsOf 'a' =
          (((Text.lines "1D43;MODIFIER LETTER SMALL A;Lm;0;L;<super> 0061;;;;N;;;;;").filterMap
            Entry.ofLine?).filter fun e => e.layout = .font ∧ e.base = 'a').map
              fun e => Variant.named e.glyph (e.name.splitOn " ")) :=
  ⟨_, rfl, lookups_of_ofString rfl 'a'⟩

end Tables

end MathUnicode
