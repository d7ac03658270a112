import MathUnicode.Proofs.Grammar
import MathUnicode.Proofs.ReaderSound

/-!
# What a formula keeps of its text

The documentation reads a text as a sequence of lexemes: characters of text (an escape `\c`
stands for the character `c`), control words (a backslash that does not start an escape,
with the longest run of letters and digits after it), script operators and braces.  `lex`
spells this reading out as a small state machine that knows nothing of groups or nodes.

A parsed formula loses, duplicates and reorders nothing of that reading:

* its literal text, in document order, is the text's characters (`Formula.text`,
  `plainText`);
* its symbols and commands, in document order, are its control words and operators, a
  control word followed by a brace being the command it names (`Formula.heads`,
  `Lexeme.Names`);
* every literal is a maximal run of text: no node list holds an empty literal or two
  literals side by side (`Node.wellSplitList`).

Main statement: `Formula.parse_keeps_content`.

## Strategy

By induction on the reading relation that `Formula.reads_of_parse` gives: an item read with
the rest of the text after it lexes to the item's own lexemes followed by those of the
rest (`Reads.spells`).  A symbol is the one item after which the lexer is not back in text:
it is still inside the name, and the character after the item, never a letter, a digit or
a brace, ends the control word before it is read as text (`lexFrom_word`).
-/

namespace MathUnicode.Markup

/-! ## Lexemes -/

/-- A lexical unit of the markup. -/
inductive Lexeme
  /-- A character of text; an escape stands for the character it escapes. -/
  | char (c : Char)
  /-- A control word, and whether a brace follows it at once. -/
  | word (name : String) (braced : Bool)
  /-- An unescaped script operator. -/
  | operator (op : Char)
  /-- An unescaped brace. -/
  | brace (c : Char)
  deriving DecidableEq, Repr

/-- Where the lexer stands: in text, after a backslash, or inside the name of a control
word. -/
inductive LexState
  | text
  | backslash
  | name (n : List Char)
  deriving DecidableEq, Repr

namespace LexState

/-- Reads a character in text. -/
def ofText : Char → LexState × List Lexeme
  | '\\' => (backslash, [])
  | '^' => (text, [.operator '^'])
  | '_' => (text, [.operator '_'])
  | '{' => (text, [.brace '{'])
  | '}' => (text, [.brace '}'])
  | c => (text, [.char c])

/-- Ends the control word named `n` at the character `c` after it, then reads `c` in
text. -/
def endWord (n : List Char) (c : Char) : LexState × List Lexeme :=
  ((ofText c).1, .word (String.ofList n) (c == '{') :: (ofText c).2)

/-- Reads one character. -/
def next : LexState → Char → LexState × List Lexeme
  | text, c => ofText c
  | backslash, c =>
    if isEscapable c then (text, [.char c])
    else if Unicode.isAlphanumeric c then (name [c], [])
    else endWord [] c
  | name n, c => if Unicode.isAlphanumeric c then (name (n ++ [c]), []) else endWord n c

/-- What is left at the end of the text: the control word it ends in. -/
def close : LexState → List Lexeme
  | text => []
  | backslash => [.word "" false]
  | name n => [.word (String.ofList n) false]

end LexState

/-- The lexemes of a text read from the state `st`. -/
def lexFrom : LexState → List Char → List Lexeme
  | st, [] => st.close
  | st, c :: s => (st.next c).2 ++ lexFrom (st.next c).1 s

/-- The lexemes of a text. -/
def lex (s : String) : List Lexeme :=
  lexFrom .text s.toList

namespace Lexeme

/-- The character of text a lexeme stands for. -/
@[simp] def char? : Lexeme → Option Char
  | char c => some c
  | word .. | operator _ | brace _ => none

/-- Whether a lexeme stands for a node of its own: a control word or an operator. -/
@[simp] def isHead : Lexeme → Bool
  | word .. | operator _ => true
  | char _ | brace _ => false

end Lexeme

/-- The text of a markup text: escapes resolved, control words, operators and braces
dropped. -/
def plainText (s : String) : String :=
  String.ofList ((lex s).filterMap Lexeme.char?)

example : plainText "\\mathbf{x}^2 + \\alpha\\_1" = "x2 + _1" := by decide

/-! ## Literal text, symbols and commands of a formula -/

/-- A node that stands for a control word or an operator of the text. -/
inductive Head
  | symbol (name : String)
  | command (k : Command)
  deriving DecidableEq, Repr

/-- The node a lexeme becomes: a control word followed by a brace is the command it names,
any other control word a symbol, and an operator its script. -/
def Lexeme.Names : Lexeme → Head → Prop
  | .word n false, .symbol m => n = m
  | .word n true, .command k => Command.ofName? n = some k
  | .operator op, .command k => Command.ofOperator? op = some k
  | _, _ => False

mutual

/-- The literal text of a node, in document order. -/
def Node.text : Node → List Char
  | .literal t => t.toList
  | .symbol _ => []
  | .apply _ ns => Node.textList ns

/-- The literal text of a sequence of nodes, in document order. -/
def Node.textList : List Node → List Char
  | [] => []
  | n :: ns => Node.text n ++ Node.textList ns

end

mutual

/-- The symbols and commands of a node, in document order. -/
def Node.heads : Node → List Head
  | .literal _ => []
  | .symbol n => [.symbol n]
  | .apply k ns => .command k :: Node.headsList ns

/-- The symbols and commands of a sequence of nodes, in document order. -/
def Node.headsList : List Node → List Head
  | [] => []
  | n :: ns => Node.heads n ++ Node.headsList ns

end

/-- Whether a node is a run of text. -/
def Node.isLiteral : Node → Bool
  | .literal _ => true
  | _ => false

mutual

/-- Every run of text in the node is nonempty and stands alone in its node list. -/
def Node.wellSplit : Node → Bool
  | .literal t => !t.isEmpty
  | .symbol _ => true
  | .apply _ ns => Node.wellSplitList ns

/-- No node list in the sequence holds an empty literal or two literals side by side. -/
def Node.wellSplitList : List Node → Bool
  | [] => true
  | n :: ns =>
    Node.wellSplit n && !(n.isLiteral && ns.head?.any Node.isLiteral) && Node.wellSplitList ns

end

/-- The literal text of a formula, in document order. -/
def Formula.text (f : Formula) : String :=
  String.ofList (Node.textList f.nodes)

/-- The symbols and commands of a formula, in document order. -/
def Formula.heads (f : Formula) : List Head :=
  Node.headsList f.nodes

/-! ## The lexer on each kind of item -/

theorem LexState.ofText_of_isEscapable_eq_false {c : Char} (h : isEscapable c = false) :
    ofText c = (text, [.char c]) := by
  simp only [isEscapable, Bool.or_eq_false_iff, beq_eq_false_iff_ne, ne_eq] at h
  obtain ⟨⟨⟨⟨h₁, h₂⟩, h₃⟩, h₄⟩, h₅⟩ := h
  unfold ofText
  split <;> simp_all

@[simp] theorem lexFrom_nil (st : LexState) : lexFrom st [] = st.close := rfl

theorem lexFrom_cons (st : LexState) (c : Char) (s : List Char) :
    lexFrom st (c :: s) = (st.next c).2 ++ lexFrom (st.next c).1 s := rfl

theorem lexFrom_char {c : Char} {s : List Char} (h : isEscapable c = false) :
    lexFrom .text (c :: s) = .char c :: lexFrom .text s := by
  simp [lexFrom_cons, LexState.next, LexState.ofText_of_isEscapable_eq_false h]

theorem lexFrom_escape {c : Char} {s : List Char} (h : isEscapable c = true) :
    lexFrom .text ('\\' :: c :: s) = .char c :: lexFrom .text s := by
  simp [lexFrom_cons, LexState.next, LexState.ofText, h]

theorem lexFrom_operator {op : Char} {k : Command} {s : List Char}
    (h : Command.ofOperator? op = some k) :
    lexFrom .text (op :: s) = .operator op :: lexFrom .text s := by
  rcases ofOperator?_eq_some h with rfl | rfl <;> rfl

theorem lexFrom_brace {c : Char} {s : List Char} (h : c = '{' ∨ c = '}') :
    lexFrom .text (c :: s) = .brace c :: lexFrom .text s := by
  rcases h with rfl | rfl <;> rfl

/-- Inside a name, letters and digits only lengthen it. -/
theorem lexFrom_name_append {n name s : List Char}
    (h : ∀ c ∈ name, Unicode.isAlphanumeric c = true) :
    lexFrom (.name n) (name ++ s) = lexFrom (.name (n ++ name)) s := by
  induction name generalizing n with
  | nil => simp
  | cons c name ih =>
      have hc := h c (by simp)
      rw [List.cons_append, lexFrom_cons]
      simp only [LexState.next, hc, if_true, List.nil_append]
      rw [ih fun x hx => h x (by simp [hx])]
      simp

/-- A name ends at the first character that is not a letter or a digit, or at the end of
the text; the control word is braced when that character is a brace. -/
theorem lexFrom_name_end {n s : List Char}
    (h : ∀ c ∈ s.head?, Unicode.isAlphanumeric c = false) :
    lexFrom (.name n) s = .word (String.ofList n) (s.head? == some '{') :: lexFrom .text s := by
  cases s with
  | nil => rfl
  | cons c s =>
      have hc := h c rfl
      simp [lexFrom_cons, LexState.next, hc, LexState.endWord]

theorem lexFrom_backslash_end {s : List Char}
    (h : ∀ c ∈ s.head?, isEscapable c = false ∧ Unicode.isAlphanumeric c = false) :
    lexFrom .backslash s = .word "" (s.head? == some '{') :: lexFrom .text s := by
  cases s with
  | nil => rfl
  | cons c s =>
      obtain ⟨hesc, hal⟩ := h c rfl
      simp [lexFrom_cons, LexState.next, hesc, hal, LexState.endWord]

/-- A backslash, a name and a character that ends it lex as one control word. -/
theorem lexFrom_word {name m : List Char} (hname : ∀ c ∈ name, Unicode.isAlphanumeric c = true)
    (hend : ∀ c ∈ m.head?, Unicode.isAlphanumeric c = false)
    (hesc : ∀ c ∈ (name ++ m).head?, isEscapable c = false) :
    lexFrom .text ('\\' :: (name ++ m)) =
      .word (String.ofList name) (m.head? == some '{') :: lexFrom .text m := by
  cases name with
  | nil => exact lexFrom_backslash_end fun c hc => ⟨hesc c (by simpa using hc), hend c hc⟩
  | cons c name =>
      have hc := hname c (by simp)
      have hstep : lexFrom .text ('\\' :: (c :: name ++ m)) =
          lexFrom (.name [c]) (name ++ m) := by
        simp [lexFrom_cons, LexState.next, LexState.ofText, hc, isEscapable_of_isAlphanumeric hc]
      rw [hstep, lexFrom_name_append fun x hx => hname x (by simp [hx]), lexFrom_name_end hend]
      rfl

/-- A script over one allowed character lexes as its operator and that character. -/
theorem lexFrom_script {op a : Char} {k : Command} (hk : Command.ofOperator? op = some k)
    (ha : isAllowed a = true) (x : List Char) :
    lexFrom .text (op :: a :: x) = [.operator op, .char a] ++ lexFrom .text x := by
  rw [lexFrom_operator hk, lexFrom_char (isEscapable_of_isAllowed ha)]
  rfl

/-- A symbol lexes as a control word without a brace. -/
theorem lexFrom_symbol {name x : List Char} (hname : ∀ c ∈ name, Unicode.isAlphanumeric c = true)
    (hend : ∀ c ∈ x.head?, Unicode.isAlphanumeric c = false ∧ c ≠ '{')
    (hesc : ∀ c ∈ (name ++ x).head?, isEscapable c = false) :
    lexFrom .text ('\\' :: (name ++ x)) = [.word (String.ofList name) false] ++ lexFrom .text x := by
  -- the character after a symbol is no brace, so the control word is not braced
  have hbraced : (x.head? == some '{') = false := by
    cases x with
    | nil => rfl
    | cons c x => simpa using (hend c rfl).2
  rw [lexFrom_word hname (fun c hc => (hend c hc).1) hesc, hbraced]
  rfl

/-- Units of text lex as the characters they read as. -/
theorem TextUnits.lexFrom {e e' : Nat} {u t : List Char} (h : TextUnits e u t e')
    (x : List Char) : Markup.lexFrom .text (u ++ x) = t.map .char ++ Markup.lexFrom .text x := by
  induction h generalizing x with
  | nil => rfl
  | @plain e' u t c _ hc ih =>
      rw [List.append_assoc, ih, List.singleton_append, lexFrom_char (isEscapable_of_isAllowed hc)]
      simp
  | @escape e' e'' u t c _ hc _ ih =>
      rw [List.append_assoc, ih, List.cons_append, List.singleton_append, lexFrom_escape hc]
      simp

/-- What opens a group lexes as the lexeme that names its command, then the brace. -/
theorem Opens.lexFrom {k : Command} {o : List Char} (h : Opens k o) (g : List Char) :
    ∃ l, Markup.lexFrom .text (o ++ g) = l :: .brace '{' :: Markup.lexFrom .text g ∧
      l.Names (.command k) := by
  cases h with
  | @script op hk =>
      refine ⟨.operator op, ?_, hk⟩
      rw [List.cons_append, lexFrom_operator hk, List.singleton_append, lexFrom_brace (.inl rfl)]
  | @command name hname hk =>
      have hne : name ≠ [] := ne_nil_of_ofName?_eq_some hk
      refine ⟨.word (String.ofList name) true, ?_, hk⟩
      have hesc : ∀ c ∈ (name ++ '{' :: g).head?, isEscapable c = false :=
        head?_not_escapable_of_symbol hname (fun h => absurd h hne)
      rw [List.cons_append, List.append_assoc, List.singleton_append,
        lexFrom_word hname (fun c hc => by simp at hc; subst hc; decide) hesc,
        lexFrom_brace (.inl rfl)]
      rfl

/-! ## Lexemes that carry the nodes -/

/-- `Spells L ns`: the lexemes `L` carry exactly the literal text and the symbols and
commands of the nodes `ns`, in order. -/
def Spells (L : List Lexeme) (ns : List Node) : Prop :=
  L.filterMap Lexeme.char? = Node.textList ns ∧
    List.Forall₂ Lexeme.Names (L.filter Lexeme.isHead) (Node.headsList ns)

/-- A lexeme that names a node is no character of text. -/
theorem Lexeme.Names.isHead {l : Lexeme} {h : Head} (hl : l.Names h) :
    l.isHead = true ∧ l.char? = none := by
  cases l <;> cases h <;> simp_all [Lexeme.Names, Lexeme.isHead, Lexeme.char?]

namespace Spells

variable {L L' : List Lexeme} {ns : List Node}

theorem nil : Spells [] [] := ⟨rfl, .nil⟩

theorem cons {n : Node} (h₁ : Spells L [n]) (h₂ : Spells L' ns) : Spells (L ++ L') (n :: ns) := by
  obtain ⟨htext₁, hheads₁⟩ := h₁
  obtain ⟨htext₂, hheads₂⟩ := h₂
  simp only [Node.textList, Node.headsList, List.append_nil] at htext₁ hheads₁
  refine ⟨?_, ?_⟩
  · rw [List.filterMap_append, htext₁, htext₂, Node.textList]
  · rw [List.filter_append, Node.headsList]
    exact List.rel_append hheads₁ hheads₂

theorem literal (t : List Char) : Spells (t.map .char) [.literal (String.ofList t)] := by
  refine ⟨?_, ?_⟩
  · simp [Node.textList, Node.text, List.filterMap_map, Function.comp_def, Lexeme.char?]
  · simp [Node.headsList, Node.heads, List.filter_map, Function.comp_def, Lexeme.isHead]

theorem script {op a : Char} {k : Command} (hk : Command.ofOperator? op = some k) :
    Spells [.operator op, .char a] [.apply k [.literal (String.singleton a)]] := by
  refine ⟨?_, ?_⟩
  · simp [Node.textList, Node.text, List.filterMap_cons]
  · show List.Forall₂ Lexeme.Names [Lexeme.operator op] [Head.command k]
    exact .cons hk .nil

theorem symbol (name : String) : Spells [.word name false] [.symbol name] := by
  refine ⟨rfl, ?_⟩
  simp [Node.headsList, Node.heads, List.filter_cons, Lexeme.Names]

theorem group {l : Lexeme} {k : Command} {inner : List Node} (hl : l.Names (.command k))
    (hg : Spells L inner) :
    Spells (l :: .brace '{' :: (L ++ [.brace '}'])) [.apply k inner] := by
  obtain ⟨hhead, hchar⟩ := hl.isHead
  obtain ⟨htext, hheads⟩ := hg
  refine ⟨?_, ?_⟩
  · rw [List.filterMap_cons_none hchar]
    simp [List.filterMap_cons, List.filterMap_append, htext, Node.textList, Node.text]
  · simp only [List.filter_cons, hhead, if_true, List.filter_append, Node.headsList, Node.heads,
      List.append_nil]
    exact .cons hl (by simpa [Lexeme.isHead] using hheads)

end Spells

/-- An item read with the rest of the text after it lexes to lexemes that carry the item's
nodes, followed by the lexemes of the rest. -/
theorem Reads.spells {d e e' : Nat} {s r : List Char} {ns : List Node}
    (h : Reads d e s ns r e') : ∃ L, lexFrom .text s = L ++ lexFrom .text r ∧ Spells L ns := by
  induction h with
  | nil => exact ⟨[], rfl, Spells.nil⟩
  | @text d e e₁ e' u t m r ns hu _ _ _ ih =>
      obtain ⟨L, hL, hs⟩ := ih
      refine ⟨t.map .char ++ L, ?_, (Spells.literal t).cons hs⟩
      rw [hu.lexFrom, hL, List.append_assoc]
  | @script d e e' op a k m r ns hk ha _ ih =>
      obtain ⟨L, hL, hs⟩ := ih
      refine ⟨[.operator op, .char a] ++ L, ?_, (Spells.script hk).cons hs⟩
      rw [lexFrom_script hk ha, hL, List.append_assoc]
  | @symbol d e e' name m r ns hname hend hempty _ ih =>
      obtain ⟨L, hL, hs⟩ := ih
      refine ⟨[.word (String.ofList name) false] ++ L, ?_, (Spells.symbol _).cons hs⟩
      rw [lexFrom_symbol hname hend (head?_not_escapable_of_symbol hname hempty), hL,
        List.append_assoc]
  | @group d e e₁ e' k o g m r inner ns ho _ _ _ ihg ihm =>
      obtain ⟨Lg, hLg, hg⟩ := ihg
      obtain ⟨Lm, hLm, hm⟩ := ihm
      obtain ⟨l, hlo, hl⟩ := ho.lexFrom g
      refine ⟨(l :: .brace '{' :: (Lg ++ [.brace '}'])) ++ Lm, ?_, (Spells.group hl hg).cons hm⟩
      rw [hlo, hLg, lexFrom_brace (.inr rfl), hLm]
      simp

/-! ## Literals are maximal runs -/

/-- A nonempty run of text is continued by the text that follows it. -/
theorem TextUnits.continuesText {e e' : Nat} {u t : List Char} (h : TextUnits e u t e')
    (hu : u ≠ []) (x : List Char) : continuesText (u ++ x) = true := by
  induction h generalizing x with
  | nil => exact absurd rfl hu
  | @plain e' v t c hv hc ih =>
      by_cases hv0 : v = []
      · subst hv0
        simp [Markup.continuesText, hc]
      · rw [List.append_assoc]
        exact ih hv0 _
  | @escape e' e'' v t c hv hc _ ih =>
      by_cases hv0 : v = []
      · subst hv0
        simp [Markup.continuesText, hc]
      · rw [List.append_assoc]
        exact ih hv0 _

/-- Where a run of text cannot go on, no literal comes next. -/
theorem Reads.head?_not_literal {d e e' : Nat} {m r : List Char} {ns : List Node}
    (h : Reads d e m ns r e') (hm : continuesText m = false) :
    ns.head?.any Node.isLiteral = false := by
  cases h with
  | nil => rfl
  | text hu ht _ _ =>
      rw [hu.continuesText fun hu0 => ht (hu.text_eq_nil_iff.mpr hu0)] at hm
      cases hm
  | script _ _ _ => rfl
  | symbol _ _ _ _ => rfl
  | group _ _ _ _ => rfl

/-- The reading relation splits text into maximal runs. -/
theorem Reads.wellSplit {d e e' : Nat} {s r : List Char} {ns : List Node}
    (h : Reads d e s ns r e') : Node.wellSplitList ns = true := by
  induction h with
  | nil => rfl
  | text _ ht hm hrest ih =>
      simp [Node.wellSplitList, Node.wellSplit, Node.isLiteral, ih, hrest.head?_not_literal hm, ht]
  | script _ _ _ ih =>
      simp [Node.wellSplitList, Node.wellSplit, Node.isLiteral, ih]
  | symbol _ _ _ _ ih =>
      simp [Node.wellSplitList, Node.wellSplit, Node.isLiteral, ih]
  | group _ _ _ _ ihg ihm =>
      simp [Node.wellSplitList, Node.wellSplit, Node.isLiteral, ihg, ihm]

/-! ## Main statement -/

/-- A parsed formula keeps its text whole and in order: its literal text is the text's
characters, its symbols and commands are the text's control words and operators, one for
one, and each of its literals is a maximal run of text. -/
theorem Formula.parse_keeps_content {s : String} {f : Formula} (h : Formula.parse s = .ok f) :
    f.text = plainText s ∧
      List.Forall₂ Lexeme.Names ((lex s).filter Lexeme.isHead) f.heads ∧
      Node.wellSplitList f.nodes = true := by
  have hr := Formula.reads_of_parse h
  obtain ⟨L, hL, htext, hheads⟩ := Reads.spells hr
  have hlex : lex s = L := by simpa [lex, LexState.close] using hL
  refine ⟨?_, ?_, Reads.wellSplit hr⟩
  · rw [Formula.text, plainText, hlex, htext]
  · rw [hlex]
    exact hheads

theorem parse_keeps_content_vector :
    Formula.parse "\\vec{x}^2" =
        .ok ⟨[.apply .vector [.literal "x"], .apply .superscript [.literal "2"]]⟩ ∧
      (Formula.text ⟨[.apply .vector [.literal "x"], .apply .superscript [.literal "2"]]⟩ =
          plainText "\\vec{x}^2" ∧
        List.Forall₂ Lexeme.Names ((lex "\\vec{x}^2").filter Lexeme.isHead)
          (Formula.heads ⟨[.apply .vector [.literal "x"], .apply .superscript [.literal "2"]]⟩) ∧
        Node.wellSplitList [.apply .vector [.literal "x"], .apply .superscript [.literal "2"]] =
          true) :=
  ⟨rfl, Formula.parse_keeps_content rfl⟩

end MathUnicode.Markup
