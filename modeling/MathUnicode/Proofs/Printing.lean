import MathUnicode.Proofs.UniqueReading

/-!
# Writing a formula back as markup

Every sequence of nodes has a canonical markup (`Node.writeList`, and `print` as text).  A
literal writes its characters, each escapable one after a backslash; a symbol writes a
backslash and its name; a script over one allowed character writes its operator and that
character, and any other script its operator and its operands in braces; every other
command writes a backslash, its canonical name and its operands in braces.

Main statement: `Formula.parse_print`, the reader reads the canonical markup of every
formula it returns back as that formula.  The markup may differ from the text the formula
was read from: a font command is written by its canonical name (`\b` for `\mathbf`), and a
script over one allowed character loses its braces.

## Strategy

By induction on the reading relation (`Reads.write`): the markup of what a text reads as is
read as the same nodes.  Two items check what follows them (a run of text, that nothing
continues it; a symbol, that no letter, digit or brace follows its name), and the markup
of the nodes after an item begins as the text after it did: with the same character
(`Reads.head?_write`), and continuing a run of text exactly when that text did
(`Reads.continuesText_write`).  A script written without its braces reads the same single
character, and its group held no escaped brace.  `Formula.parse_eq_ok_iff` then turns the
reading of the markup into the reader's result.
-/

namespace MathUnicode.Markup

/-! ## The canonical markup -/

/-- How a character of a literal is written: an escapable character after a backslash. -/
def writeChar (c : Char) : List Char :=
  if isEscapable c then ['\\', c] else [c]

/-- The opener of a group of `k`: a script's operator and a brace, or a backslash, the
command's canonical name and a brace. -/
def Command.opener (k : Command) : List Char :=
  if k.isScript then k.name.toList ++ ['{'] else '\\' :: (k.name.toList ++ ['{'])

/-- The one allowed character of a script's operands, when they are a literal of that
character alone: the script is then written without braces. -/
def Node.shortOperand? : List Node → Option Char
  | [.literal t] =>
    match t.toList with
    | [a] => if isAllowed a then some a else none
    | _ => none
  | _ => none

mutual

/-- The canonical markup of a node. -/
def Node.write : Node → List Char
  | .literal t => t.toList.flatMap writeChar
  | .symbol name => '\\' :: name.toList
  | .apply k ns =>
    match k.isScript, Node.shortOperand? ns with
    | true, some a => k.name.toList ++ [a]
    | _, _ => k.opener ++ (Node.writeList ns ++ ['}'])

/-- The canonical markup of a sequence of nodes. -/
def Node.writeList : List Node → List Char
  | [] => []
  | n :: ns => Node.write n ++ Node.writeList ns

end

/-- The canonical markup of a sequence of nodes, as text. -/
def print (ns : List Node) : String :=
  String.ofList (Node.writeList ns)

@[simp] theorem Node.writeList_nil : Node.writeList [] = [] := by
  simp [Node.writeList]

@[simp] theorem Node.writeList_cons (n : Node) (ns : List Node) :
    Node.writeList (n :: ns) = n.write ++ Node.writeList ns := by
  simp [Node.writeList]

/-! ## Pieces of the markup -/

/-- The canonical markup of a run of text is a run of text with the same characters and
the same escaped braces. -/
theorem TextUnits.write {e e' : Nat} {u t : List Char} (h : TextUnits e u t e') :
    TextUnits e (t.flatMap writeChar) t e' := by
  induction h with
  | nil => exact .nil
  | @plain _ _ _ c _ hc ih =>
      have hw : writeChar c = [c] := by simp [writeChar, isEscapable_of_isAllowed hc]
      simpa [hw] using ih.plain hc
  | @escape _ _ _ _ c _ hc hbr ih =>
      have hw : writeChar c = ['\\', c] := by simp [writeChar, hc]
      simpa [hw] using ih.escape hc hbr

/-- A run of text starts with the backslash of an escape or with its first character. -/
theorem TextUnits.head? {e e' : Nat} {u t : List Char} (h : TextUnits e u t e') :
    u.head? = t.head?.map fun c => if isEscapable c then '\\' else c := by
  induction h with
  | nil => rfl
  | @plain _ v t c hv hc ih =>
      by_cases hv0 : v = []
      · subst hv0
        have ht : t = [] := hv.text_eq_nil_iff.mpr rfl
        simp [ht, isEscapable_of_isAllowed hc]
      · have ht : t ≠ [] := fun ht => hv0 (hv.text_eq_nil_iff.mp ht)
        rw [List.head?_append_of_ne_nil _ hv0, List.head?_append_of_ne_nil _ ht, ih]
  | @escape _ _ v t c hv hc _ ih =>
      by_cases hv0 : v = []
      · subst hv0
        have ht : t = [] := hv.text_eq_nil_iff.mpr rfl
        simp [ht, hc]
      · have ht : t ≠ [] := fun ht => hv0 (hv.text_eq_nil_iff.mp ht)
        rw [List.head?_append_of_ne_nil _ hv0, List.head?_append_of_ne_nil _ ht, ih]

theorem Command.isScript_of_ofOperator? {op : Char} {k : Command}
    (hk : Command.ofOperator? op = some k) : k.isScript = true ∧ k.name.toList = [op] := by
  obtain ⟨hs, hn⟩ := Command.ofOperator?_eq_some_iff.mp hk
  exact ⟨hs, by rw [hn, String.toList_singleton]⟩

theorem Command.isScript_of_ofName? {name : String} {k : Command}
    (hk : Command.ofName? name = some k) : k.isScript = false := by
  unfold Command.ofName? at hk
  split at hk <;> cases hk <;> rfl

/-- The canonical name of a command that is not a script is a run of letters. -/
theorem Command.name_alphanumeric {k : Command} (hk : k.isScript = false) :
    ∀ c ∈ k.name.toList, Unicode.isAlphanumeric c = true := by
  cases k <;> simp [Command.isScript, Command.name] at hk ⊢ <;> decide

/-- The canonical opener opens a group of the same command as any other. -/
theorem Opens.opener {k : Command} {o : List Char} (h : Opens k o) : Opens k k.opener := by
  cases h with
  | @script op hk =>
      obtain ⟨hs, hn⟩ := Command.isScript_of_ofOperator? hk
      simpa [Command.opener, hs, hn] using Opens.script hk
  | command _ hk =>
      have hs := Command.isScript_of_ofName? hk
      simpa [Command.opener, hs] using
        Opens.command (Command.name_alphanumeric hs) (by simpa using Command.ofName?_name hs)

theorem Node.write_symbol (name : List Char) :
    Node.write (.symbol (String.ofList name)) = '\\' :: name := by
  simp [Node.write]

theorem Node.write_literal (t : List Char) :
    Node.write (.literal (String.ofList t)) = t.flatMap writeChar := by
  simp [Node.write]

/-- A script over one allowed character is written as its operator and that character. -/
theorem Node.write_script {op a : Char} {k : Command} (hk : Command.ofOperator? op = some k)
    (ha : isAllowed a = true) :
    Node.write (.apply k [.literal (String.singleton a)]) = [op, a] := by
  obtain ⟨hs, hn⟩ := Command.isScript_of_ofOperator? hk
  simp [Node.write, Node.shortOperand?, hs, hn, ha]

theorem Node.shortOperand?_eq_some {ns : List Node} {a : Char}
    (h : Node.shortOperand? ns = some a) :
    ns = [.literal (String.singleton a)] ∧ isAllowed a = true := by
  unfold Node.shortOperand? at h
  split at h
  · rename_i t
    split at h
    · rename_i a' ht
      by_cases ha : isAllowed a' = true
      · simp only [ha, if_true, Option.some.injEq] at h
        subst h
        exact ⟨by rw [← String.toList_inj.mp (ht.trans (String.toList_singleton a').symm)], ha⟩
      · simp [ha] at h
    · cases h
  · cases h

/-- A command is written by its opener, operands and closing brace, or, as a script over
one allowed character, by its operator and that character. -/
theorem Node.write_apply_cases (k : Command) (inner : List Node) :
    (∃ a, k.isScript = true ∧ Node.shortOperand? inner = some a ∧
        Node.write (.apply k inner) = k.name.toList ++ [a]) ∨
      Node.write (.apply k inner) = k.opener ++ (Node.writeList inner ++ ['}']) := by
  cases hs : k.isScript <;> cases ha : Node.shortOperand? inner <;> simp [Node.write, hs, ha]

theorem Command.name_ne_nil (k : Command) : k.name.toList ≠ [] := by
  cases k <;> simp [Command.name]

/-- Every command is written starting with the first character of its opener. -/
theorem Node.head?_write_apply (k : Command) (inner : List Node) (x : List Char) :
    (Node.write (.apply k inner) ++ x).head? = k.opener.head? := by
  rcases Node.write_apply_cases k inner with ⟨a, hs, -, hw⟩ | hw
  · rw [hw, List.append_assoc, List.head?_append_of_ne_nil _ (Command.name_ne_nil k)]
    simp [Command.opener, hs, List.head?_append_of_ne_nil _ (Command.name_ne_nil k)]
  · rw [hw, List.append_assoc]
    exact List.head?_append_of_ne_nil _ (by simp [Command.opener]; split <;> simp)

theorem Opens.head? {k : Command} {o : List Char} (h : Opens k o) (g : List Char) :
    (o ++ g).head? = k.opener.head? := by
  cases h with
  | @script op hk =>
      obtain ⟨hs, hn⟩ := Command.isScript_of_ofOperator? hk
      simp [Command.opener, hs, hn]
  | command _ hk => simp [Command.opener, Command.isScript_of_ofName? hk]

/-- Every command is written so that no run of text goes on at its start. -/
theorem Opens.continuesText_write {k : Command} {o : List Char} (h : Opens k o)
    (inner : List Node) (x : List Char) :
    Markup.continuesText (Node.write (.apply k inner) ++ x) = false := by
  rcases Node.write_apply_cases k inner with ⟨a, hs, -, hw⟩ | hw
  · cases h with
    | @script op hk =>
        obtain ⟨-, hn⟩ := Command.isScript_of_ofOperator? hk
        simpa [hw, hn] using continuesText_script (a := a) hk x
    | command _ hk => rw [Command.isScript_of_ofName? hk] at hs; cases hs
  · rw [hw, List.append_assoc]
    exact h.opener.continuesText _

/-! ## What the markup starts with -/

/-- The markup of what a text reads as starts with the character the text starts with;
where nothing is read, the text after the reading takes its place. -/
theorem Reads.head?_write {d e e' : Nat} {m r r' : List Char} {ns : List Node}
    (h : Reads d e m ns r e') (hr : r'.head? = r.head?) :
    (Node.writeList ns ++ r').head? = m.head? := by
  cases h with
  | nil => simpa using hr
  | @text _ _ _ _ u t _ _ _ hu ht _ _ =>
      have hw := hu.write
      have hne : t.flatMap writeChar ≠ [] := fun h0 => ht (hw.text_eq_nil_iff.mpr h0)
      have hune : u ≠ [] := fun h0 => ht (hu.text_eq_nil_iff.mpr h0)
      simp only [Node.writeList_cons, Node.write_literal, List.append_assoc]
      rw [List.head?_append_of_ne_nil _ hne, List.head?_append_of_ne_nil _ hune, hw.head?,
        hu.head?]
  | script hk ha _ => simp [Node.write_script hk ha]
  | symbol _ _ _ _ => simp [Node.write]
  | @group _ _ _ _ k _ g _ _ inner _ ho _ _ _ =>
      rw [Node.writeList_cons, List.append_assoc, Node.head?_write_apply, ho.head? g]

/-- A text that starts as one that starts with a character that is not escapable starts with
that character. -/
theorem exists_cons_of_head?_eq {l m : List Char} (hhead : l.head? = m.head?)
    (hm : ∃ c rest, m = c :: rest ∧ isEscapable c = false) :
    ∃ c rest, l = c :: rest ∧ isEscapable c = false := by
  obtain ⟨c, rest, rfl, hc⟩ := hm
  cases l with
  | nil => cases hhead
  | cons c' rest' =>
      obtain rfl := Option.some.inj hhead
      exact ⟨c', rest', rfl, hc⟩

/-- The markup of what a text reads as continues a run of text exactly when the text does;
where nothing is read, the text after the reading takes its place. -/
theorem Reads.continuesText_write {d e e' : Nat} {m r r' : List Char} {ns : List Node}
    (h : Reads d e m ns r e') (hr : r'.head? = r.head?)
    (hc : Markup.continuesText r' = Markup.continuesText r) :
    Markup.continuesText (Node.writeList ns ++ r') = Markup.continuesText m := by
  cases h with
  | nil => simpa using hc
  | text hu ht _ _ =>
      rw [hu.continuesText_of_ne ht, Node.writeList_cons, Node.write_literal, List.append_assoc,
        hu.write.continuesText_of_ne ht]
  | script hk ha _ =>
      rw [Node.writeList_cons, Node.write_script hk ha, continuesText_script hk]
      exact continuesText_script hk _
  | @symbol _ _ _ name _ _ ns hname _ hempty hrest =>
      -- after an empty name the markup of the rest starts as the rest did
      have hempty' : name = [] → ∃ c rest, Node.writeList ns ++ r' = c :: rest ∧
          isEscapable c = false :=
        fun h0 => exists_cons_of_head?_eq (hrest.head?_write hr) (hempty h0)
      rw [continuesText_symbol hname hempty, Node.writeList_cons, Node.write_symbol]
      simp only [List.cons_append, List.append_assoc]
      exact continuesText_symbol hname hempty'
  | group ho _ _ _ =>
      rw [ho.continuesText, Node.writeList_cons, List.append_assoc, ho.continuesText_write]

/-! ## The markup reads back -/

/-- A run of text without braces leaves the escaped braces as they were. -/
theorem TextUnits.escapes_eq_of_brace_not_mem {e e' : Nat} {u t : List Char}
    (h : TextUnits e u t e') (hl : '{' ∉ t) (hr : '}' ∉ t) : e' = e := by
  induction h with
  | nil => rfl
  | plain _ _ ih => exact ih (fun h => hl (by simp [h])) (fun h => hr (by simp [h]))
  | @escape _ _ _ t c _ _ hbr ih =>
      have hc : escapedBracket c = [] := by
        unfold escapedBracket
        split <;> simp_all
      rw [hc, bracketsOpen_nil, Option.some.injEq] at hbr
      rw [← hbr]
      exact ih (fun h => hl (by simp [h])) (fun h => hr (by simp [h]))

/-- A group that reads as one allowed character leaves the escaped braces as they were. -/
theorem Reads.escapes_eq_of_single {d e e' : Nat} {g r : List Char} {ns : List Node} {a : Char}
    (h : Reads d e g ns r e') (hns : ns = [.literal (String.singleton a)])
    (ha : isAllowed a = true) : e' = e := by
  cases h with
  | nil => cases hns
  | @text _ _ _ _ u t _ _ _ hu _ _ hrest =>
      simp only [List.cons.injEq, Node.literal.injEq, String.singleton_eq_ofList,
        String.ofList_inj] at hns
      obtain ⟨rfl, rfl⟩ := hns
      cases hrest
      have hbrace : ∀ b, isEscapable b = true → b ∉ [a] := fun b hb hmem => by
        obtain rfl := List.mem_singleton.mp hmem
        rw [isAllowed_of_isEscapable hb] at ha
        cases ha
      exact hu.escapes_eq_of_brace_not_mem (hbrace '{' rfl) (hbrace '}' rfl)
  | script _ _ _ => simp at hns
  | symbol _ _ _ _ => simp at hns
  | group _ _ _ _ => simp at hns

/-- The markup of what a text reads as is read as the same nodes, before any text that
starts as the text after the reading does. -/
theorem Reads.write {d e e' : Nat} {s r : List Char} {ns : List Node}
    (h : Reads d e s ns r e') :
    ∀ r' : List Char, r'.head? = r.head? →
      Markup.continuesText r' = Markup.continuesText r →
      Reads d e (Node.writeList ns ++ r') ns r' e' := by
  induction h with
  | nil => intro r' _ _; exact .nil
  | @text _ _ _ _ u t _ _ _ hu ht hm hrest ih =>
      intro r' hr hc
      rw [Node.writeList_cons, Node.write_literal, List.append_assoc]
      exact .text hu.write ht (by rw [hrest.continuesText_write hr hc, hm]) (ih r' hr hc)
  | script hk ha _ ih =>
      intro r' hr hc
      rw [Node.writeList_cons, Node.write_script hk ha]
      exact .script hk ha (ih r' hr hc)
  | symbol hname hend hempty hrest ih =>
      intro r' hr hc
      have hhead := hrest.head?_write hr
      rw [Node.writeList_cons, Node.write_symbol]
      simp only [List.cons_append, List.append_assoc]
      refine .symbol hname ?_ ?_ (ih r' hr hc)
      · rw [hhead]; exact hend
      · exact fun h0 => exists_cons_of_head?_eq hhead (hempty h0)
  | @group _ _ _ _ k _ _ _ _ inner _ ho hd hg _ ihg ihm =>
      intro r' hr hc
      rcases Node.write_apply_cases k inner with ⟨a, hs, ha, hw⟩ | hw
      · -- a script over one allowed character loses its braces
        obtain ⟨rfl, hal⟩ := Node.shortOperand?_eq_some ha
        obtain rfl := Reads.escapes_eq_of_single hg rfl hal
        cases ho with
        | @script op hk =>
            obtain ⟨-, hn⟩ := Command.isScript_of_ofOperator? hk
            rw [Node.writeList_cons, hw, hn]
            exact .script hk hal (ihm r' hr hc)
        | command _ hk => rw [Command.isScript_of_ofName? hk] at hs; cases hs
      · rw [Node.writeList_cons, hw]
        simp only [List.append_assoc, List.singleton_append]
        exact .group ho.opener hd (ihg ('}' :: (Node.writeList _ ++ r')) rfl rfl) (ihm r' hr hc)

/-! ## Main statement -/

/-- The canonical markup of a formula read from a text is read as the same formula. -/
theorem Formula.reads_print {s : List Char} {f : Formula} (h : Formula.Reads s f) :
    Formula.Reads (Node.writeList f.nodes) f := by
  have hread := Reads.write h [] rfl rfl
  rw [List.append_nil] at hread
  exact hread

/-- The reader reads the canonical markup of every formula it returns back as that formula. -/
theorem Formula.parse_print {s : String} {f : Formula} (h : Formula.parse s = .ok f) :
    Formula.parse (print f.nodes) = .ok f := by
  rw [Formula.parse_eq_ok_iff] at h ⊢
  simpa [print] using Formula.reads_print h

/-- A formula with an alias, a braced script over one character and escaped braces is read
back from its canonical markup `\b{x}^a\{b\}`. -/
theorem parse_print_alias_script :
    Formula.parse "\\mathbf\x7bx\x7d^\x7ba\x7d\\\x7bb\\\x7d" =
        .ok ⟨[.apply .bold [.literal "x"], .apply .superscript [.literal "a"],
          .literal "\x7bb\x7d"]⟩ ∧
      Formula.parse (print [.apply .bold [.literal "x"], .apply .superscript [.literal "a"],
          .literal "\x7bb\x7d"]) =
        .ok ⟨[.apply .bold [.literal "x"], .apply .superscript [.literal "a"],
          .literal "\x7bb\x7d"]⟩ := by
  have h : Formula.parse "\\mathbf\x7bx\x7d^\x7ba\x7d\\\x7bb\\\x7d" =
      .ok ⟨[.apply .bold [.literal "x"], .apply .superscript [.literal "a"],
        .literal "\x7bb\x7d"]⟩ := by
    rfl
  exact ⟨h, Formula.parse_print h⟩

end MathUnicode.Markup
