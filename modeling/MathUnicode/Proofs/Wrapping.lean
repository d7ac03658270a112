import MathUnicode.Proofs.UniqueReading
import MathUnicode.Proofs.Scanning
import MathUnicode.Proofs.StyleLaws

/-!
# Wrapping a formula in a group

A text that parses can be put inside the group of any command, written with its script
operator or with a backslash and one of its names: `w{s}` parses as the command applied to
the nodes of `s`.  The one proviso is the nesting limit: the outer group takes one level,
so the groups of `s` must nest less than `maxDepth` deep.  In particular, converting `s`
in math mode is converting `\i{s}` from the plain style.

Main statement: `Formula.parse_wrapped_in_group`.

## Strategy

On the reading relation, which the reader follows exactly (`Formula.parse_eq_ok_iff`).

* A reading that ends at the end of the text or at a `}` is still one when a `}` is put
  after it (`Reads.append_of_stops`): each item looks at most at the character after it,
  and a `}` continues no item.
* A reading inside `d` groups is one inside `d + 1` when the text leaves room for one more
  level (`Reads.deepen`).  The room is counted on the unescaped braces of the text
  (`FitsWithin`); a reading opens and closes its groups in balance (`Reads.groupBrackets`),
  so after each item the text that follows has the room the whole had.
-/

namespace MathUnicode.Markup

open DyckStep

theorem isAlphanumeric_close : Unicode.isAlphanumeric '}' = false :=
  isAlphanumeric_of_isEscapable (by decide)

theorem forall_head?_append {P : Char → Prop} {u v : List Char} (hu : ∀ c ∈ u.head?, P c)
    (hv : ∀ c ∈ v.head?, P c) : ∀ c ∈ (u ++ v).head?, P c := by
  cases u with
  | nil => simpa using hv
  | cons c u => simpa using hu

theorem forall_head?_of_append {P : Char → Prop} {u v : List Char}
    (h : ∀ c ∈ (u ++ v).head?, P c) : ∀ c ∈ u.head?, P c :=
  fun c hc => h c (List.mem_head?_append_of_mem_head? hc)

/-! ## Putting a brace after a reading -/

/-- No reading that stops ends right after a lone backslash: a backslash is read together
with the character after it. -/
theorem Reads.not_backslash {d e e' : Nat} {ns : List Node} {r : List Char}
    (h : Reads d e ['\\'] ns r e') (hr : Stops r) : False := by
  generalize hs : ['\\'] = s at h
  cases h with
  | nil =>
      subst hs
      simp [Stops] at hr
  | @text _ _ _ _ u t m _ _ hu ht _ _ =>
      have hc := hu.continuesText (fun hu0 => ht (hu.text_eq_nil_iff.mpr hu0)) m
      rw [← hs] at hc
      simp [continuesText, show isAllowed '\\' = false by decide] at hc
  | script _ _ _ => simp at hs
  | symbol _ _ hempty _ =>
      simp only [List.cons.injEq, true_and, List.nil_eq_append_iff] at hs
      obtain ⟨rfl, rfl⟩ := hs
      obtain ⟨c, rest, h, -⟩ := hempty rfl
      cases h
  | group ho _ _ _ => cases ho <;> simp at hs

/-- Where a run of text ends before a reading that stops, it still ends when a stop is put
after the text. -/
theorem Reads.continuesText_append {d e e' : Nat} {m r t : List Char} {ns : List Node}
    (h : Reads d e m ns r e') (hr : Stops r) (ht : Stops t) (hm : continuesText m = false) :
    continuesText (m ++ t) = false := by
  cases m with
  | nil => exact continuesText_of_stops ht
  | cons c m =>
      cases m with
      | cons c' m => simpa [continuesText] using hm
      | nil =>
          -- only a lone backslash looks at the character after it
          by_cases hc : c = '\\'
          · subst hc
            exact (h.not_backslash hr).elim
          · simpa [continuesText, hc] using hm

/-- A `}` put after a reading that ends at the end of the text or at a `}` leaves the reading
as it is. -/
theorem Reads.append_of_stops {d e e' : Nat} {s r t : List Char} {ns : List Node}
    (h : Reads d e s ns r e') (hr : Stops r) (ht : Stops t) :
    Reads d e (s ++ t) ns (r ++ t) e' := by
  induction h with
  | nil => exact .nil
  | text hu hne hm hrest ih =>
      rw [List.append_assoc]
      exact .text hu hne (hrest.continuesText_append hr ht hm) (ih hr)
  | script hk ha _ ih => exact .script hk ha (ih hr)
  | symbol hname hend hempty _ ih =>
      rw [List.cons_append, List.append_assoc]
      refine .symbol hname (forall_head?_append hend ?_) ?_ (ih hr)
      · intro c hc
        obtain rfl := ht c hc
        exact ⟨isAlphanumeric_close, by decide⟩
      · intro h0
        obtain ⟨c, rest, rfl, hc⟩ := hempty h0
        exact ⟨c, rest ++ t, rfl, hc⟩
  | group ho hd _ _ ihg ih =>
      rw [List.append_assoc]
      exact .group ho hd (ihg (by simp [Stops])) (ih hr)

/-! ## The unescaped braces of a reading -/

theorem flatMap_groupBracket_chars (t : List Char) :
    (t.map Lexeme.char).flatMap Lexeme.groupBracket = [] := by
  induction t with
  | nil => rfl
  | cons c t ih => simp [Lexeme.groupBracket, ih]

theorem Lexeme.Names.groupBracket {l : Lexeme} {k : Command} (hl : l.Names (.command k)) :
    l.groupBracket = [] := by
  cases l <;> simp_all [Lexeme.Names, Lexeme.groupBracket]

/-- Brackets around a balanced sequence, then another balanced one, balance. -/
theorem bracketsOpen_wrap {A B : List DyckStep} (hA : bracketsOpen 0 A = some 0)
    (hB : bracketsOpen 0 B = some 0) : bracketsOpen 0 (U :: (A ++ D :: B)) = some 0 := by
  have hA1 : bracketsOpen 1 A = some 1 := bracketsOpen_add hA 1
  simp only [bracketsOpen, Nat.zero_add, bracketsOpen_append, hA1, Option.bind_some]
  exact hB

/-- A reading opens and closes its groups in balance: the unescaped braces it passes are
balanced. -/
theorem Reads.groupBrackets {d e e' : Nat} {s r : List Char} {ns : List Node}
    (h : Reads d e s ns r e') :
    ∃ L, lexFrom .text s = L ++ lexFrom .text r ∧
      bracketsOpen 0 (L.flatMap Lexeme.groupBracket) = some 0 := by
  induction h with
  | nil => exact ⟨[], rfl, rfl⟩
  | @text d e e₁ e' u t m r ns hu _ _ _ ih =>
      obtain ⟨L, hL, hb⟩ := ih
      refine ⟨t.map .char ++ L, ?_, ?_⟩
      · rw [hu.lexFrom, hL, List.append_assoc]
      · rwa [List.flatMap_append, flatMap_groupBracket_chars, List.nil_append]
  | @script d e e' op a k m r ns hk ha _ ih =>
      obtain ⟨L, hL, hb⟩ := ih
      refine ⟨[.operator op, .char a] ++ L, ?_, hb⟩
      rw [lexFrom_script hk ha, hL, List.append_assoc]
  | @symbol d e e' name m r ns hname hend hempty _ ih =>
      obtain ⟨L, hL, hb⟩ := ih
      refine ⟨[.word (String.ofList name) false] ++ L, ?_, hb⟩
      rw [lexFrom_symbol hname hend (head?_not_escapable_of_symbol hname hempty), hL,
        List.append_assoc]
  | @group d e e₁ e' k o g m r inner ns ho _ _ _ ihg ihm =>
      obtain ⟨Lg, hLg, hg⟩ := ihg
      obtain ⟨Lm, hLm, hm⟩ := ihm
      obtain ⟨l, hlo, hl⟩ := ho.lexFrom g
      refine ⟨l :: .brace '{' :: (Lg ++ .brace '}' :: Lm), ?_, ?_⟩
      · rw [hlo, hLg, lexFrom_brace (.inr rfl), hLm]
        simp
      · simp only [List.flatMap_cons, List.flatMap_append, hl.groupBracket, List.nil_append]
        exact bracketsOpen_wrap hg hm

/-- After a `}` the lexer reads text again, whatever it was in, so what the text before a
`}` lexes to does not depend on what follows the `}`. -/
theorem lexFrom_before_close {seg m : List Char} {L : List Lexeme}
    (h : lexFrom .text (seg ++ '}' :: m) = L ++ lexFrom .text ('}' :: m)) (x : List Char) :
    lexFrom .text (seg ++ '}' :: x) = L ++ lexFrom .text ('}' :: x) := by
  have hafter : LexState.text.after (seg ++ ['}']) = .text := by
    rw [LexState.after_append]
    cases LexState.text.after seg <;>
      simp [LexState.next, LexState.endWord, LexState.ofText, isEscapable, isAlphanumeric_close]
  have hsplit : ∀ y, lexFrom .text (seg ++ '}' :: y) =
      LexState.text.emitted (seg ++ ['}']) ++ lexFrom .text y := by
    intro y
    rw [show seg ++ '}' :: y = seg ++ ['}'] ++ y by simp, LexState.lexFrom_append, hafter]
  have hemitted : LexState.text.emitted (seg ++ ['}']) = L ++ [.brace '}'] := by
    have h' : LexState.text.emitted (seg ++ ['}']) ++ lexFrom .text m =
        (L ++ [.brace '}']) ++ lexFrom .text m := by
      rw [← hsplit, h, lexFrom_brace (.inr rfl), List.append_assoc]
      rfl
    exact List.append_cancel_right h'
  rw [hsplit, hemitted, lexFrom_brace (.inr rfl), List.append_assoc]
  rfl

/-! ## Room for one more group -/

/-- `FitsWithin d s`: inside `d` open groups, the groups that `s` opens keep within the
nesting limit: no prefix of `s` leaves more than `maxDepth - d` of them open. -/
def FitsWithin (d : Nat) (s : List Char) : Prop :=
  ∀ u v n, s = u ++ v → openGroups u = some n → d + n ≤ maxDepth

/-- After a front part of the text that lexes alike before every part of the rest, and
leaves `j` groups open, the rest fits within `j` more. -/
theorem FitsWithin.of_append {d j : Nat} {p m : List Char} (h : FitsWithin d (p ++ m))
    (hlex : ∀ u v, m = u ++ v → ∃ P, lexFrom .text (p ++ u) = P ++ lexFrom .text u ∧
      bracketsOpen 0 (P.flatMap Lexeme.groupBracket) = some j) :
    FitsWithin (d + j) m := by
  intro u v n hm hn
  obtain ⟨P, hP, hj⟩ := hlex u v hm
  have hopen : openGroups (p ++ u) = some (n + j) := by
    unfold openGroups brackets at hn ⊢
    have hn' := bracketsOpen_add hn j
    rw [Nat.zero_add] at hn'
    rw [hP, List.flatMap_append, bracketsOpen_append, hj, Option.bind_some]
    exact hn'
  have := h (p ++ u) v (n + j) (by rw [hm, List.append_assoc]) hopen
  omega

/-- A reading inside `d` groups is one inside `d + 1` when the text leaves room for one
more level: every group it opens is then still below the limit. -/
theorem Reads.deepen {d e e' : Nat} {s r : List Char} {ns : List Node}
    (h : Reads d e s ns r e') (hfit : FitsWithin (d + 1) s) : Reads (d + 1) e s ns r e' := by
  induction h with
  | nil => exact .nil
  | text hu hne hm _ ih =>
      -- a run of text opens no group
      exact .text hu hne hm (ih (hfit.of_append (j := 0) fun u _ _ =>
        ⟨_, hu.lexFrom u, by rw [flatMap_groupBracket_chars]; rfl⟩))
  | @script d e e' op a k m r ns hk ha _ ih =>
      rw [show op :: a :: m = [op, a] ++ m from rfl] at hfit
      exact .script hk ha (ih (hfit.of_append (j := 0) fun u _ _ =>
        ⟨[.operator op, .char a], lexFrom_script hk ha u, rfl⟩))
  | @symbol d e e' name m r ns hname hend hempty _ ih =>
      rw [← List.cons_append] at hfit
      refine .symbol hname hend hempty (ih (hfit.of_append (j := 0) fun u v hm => ?_))
      subst hm
      have hesc := head?_not_escapable_of_symbol hname hempty
      rw [← List.append_assoc] at hesc
      exact ⟨[.word (String.ofList name) false], lexFrom_symbol hname (forall_head?_of_append hend)
        (forall_head?_of_append hesc), rfl⟩
  | @group d e e₁ e' k o g m r inner ns ho _ hg _ ihg ih =>
      obtain ⟨seg, -, rfl, -⟩ := hg.generates
      obtain ⟨Lg, hLg, hbal⟩ := hg.groupBrackets
      -- inside the group the text has the room left after its opener
      have hinner : FitsWithin (d + 1 + 1) (seg ++ '}' :: m) := hfit.of_append fun u _ _ => by
        obtain ⟨l, hlo, hl⟩ := ho.lexFrom u
        refine ⟨[l, .brace '{'], hlo, ?_⟩
        simp only [List.flatMap_cons, hl.groupBracket, List.flatMap_nil, List.nil_append]
        rfl
      -- after the group, the room the whole had
      have hafter : FitsWithin (d + 1 + 0) m := by
        rw [show o ++ (seg ++ '}' :: m) = o ++ (seg ++ ['}']) ++ m by simp] at hfit
        refine hfit.of_append fun u _ _ => ?_
        obtain ⟨l, hlo, hl⟩ := ho.lexFrom (seg ++ '}' :: u)
        refine ⟨l :: .brace '{' :: (Lg ++ [.brace '}']), ?_, ?_⟩
        · rw [List.append_assoc, List.append_assoc, List.singleton_append, hlo,
            lexFrom_before_close hLg u, lexFrom_brace (.inr rfl)]
          simp
        · simp only [List.flatMap_cons, List.flatMap_append, hl.groupBracket, List.nil_append]
          exact bracketsOpen_wrap hbal rfl
      have hd : d + 1 < maxDepth := by
        have := hinner [] _ 0 rfl rfl
        omega
      exact .group ho hd (ihg hinner) (ih hafter)

/-- A text read to its end, whose groups leave room for one more level, reads inside one
group when a `}` follows it. -/
theorem Formula.Reads.wrap {s : List Char} {f : Formula} (h : Formula.Reads s f)
    (hfit : FitsWithin 1 s) : Markup.Reads 1 0 (s ++ ['}']) f.nodes ['}'] 0 :=
  (Reads.deepen h hfit).append_of_stops (by simp [Stops]) (by simp [Stops])

/-! ## Spellings of a command -/

/-- `k.Spelled w`: `w` writes the command `k` before its group: its script operator, or a
backslash and one of its names. -/
inductive Command.Spelled : Command → String → Prop
  | operator {k : Command} {op : Char} : Command.ofOperator? op = some k →
      Command.Spelled k (String.singleton op)
  | name {k : Command} {name : String} : Command.ofName? name = some k →
      Command.Spelled k ("\\" ++ name)

/-- Every name of a command is a run of letters. -/
theorem Command.ofName?_alphanumeric {n : String} {k : Command} (h : Command.ofName? n = some k) :
    ∀ c ∈ n.toList, Unicode.isAlphanumeric c = true := by
  unfold Command.ofName? at h
  split at h <;> cases h <;> simp <;> decide

theorem Command.Spelled.opens {k : Command} {w : String} (h : k.Spelled w) :
    Opens k (w.toList ++ ['{']) := by
  cases h with
  | operator hk => simpa using Opens.script hk
  | @name name hk =>
      have ho := Opens.command (Command.ofName?_alphanumeric hk)
        (by rwa [String.ofList_toList])
      simpa using ho

/-! ## Wrapping -/

/-- Wrapping in a group.  If `s` parses to `f` and its groups nest less than `maxDepth` deep,
then `s` put inside the group of any command, written with its operator or with any of its
names, parses to that command applied to the nodes of `f`.  So converting `s` in math mode
is converting `\i{s}` from the plain style, warnings included. -/
theorem Formula.parse_wrapped_in_group {s : String} {f : Formula} (hparse : Formula.parse s = .ok f)
    (hnest : ∀ u v n, s.toList = u ++ v → openGroups u = some n → n < maxDepth) :
    (∀ k w, Command.Spelled k w →
      Formula.parse (w ++ "\x7b" ++ s ++ "\x7d") = .ok ⟨[.apply k f.nodes]⟩) ∧
      ∀ t, convert t Style.math s = convert t Style.plain ("\\i\x7b" ++ s ++ "\x7d") := by
  have hfit : FitsWithin 1 s.toList := fun u v n hs hn => by
    have := hnest u v n hs hn
    omega
  have hwrap : ∀ k w, Command.Spelled k w →
      Formula.parse (w ++ "\x7b" ++ s ++ "\x7d") = .ok ⟨[.apply k f.nodes]⟩ := by
    intro k w hw
    have hread := Reads.group_single hw.opens (by decide : 0 < maxDepth)
      ((Formula.reads_of_parse hparse).wrap hfit)
    rw [Formula.parse_eq_ok_iff]
    simpa [Formula.Reads, String.toList_append] using hread
  refine ⟨hwrap, fun t => ?_⟩
  have hitalic : Formula.parse ("\\i\x7b" ++ s ++ "\x7d") = .ok ⟨[.apply .italic f.nodes]⟩ := by
    rw [show ("\\i\x7b" : String) = "\\" ++ "i" ++ "\x7b" by decide]
    exact hwrap .italic ("\\" ++ "i") (.name rfl)
  -- the group of `\i` renders its nodes in the style it derives from the plain one
  have hrender : Formula.render t Style.plain ⟨[.apply .italic f.nodes]⟩ =
      Formula.render t Style.math f := by
    rw [Formula.render_eq_ofPieces, Formula.render_eq_ofPieces, Node.piecesList_singleton,
      Node.pieces_apply_of_ne t _ _ (by decide), show Style.plain.apply .italic = Style.math by decide]
  simp only [convert, attempt, hparse, hitalic, Except.map, hrender]

theorem Formula.parse_wrapped_in_group_script :
    Formula.parse "x^\x7by\x7d" = .ok ⟨[.literal "x", .apply .superscript [.literal "y"]]⟩ ∧
      (∀ u v n, ("x^\x7by\x7d" : String).toList = u ++ v → openGroups u = some n →
        n < maxDepth) ∧
      ((∀ k w, Command.Spelled k w →
        Formula.parse (w ++ "\x7b" ++ "x^\x7by\x7d" ++ "\x7d") =
          .ok ⟨[.apply k (⟨[.literal "x", .apply .superscript [.literal "y"]]⟩ : Formula).nodes]⟩) ∧
        ∀ t, convert t Style.math "x^\x7by\x7d" =
          convert t Style.plain ("\\i\x7b" ++ "x^\x7by\x7d" ++ "\x7d")) := by
  have hparse : Formula.parse "x^\x7by\x7d" =
      .ok ⟨[.literal "x", .apply .superscript [.literal "y"]]⟩ := rfl
  have hnest : ∀ u v n, ("x^\x7by\x7d" : String).toList = u ++ v → openGroups u = some n →
      n < maxDepth := by
    have hchars : ("x^\x7by\x7d" : String).toList = ['x', '^', '{', 'y', '}'] := by simp
    have hall : ∀ u ∈ ['x', '^', '{', 'y', '}'].inits, (openGroups u).all (· < maxDepth) = true := by
      decide
    intro u v n hs hn
    rw [hchars] at hs
    have := hall u ((List.mem_inits _ _).mpr ⟨v, hs.symm⟩)
    rw [hn] at this
    simpa using this
  exact ⟨hparse, hnest, Formula.parse_wrapped_in_group hparse hnest⟩

end MathUnicode.Markup
