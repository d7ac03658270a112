import MathUnicode.Proofs.ReaderState

/-!
# The nesting limit

The reader opens at most `maxDepth` groups at a time.  This file shows what that bounds and
when the limit is hit:

* a formula that parses nests commands at most `maxDepth + 1` deep: `maxDepth` braced
  groups, and inside the innermost a script with its one-character operand
  (`Formula.depth_le_of_parse`).  Rendering recurses along the same nesting, so it is
  bounded too;
* after every prefix it reads without fault, the reader's count of open groups is the number
  of groups that the prefix leaves open (`Reader.openGroups_of_scan`);
* the parse fails for nesting exactly when reading, before any other fault, reaches a `{`
  that opens a group while `maxDepth` are open, whatever follows that brace
  (`Formula.parse_eq_nestingTooDeep_iff`).
-/

namespace MathUnicode.Markup

mutual

/-- How deeply commands nest in a node: the longest chain of applications, each inside the
operands of the one before. -/
def Node.depth : Node → Nat
  | .literal _ => 0
  | .symbol _ => 0
  | .apply _ ns => Node.depthList ns + 1

/-- How deeply commands nest in a sequence of nodes: the deepest of its nodes. -/
def Node.depthList : List Node → Nat
  | [] => 0
  | n :: ns => max n.depth (Node.depthList ns)

end

/-! ## Parsed formulas nest boundedly -/

/-- Read inside `d ≤ maxDepth` groups, nodes nest at most `maxDepth + 1 - d` deep: each group
is read one level further in, below `maxDepth`, and a script adds one level of its own. -/
theorem Reads.depthList_add_le {d e e' : Nat} {s r : List Char} {ns : List Node}
    (h : Reads d e s ns r e') (hd : d ≤ maxDepth) : Node.depthList ns + d ≤ maxDepth + 1 := by
  induction h with
  | nil => simp only [Node.depthList]; omega
  | text _ _ _ _ ih =>
      have := ih hd
      simp only [Node.depthList, Node.depth]
      omega
  | script _ _ _ ih =>
      have := ih hd
      simp only [Node.depthList, Node.depth]
      omega
  | symbol _ _ _ _ ih =>
      have := ih hd
      simp only [Node.depthList, Node.depth]
      omega
  | group _ hlt _ _ ihg ih =>
      -- the operands are read one group further in, which the limit still allows
      have hinner := ihg hlt
      have := ih hd
      simp only [Node.depthList, Node.depth]
      omega

/-- A formula that parses nests commands at most `maxDepth + 1` deep. -/
theorem Formula.depth_le_of_parse {s : String} {f : Formula} (h : Formula.parse s = .ok f) :
    Node.depthList f.nodes ≤ maxDepth + 1 := by
  have := (Formula.reads_of_parse h).depthList_add_le (Nat.zero_le _)
  omega

/-! ## The count of open groups -/

namespace Reader

theorem Scanned.openGroups_eq {r : Reader} {u : List Char} (hs : r.Scanned u) :
    openGroups u = some r.groups.length :=
  openGroups_eq_of_unclosed hs.groups

/-- After every prefix read without fault, the reader counts the groups the prefix leaves
open, and there are at most `maxDepth` of them. -/
theorem openGroups_of_scan {u : List Char} {r : Reader} (h : scan u = .ok r) :
    openGroups u = some r.groups.length ∧ r.groups.length ≤ maxDepth :=
  ⟨(scanned_of_scan h).openGroups_eq, (scanned_of_scan h).depth_le⟩

theorem openGroup_of_le {r : Reader} {k : Command} {q : Nat}
    (h : maxDepth ≤ r.groups.length) :
    r.openGroup k q = .error (.nestingTooDeep maxDepth q) := by
  simp [openGroup, h]

/-- A brace after a prefix that opens a group with it is read as the opening of a group. -/
theorem Scanned.step_brace {r : Reader} {u : List Char} (hs : r.Scanned u)
    (ho : OpensGroup u) :
    ∃ k, r.step ((String.ofList u).utf8ByteSize, '{') =
      r.openGroup k (String.ofList u).utf8ByteSize := by
  have hpends := hs.pends
  -- the reader waits for an operand or holds a name exactly where the text opens a group
  cases hp : r.pending with
  | idle =>
      simp only [PendsOn, hp] at hpends
      rcases ho with ⟨-, ha⟩ | ⟨n, k, hn, -⟩
      · simp [hpends.2] at ha
      · simp [hpends.1] at hn
  | operand k op q => exact ⟨k, step_operand_open hp⟩
  | backslash q =>
      simp only [PendsOn, hp] at hpends
      rcases ho with ⟨ht, -⟩ | ⟨n, k, hn, -⟩
      · simp [hpends.1] at ht
      · simp [hpends.1] at hn
  | name n q =>
      simp only [PendsOn, hp] at hpends
      rcases ho with ⟨ht, -⟩ | ⟨n', k, hn, hk⟩
      · simp [hpends] at ht
      · rw [hpends, LexState.name.injEq] at hn
        rw [← hn, String.ofList_toList] at hk
        exact ⟨k, step_name_open hp hk⟩

end Reader

/-! ## When the limit is hit -/

/-- The parse fails for nesting exactly when, after a prefix `u` read without fault, a `{`
opens a group while `maxDepth` groups are open; the fault is at that brace. -/
theorem Formula.parse_eq_nestingTooDeep_iff {s : String} {d p : Nat} :
    Formula.parse s = .error (.nestingTooDeep d p) ↔
      d = maxDepth ∧ ∃ u v, s.toList = u ++ '{' :: v ∧ p = (String.ofList u).utf8ByteSize ∧
        (∃ r, Reader.scan u = .ok r) ∧ OpensGroup u ∧ openGroups u = some maxDepth := by
  constructor
  · intro h
    rcases Reader.parse_error_cases h with ⟨u, c, v, hsplit, hrun, hfault⟩ | hfault
    · obtain ⟨hd, hp, rfl, hopens, hdepth⟩ := hfault
      exact ⟨hd, u, v, hsplit, hp, hrun, hopens, hdepth⟩
    · -- the end of the text never reports nesting
      exact hfault.elim
  · rintro ⟨rfl, u, v, hsplit, rfl, ⟨r, hrun⟩, hopens, hdepth⟩
    have hs := Reader.scanned_of_scan hrun
    have hfull : maxDepth ≤ r.groups.length := by
      rw [hs.openGroups_eq, Option.some.injEq] at hdepth
      omega
    obtain ⟨k, hk⟩ := hs.step_brace hopens
    have herr : Reader.scan s.toList =
        .error (.nestingTooDeep maxDepth (String.ofList u).utf8ByteSize) :=
      Reader.scan_eq_error_iff.mpr
        ⟨u, '{', v, r, hsplit, hrun, by rw [hk, Reader.openGroup_of_le hfull]⟩
    rw [Reader.parse_eq_scan, herr]
    rfl

/-- The nesting limit: parsed formulas nest at most `maxDepth + 1` deep; at every point the
reader reaches, its count of open groups is the number the text so far leaves open, at most
`maxDepth`; the parse fails for nesting exactly at the first `{` that would open one group
too many, before any other fault; and what follows that brace does not matter. -/
theorem Formula.nesting_limit (s : String) :
    (∀ f, Formula.parse s = .ok f → Node.depthList f.nodes ≤ maxDepth + 1) ∧
      (∀ u v r, s.toList = u ++ v → Reader.scan u = .ok r →
        openGroups u = some r.groups.length ∧ r.groups.length ≤ maxDepth) ∧
      (∀ d p, Formula.parse s = .error (.nestingTooDeep d p) ↔
        d = maxDepth ∧ ∃ u v, s.toList = u ++ '{' :: v ∧ p = (String.ofList u).utf8ByteSize ∧
          (∃ r, Reader.scan u = .ok r) ∧ OpensGroup u ∧ openGroups u = some maxDepth) ∧
      (∀ d p, Formula.parse s = .error (.nestingTooDeep d p) →
        ∃ u v, s.toList = u ++ '{' :: v ∧ p = (String.ofList u).utf8ByteSize ∧
          ∀ w, Formula.parse (String.ofList (u ++ '{' :: w)) = .error (.nestingTooDeep d p)) := by
  refine ⟨fun _ => Formula.depth_le_of_parse, fun _ _ _ _ => Reader.openGroups_of_scan,
    fun _ _ => Formula.parse_eq_nestingTooDeep_iff, ?_⟩
  intro d p h
  obtain ⟨hd, u, v, hsplit, hp, hrun, hopens, hdepth⟩ :=
    Formula.parse_eq_nestingTooDeep_iff.mp h
  -- any text that agrees with `s` up to the brace fails at the same brace
  refine ⟨u, v, hsplit, hp, fun w => Formula.parse_eq_nestingTooDeep_iff.mpr ?_⟩
  exact ⟨hd, u, w, String.toList_ofList, hp, hrun, hopens, hdepth⟩

end MathUnicode.Markup
