/-!
# Typographic substitutions

Plain text uses ASCII stand-ins for a few typographic characters.  Before a run of text
is styled they are replaced through a table of eight substitutions, applied one after the
other, each replacing every occurrence of its pattern from left to right:

* four, three, two and one apostrophes become a quadruple, triple, double and single prime;
* three, two and one hyphens become an em dash, an en dash and a minus sign;
* a slash becomes the fraction slash.

The longer patterns come first, so a run of `k` apostrophes ends up as `k / 4` quadruple
primes followed by the prime for the remaining `k % 4` (`primes k`), and a run of `k`
hyphens as `k / 3` em dashes followed by the dash for the remaining `k % 3` (`dashes k`);
`Proofs/SubstitutionRuns.lean` proves it.  A text without stand-ins is returned as it is,
without going through the table.

Main statements: `substituteChars_of_plain` (text without the three stand-ins is kept) and
`mem_substituteChars` (substitution writes characters of the text and typographic marks).
-/

namespace MathUnicode.Text

/-- Whether `c` is one of the three stand-ins that substitution replaces. -/
def isStandIn (c : Char) : Bool :=
  c == '\'' || c == '-' || c == '/'

/-- The primes that replace a run of `k` apostrophes. -/
def primes (k : Nat) : List Char :=
  List.replicate (k / 4) '⁗' ++
    match k % 4 with
    | 1 => ['′']
    | 2 => ['″']
    | 3 => ['‴']
    | _ => []

/-- The dashes that replace a run of `k` hyphens. -/
def dashes (k : Nat) : List Char :=
  List.replicate (k / 3) '—' ++
    match k % 3 with
    | 1 => ['−']
    | 2 => ['–']
    | _ => []

/-- One entry of the substitution table: every occurrence of `pattern` becomes
`replacement`.  A pattern is never empty, so each replacement consumes text. -/
structure Substitution where
  /-- The text replaced. -/
  pattern : List Char
  /-- What replaces it. -/
  replacement : List Char
  pattern_ne_nil : pattern ≠ []

namespace Substitution

/-- Replaces every occurrence of the pattern in `cs`, leftmost first and without overlaps:
after a match the search resumes behind it. -/
def replaceIn (σ : Substitution) : List Char → List Char
  | [] => []
  | c :: cs =>
    if σ.pattern.isPrefixOf (c :: cs) then
      σ.replacement ++ σ.replaceIn ((c :: cs).drop σ.pattern.length)
    else
      c :: σ.replaceIn cs
termination_by cs => cs.length
decreasing_by
  all_goals simp only [List.length_drop, List.length_cons]
  · have := List.length_pos_iff.mpr σ.pattern_ne_nil
    omega
  · omega

/-- Whether the pattern occurs in `cs`: some suffix of `cs` starts with it (the empty text
holds no pattern). -/
def occursIn (σ : Substitution) : List Char → Bool
  | [] => false
  | c :: cs => σ.pattern.isPrefixOf (c :: cs) || σ.occursIn cs

/-- A replacement writes characters of the text and of the replacement. -/
theorem mem_replaceIn (σ : Substitution) {x : Char} {cs : List Char}
    (h : x ∈ σ.replaceIn cs) : x ∈ cs ∨ x ∈ σ.replacement := by
  fun_induction σ.replaceIn cs with
  | case1 => simp at h
  | case2 c cs hp ih =>
      rw [List.mem_append] at h
      rcases h with h | h
      · exact .inr h
      · exact (ih h).imp_left List.mem_of_mem_drop
  | case3 c cs hp ih =>
      rw [List.mem_cons] at h
      rcases h with rfl | h
      · exact .inl List.mem_cons_self
      · exact (ih h).imp_left (List.mem_cons_of_mem c)

end Substitution

/-- The substitutions, applied in this order: the longer runs of apostrophes and of hyphens
first. -/
def substitutions : List Substitution :=
  [⟨List.replicate 4 '\'', ['⁗'], by simp⟩,
   ⟨List.replicate 3 '\'', ['‴'], by simp⟩,
   ⟨List.replicate 2 '\'', ['″'], by simp⟩,
   ⟨['\''], ['′'], by simp⟩,
   ⟨List.replicate 3 '-', ['—'], by simp⟩,
   ⟨List.replicate 2 '-', ['–'], by simp⟩,
   ⟨['-'], ['−'], by simp⟩,
   ⟨['/'], ['⁄'], by simp⟩]

/-- Goes through the table: each pattern that occurs in the text so far is replaced
throughout before the next one is looked for. -/
def replaceStandIns (cs : List Char) : List Char :=
  substitutions.foldl (fun acc σ => if σ.occursIn acc then σ.replaceIn acc else acc) cs

/-- The typographic form of a list of characters: a text that holds a stand-in goes through
the table, any other is kept as it is. -/
def substituteChars (cs : List Char) : List Char :=
  if cs.any isStandIn then replaceStandIns cs else cs

/-- The typographic form of a text. -/
def substitute (s : String) : String :=
  String.ofList (substituteChars s.toList)

/-- Whether substitution leaves the text as it is because it holds no stand-in. -/
def isPlainText (s : String) : Bool :=
  !s.toList.any isStandIn

/-- The typographic marks that substitution writes: four primes, three dashes and the
fraction slash. -/
def marks : List Char := ['⁗', '′', '″', '‴', '—', '−', '–', '⁄']

@[simp] theorem primes_zero : primes 0 = [] := rfl

@[simp] theorem dashes_zero : dashes 0 = [] := rfl

/-- Text without apostrophes, hyphens or slashes is kept as it is. -/
theorem substituteChars_of_plain (cs : List Char) (h : cs.any isStandIn = false) :
    substituteChars cs = cs := by
  simp [substituteChars, h]

theorem mem_marks_of_mem_substitutions {σ : Substitution} (hσ : σ ∈ substitutions) {x : Char}
    (hx : x ∈ σ.replacement) : x ∈ marks := by
  simp only [substitutions, List.mem_cons, List.not_mem_nil, or_false] at hσ
  rcases hσ with rfl | rfl | rfl | rfl | rfl | rfl | rfl | rfl <;>
    simp_all [marks]

theorem mem_foldl_replaceIn {x : Char} (σs : List Substitution) (hσs : ∀ σ ∈ σs, σ ∈ substitutions)
    {cs : List Char}
    (h : x ∈ σs.foldl (fun acc σ => if σ.occursIn acc then σ.replaceIn acc else acc) cs) :
    x ∈ cs ∨ x ∈ marks := by
  induction σs generalizing cs with
  | nil => exact .inl h
  | cons σ σs ih =>
      rw [List.foldl_cons] at h
      rcases ih (fun τ hτ => hσs τ (List.mem_cons_of_mem σ hτ)) h with h | h
      · split at h
        · exact (σ.mem_replaceIn h).imp_right
            (mem_marks_of_mem_substitutions (hσs σ List.mem_cons_self))
        · exact .inl h
      · exact .inr h

/-- Substitution writes characters of the text and typographic marks. -/
theorem mem_substituteChars {x : Char} {cs : List Char} (h : x ∈ substituteChars cs) :
    x ∈ cs ∨ x ∈ marks := by
  unfold substituteChars at h
  split at h
  · exact mem_foldl_replaceIn substitutions (fun _ hσ => hσ) h
  · exact .inl h

end MathUnicode.Text
