import Mathlib.Data.List.SplitBy
import MathUnicode.Text.Typography

/-!
# Substitution rewrites runs

`substituteChars` goes through the substitution table as the program does: eight global
replacements, one after the other, each leftmost first and without overlaps.  This file
shows that the result is a rewrite of the text run by run.  The text splits into its maximal
runs of equal characters (`List.splitBy`), and each run is replaced on its own (`runForm`):
a run of `k` apostrophes by `primes k`, a run of `k` hyphens by `dashes k`, each slash by the
fraction slash, and any other run is kept.  So the result holds no stand-in, substitution is
idempotent, and the check that skips the table for text without stand-ins changes nothing.

## Strategy

Every entry of the table replaces a run of `n + 1` copies of a stand-in by one mark that is
no stand-in (`Substitution.ReplacesRun`, `substitutions_replaceRuns`).  Such a replacement

* takes `k` copies in front of a character that ends the run apart into `k / (n + 1)` marks
  and `k % (n + 1)` copies (`ReplacesRun.replaceIn_replicate_append`);
* splits over a concatenation whose parts do not meet in its stand-in
  (`ReplacesRun.replaceIn_append`), since no occurrence crosses the border;
* writes at either end a character that was there, or its mark.

The last point keeps parts that do not meet in a stand-in apart through the whole table
(`replaceAll_append`).  The maximal runs of a text meet in two different characters, so the
table rewrites them one by one (`replaceAll_flatten`), and on one run it computes its form
(`replaceAll_run`).
-/

namespace MathUnicode.Text

namespace Substitution

variable {σ : Substitution}

@[simp] theorem replaceIn_nil : σ.replaceIn [] = [] := by
  rw [replaceIn]

/-- An occurrence at the front is replaced, and the search resumes behind it. -/
theorem replaceIn_pattern_append (rest : List Char) :
    σ.replaceIn (σ.pattern ++ rest) = σ.replacement ++ σ.replaceIn rest := by
  obtain ⟨c, p, hcp⟩ := List.exists_cons_of_ne_nil σ.pattern_ne_nil
  have hpre : σ.pattern.isPrefixOf (σ.pattern ++ rest) = true :=
    List.isPrefixOf_iff_prefix.mpr (List.prefix_append _ _)
  have hdrop : (σ.pattern ++ rest).drop σ.pattern.length = rest := List.drop_left
  -- one step of the search, at the first character of the pattern
  conv_lhs => rw [hcp, List.cons_append, replaceIn, ← List.cons_append, ← hcp]
  rw [if_pos hpre, hdrop]

/-- A text that does not start with the pattern keeps its first character. -/
theorem replaceIn_cons_of_not_isPrefixOf {x : Char} {cs : List Char}
    (h : σ.pattern.isPrefixOf (x :: cs) = false) :
    σ.replaceIn (x :: cs) = x :: σ.replaceIn cs := by
  rw [replaceIn, if_neg (by simp [h])]

/-- A replacement changes nothing in a text where its pattern does not occur. -/
theorem replaceIn_of_occursIn_eq_false {cs : List Char} (h : σ.occursIn cs = false) :
    σ.replaceIn cs = cs := by
  induction cs with
  | nil => exact replaceIn_nil
  | cons x cs ih =>
      simp only [occursIn, Bool.or_eq_false_iff] at h
      rw [replaceIn_cons_of_not_isPrefixOf h.1, ih h.2]

/-- `σ` replaces each run of `n + 1` copies of `c` by the mark `m`. -/
structure ReplacesRun (σ : Substitution) (c : Char) (n : Nat) (m : Char) : Prop where
  pattern_eq : σ.pattern = List.replicate (n + 1) c
  replacement_eq : σ.replacement = [m]

namespace ReplacesRun

variable {c m : Char} {n : Nat}

theorem replaceIn_cons_of_ne (hσ : σ.ReplacesRun c n m) {x : Char} (hx : x ≠ c)
    (cs : List Char) : σ.replaceIn (x :: cs) = x :: σ.replaceIn cs := by
  apply replaceIn_cons_of_not_isPrefixOf
  simp [hσ.pattern_eq, List.replicate_succ, List.isPrefixOf_cons_cons, Ne.symm hx]

theorem replaceIn_of_not_mem (hσ : σ.ReplacesRun c n m) {cs : List Char} (hc : c ∉ cs) :
    σ.replaceIn cs = cs := by
  induction cs with
  | nil => exact replaceIn_nil
  | cons x cs ih =>
      rw [List.mem_cons, not_or] at hc
      rw [hσ.replaceIn_cons_of_ne (Ne.symm hc.1), ih hc.2]

/-- Fewer copies than the pattern holds, before a character that ends the run, are kept. -/
theorem replaceIn_short_run (hσ : σ.ReplacesRun c n m) {ys : List Char}
    (hys : ys.head? ≠ some c) {k : Nat} (hk : k < n + 1) :
    σ.replaceIn (List.replicate k c ++ ys) = List.replicate k c ++ σ.replaceIn ys := by
  induction k with
  | zero => rfl
  | succ k ih =>
      -- the pattern would need `n + 1 - (k + 1)` more copies where `ys` starts
      have hnot : σ.pattern.isPrefixOf (c :: (List.replicate k c ++ ys)) = false := by
        rw [Bool.eq_false_iff]
        intro hpre
        rw [hσ.pattern_eq, ← List.cons_append, ← List.replicate_succ, List.isPrefixOf_iff_prefix,
          show n + 1 = (k + 1) + (n - k) by omega, List.replicate_add,
          List.prefix_append_right_inj] at hpre
        obtain ⟨t, ht⟩ := hpre
        obtain ⟨j, hj⟩ : ∃ j, n - k = j + 1 := ⟨n - k - 1, by omega⟩
        rw [hj, List.replicate_succ, List.cons_append] at ht
        exact hys (by rw [← ht]; rfl)
      rw [List.replicate_succ, List.cons_append, replaceIn_cons_of_not_isPrefixOf hnot,
        ih (by omega), List.cons_append]

/-- `k` copies of the stand-in before a character that ends the run: each `n + 1` of them
from the left become a mark, and the `k % (n + 1)` left over are kept. -/
theorem replaceIn_replicate_append (hσ : σ.ReplacesRun c n m) {ys : List Char}
    (hys : ys.head? ≠ some c) (k : Nat) :
    σ.replaceIn (List.replicate k c ++ ys) =
      List.replicate (k / (n + 1)) m ++ List.replicate (k % (n + 1)) c ++ σ.replaceIn ys := by
  induction k using Nat.strong_induction_on with
  | _ k ih =>
    rcases Nat.lt_or_ge k (n + 1) with hk | hk
    · rw [hσ.replaceIn_short_run hys hk, Nat.div_eq_of_lt hk, Nat.mod_eq_of_lt hk]
      rfl
    · have hsplit : List.replicate k c ++ ys = σ.pattern ++ (List.replicate (k - (n + 1)) c ++ ys) := by
        rw [hσ.pattern_eq, ← List.append_assoc, ← List.replicate_add,
          show n + 1 + (k - (n + 1)) = k by omega]
      rw [hsplit, replaceIn_pattern_append, ih _ (by omega), hσ.replacement_eq,
        Nat.div_eq_sub_div (Nat.succ_pos n) hk, Nat.mod_eq_sub_mod hk, List.replicate_succ]
      rfl

/-- Every text starts with a run of the stand-in, maybe empty, followed by text that does not
start with it. -/
theorem exists_replicate_append (c : Char) (xs : List Char) :
    ∃ k zs, xs = List.replicate k c ++ zs ∧ zs.head? ≠ some c := by
  induction xs with
  | nil => exact ⟨0, [], rfl, by simp⟩
  | cons x xs ih =>
      by_cases hx : x = c
      · obtain ⟨k, zs, rfl, hzs⟩ := ih
        exact ⟨k + 1, zs, by rw [hx, List.replicate_succ, List.cons_append], hzs⟩
      · exact ⟨0, x :: xs, rfl, by simpa using hx⟩

/-- A replacement splits over two texts that do not meet in its stand-in: no occurrence
crosses the border. -/
theorem replaceIn_append (hσ : σ.ReplacesRun c n m) {xs ys : List Char}
    (hmeet : ¬(xs.getLast? = some c ∧ ys.head? = some c)) :
    σ.replaceIn (xs ++ ys) = σ.replaceIn xs ++ σ.replaceIn ys := by
  -- induction on the length of `xs`, taking off its leading run and the character after it
  induction hlen : xs.length using Nat.strong_induction_on generalizing xs with
  | _ len ih =>
    obtain ⟨k, zs, rfl, hzs⟩ := exists_replicate_append c xs
    cases zs with
    | nil =>
        cases k with
        | zero => simp
        | succ k =>
            have hys : ys.head? ≠ some c := fun h => hmeet ⟨by simp [List.getLast?_replicate], h⟩
            rw [List.append_nil, hσ.replaceIn_replicate_append hys,
              ← List.append_nil (List.replicate (k + 1) c),
              hσ.replaceIn_replicate_append (by simp), replaceIn_nil]
            simp
    | cons z zs =>
        have hz : z ≠ c := fun h => hzs (by simp [h])
        have hzsys : ¬(zs.getLast? = some c ∧ ys.head? = some c) := by
          rintro ⟨hl, hh⟩
          apply hmeet
          refine ⟨?_, hh⟩
          rw [List.getLast?_append, List.getLast?_cons, hl]
          rfl
        have hshort : zs.length < len := by
          rw [← hlen]
          simp only [List.length_append, List.length_replicate, List.length_cons]
          omega
        rw [List.append_assoc, hσ.replaceIn_replicate_append (by simpa using hz),
          List.cons_append, hσ.replaceIn_cons_of_ne hz, ih zs.length hshort hzsys rfl,
          hσ.replaceIn_replicate_append (by simpa using hz), hσ.replaceIn_cons_of_ne hz]
        simp

theorem replaceIn_eq_nil_iff (hσ : σ.ReplacesRun c n m) {cs : List Char} :
    σ.replaceIn cs = [] ↔ cs = [] := by
  cases cs with
  | nil => simp
  | cons x cs =>
      simp only [reduceCtorEq, iff_false]
      by_cases hp : σ.pattern.isPrefixOf (x :: cs) = true
      · rw [replaceIn, if_pos hp, hσ.replacement_eq]
        simp
      · rw [replaceIn_cons_of_not_isPrefixOf (Bool.eq_false_iff.mpr hp)]
        simp

/-- A replacement starts with the character its text starts with, or with its mark. -/
theorem head?_replaceIn (hσ : σ.ReplacesRun c n m) {cs : List Char} {x : Char}
    (hx : x ∈ (σ.replaceIn cs).head?) : x ∈ cs.head? ∨ x = m := by
  cases cs with
  | nil => simp at hx
  | cons y cs =>
      by_cases hp : σ.pattern.isPrefixOf (y :: cs) = true
      · rw [replaceIn, if_pos hp, hσ.replacement_eq] at hx
        simp only [List.cons_append, List.head?_cons, Option.mem_def, Option.some.injEq] at hx
        exact .inr hx.symm
      · rw [replaceIn_cons_of_not_isPrefixOf (Bool.eq_false_iff.mpr hp)] at hx
        exact .inl hx

/-- A replacement ends with the character its text ends with, or with its mark. -/
theorem getLast?_replaceIn (hσ : σ.ReplacesRun c n m) {cs : List Char} {x : Char}
    (hx : x ∈ (σ.replaceIn cs).getLast?) : x ∈ cs.getLast? ∨ x = m := by
  fun_induction σ.replaceIn cs with
  | case1 => simp at hx
  | case2 y cs _ ih =>
      rw [hσ.replacement_eq, List.getLast?_append] at hx
      cases hr : (σ.replaceIn ((y :: cs).drop σ.pattern.length)).getLast? with
      | none => simp_all
      | some z =>
          rw [hr, Option.some_or, Option.mem_def, Option.some.injEq] at hx
          subst hx
          rcases ih hr with h | h
          · rw [List.getLast?_drop] at h
            split at h
            · simp at h
            · exact .inl h
          · exact .inr h
  | case3 y cs _ ih =>
      rw [List.getLast?_cons] at hx
      cases hr : (σ.replaceIn cs).getLast? with
      | none =>
          -- nothing after the first character: the text is that character alone
          have hcs : cs = [] :=
            (hσ.replaceIn_eq_nil_iff).mp (List.getLast?_eq_none_iff.mp hr)
          subst hcs
          simp_all
      | some z =>
          rw [hr, Option.getD_some, Option.mem_def, Option.some.injEq] at hx
          subst hx
          rcases ih hr with h | h
          · have hcs : cs ≠ [] := by
              rintro rfl
              simp at h
            exact .inl (by rw [List.getLast?_cons, Option.mem_def, h]; rfl)
          · exact .inr h

end ReplacesRun

end Substitution

open Substitution

/-! ## The table -/

/-- The table replaces four, three, two and one apostrophes by the primes, three, two and one
hyphens by the dashes, and a slash by the fraction slash. -/
theorem substitutions_replaceRuns :
    ∃ σ₁ σ₂ σ₃ σ₄ σ₅ σ₆ σ₇ σ₈, substitutions = [σ₁, σ₂, σ₃, σ₄, σ₅, σ₆, σ₇, σ₈] ∧
      σ₁.ReplacesRun '\'' 3 '⁗' ∧ σ₂.ReplacesRun '\'' 2 '‴' ∧ σ₃.ReplacesRun '\'' 1 '″' ∧
      σ₄.ReplacesRun '\'' 0 '′' ∧ σ₅.ReplacesRun '-' 2 '—' ∧ σ₆.ReplacesRun '-' 1 '–' ∧
      σ₇.ReplacesRun '-' 0 '−' ∧ σ₈.ReplacesRun '/' 0 '⁄' :=
  ⟨_, _, _, _, _, _, _, _, rfl, ⟨rfl, rfl⟩, ⟨rfl, rfl⟩, ⟨rfl, rfl⟩, ⟨rfl, rfl⟩, ⟨rfl, rfl⟩,
    ⟨rfl, rfl⟩, ⟨rfl, rfl⟩, ⟨rfl, rfl⟩⟩

/-- Each of the replacements `σs` replaces runs of one stand-in by one mark. -/
def ReplacesStandInRuns (σs : List Substitution) : Prop :=
  ∀ σ ∈ σs, ∃ c n m, σ.ReplacesRun c n m ∧ isStandIn c = true ∧ isStandIn m = false

theorem ReplacesStandInRuns.of_cons {σ : Substitution} {σs : List Substitution}
    (h : ReplacesStandInRuns (σ :: σs)) : ReplacesStandInRuns σs :=
  fun τ hτ => h τ (List.mem_cons_of_mem σ hτ)

theorem replacesStandInRuns_substitutions : ReplacesStandInRuns substitutions := by
  obtain ⟨σ₁, σ₂, σ₃, σ₄, σ₅, σ₆, σ₇, σ₈, htab, h₁, h₂, h₃, h₄, h₅, h₆, h₇, h₈⟩ :=
    substitutions_replaceRuns
  rw [htab]
  intro σ hσ
  simp only [List.mem_cons, List.not_mem_nil, or_false] at hσ
  rcases hσ with rfl | rfl | rfl | rfl | rfl | rfl | rfl | rfl
  exacts [⟨_, _, _, h₁, rfl, rfl⟩, ⟨_, _, _, h₂, rfl, rfl⟩, ⟨_, _, _, h₃, rfl, rfl⟩,
    ⟨_, _, _, h₄, rfl, rfl⟩, ⟨_, _, _, h₅, rfl, rfl⟩, ⟨_, _, _, h₆, rfl, rfl⟩,
    ⟨_, _, _, h₇, rfl, rfl⟩, ⟨_, _, _, h₈, rfl, rfl⟩]

/-- Applies the replacements `σs` one after the other, each to the whole text. -/
def replaceAll (σs : List Substitution) (cs : List Char) : List Char :=
  σs.foldl (fun acc σ => σ.replaceIn acc) cs

@[simp] theorem replaceAll_nil (cs : List Char) : replaceAll [] cs = cs := rfl

@[simp] theorem replaceAll_cons (σ : Substitution) (σs : List Substitution) (cs : List Char) :
    replaceAll (σ :: σs) cs = replaceAll σs (σ.replaceIn cs) := rfl

@[simp] theorem replaceAll_empty (σs : List Substitution) : replaceAll σs [] = [] := by
  induction σs with
  | nil => rfl
  | cons σ σs ih => rw [replaceAll_cons, replaceIn_nil, ih]

/-- Looking for a pattern before replacing it changes nothing: the replacement of a pattern
that does not occur is the text itself. -/
theorem replaceStandIns_eq (cs : List Char) : replaceStandIns cs = replaceAll substitutions cs := by
  have hstep : (fun acc (σ : Substitution) => if σ.occursIn acc then σ.replaceIn acc else acc) =
      fun acc σ => σ.replaceIn acc := by
    funext acc σ
    split
    · rfl
    · next h => exact (replaceIn_of_occursIn_eq_false (Bool.eq_false_iff.mpr h)).symm
  rw [replaceStandIns, replaceAll, hstep]

/-- A replacement whose stand-in does not occur is passed over. -/
theorem replaceAll_cons_of_not_mem {σ : Substitution} {c m : Char} {n : Nat}
    (hσ : σ.ReplacesRun c n m) (σs : List Substitution) {cs : List Char} (hc : c ∉ cs) :
    replaceAll (σ :: σs) cs = replaceAll σs cs := by
  rw [replaceAll_cons, hσ.replaceIn_of_not_mem hc]

/-- Text in which no pattern of the replacements occurs is kept. -/
theorem replaceAll_of_forall_not_mem {σs : List Substitution} {cs : List Char}
    (h : ∀ σ ∈ σs, ∃ c n m, σ.ReplacesRun c n m ∧ c ∉ cs) : replaceAll σs cs = cs := by
  induction σs with
  | nil => rfl
  | cons σ σs ih =>
      obtain ⟨c, n, m, hσ, hc⟩ := h σ List.mem_cons_self
      rw [replaceAll_cons_of_not_mem hσ σs hc]
      exact ih fun τ hτ => h τ (List.mem_cons_of_mem σ hτ)

/-- Text without stand-ins is kept by replacements of runs of stand-ins. -/
theorem replaceAll_of_not_standIn {σs : List Substitution} (hσs : ReplacesStandInRuns σs)
    {cs : List Char} (hcs : ∀ x ∈ cs, isStandIn x = false) : replaceAll σs cs = cs := by
  apply replaceAll_of_forall_not_mem
  intro σ hσ
  obtain ⟨c, n, m, hrun, hc, -⟩ := hσs σ hσ
  exact ⟨c, n, m, hrun, fun hmem => by simp [hcs c hmem] at hc⟩

/-- Two texts meet in a stand-in when the first ends with the stand-in the second starts
with: a replacement could match across the border. -/
def MeetInStandIn (xs ys : List Char) : Prop :=
  ∃ c, isStandIn c = true ∧ xs.getLast? = some c ∧ ys.head? = some c

/-- Replacements of runs of stand-ins split over two texts that do not meet in a stand-in:
each writes at the border a character that was there or a mark, so the parts never come to
meet. -/
theorem replaceAll_append {σs : List Substitution} (hσs : ReplacesStandInRuns σs)
    {xs ys : List Char} (hmeet : ¬MeetInStandIn xs ys) :
    replaceAll σs (xs ++ ys) = replaceAll σs xs ++ replaceAll σs ys := by
  induction σs generalizing xs ys with
  | nil => rfl
  | cons σ σs ih =>
      obtain ⟨c, n, m, hσ, hc, hm⟩ := hσs σ List.mem_cons_self
      have hsplit : σ.replaceIn (xs ++ ys) = σ.replaceIn xs ++ σ.replaceIn ys :=
        hσ.replaceIn_append fun ⟨hl, hh⟩ => hmeet ⟨c, hc, hl, hh⟩
      have hapart : ¬MeetInStandIn (σ.replaceIn xs) (σ.replaceIn ys) := by
        rintro ⟨d, hd, hl, hh⟩
        rcases hσ.getLast?_replaceIn hl with hl | rfl
        · rcases hσ.head?_replaceIn hh with hh | rfl
          · exact hmeet ⟨d, hd, hl, hh⟩
          · simp [hm] at hd
        · simp [hm] at hd
      rw [replaceAll_cons, hsplit, ih hσs.of_cons hapart, replaceAll_cons, replaceAll_cons]

/-- A replacement of runs of `c` at the head of the table, on a run of `c`: its marks, and the
rest of the table on what it leaves over. -/
theorem replaceAll_cons_replicate {σ : Substitution} {σs : List Substitution} {c m : Char}
    {n : Nat} (hσ : σ.ReplacesRun c n m) (hm : isStandIn m = false)
    (hσs : ReplacesStandInRuns σs) (k : Nat) :
    replaceAll (σ :: σs) (List.replicate k c) =
      List.replicate (k / (n + 1)) m ++ replaceAll σs (List.replicate (k % (n + 1)) c) := by
  have hrun := hσ.replaceIn_replicate_append (show ([] : List Char).head? ≠ some c by simp) k
  rw [List.append_nil, replaceIn_nil, List.append_nil] at hrun
  have hmarks : ∀ x ∈ List.replicate (k / (n + 1)) m, isStandIn x = false := by
    intro x hx
    rw [(List.mem_replicate.mp hx).2]
    exact hm
  have hapart : ¬MeetInStandIn (List.replicate (k / (n + 1)) m)
      (List.replicate (k % (n + 1)) c) := by
    rintro ⟨d, hd, hl, -⟩
    have := hmarks d (List.mem_of_mem_getLast? hl)
    simp [this] at hd
  rw [replaceAll_cons, hrun, replaceAll_append hσs hapart, replaceAll_of_not_standIn hσs hmarks]

/-! ## Runs -/

/-- The typographic form of one run of equal characters: `k` apostrophes become `primes k`,
`k` hyphens `dashes k`, each slash the fraction slash, and any other run stays. -/
def runForm : List Char → List Char
  | [] => []
  | c :: cs =>
    if c = '\'' then primes (cs.length + 1)
    else if c = '-' then dashes (cs.length + 1)
    else if c = '/' then List.replicate (cs.length + 1) '⁄'
    else c :: cs

theorem runForm_replicate (x : Char) (k : Nat) :
    runForm (List.replicate (k + 1) x) =
      if x = '\'' then primes (k + 1)
      else if x = '-' then dashes (k + 1)
      else if x = '/' then List.replicate (k + 1) '⁄'
      else List.replicate (k + 1) x := by
  rw [List.replicate_succ, runForm, List.length_replicate]

theorem primes_eq (k : Nat) :
    primes k = List.replicate (k / 4) '⁗' ++ (List.replicate (k % 4 / 3) '‴' ++
      (List.replicate (k % 4 % 3 / 2) '″' ++ List.replicate (k % 4 % 3 % 2) '′')) := by
  unfold primes
  rcases (by omega : k % 4 = 0 ∨ k % 4 = 1 ∨ k % 4 = 2 ∨ k % 4 = 3) with h | h | h | h <;>
    simp [h]

theorem dashes_eq (k : Nat) :
    dashes k = List.replicate (k / 3) '—' ++
      (List.replicate (k % 3 / 2) '–' ++ List.replicate (k % 3 % 2) '−') := by
  unfold dashes
  rcases (by omega : k % 3 = 0 ∨ k % 3 = 1 ∨ k % 3 = 2) with h | h | h <;> simp [h]

/-- The table computes the form of every run. -/
theorem replaceAll_run (x : Char) (k : Nat) :
    replaceAll substitutions (List.replicate (k + 1) x) = runForm (List.replicate (k + 1) x) := by
  obtain ⟨σ₁, σ₂, σ₃, σ₄, σ₅, σ₆, σ₇, σ₈, htab, h₁, h₂, h₃, h₄, h₅, h₆, h₇, h₈⟩ :=
    substitutions_replaceRuns
  have hall := replacesStandInRuns_substitutions
  rw [htab] at hall ⊢
  rw [runForm_replicate]
  by_cases hq : x = '\''
  · -- apostrophes: the four prime replacements take the run apart, the rest find nothing
    subst hq
    rw [if_pos rfl, replaceAll_cons_replicate h₁ rfl hall.of_cons,
      replaceAll_cons_replicate h₂ rfl hall.of_cons.of_cons,
      replaceAll_cons_replicate h₃ rfl hall.of_cons.of_cons.of_cons,
      replaceAll_cons_replicate h₄ rfl hall.of_cons.of_cons.of_cons.of_cons, Nat.mod_one,
      List.replicate_zero, replaceAll_of_not_standIn hall.of_cons.of_cons.of_cons.of_cons (by simp),
      List.append_nil, Nat.div_one, primes_eq]
  by_cases hh : x = '-'
  · -- hyphens: the prime replacements find nothing, the three dash replacements take it apart
    subst hh
    have hnq : '\'' ∉ List.replicate (k + 1) '-' := by simp
    rw [if_neg (by decide), if_pos rfl, replaceAll_cons_of_not_mem h₁ _ hnq,
      replaceAll_cons_of_not_mem h₂ _ hnq, replaceAll_cons_of_not_mem h₃ _ hnq,
      replaceAll_cons_of_not_mem h₄ _ hnq,
      replaceAll_cons_replicate h₅ rfl hall.of_cons.of_cons.of_cons.of_cons.of_cons,
      replaceAll_cons_replicate h₆ rfl hall.of_cons.of_cons.of_cons.of_cons.of_cons.of_cons,
      replaceAll_cons_replicate h₇ rfl hall.of_cons.of_cons.of_cons.of_cons.of_cons.of_cons.of_cons,
      Nat.mod_one, List.replicate_zero, replaceAll_cons, replaceIn_nil, replaceAll_nil,
      List.append_nil, Nat.div_one, dashes_eq]
  by_cases hs : x = '/'
  · -- slashes: only the last replacement finds them
    subst hs
    have hns : ∀ y, y ≠ '/' → y ∉ List.replicate (k + 1) '/' := fun y hy hmem =>
      hy (List.mem_replicate.mp hmem).2
    rw [if_neg (by decide), if_neg (by decide), if_pos rfl,
      replaceAll_cons_of_not_mem h₁ _ (hns _ (by decide)),
      replaceAll_cons_of_not_mem h₂ _ (hns _ (by decide)),
      replaceAll_cons_of_not_mem h₃ _ (hns _ (by decide)),
      replaceAll_cons_of_not_mem h₄ _ (hns _ (by decide)),
      replaceAll_cons_of_not_mem h₅ _ (hns _ (by decide)),
      replaceAll_cons_of_not_mem h₆ _ (hns _ (by decide)),
      replaceAll_cons_of_not_mem h₇ _ (hns _ (by decide)),
      replaceAll_cons_replicate h₈ rfl (fun _ h => absurd h List.not_mem_nil), Nat.mod_one,
      Nat.div_one, List.replicate_zero, replaceAll_nil, List.append_nil]
  -- any other character: no pattern occurs
  rw [if_neg hq, if_neg hh, if_neg hs]
  apply replaceAll_of_not_standIn hall
  intro y hy
  rw [(List.mem_replicate.mp hy).2]
  simp [isStandIn, hq, hh, hs]

/-- Replacements of runs of stand-ins rewrite nonempty pieces one by one when no two
neighbours meet in a character. -/
theorem replaceAll_flatten {σs : List Substitution} (hσs : ReplacesStandInRuns σs)
    {L : List (List Char)} (hne : [] ∉ L)
    (hchain : L.IsChain fun a b => ∃ ha hb, (a.getLast ha == b.head hb) = false) :
    replaceAll σs L.flatten = L.flatMap (replaceAll σs) := by
  induction L with
  | nil => simp
  | cons a L ih =>
      rw [List.mem_cons, not_or] at hne
      have hapart : ¬MeetInStandIn a L.flatten := by
        rintro ⟨d, -, hl, hh⟩
        -- the next piece starts with `d`, and the chain says it does not
        cases L with
        | nil => simp at hh
        | cons b L =>
            have hb : b ≠ [] := fun h => hne.2 (h ▸ List.mem_cons_self)
            obtain ⟨ha, hb', hab⟩ := (List.isChain_cons_cons.mp hchain).1
            rw [List.getLast?_eq_some_getLast ha, Option.some.injEq] at hl
            rw [List.flatten_cons, List.head?_append, List.head?_eq_some_head hb',
              Option.some_or, Option.some.injEq] at hh
            simp [hl, hh] at hab
      rw [List.flatten_cons, replaceAll_append hσs hapart, ih hne.2 hchain.tail, List.flatMap_cons]

/-- A maximal run of equal characters is its first character repeated. -/
theorem eq_replicate_of_mem_splitBy {run cs : List Char} (h : run ∈ cs.splitBy (· == ·)) :
    ∃ x k, run = List.replicate (k + 1) x := by
  obtain ⟨x, rest, rfl⟩ := List.exists_cons_of_ne_nil (List.ne_nil_of_mem_splitBy h)
  have hchain : (x :: rest).IsChain (· = ·) :=
    (List.isChain_of_mem_splitBy h).imp fun a b hab => by simpa using hab
  refine ⟨x, rest.length, ?_⟩
  rw [List.replicate_succ, ← List.isChain_cons_eq_iff_eq_replicate.mp hchain]

/-- The check for stand-ins only skips the table where it would change nothing. -/
theorem substituteChars_eq_replaceAll (cs : List Char) :
    substituteChars cs = replaceAll substitutions cs := by
  unfold substituteChars
  split
  · exact replaceStandIns_eq cs
  · next h =>
    refine (replaceAll_of_not_standIn replacesStandInRuns_substitutions ?_).symm
    simpa using h

/-- Substitution rewrites the text run by run. -/
theorem substituteChars_eq_runs (cs : List Char) :
    substituteChars cs = (cs.splitBy (· == ·)).flatMap runForm := by
  conv_lhs => rw [substituteChars_eq_replaceAll, ← List.flatten_splitBy (· == ·) cs]
  rw [replaceAll_flatten replacesStandInRuns_substitutions (List.nil_notMem_splitBy _ _)
    (List.isChain_getLast_head_splitBy _ _)]
  apply List.flatMap_congr
  intro run hrun
  obtain ⟨x, k, rfl⟩ := eq_replicate_of_mem_splitBy hrun
  exact replaceAll_run x k

example : substituteChars ['f', '\'', '\'', '\'', '\'', '\'', '-', '-', '/', '2'] =
    ['f', '⁗', '′', '–', '⁄', '2'] := by
  rw [substituteChars_eq_runs]
  decide

theorem not_standIn_of_mem_runForm {x y : Char} {k : Nat}
    (hy : y ∈ runForm (List.replicate (k + 1) x)) : isStandIn y = false := by
  rw [runForm_replicate] at hy
  split_ifs at hy
  · rw [primes_eq] at hy
    simp only [List.mem_append, List.mem_replicate] at hy
    rcases hy with ⟨-, rfl⟩ | ⟨-, rfl⟩ | ⟨-, rfl⟩ | ⟨-, rfl⟩ <;> rfl
  · rw [dashes_eq] at hy
    simp only [List.mem_append, List.mem_replicate] at hy
    rcases hy with ⟨-, rfl⟩ | ⟨-, rfl⟩ | ⟨-, rfl⟩ <;> rfl
  · rw [(List.mem_replicate.mp hy).2]
    rfl
  · rw [(List.mem_replicate.mp hy).2]
    simp_all [isStandIn]

/-- Substitution rewrites a text run by run: it splits into maximal runs of equal
characters, a run of `k` apostrophes becomes `k / 4` quadruple primes and the prime for the
remaining `k % 4`, a run of `k` hyphens `k / 3` em dashes and the dash for the remaining
`k % 3`, each slash the fraction slash, and every other character stays.  Hence the result
holds no apostrophe, hyphen or slash, substituting twice is substituting once, and going
through the table even for a text without stand-ins gives the same result. -/
theorem substitute_rewrites_runs (t : String) :
    (substitute t).toList = (t.toList.splitBy (· == ·)).flatMap runForm ∧
      (∀ c ∈ (substitute t).toList, isStandIn c = false) ∧
      substitute (substitute t) = substitute t ∧
      String.ofList (replaceStandIns t.toList) = substitute t := by
  have hruns : (substitute t).toList = (t.toList.splitBy (· == ·)).flatMap runForm := by
    rw [substitute, String.toList_ofList, substituteChars_eq_runs]
  have hplain : ∀ c ∈ (substitute t).toList, isStandIn c = false := by
    intro c hc
    rw [hruns, List.mem_flatMap] at hc
    obtain ⟨run, hrun, hc⟩ := hc
    obtain ⟨x, k, rfl⟩ := eq_replicate_of_mem_splitBy hrun
    exact not_standIn_of_mem_runForm hc
  refine ⟨hruns, hplain, ?_, ?_⟩
  · rw [substitute, substituteChars_of_plain _ (by simpa using hplain), String.ofList_toList]
  · rw [substitute, substituteChars_eq_replaceAll, replaceStandIns_eq]

end MathUnicode.Text
