import MathUnicode.Proofs.TableBuild

/-!
# Reading the tables from bytes

The database can be given as a text (`Tables.ofString`) or as a sequence of bytes
(`Tables.ofBytes`).  The byte reader cuts the bytes into lines by the rule that cuts the
text into lines, decodes each line on its own as UTF-8, and reads it with the step of the
text reader.

Main statement, `Tables.ofBytes_agrees_with_ofString`:

* the bytes of a text's UTF-8 encoding are read exactly as the text is, with the same
  tables or the same error;
* a byte sequence fails exactly at its first line that is not UTF-8 or that offends in the
  sense of `lineFault?`, with the error of that line, whatever follows it; a line that is
  not UTF-8 fails with the reading error "stream did not contain valid UTF-8".

## Strategy

The encoding of a line feed or a carriage return is one byte, and no other character's
encoding holds that byte (`mem_utf8EncodeChar_of_lt`).  Cutting the encoded text at line
feeds is then cutting the text and encoding the pieces (`splitOn_flatMap`), and so is the
whole line rule (`splitLines_flatMap`).  Each encoded line decodes to itself
(`fromUTF8?_encode`), so the two readers take the same steps.  For arbitrary bytes, the
fold of `Tables.addByteLine` fails with the first fault and otherwise records the entries,
by the lemma that says so of the text reader (`foldlM_eq_findSome?`).
-/

namespace MathUnicode

namespace Text

/-! ## Cutting an encoded list -/

section Encoded

variable {α β : Type} [BEq α] [LawfulBEq α] [BEq β] [LawfulBEq β]

theorem splitOn_append_of_not_mem {a : α} {xs : List α} (h : a ∉ xs) (ys : List α) :
    (xs ++ ys).splitOn a = (ys.splitOn a).modifyHead (xs ++ ·) := by
  induction xs with
  | nil => exact (congrFun List.modifyHead_id _).symm
  | cons x xs ih =>
      have hx : x ≠ a := fun hx => h (hx ▸ List.mem_cons_self)
      rw [List.cons_append, List.splitOn_cons_eq_if_modifyHead, if_neg (by simpa using hx),
        ih (fun hm => h (List.mem_cons_of_mem x hm)), List.modifyHead_modifyHead]
      rfl

/-- When `a` is encoded as the single `b`, and `b` occurs in no other encoding, cutting an
encoded list at `b` is cutting the list at `a` and encoding the pieces. -/
theorem splitOn_flatMap {f : α → List β} {a : α} {b : β} (ha : f a = [b])
    (hb : ∀ x, x ≠ a → b ∉ f x) (l : List α) :
    (l.flatMap f).splitOn b = (l.splitOn a).map (·.flatMap f) := by
  induction l with
  | nil => simp
  | cons x l ih =>
      rw [List.flatMap_cons, List.splitOn_cons_eq_if_modifyHead]
      by_cases hx : x = a
      · subst hx
        rw [ha, if_pos (by simp), List.singleton_append, List.splitOn_cons_eq_if_modifyHead,
          if_pos (by simp), ih]
        simp
      · -- the encoding of `x` holds no `b` and joins the first piece
        rw [if_neg (by simpa using hx), splitOn_append_of_not_mem (hb x hx), ih]
        cases l.splitOn a with
        | nil => rfl
        | cons p ps => simp

theorem dropCarriageReturn_flatMap {f : α → List β} {a : α} {b : β} (ha : f a = [b])
    (hne : ∀ x, f x ≠ []) (hb : ∀ x, x ≠ a → b ∉ f x) (l : List α) :
    dropCarriageReturn b (l.flatMap f) = (dropCarriageReturn a l).flatMap f := by
  rcases List.eq_nil_or_concat l with rfl | ⟨init, x, rfl⟩
  · simp [dropCarriageReturn]
  rw [List.concat_eq_append]
  unfold dropCarriageReturn
  by_cases hx : x = a
  · subst hx
    simp [ha]
  · -- the encoding of the last element ends in some other value
    have hlast : (f x).getLast? ≠ some b := fun h => hb x hx (List.mem_of_getLast? h)
    simp [List.getLast?_append, hx, hlast, List.getLast?_eq_none_iff, hne]

/-- The line rule commutes with an encoding in which the line feed and the carriage return
are single values that no other encoding holds. -/
theorem splitLines_flatMap {f : α → List β} {lf cr : α} {lf' cr' : β} (hlf : f lf = [lf'])
    (hcr : f cr = [cr']) (hne : ∀ x, f x ≠ []) (hlf' : ∀ x, x ≠ lf → lf' ∉ f x)
    (hcr' : ∀ x, x ≠ cr → cr' ∉ f x) (l : List α) :
    splitLines lf' cr' (l.flatMap f) = (splitLines lf cr l).map (·.flatMap f) := by
  unfold splitLines
  rw [splitOn_flatMap hlf hlf']
  have hdrop := dropCarriageReturn_flatMap hcr hne hcr'
  cases hp : (l.splitOn lf).getLast? with
  | none => simp [List.getLast?_eq_none_iff.mp hp]
  | some last =>
      by_cases hl : last = []
      · simp [List.getLast?_map, hp, hl, ← List.map_dropLast, hdrop]
      · have hl' : (last.flatMap f).isEmpty = false := by
          rw [List.isEmpty_eq_false_iff, ne_eq, List.flatMap_eq_nil_iff]
          obtain ⟨x, hx⟩ := List.exists_mem_of_ne_nil last hl
          exact fun h => hne x (h x hx)
        simp [List.getLast?_map, hp, hl, hl', ← List.map_dropLast, hdrop]

end Encoded

/-! ## UTF-8 -/

theorem toNat_ofNat_of_lt {n : Nat} (h : n < 256) : (UInt8.ofNat n).toNat = n := by
  simp [Nat.mod_eq_of_lt h]

/-- A byte below 128 occurs in the UTF-8 encoding of a character only as the whole encoding
of the character with that code: the bytes of longer encodings are all 128 or more. -/
theorem mem_utf8EncodeChar_of_lt {b : UInt8} (hb : b.toNat < 128) (c : Char) :
    b ∈ String.utf8EncodeChar c ↔ c.toNat = b.toNat := by
  unfold String.utf8EncodeChar
  simp only [Char.toNat] at *
  split_ifs with h₁ h₂ h₃
  · simp only [List.mem_singleton]
    constructor
    · rintro rfl
      rw [toNat_ofNat_of_lt (by omega)]
    · intro h
      apply UInt8.toNat_inj.mp
      rw [toNat_ofNat_of_lt (by omega)]
      exact h.symm
  all_goals
    simp only [List.mem_cons, List.not_mem_nil, or_false]
    refine ⟨fun hm => ?_, fun h => by omega⟩
    exfalso
    rcases hm with rfl | rfl | rfl | rfl <;> rw [toNat_ofNat_of_lt (by omega)] at hb <;> omega

theorem not_mem_utf8EncodeChar {b : UInt8} {d : Char} (hb : b.toNat < 128) (hd : d.toNat = b.toNat)
    {c : Char} (hc : c ≠ d) : b ∉ String.utf8EncodeChar c := by
  rw [mem_utf8EncodeChar_of_lt hb, ← hd]
  exact fun h => hc (Char.toNat_inj.mp h)

theorem toUTF8_toList (s : String) :
    s.toUTF8.data.toList = s.toList.flatMap String.utf8EncodeChar := by
  have hs : s.toUTF8 = s.toList.utf8Encode := by
    rw [String.toUTF8_eq_toByteArray, ← String.toByteArray_ofList, String.ofList_toList]
  rw [hs, List.utf8Encode, List.toList_data_toByteArray]

/-- The encoding of a list of characters decodes to their text. -/
theorem fromUTF8?_encode (l : List Char) :
    String.fromUTF8? ⟨(l.flatMap String.utf8EncodeChar).toArray⟩ = some (String.ofList l) := by
  have hbytes : (⟨(l.flatMap String.utf8EncodeChar).toArray⟩ : ByteArray) = l.utf8Encode :=
    ByteArray.ext (by simp [List.utf8Encode, List.data_toByteArray])
  rw [hbytes, String.fromUTF8?, dif_pos ByteArray.isValidUTF8_utf8Encode]
  congr 1

/-- The lines of a text's encoding are the encodings of its lines. -/
theorem byteLines_toUTF8 (s : String) :
    byteLines s.toUTF8.data.toList = (lines s).map fun line => line.toUTF8.data.toList := by
  have hlf : String.utf8EncodeChar '\n' = [10] := by decide
  have hcr : String.utf8EncodeChar '\r' = [13] := by decide
  rw [toUTF8_toList, byteLines, lines,
    splitLines_flatMap hlf hcr (fun _ => String.utf8EncodeChar_ne_nil)
      (fun _ => not_mem_utf8EncodeChar (by decide) rfl)
      (fun _ => not_mem_utf8EncodeChar (by decide) rfl), List.map_map]
  refine List.map_congr_left fun line _ => ?_
  rw [Function.comp_apply, toUTF8_toList, String.toList_ofList]

end Text

/-! ## Faults of byte lines -/

/-- Why reading stops at the byte line numbered `n`, if it does: the line is not UTF-8, or
its text offends. -/
def byteLineFault? (n : Nat) (bytes : List UInt8) : Option BuildError :=
  match String.fromUTF8? ⟨bytes.toArray⟩ with
  | none => some .invalidText
  | some text => lineFault? n text

namespace Tables

/-- One byte line fails with its fault, or records the mapping of its text, if it states
one. -/
theorem addByteLine_eq (t : Tables) (l : List UInt8 × Nat) :
    t.addByteLine l =
      match byteLineFault? l.2 l.1 with
      | some err => .error err
      | none => .ok (((String.fromUTF8? ⟨l.1.toArray⟩).bind Entry.ofLine?).elim t t.addEntry) := by
  unfold addByteLine byteLineFault?
  cases String.fromUTF8? ⟨l.1.toArray⟩ with
  | none => rfl
  | some text => exact addLine_eq t l.2 text

/-- Reading bytes fails with the fault of the first faulty line, numbered from 1; otherwise
it records the mappings of the lines in order and then the four Greek superscripts. -/
theorem ofBytes_eq (bs : List UInt8) :
    ofBytes bs =
      match ((Text.byteLines bs).zipIdx 1).findSome? (fun l => byteLineFault? l.2 l.1) with
      | some err => .error err
      | none => .ok (finish (((Text.byteLines bs).zipIdx 1).foldl
          (fun t l => ((String.fromUTF8? ⟨l.1.toArray⟩).bind Entry.ofLine?).elim t t.addEntry)
          {})) := by
  rw [ofBytes, foldlM_eq_findSome? (fun l => byteLineFault? l.2 l.1)
    (fun t l => ((String.fromUTF8? ⟨l.1.toArray⟩).bind Entry.ofLine?).elim t t.addEntry)
    (fun t l => by rw [addByteLine_eq]; cases byteLineFault? l.2 l.1 <;> rfl)]
  cases ((Text.byteLines bs).zipIdx 1).findSome? (fun l => byteLineFault? l.2 l.1) <;> rfl

/-- The bytes of a text's encoding are read as the text is. -/
theorem ofBytes_toUTF8 (s : String) : ofBytes s.toUTF8.data.toList = ofString s := by
  have hstep : (fun t l => addByteLine t (Prod.map (fun line : String => line.toUTF8.data.toList)
      id l)) = fun (t : Tables) (l : String × Nat) => t.addLine l.2 l.1 := by
    funext t l
    rw [addByteLine, Prod.map_fst, Text.toUTF8_toList, Text.fromUTF8?_encode,
      String.ofList_toList]
    rfl
  rw [ofBytes, Text.byteLines_toUTF8, List.zipIdx_map, List.foldlM_map, hstep]
  rfl

/-! ## Main statement -/

/-- The byte reader agrees with the text reader: the encoding of a text reads as the text.
Any byte sequence fails exactly when one of its lines is not UTF-8 or offends, and then
with the error of the first such line, whatever the lines after it hold; a line that is not
UTF-8 fails with the reading error of invalid UTF-8. -/
theorem ofBytes_agrees_with_ofString (data : String) (bs : List UInt8) (err : BuildError) :
    ofBytes data.toUTF8.data.toList = ofString data ∧
      (ofBytes bs = .error err ↔
        ∃ pre l post, (Text.byteLines bs).zipIdx 1 = pre ++ l :: post ∧
          byteLineFault? l.2 l.1 = some err ∧ ∀ p ∈ pre, byteLineFault? p.2 p.1 = none) ∧
      BuildError.invalidText.message = "IO error: stream did not contain valid UTF-8" := by
  refine ⟨ofBytes_toUTF8 data, ?_, rfl⟩
  rw [ofBytes_eq, ← List.findSome?_eq_some_iff]
  cases ((Text.byteLines bs).zipIdx 1).findSome? (fun l => byteLineFault? l.2 l.1) <;> simp

end Tables

end MathUnicode
