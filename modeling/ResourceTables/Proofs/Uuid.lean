import ResourceTables.Uuid

/-!
# ResourceTables.Proofs.Uuid

The characters that hexadecimal digits and the texts of identifiers are made of, and the reading of
such a text, which gives the identifier back (`Uuid.parse?_toString`). Lists of identifiers are sorted
by their numbers (`Uuid.pairwise_mergeSort`).
-/

namespace ResourceTables

theorem Text.mem_hexDigits {width n : Nat} {c : Char} (h : c ∈ Text.hexDigits width n) :
    ∃ d : Fin 16, c = Text.hexDigit d := by
  induction width generalizing n with
  | zero => cases h
  | succ width ih =>
    rcases List.mem_append.1 h with h | h
    · exact ih h
    · exact ⟨⟨n % 16, Nat.mod_lt _ (by decide)⟩, List.mem_singleton.1 h⟩

theorem Uuid.mem_hyphenate {ds : List Char} {c : Char} (h : c ∈ hyphenate ds) :
    c = '-' ∨ c ∈ ds := by
  simp only [hyphenate, List.mem_append, List.mem_cons] at h
  grind [List.mem_of_mem_take, List.mem_of_mem_drop]

/-- The text of an identifier has no characters but digits and hyphens. -/
theorem Uuid.mem_toString {id : Uuid} {c : Char} (h : c ∈ id.toString.toList) :
    c = '-' ∨ ∃ d : Fin 16, c = Text.hexDigit d := by
  rw [Uuid.toString, String.toList_ofList] at h
  exact (mem_hyphenate h).imp_right Text.mem_hexDigits

/-! ### Reading what was written -/

namespace Uuid

theorem length_hyphenate {ds : List Char} (h : ds.length = 32) : (hyphenate ds).length = 36 := by
  simp only [hyphenate, List.length_append, List.length_cons, List.length_take, List.length_drop]
  omega

/-- Without its hyphens a text has its digits in order. -/
theorem filter_hyphenate {ds : List Char} (h : '-' ∉ ds) :
    (hyphenate ds).filter (· != '-') = ds := by
  have hkeep {cs : List Char} (hsub : cs ⊆ ds) : cs.filter (· != '-') = cs :=
    List.filter_eq_self.2 fun c hc => bne_iff_ne.2 fun heq => h (heq ▸ hsub hc)
  have hdrop {n : Nat} : ds.drop n ⊆ ds := List.drop_subset n ds
  have hsplit {n : Nat} : (ds.drop n).take 4 ++ ds.drop (n + 4) = ds.drop n := by
    rw [← List.drop_drop, List.take_append_drop]
  have hhyphen : ('-' != '-') = false := rfl
  simp only [hyphenate, List.filter_append, List.filter_cons, hhyphen, Bool.false_eq_true,
    if_false]
  rw [hkeep (List.take_subset _ _), hkeep (List.Subset.trans (List.take_subset _ _) hdrop),
    hkeep (List.Subset.trans (List.take_subset _ _) hdrop),
    hkeep (List.Subset.trans (List.take_subset _ _) hdrop), hkeep hdrop, hsplit, hsplit, hsplit,
    List.take_append_drop]

theorem length_digits (id : Uuid) : id.digits.length = 32 := Text.length_hexDigits _ _

theorem hyphen_notMem_digits (id : Uuid) : '-' ∉ id.digits := by
  intro h
  obtain ⟨d, hd⟩ := Text.mem_hexDigits h
  revert d
  decide

theorem ofSimple?_digits (id : Uuid) : ofSimple? id.digits = some id := by
  rw [ofSimple?, if_pos id.length_digits, digits, Text.ofHexDigits?_hexDigits]
  · exact congrArg some (congrArg Uuid.mk (BitVec.ofNat_toNat _ _))
  · exact id.bits.isLt

/-- A text without a scheme or braces is read as it is. -/
theorem parseChars?_of_notMem {cs : List Char} (hlower : 'u' ∉ cs) (hupper : 'U' ∉ cs)
    (hbrace : '\x7b' ∉ cs) : parseChars? cs = (ofSimple? cs).or (ofHyphenated? cs) := by
  unfold parseChars?
  split
  · simp at hlower
  · simp at hupper
  · simp at hbrace
  · rfl

/-- The text of an identifier is read as the identifier. -/
theorem parse?_toString (id : Uuid) : parse? id.toString = some id := by
  have hletter {c : Char} (hc : c ≠ '-') (hdigits : ∀ d : Fin 16, Text.hexDigit d ≠ c) :
      c ∉ id.toString.toList := by
    intro h
    rcases mem_toString h with h | ⟨d, h⟩
    · exact hc h
    · exact hdigits d h.symm
  have htext : id.toString.toList = hyphenate id.digits := String.toList_ofList
  have hlength : id.toString.toList.length = 36 := by
    rw [htext, length_hyphenate id.length_digits]
  have hsimple : ofSimple? id.toString.toList = none := if_neg (by omega)
  have hhyphenated : ofHyphenated? id.toString.toList = some id := by
    rw [ofHyphenated?, htext, filter_hyphenate id.hyphen_notMem_digits]
    exact (if_pos rfl).trans id.ofSimple?_digits
  rw [parse?, parseChars?_of_notMem (hletter (by decide) (by decide))
    (hletter (by decide) (by decide)) (hletter (by decide) (by decide)), hsimple, hhyphenated]
  rfl

/-! ### Order -/

theorem le_iff {a b : Uuid} : a.le b = true ↔ a.bits.toNat ≤ b.bits.toNat := decide_eq_true_iff

theorem pairwise_mergeSort (ids : List Uuid) :
    (ids.mergeSort Uuid.le).Pairwise fun a b => a.le b = true := by
  refine List.pairwise_mergeSort ?_ ?_ ids
  · intro a b c hab hbc
    exact le_iff.2 (Nat.le_trans (le_iff.1 hab) (le_iff.1 hbc))
  · intro a b
    rw [Bool.or_eq_true, le_iff, le_iff]
    exact Nat.le_total _ _

end Uuid

end ResourceTables
