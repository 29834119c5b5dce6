import Mathlib.Data.List.Basic
import Mathlib.Data.List.TakeWhile
import ResourceTables.Text.Blank

/-!
# ResourceTables.Proofs.Text.Pieces

The pieces of a text. A text that was split has no separator in its pieces; a text that was trimmed is what
stands between the blanks on either side (`trimChars_eq_iff`).
-/

namespace ResourceTables.Text

/-- A piece of a text holds none of the characters that the text was split at. -/
theorem eq_false_of_mem_splitOnP {p : Char → Bool} {cs piece : List Char} {c : Char}
    (h : piece ∈ cs.splitOnP p) (hc : c ∈ piece) : p c = false := by
  induction cs generalizing piece with
  | nil =>
    rw [List.splitOnP_nil, List.mem_singleton] at h
    rw [h] at hc
    cases hc
  | cons d rest ih =>
    rw [List.splitOnP_cons_eq_if_modifyHead] at h
    split at h
    · rcases List.mem_cons.1 h with rfl | h
      · cases hc
      · exact ih h hc
    · rename_i hd
      obtain ⟨first, others, hsplit⟩ :=
        List.exists_cons_of_ne_nil (List.splitOnP_ne_nil p rest)
      rw [hsplit, List.modifyHead_cons] at h
      rw [hsplit] at ih
      rcases List.mem_cons.1 h with rfl | h
      · rcases List.mem_cons.1 hc with rfl | hc
        · exact Bool.eq_false_iff.2 hd
        · exact ih List.mem_cons_self hc
      · exact ih (List.mem_cons_of_mem _ h) hc

theorem notMem_of_mem_splitOn {cs piece : List Char} {c : Char} (h : piece ∈ cs.splitOn c) :
    c ∉ piece := by
  intro hc
  have hne : (c == c) = false := eq_false_of_mem_splitOnP (p := (· == c)) h hc
  simp at hne

/-- What is left behind all leading characters of a kind. -/
theorem dropWhile_eq_iff {p : Char → Bool} {cs rest : List Char} :
    cs.dropWhile p = rest ↔
      (∃ before, cs = before ++ rest ∧ ∀ c ∈ before, p c = true) ∧
        ∀ c ∈ rest.head?, p c = false := by
  constructor
  · intro h
    subst h
    refine ⟨⟨cs.takeWhile p, List.takeWhile_append_dropWhile.symm, fun c => List.mem_takeWhile_imp⟩,
      fun c hc => ?_⟩
    have hhead := List.head?_dropWhile_not p cs
    rwa [hc] at hhead
  · intro h
    obtain ⟨⟨before, rfl, hbefore⟩, hrest⟩ := h
    rw [List.dropWhile_append_of_pos hbefore]
    cases rest with
    | nil => rfl
    | cons c rest => exact List.dropWhile_cons_of_neg (by simp [hrest c rfl])

/-- The second list is the first one up to the blanks on either side. -/
structure Trims (cs name : List Char) : Prop where
  around : ∃ before after, cs = before ++ name ++ after ∧ (∀ c ∈ before, isBlank c = true) ∧
    ∀ c ∈ after, isBlank c = true
  first : ∀ c ∈ name.head?, isBlank c = false
  last : ∀ c ∈ name.getLast?, isBlank c = false

theorem trimChars_eq_iff {cs name : List Char} : trimChars cs = name ↔ Trims cs name := by
  have hreverse : trimChars cs = name ↔
      (cs.dropWhile isBlank).reverse.dropWhile isBlank = name.reverse := by
    rw [trimChars, List.reverse_eq_iff]
  rw [hreverse, dropWhile_eq_iff, List.head?_reverse]
  constructor
  · intro h
    obtain ⟨⟨after, hrest, hafter⟩, hlast⟩ := h
    have hrest : cs.dropWhile isBlank = name ++ after.reverse := by
      rw [List.reverse_eq_iff] at hrest
      simpa using hrest
    obtain ⟨⟨before, rfl, hbefore⟩, hfirst⟩ := dropWhile_eq_iff.1 hrest
    refine ⟨⟨before, after.reverse, (List.append_assoc _ _ _).symm, hbefore, ?_⟩, ?_, hlast⟩
    · exact fun c hc => hafter c (List.mem_reverse.1 hc)
    · exact fun c hc => hfirst c (List.mem_head?_append_of_mem_head? hc)
  · intro h
    obtain ⟨before, after, rfl, hbefore, hafter⟩ := h.around
    refine ⟨?_, h.last⟩
    by_cases hname : name = []
    · -- Then there are only blanks.
      have hblank : ∀ c ∈ before ++ name ++ after, isBlank c = true := by
        simpa [hname, or_imp, forall_and] using ⟨hbefore, hafter⟩
      rw [List.dropWhile_eq_nil_iff.2 hblank, hname]
      exact ⟨[], rfl, by simp⟩
    · have hdrop : (before ++ name ++ after).dropWhile isBlank = name ++ after := by
        refine dropWhile_eq_iff.2 ⟨⟨before, List.append_assoc _ _ _, hbefore⟩, fun c hc => ?_⟩
        rw [List.head?_append_of_ne_nil _ hname] at hc
        exact h.first c hc
      rw [hdrop, List.reverse_append]
      exact ⟨after.reverse, rfl, fun c hc => hafter c (List.mem_reverse.1 hc)⟩

theorem trim_eq_iff {text name : String} : trim text = name ↔ Trims text.toList name.toList := by
  rw [← String.toList_inj, toList_trim, trimChars_eq_iff]

end ResourceTables.Text
