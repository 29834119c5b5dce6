import ResourceTables.Identifier.Names
import ResourceTables.Proofs.Steps
import ResourceTables.Proofs.Uuid

/-!
# ResourceTables.Proofs.Identifier.Slug

What slugs are made of, whatever the name they are made from: small letters, digits and separators
(`isSlug_slugify`). All identifiers that a schema gets from a graph are slugs, or slugs with a suffix
that is one.
-/

namespace ResourceTables

/-- The text has no characters but those of words and separators. -/
def IsSlug (s : String) : Prop := ∀ c ∈ s.toList, Slug.isWordChar c = true ∨ c = separator

instance (s : String) : Decidable (IsSlug s) := List.decidableBAll _ s.toList

theorem IsSlug.append {s t : String} (hs : IsSlug s) (ht : IsSlug t) : IsSlug (s ++ t) := by
  unfold IsSlug
  rw [String.toList_append]
  exact List.forall_mem_append.2 ⟨hs, ht⟩

namespace Slug

theorem mem_separated {cs : List Char} {c : Char} (h : c ∈ separated cs) :
    isWordChar c = true ∨ c = separator := by
  induction cs with
  | nil => cases h
  | cons d rest ih =>
    unfold separated at h
    by_cases hd : isWordChar d = true
    · rw [if_pos hd] at h
      rcases List.mem_cons.1 h with rfl | h
      · exact .inl hd
      · exact ih h
    · rw [if_neg hd] at h
      cases hrest : separated rest with
      | nil =>
        rw [hrest] at h
        exact .inr (List.mem_singleton.1 h)
      | cons e tail =>
        rw [hrest] at h ih
        dsimp only at h
        split at h
        · exact ih h
        · rcases List.mem_cons.1 h with rfl | h
          · exact .inr rfl
          · exact ih h

theorem mem_of_mem_trimEnd {cs : List Char} {c : Char} (h : c ∈ trimEnd cs) : c ∈ cs := by
  have hmem := (List.dropWhile_sublist _).subset (List.mem_reverse.1 h)
  exact List.mem_reverse.1 hmem

theorem mem_of_mem_cut {n : Nat} {cs : List Char} {c : Char} (h : c ∈ cut n cs) : c ∈ cs :=
  List.mem_of_mem_take (mem_of_mem_trimEnd h)

theorem mem_standIn {name : String} {c : Char} (h : c ∈ standIn name) :
    isWordChar c = true ∨ c = separator := by
  have hdigits : ∀ d : Fin 16, isWordChar (Text.hexDigit d) = true := by decide
  rcases List.mem_cons.1 h with rfl | h
  · exact .inl rfl
  rcases List.mem_cons.1 h with rfl | h
  · exact .inr rfl
  · obtain ⟨d, rfl⟩ := Text.mem_hexDigits (List.mem_of_mem_take h)
    exact .inl (hdigits d)

theorem mem_whole {name : String} {c : Char} (h : c ∈ whole name) :
    isWordChar c = true ∨ c = separator := by
  unfold whole at h
  split at h
  · exact mem_standIn h
  · exact mem_separated ((List.dropWhile_sublist _).subset (mem_of_mem_trimEnd h))

end Slug

theorem isSlug_slugify (name : String) (maxLength : Nat) : IsSlug (slugify name maxLength) := by
  intro c hc
  rw [slugify, String.toList_ofList] at hc
  exact Slug.mem_whole (Slug.mem_of_mem_cut hc)

namespace Names

variable {names : Names}

theorem toList_slug (name : String) :
    (names.slug name).toList = Slug.cut names.maxLength (Slug.whole name) := by
  rw [slug, slugify, String.toList_ofList]

theorem isSlug_slug (name : String) : IsSlug (names.slug name) := isSlug_slugify _ _

theorem isSlug_keyColumn {table : String} (h : IsSlug table) : IsSlug (names.keyColumn table) :=
  h.append (by decide)

theorem isSlug_perColumn (label table column : String) :
    IsSlug (names.perColumn label table column) := isSlug_slug _

end Names

end ResourceTables
