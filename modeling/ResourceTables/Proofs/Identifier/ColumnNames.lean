import ResourceTables.Proofs.Identifier.Collisions
import ResourceTables.Proofs.Identifier.Shortening

/-!
# ResourceTables.Proofs.Identifier.ColumnNames

Names for a column of a table: of the table with its values and of its spatial index. Such a name is a
label, a part of the table's slug and the column's slug. The column is kept in full wherever it fits
beside the label, and the table gets the room that is left (`Names.perColumn_keeps`).

Design points:

* In words a name is a label, the words of the part and the words of the column, one after another
  (`Names.toList_perColumn`). A part that is empty has no words and needs no case of its own.
* Names of two columns are cut at different places of the table. They are the same exactly if one column
  begins with the words that its longer beginning takes from the table (`Names.columnNames_eq_iff`), and
  this does happen (`Names.not_columnNames_apart`).
-/

namespace ResourceTables

namespace Slug

/-! ### Words of slugs -/

/-- In a slug no more is found than words and separators. -/
theorem nameWords_of_isSlug {s : String} (h : IsSlug s) : nameWords s = words s.toList := by
  have hfolded : Text.lowercase (Text.fold s.toList) = s.toList := keepsSlugs_folded s h
  rw [nameWords, prepared, hfolded, filter_quotes_of_isSlug h]

theorem IsWord.isSlug {s : String} (h : IsWord s.toList) : IsSlug s := fun c hc => .inl (h.2 c hc)

/-- A cut through joined words can be put together again from its words. -/
theorem joined_words_cut {ws : List (List Char)} (h : ∀ w ∈ ws, IsWord w) (n : Nat) :
    joined (words (cut n (joined ws))) = cut n (joined ws) := by
  obtain ⟨vs, hvs, hcut, -⟩ := exists_cut_joined h n
  rw [hcut, words_joined hvs]

theorem length_joined_append_le (ws vs : List (List Char)) :
    (joined (ws ++ vs)).length ≤ (joined ws).length + 1 + (joined vs).length := by
  by_cases hws : ws = []
  · rw [hws, List.nil_append]
    omega
  by_cases hvs : vs = []
  · rw [hvs, List.append_nil]
    omega
  · rw [joined_append hws hvs, List.length_append, List.length_cons]
    omega

end Slug

namespace Names

open Slug (words joined IsWord IsLongest)

variable {names : Names}

theorem joined_words_slug (text : String) :
    joined (words (names.slug text).toList) = (names.slug text).toList := by
  rw [toList_slug, Slug.whole_eq_joined]
  exact Slug.joined_words_cut (fun _ => Slug.isWord_of_mem_slugWords) _

/-! ### The part of the table -/

theorem toList_tablePart (label table column : String) :
    (names.tablePart label table column).toList =
      Slug.cut (names.maxLength - (label.length + column.length + 2)) (names.slug table).toList := by
  rw [tablePart, String.toList_ofList]

theorem joined_words_tablePart (label table column : String) :
    joined (words (names.tablePart label table column).toList) =
      (names.tablePart label table column).toList := by
  rw [toList_tablePart, ← joined_words_slug table]
  exact Slug.joined_words_cut (fun _ => Slug.isWord_of_mem_words) _

theorem isSlug_tablePart (label table column : String) :
    IsSlug (names.tablePart label table column) := by
  intro c hc
  rw [toList_tablePart] at hc
  exact isSlug_slug table c (Slug.mem_of_mem_cut hc)

/-! ### Names in words -/

/-- The words of a name for a column. -/
def columnWords (names : Names) (label table column : String) : List (List Char) :=
  label.toList :: (words (names.tablePart label table (names.slug column)).toList ++
    words (names.slug column).toList)

variable {label table column : String}

theorem isWord_of_mem_columnWords (hlabel : IsWord label.toList) {w : List Char}
    (h : w ∈ names.columnWords label table column) : IsWord w := by
  rcases List.mem_cons.1 h with rfl | h
  · exact hlabel
  · rcases List.mem_append.1 h with h | h <;> exact Slug.isWord_of_mem_words h

theorem perColumn_eq (hlabel : IsWord label.toList) : names.perColumn label table column =
    String.ofList (Slug.cut names.maxLength (joined (names.columnWords label table column))) := by
  have hfirst : Slug.nameWords label = [label.toList] := by
    rw [Slug.nameWords_of_isSlug hlabel.isSlug, Slug.words_of_isWord hlabel]
  have hcolumn : Slug.nameWords (names.slug column) = words (names.slug column).toList :=
    Slug.nameWords_of_isSlug (isSlug_slug column)
  -- A part without characters adds no words, so both cases have the same.
  have htexts : ∃ texts, names.perColumn label table column =
      names.slug ("-".intercalate texts) ∧
      texts.flatMap Slug.nameWords = names.columnWords label table column := by
    unfold perColumn
    dsimp only
    split
    · rename_i hempty
      refine ⟨[label, names.slug column], by simp, ?_⟩
      rw [String.isEmpty_iff] at hempty
      simp [columnWords, hfirst, hcolumn, hempty, Slug.words]
    · refine ⟨[label, names.tablePart label table (names.slug column), names.slug column],
        by simp [String.append_assoc], ?_⟩
      simp [columnWords, hfirst, hcolumn, Slug.nameWords_of_isSlug (isSlug_tablePart _ _ _)]
  obtain ⟨texts, hname, hwords⟩ := htexts
  rw [hname, ← String.ofList_toList (s := names.slug _), toList_slug, Slug.whole_eq_joined,
    Slug.slugWords_intercalate, Slug.lineWords, hwords]
  rfl

theorem length_perColumn_le (label table column : String) :
    (names.perColumn label table column).length ≤ names.maxLength := by
  rw [perColumn, ← String.length_toList, toList_slug]
  exact Slug.length_cut_le _ _

/-- If the column fits beside the label, so does what is left of the table. -/
theorem length_columnWords_le
    (hfits : label.length + 1 + (names.slug column).length ≤ names.maxLength) :
    (joined (names.columnWords label table column)).length ≤ names.maxLength := by
  set part := names.tablePart label table (names.slug column) with hpart
  have hroom : part.toList.length ≤
      names.maxLength - (label.length + (names.slug column).length + 2) := by
    rw [hpart, toList_tablePart]
    exact Slug.length_cut_le _ _
  have hlabel := Slug.length_joined_append_le [label.toList]
    (words part.toList ++ words (names.slug column).toList)
  have hboth := Slug.length_joined_append_le (words part.toList)
    (words (names.slug column).toList)
  rw [Slug.joined_singleton, String.length_toList, List.singleton_append] at hlabel
  rw [hpart, joined_words_tablePart, joined_words_slug, ← hpart,
    String.length_toList (s := names.slug column)] at hboth
  by_cases hempty : part.toList = []
  · -- Then there is no separator behind the part either.
    have hnone : words part.toList ++ words (names.slug column).toList =
        words (names.slug column).toList := by
      rw [hempty]
      rfl
    rw [hnone, joined_words_slug, String.length_toList] at hlabel
    rw [columnWords, ← hpart, hnone]
    omega
  · have hsome := List.length_pos_iff.2 hempty
    rw [columnWords, ← hpart]
    omega

/-- Where the column fits beside the label, nothing is cut from the name. -/
theorem toList_perColumn (hlabel : IsWord label.toList)
    (hfits : label.length + 1 + (names.slug column).length ≤ names.maxLength) :
    (names.perColumn label table column).toList =
      joined (names.columnWords label table column) := by
  have hwords : ∀ w ∈ names.columnWords label table column, IsWord w := fun w =>
    isWord_of_mem_columnWords hlabel
  rw [perColumn_eq hlabel, String.toList_ofList, Slug.cut,
    List.take_of_length_le (length_columnWords_le hfits), Slug.trimEnd_joined hwords]

/-! ### What is kept -/

/-- A label, a part of a table and a column, one separator between two. -/
def composed (label part column : String) : String :=
  if part = "" then label ++ "_" ++ column else label ++ "_" ++ part ++ "_" ++ column

theorem slug_ne_nil (h : 0 < names.maxLength) (text : String) : (names.slug text).toList ≠ [] := by
  obtain ⟨ws, hne, hws, hslug⟩ := (isIdentifier_slug h text).words
  rw [hslug]
  exact Slug.joined_ne_nil hws hne

theorem words_slug_ne_nil (h : 0 < names.maxLength) (text : String) :
    words (names.slug text).toList ≠ [] := by
  intro hnil
  refine slug_ne_nil h text ?_
  rw [← joined_words_slug, hnil, Slug.joined_nil]

theorem perColumn_eq_composed (hlabel : IsWord label.toList)
    (hfits : label.length + 1 + (names.slug column).length ≤ names.maxLength) :
    names.perColumn label table column =
      composed label (names.tablePart label table (names.slug column)) (names.slug column) := by
  have hcolumn : words (names.slug column).toList ≠ [] := words_slug_ne_nil (by omega) column
  have hseparator : "_".toList = [separator] := rfl
  rw [← String.toList_inj, toList_perColumn hlabel hfits, columnWords, composed]
  by_cases hempty : names.tablePart label table (names.slug column) = ""
  · have hnone : words "".toList = [] := rfl
    rw [if_pos hempty, hempty, hnone, List.nil_append, Slug.joined_cons _ hcolumn,
      joined_words_slug]
    simp [hseparator]
  · have hpart : words (names.tablePart label table (names.slug column)).toList ≠ [] := by
      intro hnil
      refine hempty (String.toList_eq_nil_iff.1 ?_)
      rw [← joined_words_tablePart, hnil, Slug.joined_nil]
    rw [if_neg hempty, Slug.joined_cons _ (List.append_ne_nil_of_right_ne_nil _ hcolumn),
      Slug.joined_append hpart hcolumn, joined_words_tablePart, joined_words_slug]
    simp [hseparator]

/-- The slug of a text is not cut if it is shorter than a cut would leave it. -/
theorem keeps_of_length_lt {text : String} (h : (names.slug text).length + 1 < names.maxLength) :
    names.Keeps text := by
  have hcut : Slug.IsCut names.maxLength (Slug.whole text) (names.slug text).toList := by
    rw [toList_slug, Slug.whole_eq_joined]
    exact Slug.isCut_cut (Slug.noneAdjacent_joined fun _ => Slug.isWord_of_mem_slugWords) _
  have hlength : ((Slug.whole text).take names.maxLength).length ≤ (names.slug text).length + 1 := by
    rcases hcut.taken with htaken | htaken
    · rw [← htaken, String.length_toList]
      omega
    · rw [← htaken, List.length_append, List.length_singleton, String.length_toList]
  rw [List.length_take] at hlength
  unfold Keeps
  omega

/-- What a name for a column is, given a label of three characters. -/
structure IsColumnName (names : Names) (label table column name : String) : Prop where
  size : name.length ≤ names.maxLength
  /-- A column that fits beside the label is kept in full. The table gets the room that is left, and
  nothing stands for it if there is none. -/
  kept : (names.slug column).length + 4 ≤ names.maxLength → ∃ part,
    IsLongest (names.maxLength - (names.slug column).length - 5) (names.slug table).toList
        part.toList ∧
      name = composed label part (names.slug column)
  /-- Nothing is cut if all of it fits. -/
  whole : (label ++ "_" ++ names.slug table ++ "_" ++ names.slug column).length ≤
      names.maxLength →
    name = label ++ "_" ++ names.slug table ++ "_" ++ names.slug column ∧
      names.Keeps table ∧ names.Keeps column

theorem isLongest_tablePart (hlabel : label.length = 3) (table column : String) :
    IsLongest (names.maxLength - column.length - 5) (names.slug table).toList
      (names.tablePart label table column).toList := by
  have hroom : names.maxLength - (label.length + column.length + 2) =
      names.maxLength - column.length - 5 := by
    omega
  rw [toList_tablePart, hroom]
  exact Slug.isLongest_cut _ _

theorem getLast?_slug_ne (text : String) : (names.slug text).toList.getLast? ≠ some separator := by
  rw [toList_slug]
  exact (Slug.isLongest_cut _ _).last

theorem isColumnName_perColumn (hlabel : IsWord label.toList) (hthree : label.length = 3)
    (table column : String) :
    IsColumnName names label table column (names.perColumn label table column) where
  size := length_perColumn_le label table column
  kept hfits := ⟨_, isLongest_tablePart hthree table _, perColumn_eq_composed hlabel (by omega)⟩
  whole hfits := by
    have hseparator : "_".length = 1 := rfl
    simp only [String.length_append, hthree, hseparator] at hfits
    have hpart : names.tablePart label table (names.slug column) = names.slug table := by
      rw [← String.toList_inj]
      refine (isLongest_tablePart hthree table _).eq_self ?_ (getLast?_slug_ne table)
      rw [String.length_toList]
      omega
    have hsome : names.slug table ≠ "" := fun hempty =>
      slug_ne_nil (by omega) table (String.toList_eq_nil_iff.2 hempty)
    refine ⟨?_, keeps_of_length_lt (by omega), keeps_of_length_lt (by omega)⟩
    rw [perColumn_eq_composed hlabel (by omega), hpart, composed, if_neg hsome]

theorem isWord_dom : IsWord "dom".toList := ⟨by decide, List.all_eq_true.1 rfl⟩

theorem isWord_gix : IsWord "gix".toList := ⟨by decide, List.all_eq_true.1 rfl⟩

/-- The names for a column keep the column, and as much of the table as there is room for. -/
theorem columnNames_keep (names : Names) (table column : String) :
    IsColumnName names "dom" table column (names.lookupTable table column) ∧
      IsColumnName names "gix" table column (names.spatialIndex table column) :=
  ⟨isColumnName_perColumn isWord_dom rfl table column,
    isColumnName_perColumn isWord_gix rfl table column⟩

/-- One character less of room, and nothing would stand for the table. -/
example : (⟨10⟩ : Names).lookupTable "xy" "abcd" = "dom_x_abcd" ∧
    (⟨9⟩ : Names).lookupTable "xy" "abcd" = "dom_abcd" := by decide +kernel

/-! ### Names of two columns -/

/-- The second column begins with the words that the table keeps beside the first and not beside the
second, and what follows them is the first. -/
def Repeats (names : Names) (table column column' : String) : Prop :=
  ∃ part part' xs,
    IsLongest (names.maxLength - (names.slug column).length - 5) (names.slug table).toList part ∧
    IsLongest (names.maxLength - (names.slug column').length - 5) (names.slug table).toList part' ∧
    words part = words part' ++ xs ∧
    words (names.slug column').toList = xs ++ words (names.slug column).toList

/-- One of the columns makes up for what the table loses beside it. -/
def Overlap (names : Names) (table column column' : String) : Prop :=
  names.Repeats table column column' ∨ names.Repeats table column' column

variable {column' : String}

theorem repeats_iff (hlabel : label.length = 3) : names.Repeats table column column' ↔
    ∃ xs, words (names.tablePart label table (names.slug column)).toList =
        words (names.tablePart label table (names.slug column')).toList ++ xs ∧
      words (names.slug column').toList = xs ++ words (names.slug column).toList := by
  have hpart (c : String) : IsLongest (names.maxLength - c.length - 5) (names.slug table).toList
      (names.tablePart label table c).toList := isLongest_tablePart hlabel table c
  constructor
  · rintro ⟨part, part', xs, h, h', hxs, hcolumn⟩
    rw [h.unique (hpart _), h'.unique (hpart _)] at hxs
    exact ⟨xs, hxs, hcolumn⟩
  · rintro ⟨xs, hxs, hcolumn⟩
    exact ⟨_, _, xs, hpart _, hpart _, hxs, hcolumn⟩

/-- Two names have the same words exactly if one column makes up for what the table loses. -/
theorem perColumn_eq_iff (hlabel : IsWord label.toList) (hthree : label.length = 3)
    (hfits : (names.slug column).length + 4 ≤ names.maxLength)
    (hfits' : (names.slug column').length + 4 ≤ names.maxLength) :
    names.perColumn label table column = names.perColumn label table column' ↔
      names.Overlap table column column' := by
  have hwords : ∀ w ∈ names.columnWords label table column, IsWord w := fun w =>
    isWord_of_mem_columnWords hlabel
  have hwords' : ∀ w ∈ names.columnWords label table column', IsWord w := fun w =>
    isWord_of_mem_columnWords hlabel
  rw [← String.toList_inj, toList_perColumn hlabel (by omega), toList_perColumn hlabel (by omega),
    Slug.joined_inj hwords hwords', columnWords, columnWords, List.cons_inj_right,
    List.append_eq_append_iff, Overlap, repeats_iff hthree, repeats_iff hthree, or_comm]

/-- Columns with different slugs do not repeat each other unless one ends in the other. -/
theorem Repeats.ends (hfits : 0 < names.maxLength) (h : names.Repeats table column column')
    (hne : names.slug column ≠ names.slug column') :
    ("_" ++ names.slug column).toList <:+ (names.slug column').toList := by
  obtain ⟨-, -, xs, -, -, -, hcolumn⟩ := h
  have hxs : xs ≠ [] := by
    rintro rfl
    refine hne (String.toList_inj.1 ?_)
    rw [← joined_words_slug column', hcolumn, List.nil_append, joined_words_slug]
  have hseparator : "_".toList = [separator] := rfl
  refine ⟨joined xs, ?_⟩
  rw [← joined_words_slug column', hcolumn,
    Slug.joined_append hxs (words_slug_ne_nil hfits column), joined_words_slug,
    String.toList_append, hseparator, List.singleton_append]

/-- Nor do they if nothing is taken from the table. -/
theorem Repeats.slug_eq (h : names.Repeats table column column')
    (hfits : (names.slug table).length + (names.slug column).length + 5 ≤ names.maxLength)
    (hfits' : (names.slug table).length + (names.slug column').length + 5 ≤ names.maxLength) :
    names.slug column = names.slug column' := by
  obtain ⟨part, part', xs, hpart, hpart', hxs, hcolumn⟩ := h
  have hlength : (names.slug table).toList.length = (names.slug table).length :=
    String.length_toList
  rw [hpart.eq_self (by omega) (getLast?_slug_ne table),
    hpart'.eq_self (by omega) (getLast?_slug_ne table), List.self_eq_append_right] at hxs
  rw [← String.toList_inj, ← joined_words_slug column, ← joined_words_slug column', hcolumn, hxs,
    List.nil_append]

/-- Two columns that fit beside the label have one name exactly if one of them makes up for what the table
loses beside it. So names are told apart unless one slug ends in the other and the table is cut. -/
theorem columnNames_eq_iff (names : Names) (table column column' : String)
    (hfits : (names.slug column).length + 4 ≤ names.maxLength)
    (hfits' : (names.slug column').length + 4 ≤ names.maxLength) :
    (names.lookupTable table column = names.lookupTable table column' ↔
      names.Overlap table column column') ∧
    (names.spatialIndex table column = names.spatialIndex table column' ↔
      names.Overlap table column column') ∧
    (names.slug column ≠ names.slug column' → names.Overlap table column column' →
      (("_" ++ names.slug column).toList <:+ (names.slug column').toList ∨
        ("_" ++ names.slug column').toList <:+ (names.slug column).toList) ∧
      names.maxLength < (names.slug table).length +
        max (names.slug column).length (names.slug column').length + 5) := by
  refine ⟨perColumn_eq_iff isWord_dom rfl hfits hfits', perColumn_eq_iff isWord_gix rfl hfits hfits',
    fun hne hoverlap => ⟨?ends, ?cut⟩⟩
  case ends =>
    exact hoverlap.imp (fun h => h.ends (by omega) hne) fun h => h.ends (by omega) hne.symm
  case cut =>
    by_contra hroom
    rcases hoverlap with h | h
    · exact hne (h.slug_eq (by omega) (by omega))
    · exact hne (h.slug_eq (by omega) (by omega)).symm

/-- Names of at most twenty-one characters. -/
def shortNames : Names := ⟨21⟩

/-- The table is cut behind "Paint" beside one of the columns and before it beside the other. -/
theorem columnNames_eq_iff_paint :
    shortNames.lookupTable "Wall Paint" "Colour" ≠ shortNames.lookupTable "Wall Paint" "Gloss" ∧
    shortNames.Overlap "Wall Paint" "Colour" "Paint Colour" := by
  have hends : ¬ (("_" ++ shortNames.slug "Colour").toList <:+ (shortNames.slug "Gloss").toList ∨
      ("_" ++ shortNames.slug "Gloss").toList <:+ (shortNames.slug "Colour").toList) := by
    decide +kernel
  constructor
  · intro heq
    obtain ⟨hname, -, hapart⟩ := columnNames_eq_iff shortNames "Wall Paint" "Colour" "Gloss"
      (by decide +kernel) (by decide +kernel)
    exact hends (hapart (by decide +kernel) (hname.1 heq)).1
  · have hname := (columnNames_eq_iff shortNames "Wall Paint" "Colour" "Paint Colour"
      (by decide +kernel) (by decide +kernel)).1
    exact hname.1 (by decide +kernel)

/-- Different columns do not have different names, however well they fit. -/
theorem not_columnNames_apart : ¬ ∀ (names : Names) (table column column' : String),
    names.slug column ≠ names.slug column' →
    (names.slug column).length + 4 ≤ names.maxLength →
    (names.slug column').length + 4 ≤ names.maxLength →
    names.lookupTable table column ≠ names.lookupTable table column' ∧
      names.spatialIndex table column ≠ names.spatialIndex table column' := by
  intro h
  have happart := h shortNames "Wall Paint" "Colour" "Paint Colour" (by decide +kernel)
    (by decide +kernel) (by decide +kernel)
  exact happart.1 (by decide +kernel)

end Names

end ResourceTables
