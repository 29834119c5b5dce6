import ResourceTables.Proofs.Identifier.Words

/-!
# ResourceTables.Proofs.Identifier.Limits

How long identifiers are, in bytes, and how they are cut. Slugs are words of small letters and digits
with one separator between two, within the given length (`Names.isIdentifier_slug`); lengths in bytes
and in characters agree there. No cut on the way is outside of a text or inside of a character
(`Names.cutsInside`).
-/

namespace ResourceTables

/-! ### Lengths -/

theorem utf8ByteSize_ofList {cs : List Char} (h : ∀ c ∈ cs, c.utf8Size = 1) :
    (String.ofList cs).utf8ByteSize = cs.length := by
  induction cs with
  | nil => rfl
  | cons c rest ih =>
    obtain ⟨hc, hrest⟩ := List.forall_mem_cons.1 h
    rw [String.ofList_cons, String.utf8ByteSize_append, String.utf8ByteSize_singleton, hc, ih hrest,
      List.length_cons, Nat.add_comm]

theorem Slug.utf8Size_eq_one {c : Char} (h : Slug.isWordChar c = true ∨ c = separator) :
    c.utf8Size = 1 := by
  have hval : c.val ≤ 0x7f := by
    rcases h with h | rfl
    · simp only [Slug.isWordChar, Bool.or_eq_true, Bool.and_eq_true, decide_eq_true_eq] at h
      rcases h with ⟨-, h⟩ | ⟨-, h⟩
      · exact UInt32.le_trans h (by decide)
      · exact UInt32.le_trans h (by decide)
    · decide
  exact if_pos hval

theorem IsSlug.utf8ByteSize_eq {s : String} (h : IsSlug s) : s.utf8ByteSize = s.toList.length := by
  have hsize := utf8ByteSize_ofList fun c hc => Slug.utf8Size_eq_one (h c hc)
  rwa [String.ofList_toList] at hsize

/-! ### Identifiers -/

/-- Words of small letters and digits with one separator between two, in so many bytes at most. -/
structure IsIdentifier (limit : Nat) (s : String) : Prop where
  words : ∃ ws, ws ≠ [] ∧ (∀ w ∈ ws, Slug.IsWord w) ∧ s.toList = Slug.joined ws
  size : s.utf8ByteSize ≤ limit

/-- An identifier with the suffix of key columns behind it. -/
def IsKeyIdentifier (limit : Nat) (s : String) : Prop :=
  ∃ table, IsIdentifier limit table ∧ s = table ++ "_id"

theorem IsKeyIdentifier.size {limit : Nat} {s : String} (h : IsKeyIdentifier limit s) :
    s.utf8ByteSize ≤ limit + 3 := by
  obtain ⟨table, htable, rfl⟩ := h
  have hsuffix : "_id".utf8ByteSize = 3 := by decide
  rw [String.utf8ByteSize_append, hsuffix]
  exact Nat.add_le_add_right htable.size 3

/-- A cut through joined words that leaves at least one character leaves an identifier. -/
theorem isIdentifier_cut {ws : List (List Char)} (hws : ∀ w ∈ ws, Slug.IsWord w) (hne : ws ≠ [])
    {n : Nat} (hn : 0 < n) : IsIdentifier n (String.ofList (Slug.cut n (Slug.joined ws))) := by
  obtain ⟨vs, hvs, hcut, hsome⟩ := Slug.exists_cut_joined hws n
  refine ⟨⟨vs, hsome hn hne, hvs, by rw [String.toList_ofList, hcut]⟩, ?_⟩
  have hchars : ∀ c ∈ Slug.cut n (Slug.joined ws), c.utf8Size = 1 := fun c hc =>
    Slug.utf8Size_eq_one (Slug.mem_joined hws (Slug.mem_of_mem_cut hc))
  rw [utf8ByteSize_ofList hchars]
  exact (Slug.length_trimEnd_le _).trans (List.length_take_le _ _)

namespace Names

variable {names : Names}

/-- A slug of at least one character is an identifier of that length. -/
theorem isIdentifier_slug (hnames : 0 < names.maxLength) (name : String) :
    IsIdentifier names.maxLength (names.slug name) := by
  rw [slug, slugify, Slug.whole_eq_joined]
  exact isIdentifier_cut (fun _ => Slug.isWord_of_mem_slugWords) (Slug.slugWords_ne_nil name) hnames

theorem isIdentifier_perColumn (hnames : 0 < names.maxLength) (label table column : String) :
    IsIdentifier names.maxLength (names.perColumn label table column) :=
  isIdentifier_slug hnames _

theorem isKeyIdentifier_keyColumn {table : String} (h : IsIdentifier names.maxLength table) :
    IsKeyIdentifier names.maxLength (names.keyColumn table) :=
  ⟨table, h, rfl⟩

end Names

/-! ### Cuts -/

/-- The first bytes of a text. There are so many, and they end between two characters. -/
def IsBytePrefix (s : String) (count : Nat) (p : String) : Prop :=
  ∃ rest, s = p ++ rest ∧ p.utf8ByteSize = count

theorem isBytePrefix_take {s : String} (h : ∀ c ∈ s.toList, c.utf8Size = 1) (n : Nat) :
    IsBytePrefix s (min s.utf8ByteSize n) (String.ofList (s.toList.take n)) := by
  refine ⟨String.ofList (s.toList.drop n), ?_, ?_⟩
  · rw [← String.ofList_append, List.take_append_drop, String.ofList_toList]
  · have hsize : s.utf8ByteSize = s.toList.length := by
      rw [← utf8ByteSize_ofList h, String.ofList_toList]
    rw [utf8ByteSize_ofList fun c hc => h c (List.mem_of_mem_take hc), List.length_take, hsize,
      Nat.min_comm]

/-- All cuts that names go through, with their places in bytes. -/
structure Names.CutsInside (names : Names) : Prop where
  /-- What stands in for a name without words takes eight digits. -/
  standIn : ∀ name, ∃ p,
    IsBytePrefix (String.ofList (Uuid.ofName Uuid.objectNamespace name).digits) 8 p ∧
      Slug.standIn name = 'n' :: separator :: p.toList
  slug : ∀ name, ∃ p,
    IsBytePrefix (String.ofList (Slug.whole name))
        (min (String.ofList (Slug.whole name)).utf8ByteSize names.maxLength) p ∧
      names.slug name = String.ofList (Slug.trimEnd p.toList)
  /-- In a name for a column the table gets what the label, the column and two separators leave. -/
  tablePart : ∀ label ∈ ["dom", "gix"], ∀ table column, ∃ p,
    IsBytePrefix (names.slug table) (min (names.slug table).utf8ByteSize
        (names.maxLength - (label.utf8ByteSize + (names.slug column).utf8ByteSize + 2))) p ∧
      names.tablePart label table (names.slug column) = String.ofList (Slug.trimEnd p.toList)

theorem Names.cutsInside (names : Names) : names.CutsInside where
  standIn name := by
    have hsize : ∀ d : Fin 16, (Text.hexDigit d).utf8Size = 1 := by decide
    have hdigits : ∀ c ∈ (Uuid.ofName Uuid.objectNamespace name).digits, c.utf8Size = 1 := by
      intro c hc
      obtain ⟨d, rfl⟩ := Text.mem_hexDigits hc
      exact hsize d
    refine ⟨String.ofList ((Uuid.ofName Uuid.objectNamespace name).digits.take 8), ?_, ?_⟩
    · have hprefix := isBytePrefix_take
        (s := String.ofList (Uuid.ofName Uuid.objectNamespace name).digits)
        (by rwa [String.toList_ofList]) 8
      rwa [utf8ByteSize_ofList hdigits, Uuid.length_digits, String.toList_ofList] at hprefix
    · rw [String.toList_ofList, Slug.standIn]
  slug name := by
    have hwhole : ∀ c ∈ (String.ofList (Slug.whole name)).toList, c.utf8Size = 1 := by
      intro c hc
      rw [String.toList_ofList] at hc
      exact Slug.utf8Size_eq_one (Slug.mem_whole hc)
    refine ⟨_, isBytePrefix_take hwhole names.maxLength, ?_⟩
    rw [String.toList_ofList, String.toList_ofList]
    rfl
  tablePart label hlabel table column := by
    have hlength : label.utf8ByteSize = label.length := by
      revert label
      decide
    have hcolumn : (names.slug column).utf8ByteSize = (names.slug column).length := by
      rw [(isSlug_slug column).utf8ByteSize_eq, String.length_toList]
    have htable : ∀ c ∈ (names.slug table).toList, c.utf8Size = 1 :=
      fun c hc => Slug.utf8Size_eq_one (isSlug_slug table c hc)
    refine ⟨_, isBytePrefix_take htable _, ?_⟩
    rw [String.toList_ofList, hlength, hcolumn]
    rfl

end ResourceTables
