import ResourceTables.Export
import ResourceTables.Proofs.Identifier.Limits
import ResourceTables.Proofs.Package
import ResourceTables.Proofs.Schema.Derivation
import ResourceTables.Proofs.Schema.Objects

/-!
# ResourceTables.Proofs.Schema.Limits

The names of a derived schema fit a database. Under options that are accepted all of them are
identifiers of the given length, or key columns with three bytes more (`fits_of_derive`). This holds for
the names in the schema and for those that only its statements have, of indexes and constraints.
-/

namespace ResourceTables.Schema

open Sql (Statement TableName)

variable {source : Source} {names : Names} {language : String} {g : Graph} {s : Schema}

/-! ### The names of a schema -/

/-- The names of a table fit a length, those of its columns and lookup tables included. -/
structure Table.Fits (limit : Nat) (t : Table) : Prop where
  name : IsIdentifier limit t.name
  key : IsKeyIdentifier limit t.key
  link : IsKeyIdentifier limit t.parent.column
  columns : ∀ c ∈ t.columns, IsIdentifier limit c.name
  lookups : ∀ c ∈ t.columns, ∀ l, c.lookup = some l → IsIdentifier limit l.name

/-- The names of a schema fit a length. -/
structure Fits (limit : Nat) (s : Schema) : Prop where
  name : IsIdentifier limit s.name
  rootTable : IsIdentifier limit s.rootTable
  rootKey : IsKeyIdentifier limit s.rootKey
  tables : ∀ t ∈ s.tables, t.Fits limit

theorem fits_of_deriveTable (hnames : 0 < names.maxLength) {rootTable : String} {collector : Node}
    {t : Table} (hroot : IsIdentifier names.maxLength rootTable)
    (h : deriveTable source names language g rootTable collector = .ok t) :
    t.Fits names.maxLength := by
  obtain ⟨⟨_, hname⟩, hkey, hparent, hlink, hcolumns, hlookups⟩ := isNamed_of_deriveTable h
  have hslug : IsIdentifier names.maxLength t.name := hname ▸ Names.isIdentifier_slug hnames _
  have hparent : IsIdentifier names.maxLength t.parent.table := by
    rcases hparent with hparent | ⟨_, hparent⟩
    · exact hparent ▸ hroot
    · exact hparent ▸ Names.isIdentifier_slug hnames _
  refine ⟨hslug, hkey ▸ Names.isKeyIdentifier_keyColumn hslug,
    hlink ▸ Names.isKeyIdentifier_keyColumn hparent, ?_, ?_⟩
  · intro c hc
    obtain ⟨_, hcolumn⟩ := hcolumns c hc
    exact hcolumn ▸ Names.isIdentifier_slug hnames _
  · intro c hc l hl
    obtain ⟨_, hlookup⟩ := hlookups c hc l hl
    exact hlookup ▸ Names.isIdentifier_slug hnames _

theorem fits_of_isDerived (hnames : 0 < names.maxLength)
    (h : IsDerived source names language g s) : s.Fits names.maxLength := by
  obtain ⟨top, -, hname⟩ := h.name_eq
  have hslug : IsIdentifier names.maxLength s.name := hname ▸ Names.isIdentifier_slug hnames _
  have hroot : IsIdentifier names.maxLength s.rootTable := h.rootTable_eq ▸ hslug
  refine ⟨hslug, hroot, h.rootKey_eq ▸ Names.isKeyIdentifier_keyColumn hroot, ?_⟩
  intro t ht
  obtain ⟨collector, -, hd⟩ := h.exists_collector ht
  exact fits_of_deriveTable hnames hroot hd

/-! ### The names of indexes and constraints -/

/-- The name that a statement gives to an index or a constraint. -/
def givenName? : Statement → Option String
  | .createSpatialIndex _ index _ => some index
  | .addForeignKey _ name _ _ _ => some name
  | _ => none

theorem isIdentifier_givenName (hnames : 0 < names.maxLength) {phase : Sql.Phase} {st : Statement}
    {name : String} (hst : st ∈ (s.script names).statements phase)
    (hname : givenName? st = some name) : IsIdentifier names.maxLength name := by
  cases phase with
  | tables =>
    simp only [statements_tables, creation, List.mem_append, List.mem_cons, List.mem_flatMap,
      List.not_mem_nil, or_false] at hst
    rcases hst with rfl | ((rfl | rfl | rfl) | ⟨t, -, rfl | rfl⟩) | ⟨p, -, rfl⟩ <;> cases hname
  | columns =>
    rw [statements_columns] at hst
    obtain ⟨t, -, hst⟩ := List.mem_flatMap.1 hst
    obtain ⟨c, -, hst⟩ := List.mem_flatMap.1 hst
    rcases List.mem_cons.1 hst with rfl | hst
    · cases hname
    rcases List.mem_cons.1 hst with rfl | hst
    · cases hname
    split at hst
    · rw [List.mem_singleton.1 hst] at hname
      cases hname
      exact Names.isIdentifier_perColumn hnames _ _ _
    · cases hst
  | data =>
    rw [statements_data] at hst
    obtain ⟨p, -, hst⟩ := List.mem_flatMap.1 hst
    obtain ⟨e, -, rfl⟩ := List.mem_map.1 hst
    cases hname
  | constraints =>
    obtain ⟨t, -, ⟨c, -, l, -, -, rfl⟩ | rfl⟩ := exists_of_mem_constraints names hst
    · cases hname
      exact Names.isIdentifier_slug hnames _
    · cases hname
      exact Names.isIdentifier_slug hnames _

/-! ### Accepted options -/

theorem maxLength_of_fault? {o : ExportOptions} (h : o.fault? = none) :
    0 < o.maxLength ∧ o.maxLength + 3 ≤ 63 := by
  have hlength : ¬ (o.maxLength = 0 || 60 < o.maxLength) = true := by
    intro hbad
    rw [ExportOptions.fault?] at h
    exact absurd ((if_pos hbad).symm.trans h) (by simp)
  simp only [Bool.or_eq_true, decide_eq_true_eq] at hlength
  omega

/-- Under accepted options all names of a derived schema are words of small letters and digits with
one separator between two, of the given length at most, and so are the names of its indexes and
foreign keys. Key and link columns have a suffix and still fit into what a database keeps of a name.
No text is cut outside of its bounds or inside of a character on the way. -/
theorem fits_of_derive (source : Source) (o : ExportOptions) (language : String) (g : Graph)
    (s : Schema) (ho : o.fault? = none) (h : derive source ⟨o.maxLength⟩ language g = .ok s) :
    s.Fits o.maxLength ∧
    (∀ phase, ∀ st ∈ (s.script ⟨o.maxLength⟩).statements phase, ∀ name,
      givenName? st = some name → IsIdentifier o.maxLength name) ∧
    (s.rootKey.utf8ByteSize ≤ 63 ∧
      ∀ t ∈ s.tables, t.key.utf8ByteSize ≤ 63 ∧ t.parent.column.utf8ByteSize ≤ 63) ∧
    (⟨o.maxLength⟩ : Names).CutsInside := by
  obtain ⟨hpos, hlimit⟩ := maxLength_of_fault? ho
  have hfits : s.Fits o.maxLength := fits_of_isDerived hpos (isDerived_of_derive h)
  refine ⟨hfits, fun phase st hst name => isIdentifier_givenName hpos hst, ⟨?_, ?_⟩,
    Names.cutsInside _⟩
  · exact hfits.rootKey.size.trans hlimit
  · intro t ht
    have htable := hfits.tables t ht
    exact ⟨htable.key.size.trans hlimit, htable.link.size.trans hlimit⟩

/-- Names of two characters at most. -/
def shortOptions : ExportOptions := { maxLength := 2 }

theorem fits_of_derive_siteGraph : ∃ s, shortOptions.fault? = none ∧
    derive (.ofPackage sitePackage) ⟨shortOptions.maxLength⟩ "en" siteGraph = .ok s ∧
    s.tables.map Table.key = ["ph_id", "ph_id"] ∧ s.Fits 2 := by
  have ho : shortOptions.fault? = none := by decide
  have h : ∃ s ∈ (derive (.ofPackage sitePackage) ⟨shortOptions.maxLength⟩ "en" siteGraph).toOption,
      s.tables.map Table.key = ["ph_id", "ph_id"] := by
    rw [Source.ofPackage_eq]
    decide +kernel
  obtain ⟨s, hs, hkeys⟩ := h
  have hderive := mem_toOption_iff.1 hs
  exact ⟨s, ho, hderive, hkeys, (fits_of_derive _ _ _ _ s ho hderive).1⟩

end ResourceTables.Schema
