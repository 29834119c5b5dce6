import ResourceTables.Proofs.Schema.Coverage
import ResourceTables.Proofs.Schema.Failures

/-!
# ResourceTables.Proofs.Schema.LookupValues

What lookup tables hold. The entries that a node may draw its values from are those of its vocabulary or
one for each of its options (`Candidates`). Of these a lookup table holds the first value of every
identifier, in order, and nothing else (`lookups_of_derive`).

Design points:

* `firstValues` says by places which entries these are: a value is kept if none of the values before it
  has its identifier. An entry that only groups others is not one of them, so it keeps no value out.
* An option without an identifier leaves no entries at all, and its graph without a schema.
-/

namespace ResourceTables.Schema

open Json (Value)
open Sql (Expression Statement)

variable {source : Source} {names : Names} {language : String} {g : Graph}

/-! ### First values -/

/-- Whether an entry is a value, and no value before it has its identifier. -/
def isFirstValue (before : List Entry) (e : Entry) : Bool :=
  !e.isGrouping && before.all fun d => d.isGrouping || d.id != e.id

/-- The values that are the first ones of their identifiers, in order. -/
def firstValues (entries : List Entry) : List Entry :=
  (entries.zipIdx.filter fun p => isFirstValue (entries.take p.2) p.1).map Prod.fst

theorem isFirstValue_iff {before : List Entry} {e : Entry} : isFirstValue before e = true ↔
    e.isGrouping = false ∧ ∀ d ∈ before, d.isGrouping = false → d.id ≠ e.id := by
  simp [isFirstValue, or_iff_not_imp_left]

/-- The identifiers are those of the values among the entries. -/
def Recalls (seen : List Uuid) (before : List Entry) : Prop :=
  ∀ id, id ∈ seen ↔ ∃ d ∈ before, d.isGrouping = false ∧ d.id = id

theorem Recalls.isFirstValue_iff {seen : List Uuid} {before : List Entry}
    (h : Recalls seen before) {e : Entry} :
    isFirstValue before e = true ↔ ¬ (e.isGrouping || e.id ∈ seen) = true := by
  rw [Schema.isFirstValue_iff]
  simp [h e.id]

/-- A value that is kept is recalled from then on, ... -/
theorem Recalls.keep {seen : List Uuid} {before : List Entry} (h : Recalls seen before) {e : Entry}
    (he : e.isGrouping = false) : Recalls (e.id :: seen) (before ++ [e]) := by
  intro id
  rw [List.mem_cons, h id]
  constructor
  · rintro (rfl | ⟨d, hd, hvalue⟩)
    · exact ⟨e, by simp, he, rfl⟩
    · exact ⟨d, List.mem_append_left _ hd, hvalue⟩
  · rintro ⟨d, hd, hvalue, rfl⟩
    rcases List.mem_append.1 hd with hd | hd
    · exact .inr ⟨d, hd, hvalue, rfl⟩
    · exact .inl (congrArg Entry.id (List.mem_singleton.1 hd))

/-- ... and an entry that is left out adds nothing to recall. -/
theorem Recalls.skip {seen : List Uuid} {before : List Entry} (h : Recalls seen before) {e : Entry}
    (he : (e.isGrouping || e.id ∈ seen) = true) : Recalls seen (before ++ [e]) := by
  intro id
  rw [h id]
  constructor
  · rintro ⟨d, hd, hvalue⟩
    exact ⟨d, List.mem_append_left _ hd, hvalue⟩
  · rintro ⟨d, hd, hvalue, rfl⟩
    rcases List.mem_append.1 hd with hd | hd
    · exact ⟨d, hd, hvalue, rfl⟩
    · rw [List.mem_singleton.1 hd] at hvalue ⊢
      have hseen : e.id ∈ seen := by simpa [hvalue] using he
      exact (h e.id).1 hseen

/-- Going through entries with what was seen before finds the first values by their places. -/
theorem valuesAfter_eq {seen : List Uuid} {before : List Entry} (h : Recalls seen before)
    (rest : List Entry) : valuesAfter seen rest =
      ((rest.zipIdx before.length).filter fun p =>
        isFirstValue ((before ++ rest).take p.2) p.1).map Prod.fst := by
  induction rest generalizing seen before with
  | nil => rfl
  | cons e rest ih =>
    have htake : (before ++ e :: rest).take before.length = before := List.take_left
    have hsplit : before ++ e :: rest = before ++ [e] ++ rest := by simp
    have hlength : (before ++ [e]).length = before.length + 1 := by simp
    rw [valuesAfter, List.zipIdx_cons]
    by_cases hskip : (e.isGrouping || e.id ∈ seen) = true
    · have hfirst : ¬ isFirstValue before e = true := fun hfirst =>
        h.isFirstValue_iff.1 hfirst hskip
      rw [if_pos hskip, List.filter_cons_of_neg (by rwa [htake]), ih (h.skip hskip), hsplit,
        hlength]
    · have hfirst : isFirstValue before e = true := h.isFirstValue_iff.2 hskip
      rw [if_neg hskip, List.filter_cons_of_pos (by rwa [htake]), List.map_cons,
        ih (h.keep (Schema.isFirstValue_iff.1 hfirst).1), hsplit, hlength]

theorem valuesAfter_nil (entries : List Entry) : valuesAfter [] entries = firstValues entries := by
  have hnone : Recalls [] [] := fun id => by simp
  exact valuesAfter_eq hnone entries

/-- What is kept are values whose identifiers were not seen before. -/
theorem value_of_mem_valuesAfter {seen : List Uuid} {entries : List Entry} {e : Entry}
    (h : e ∈ valuesAfter seen entries) : e.isGrouping = false ∧ e.id ∉ seen := by
  induction entries generalizing seen with
  | nil => cases h
  | cons d rest ih =>
    rw [valuesAfter] at h
    by_cases hskip : (d.isGrouping || d.id ∈ seen) = true
    · rw [if_pos hskip] at h
      exact ih h
    · rw [if_neg hskip] at h
      rcases List.mem_cons.1 h with rfl | h
      · simpa using hskip
      · exact (ih h).imp_right fun hnew hseen => hnew (List.mem_cons_of_mem _ hseen)

theorem nodup_valuesAfter (seen : List Uuid) (entries : List Entry) :
    ((valuesAfter seen entries).map Entry.id).Nodup := by
  induction entries generalizing seen with
  | nil => exact List.nodup_nil
  | cons e rest ih =>
    rw [valuesAfter]
    split
    · exact ih seen
    · rw [List.map_cons, List.nodup_cons]
      refine ⟨fun hmem => ?_, ih (e.id :: seen)⟩
      obtain ⟨d, hd, hid⟩ := List.mem_map.1 hmem
      exact (value_of_mem_valuesAfter hd).2 (hid ▸ List.mem_cons_self)

/-! ### Candidates -/

/-- What an option is called: its text in the language, or nothing if it has none. -/
inductive IsLabel (language : String) (option : Value) : String → Prop
  | text {v : Value} {t : LocalizedText} (hv : option.get? "text" = some v)
      (ht : LocalizedText.ofValue? v language = some t) :
      IsLabel language option (t.resolve language defaultLanguage)
  | none (h : ∀ v, option.get? "text" = some v → LocalizedText.ofValue? v language = none) :
      IsLabel language option ""

/-- The entry that stands for an option. -/
structure IsEntryOf (language : String) (option : Value) (e : Entry) : Prop where
  id : optionId? option = some e.id
  label : IsLabel language option e.label
  value : e.isGrouping = false

/-- The entries that a node may draw its values from: those of its vocabulary, or one for each of its
options. -/
inductive Candidates (source : Source) (language : String) (n : Node) : List Entry → Prop
  | vocabulary {id : Uuid} {entries : List Entry} (hconcept : n.datatype.isConcept = true)
      (hid : n.vocabulary? = some id) (hentries : source.entries? id = some entries) :
      Candidates source language n entries
  | options {options : List Value} {entries : List Entry} (hdomain : n.datatype.isConcept = false)
      (hoptions : n.options? = some options)
      (hentries : List.Forall₂ (IsEntryOf language) options entries) :
      Candidates source language n entries

theorem isEntryOf_of_entryOfOption? {option : Value} {e : Entry}
    (h : entryOfOption? language option = some e) : IsEntryOf language option e := by
  obtain ⟨id, hid, rfl⟩ := Option.map_eq_some_iff.1 h
  refine ⟨hid, ?_, rfl⟩
  dsimp only
  cases hlabel : (option.get? "text").bind fun text => LocalizedText.ofValue? text language with
  | none =>
    refine .none fun v hv => ?_
    rwa [hv] at hlabel
  | some t =>
    obtain ⟨v, hv, ht⟩ := Option.bind_eq_some_iff.1 hlabel
    exact .text hv ht

theorem candidates_of_eq_ok {n : Node} {entries : List Entry}
    (h : candidates source language n = .ok entries) : Candidates source language n entries := by
  unfold candidates at h
  by_cases hconcept : n.datatype.isConcept = true
  · rw [if_pos hconcept] at h
    cases hid : n.vocabulary? with
    | none => simp [hid] at h
    | some id =>
      cases hentries : source.entries? id with
      | none => simp [hid, hentries] at h
      | some found =>
        simp only [hid, hentries, Except.ok.injEq] at h
        exact .vocabulary hconcept hid (h ▸ hentries)
  · rw [if_neg hconcept] at h
    cases hoptions : n.options? with
    | none => simp [hoptions] at h
    | some options =>
      cases hentries : options.mapM (entryOfOption? language) with
      | none => simp [hoptions, hentries] at h
      | some found =>
        have hall := forall₂_of_mapM_eq_some hentries
        simp only [hoptions, hentries, Except.ok.injEq] at h
        rw [h] at hall
        exact .options (Bool.eq_false_iff.2 hconcept) hoptions
          (hall.imp fun _ _ => isEntryOf_of_entryOfOption?)

/-! ### Lookup tables -/

/-- The value of the key column in a row that is inserted into a lookup table. -/
def storedKey? : Statement → Option Expression
  | .insert _ fields => fields.lookup lookupKey
  | _ => none

/-- What the lookup table of a node holds. -/
structure Lookup.HoldsValuesOf (source : Source) (language : String) (n : Node) (l : Lookup) :
    Prop where
  distinct : (l.entries.map Entry.id).Nodup
  values : ∀ e ∈ l.entries, e.isGrouping = false
  firsts : ∃ entries, Candidates source language n entries ∧ l.entries = firstValues entries
  /-- The rows of the table have keys of their own, wherever it is. -/
  keys : ∀ schema, ((lookupScript schema l).data.map storedKey?).Nodup ∧
    none ∉ (lookupScript schema l).data.map storedKey?

/-- The column of a node has a lookup table exactly if the node's values are looked up. -/
structure Column.HasLookupOf (source : Source) (language : String) (n : Node) (c : Column) :
    Prop where
  node : c.node = n.id
  datatype : c.datatype = n.datatype
  lookup : if n.datatype.isLookup then ∃ l, c.lookup = some l ∧ l.HoldsValuesOf source language n
    else c.lookup = none

theorem holdsValuesOf_of_lookupEntries {n : Node} {name : String} {entries : List Entry}
    (h : lookupEntries source language n = .ok entries) :
    (Lookup.mk name entries).HoldsValuesOf source language n := by
  obtain ⟨all, hall, rfl⟩ := map_eq_ok_iff.1 h
  have hdistinct := nodup_valuesAfter [] all
  have hkeys (schema : String) :
      (lookupScript schema ⟨name, valuesAfter [] all⟩).data.map storedKey? =
        (valuesAfter [] all).map fun e => some (.uuid e.id) := by
    rw [lookupScript, List.map_map]
    rfl
  refine ⟨hdistinct, fun e he => (value_of_mem_valuesAfter he).1,
    ⟨all, candidates_of_eq_ok hall, valuesAfter_nil all⟩, fun schema => ?_⟩
  rw [hkeys]
  constructor
  · have hmap := hdistinct.map (f := fun id => some (Expression.uuid id)) (fun a b hab => by
      simpa using hab)
    rwa [List.map_map] at hmap
  · simp

theorem hasLookupOf_of_deriveColumn? {table : String} {n : Node} {c : Column}
    (h : deriveColumn? source names language table n = .ok (some c)) :
    c.HasLookupOf source language n := by
  obtain ⟨-, hnode, -, hdatatype, -, hlookup⟩ := deriveColumn?_eq_some_iff.1 h
  refine ⟨hnode, hdatatype, ?_⟩
  by_cases hl : n.datatype.isLookup = true
  · rw [if_pos hl] at hlookup ⊢
    obtain ⟨entries, hentries, hc⟩ := hlookup
    exact ⟨_, hc, holdsValuesOf_of_lookupEntries hentries⟩
  · rw [if_neg hl] at hlookup ⊢
    exact hlookup

/-! ### Failures -/

/-- A node that draws its values from options, one of which has no identifier. -/
structure HasUnreadableOption (n : Node) : Prop where
  lookup : n.datatype.isLookup = true
  domain : n.datatype.isConcept = false
  option : ∃ options, n.options? = some options ∧ ∃ option ∈ options, optionId? option = none

theorem lookupEntries_of_unreadableOption {n : Node} (h : HasUnreadableOption n) :
    lookupEntries source language n = .error (.missingConfiguration n.id n.datatype.tag) := by
  obtain ⟨options, hoptions, option, hmem, hnone⟩ := h.option
  have hconfigured : Graph.isConfigured n = true := by
    rw [Graph.isConfigured, h.domain, h.lookup, hoptions]
    rfl
  exact (lookupEntries_eq_error_iff h.lookup hconfigured).2
    (.option h.lookup h.domain hoptions hmem hnone)

theorem isSome_columnType?_of_isLookup {d : Datatype} (h : d.isLookup = true) :
    d.columnType?.isSome = true := by
  cases d with
  | concept | conceptList | domainValue | domainValueList => rfl
  | _ => cases h

/-- A derivation fails with the lookup table of any column it would have. -/
theorem exists_error_of_lookupEntries {collector n : Node} {e : ExportError}
    (hcollector : collector ∈ g.collectors) (hn : n ∈ g.members collector.id)
    (hl : n.datatype.isLookup = true) (h : lookupEntries source language n = .error e) :
    ∃ e', derive source names language g = .error e' := by
  cases hd : derive source names language g with
  | error e' => exact ⟨e', rfl⟩
  | ok s =>
    obtain ⟨t, -, ht⟩ := (isDerived_of_derive hd).exists_table hcollector
    obtain ⟨-, -, -, -, hcolumns, -⟩ := deriveTable_eq_ok_iff.1 ht
    have hmapped : n ∈ (g.members collector.id).filter isMapped :=
      List.mem_filter.2 ⟨hn, isSome_columnType?_of_isLookup hl⟩
    obtain ⟨c, -, hc⟩ := exists_right_of_mem (forall₂_of_deriveColumns hcolumns) hmapped
    obtain ⟨-, -, -, -, -, hlookup⟩ := deriveColumn?_eq_some_iff.1 hc
    rw [if_pos hl] at hlookup
    obtain ⟨entries, hentries, -⟩ := hlookup
    rw [h] at hentries
    cases hentries

/-! ### Derived schemas -/

/-- The first collection with an identifier. -/
theorem entries?_ofPackage_eq_some_iff {p : Package} {id : Uuid} {entries : List Entry} :
    (Source.ofPackage p).entries? id = some entries ↔
      ∃ before c after, p.collections = before ++ c :: after ∧ (∀ d ∈ before, d.id ≠ id) ∧
        c.id = id ∧ c.entries = entries := by
  rw [Source.ofPackage_eq]
  dsimp only
  rw [Option.map_eq_some_iff]
  constructor
  · rintro ⟨c, hc, rfl⟩
    obtain ⟨hid, before, after, hsplit, hbefore⟩ := List.find?_eq_some_iff_append.1 hc
    exact ⟨before, c, after, hsplit, by simpa using hbefore, by simpa using hid, rfl⟩
  · rintro ⟨before, c, after, hsplit, hbefore, hid, rfl⟩
    refine ⟨c, List.find?_eq_some_iff_append.2 ⟨by simpa using hid, before, after, hsplit, ?_⟩, rfl⟩
    simpa using hbefore

/-- The lookup tables of a derived schema hold the first value of every identifier among the entries that
their nodes may draw values from, in order; of a package these are the entries of the first collection
with the identifier. If one option of a node that has a column has no identifier, there is no schema. -/
theorem lookups_of_derive (source : Source) (names : Names) (language : String) (g : Graph) :
    (∀ s, derive source names language g = .ok s → ∀ t ∈ s.tables,
      List.Forall₂ (Column.HasLookupOf source language) ((g.members t.nodegroup).filter isMapped)
        t.columns) ∧
    (∀ collector ∈ g.collectors, ∀ n ∈ g.members collector.id, HasUnreadableOption n →
      ∃ e, derive source names language g = .error e) ∧
    ∀ p, source = .ofPackage p → ∀ id entries, source.entries? id = some entries ↔
      ∃ before c after, p.collections = before ++ c :: after ∧ (∀ d ∈ before, d.id ≠ id) ∧
        c.id = id ∧ c.entries = entries := by
  refine ⟨?holds, ?fails, ?first⟩
  case holds =>
    intro s hs t ht
    obtain ⟨collector, -, hd⟩ := (isDerived_of_derive hs).exists_collector ht
    obtain ⟨-, -, -, -, hcolumns, hgroup, -⟩ := deriveTable_eq_ok_iff.1 hd
    rw [hgroup]
    exact (forall₂_of_deriveColumns hcolumns).imp fun _ _ => hasLookupOf_of_deriveColumn?
  case fails =>
    intro collector hcollector n hn hoption
    exact exists_error_of_lookupEntries hcollector hn hoption.lookup
      (lookupEntries_of_unreadableOption hoption)
  case first =>
    rintro p rfl id entries
    exact entries?_ofPackage_eq_some_iff

/-- A material from a vocabulary. -/
def materialNode : Node where
  id := .ofNat 2
  name := "Material"
  datatype := .concept
  nodegroup := some (.ofNat 2)
  config := .object [("rdmCollection", .string (Uuid.ofNat 7).toString)]

/-- A state, which is one of some options. -/
def stateNode (options : List Value) : Node where
  id := .ofNat 3
  name := "State"
  datatype := .domainValueList
  nodegroup := some (.ofNat 2)
  config := .object [("options", .array options)]

/-- A site with a material and a state. -/
def masonryGraph (options : List Value) : Graph where
  id := .ofNat 9
  name := .single "en" "Site"
  nodes := [{ id := .ofNat 1, name := "Site", datatype := .semantic, isTop := true }, materialNode,
    stateNode options]
  nodegroups := [{ id := .ofNat 2 }]

/-- Materials under two headings, which have the identifiers of values, and another collection with the
same identifier. -/
def masonryPackage : Package where
  collections := [
    { id := .ofNat 7
      entries := [{ id := .ofNat 5, label := "Masonry", isGrouping := true },
        { id := .ofNat 5, label := "Brick" }, { id := .ofNat 6, label := "Stone" },
        { id := .ofNat 6, label := "Other", isGrouping := true },
        { id := .ofNat 5, label := "Brickwork" }] },
    { id := .ofNat 7, entries := [{ id := .ofNat 4, label := "Wood" }] }]

/-- One option has texts in two languages, one has the same identifier, and one has no text. -/
def stateOptions : List Value :=
  [.object [("id", .string (Uuid.ofNat 8).toString),
      ("text", .object [("de", .string "Gut"), ("en", .string "Good")])],
    .object [("id", .string (Uuid.ofNat 8).toString), ("text", .string "Fine")],
    .object [("id", .string (Uuid.ofNat 10).toString)]]

theorem lookups_of_derive_masonryGraph :
    (∃ s, derive (.ofPackage masonryPackage) {} "en" (masonryGraph stateOptions) = .ok s ∧
      (s.lookups.map fun (_, _, l) => l.entries.map Entry.label) =
        [["Brick", "Stone"], ["Good", ""]] ∧
      ∀ t ∈ s.tables, List.Forall₂ (Column.HasLookupOf (.ofPackage masonryPackage) "en")
        (((masonryGraph stateOptions).members t.nodegroup).filter isMapped) t.columns) ∧
    ∃ e, derive (.ofPackage masonryPackage) {} "en"
      (masonryGraph (stateOptions ++ [.string "Bad"])) = .error e := by
  constructor
  · have hlabels : ∃ s ∈ (derive (.ofPackage masonryPackage) {} "en"
        (masonryGraph stateOptions)).toOption,
        (s.lookups.map fun (_, _, l) => l.entries.map Entry.label) =
          [["Brick", "Stone"], ["Good", ""]] := by
      rw [Source.ofPackage_eq]
      decide +kernel
    obtain ⟨s, hs, hlabels⟩ := hlabels
    have hderive := mem_toOption_iff.1 hs
    exact ⟨s, hderive, hlabels, (lookups_of_derive _ _ _ _).1 s hderive⟩
  · have hoption : HasUnreadableOption (stateNode (stateOptions ++ [.string "Bad"])) :=
      ⟨rfl, rfl, _, rfl, .string "Bad", by simp, rfl⟩
    have hcollector : materialNode ∈
        (masonryGraph (stateOptions ++ [.string "Bad"])).collectors :=
      List.mem_filter.2 ⟨by simp [masonryGraph], rfl⟩
    have hmember : stateNode (stateOptions ++ [.string "Bad"]) ∈
        (masonryGraph (stateOptions ++ [.string "Bad"])).members materialNode.id :=
      List.mem_filter.2 ⟨by simp [masonryGraph], rfl⟩
    exact (lookups_of_derive _ _ _ _).2.1 materialNode hcollector _ hmember hoption

end ResourceTables.Schema
