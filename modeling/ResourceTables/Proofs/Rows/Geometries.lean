import ResourceTables.Rows.Coercion
import ResourceTables.Proofs.Printed
import ResourceTables.Proofs.Sql.Readings

/-!
# ResourceTables.Proofs.Rows.Geometries

Feature collections as geometries. Every feature with a geometry gives one element of what is stored,
in order, and a collection that was stored as JSON text gives what the collection itself gives
(`geometry_collects`).
-/

namespace ResourceTables

open Json (Value)
open Sql (lex Reading stored stored_eq_self)

/-- A literal holds all of the compact text of a value. -/
theorem stored_compact (v : Value) : stored v.compact = v.compact :=
  stored_eq_self v.printed_compact.nul_notMem

namespace Rows

/-! ### Feature collections -/

/-- What a stored value holds: a text holds the value that it is the JSON text of, and any other value
holds itself. -/
inductive Holds : Value → Value → Prop
  | text {s : String} {v : Value} (h : Value.parse? s = some v) : Holds (.string s) v
  | itself {v : Value} (h : ∀ s, v ≠ .string s) : Holds v v

/-- Whether a value is an object with a list of features. -/
def HasFeatures (v : Value) (features : List Value) : Prop :=
  ∃ members, v = .object members ∧ members.lookup "features" = some (.array features)

/-- The geometry of a feature, if it has one and it is not null. -/
def geometryOf? : Value → Option Value
  | .object members => match members.lookup "geometry" with
    | some .null => none
    | found => found
  | _ => none

theorem geometryOf?_eq (feature : Value) :
    geometryOf? feature = (feature.get? "geometry").filter fun g => !g.isNull := by
  cases feature with
  | object members =>
    unfold geometryOf? Value.get?
    dsimp only
    cases members.lookup "geometry" with
    | none => rfl
    | some found => cases found <;> rfl
  | _ => rfl

theorem geometriesOf_eq (features : List Value) :
    geometriesOf features = (features.filterMap geometryOf?).map Value.compact := by
  unfold geometriesOf
  congr 1
  rw [List.filter_filterMap]
  refine List.filterMap_congr fun feature _ => ?_
  exact (geometryOf?_eq feature).symm

theorem featuresOf_eq_ok_iff {v : Value} {features : List Value} :
    featuresOf v = .ok features ↔ HasFeatures v features := by
  have hitems : (v.get? "features").bind Value.items? = some features ↔ HasFeatures v features := by
    constructor
    · intro h
      obtain ⟨found, hfound, hitems⟩ := Option.bind_eq_some_iff.1 h
      cases v with
      | object members =>
        cases found with
        | array items =>
          cases hitems
          exact ⟨members, rfl, hfound⟩
        | _ => cases hitems
      | _ => cases hfound
    · intro h
      obtain ⟨members, rfl, hfound⟩ := h
      exact Option.bind_eq_some_iff.2 ⟨_, hfound, rfl⟩
  rw [← hitems, featuresOf]
  cases (v.get? "features").bind Value.items? with
  | none => simp
  | some found => simp

theorem collectionOf_eq_ok_iff {value v : Value} : collectionOf value = .ok v ↔ Holds value v := by
  unfold collectionOf
  constructor
  · intro h
    split at h
    · next s =>
      split at h
      · next found hparse =>
        cases h
        exact .text hparse
      · cases h
    · next hplain =>
      cases h
      exact .itself hplain
  · intro h
    cases h with
    | text hparse => simp [hparse]
    | itself hplain =>
      cases value with
      | string s => exact absurd rfl (hplain s)
      | _ => rfl

theorem exists_holds_iff {value : Value} :
    (∃ v, Holds value v) ↔ ¬ ∃ s, value = .string s ∧ Value.parse? s = none := by
  constructor
  · intro h
    obtain ⟨v, h⟩ := h
    intro hbad
    obtain ⟨s, rfl, hparse⟩ := hbad
    cases h with
    | text hfound => cases hparse.symm.trans hfound
    | itself hplain => exact hplain s rfl
  · intro h
    cases value with
    | string s =>
      cases hparse : Value.parse? s with
      | none => exact absurd ⟨s, rfl, hparse⟩ h
      | some v => exact ⟨v, .text hparse⟩
    | _ => exact ⟨_, .itself fun s hs => by cases hs⟩

/-! ### Geometries -/

/-- Geometries as one; nothing if there is none. -/
def collected? (srid : Nat) (geometries : List Value) : Option Sql.Expression :=
  if geometries = [] then none else some (.collection (geometries.map Value.compact) srid)

theorem geometry_eq_ok_iff {srid : Nat} {value : Value} {o : Option Sql.Expression} :
    geometry srid value = .ok o ↔ ∃ v features, Holds value v ∧ HasFeatures v features ∧
      collected? srid (features.filterMap geometryOf?) = o := by
  unfold geometry
  constructor
  · intro h
    obtain ⟨v, hv, h⟩ := bind_eq_ok_iff.1 h
    obtain ⟨features, hfeatures, h⟩ := bind_eq_ok_iff.1 h
    refine ⟨v, features, collectionOf_eq_ok_iff.1 hv, featuresOf_eq_ok_iff.1 hfeatures, ?_⟩
    rw [geometriesOf_eq] at h
    unfold collected?
    cases hgeometries : features.filterMap geometryOf? <;>
    · rw [hgeometries] at h
      exact Except.ok.inj h
  · intro h
    obtain ⟨v, features, hv, hfeatures, rfl⟩ := h
    refine bind_eq_ok_iff.2 ⟨v, collectionOf_eq_ok_iff.2 hv, ?_⟩
    refine bind_eq_ok_iff.2 ⟨features, featuresOf_eq_ok_iff.2 hfeatures, ?_⟩
    rw [geometriesOf_eq]
    unfold collected?
    cases features.filterMap geometryOf? <;> rfl

theorem Holds.unique {value v w : Value} (hv : Holds value v) (hw : Holds value w) : v = w :=
  Except.ok.inj ((collectionOf_eq_ok_iff.2 hv).symm.trans (collectionOf_eq_ok_iff.2 hw))

theorem exists_error_geometry_iff {srid : Nat} {value : Value} :
    (∃ misfit, geometry srid value = .error misfit) ↔
      (∃ s, value = .string s ∧ Value.parse? s = none) ∨
        ∃ v, Holds value v ∧ ∀ features, ¬ HasFeatures v features := by
  have hfails : (∃ misfit, geometry srid value = .error misfit) ↔
      ¬ ∃ o, geometry srid value = .ok o := by
    cases geometry srid value <;> simp
  rw [hfails]
  constructor
  · intro h
    by_cases hholds : ∃ v, Holds value v
    · obtain ⟨v, hv⟩ := hholds
      refine .inr ⟨v, hv, fun features hfeatures => h ?_⟩
      exact ⟨_, geometry_eq_ok_iff.2 ⟨v, features, hv, hfeatures, rfl⟩⟩
    · rw [exists_holds_iff, not_not] at hholds
      exact .inl hholds
  · intro h hok
    obtain ⟨o, hok⟩ := hok
    obtain ⟨v, features, hv, hfeatures, -⟩ := geometry_eq_ok_iff.1 hok
    rcases h with hbad | ⟨w, hw, hnone⟩
    · exact exists_holds_iff.1 ⟨v, hv⟩ hbad
    · cases hv.unique hw
      exact hnone features hfeatures

theorem collectionOf_text {s : String} {v : Value} (hparse : Value.parse? s = some v)
    (hplain : ∀ t, v ≠ .string t) : collectionOf (.string s) = collectionOf v :=
  (collectionOf_eq_ok_iff.2 (.text hparse)).trans (collectionOf_eq_ok_iff.2 (.itself hplain)).symm

/-! ### What is collected -/

/-- What the text of collected geometries says. -/
theorem reading_collected {srid : Nat} {geometries : List Value} {e : Sql.Expression}
    (h : collected? srid geometries = some e) : geometries ≠ [] ∧
      e.reading = .collected (geometries.map Value.compact) srid := by
  unfold collected? at h
  split at h
  · cases h
  · next hne =>
    cases h
    refine ⟨hne, ?_⟩
    simp [Sql.Expression.reading, stored_compact]

/-- A value is refused as a geometry exactly if it is a text that is no JSON or if it holds no object
with a list of features. Otherwise the geometries of the features, those that there are and that are
not null, are collected one by one in their order, each from a literal that is its compact text; no
geometry at all is nothing to store. The text of a value that is no text itself is as good as the
value. -/
theorem geometry_collects (srid : Nat) :
    (∀ value, (∃ misfit, geometry srid value = .error misfit) ↔
      (∃ s, value = .string s ∧ Value.parse? s = none) ∨
        ∃ v, Holds value v ∧ ∀ features, ¬ HasFeatures v features) ∧
    (∀ value v features geometries, Holds value v → HasFeatures v features →
      features.filterMap geometryOf? = geometries →
        (geometries = [] → geometry srid value = .ok none) ∧
        (geometries ≠ [] → ∃ e, geometry srid value = .ok (some e) ∧
          lex e.render.toList =
            some (Reading.collected (geometries.map Value.compact) srid).tokens)) ∧
    ∀ s v, Value.parse? s = some v → (∀ t, v ≠ .string t) →
      geometry srid (.string s) = geometry srid v := by
  refine ⟨fun value => exists_error_geometry_iff, ?collected, ?text⟩
  case collected =>
    intro value v features geometries hv hfeatures hgeometries
    have hok : geometry srid value = .ok (collected? srid geometries) :=
      geometry_eq_ok_iff.2 ⟨v, features, hv, hfeatures, by rw [hgeometries]⟩
    constructor
    · intro hnil
      rw [hok, collected?, if_pos hnil]
    · intro hne
      have hsome : collected? srid geometries =
          some (.collection (geometries.map Value.compact) srid) := if_neg hne
      refine ⟨_, hok.trans (congrArg Except.ok hsome), ?_⟩
      rw [Sql.Expression.lex_render, (reading_collected hsome).2]
  case text =>
    intro s v hparse hplain
    unfold geometry
    rw [collectionOf_text hparse hplain]

/-- Features of which the first and the last have a geometry. -/
def surveyFeatures : List Value :=
  [.object [("geometry", .object [("name", .string "O'Brien's well")])], .null,
    .object [("geometry", .null)], .object [("type", .string "Feature")],
    .object [("geometry", .object [("coordinates", .array []), ("type", .string "Point")])]]

/-- A collection of them. -/
def surveyCollection : Value :=
  .object [("features", .array surveyFeatures), ("type", .string "FeatureCollection")]

/-- A JSON text of the collection, with blanks and with the type first. -/
def surveyText : String :=
  "\x7b\"type\": \"FeatureCollection\", \"features\": [" ++
    "\x7b\"geometry\": \x7b\"name\": \"O'Brien's well\"\x7d\x7d, null, " ++
    "\x7b\"geometry\": null\x7d, \x7b\"type\": \"Feature\"\x7d, " ++
    "\x7b\"geometry\": \x7b\"type\": \"Point\", \"coordinates\": []\x7d\x7d]\x7d"

theorem geometry_collects_surveyFeatures :
    Value.parse? surveyText = some surveyCollection ∧
      ∃ e, geometry 4326 surveyCollection = .ok (some e) ∧
        geometry 4326 (.string surveyText) = .ok (some e) ∧
        lex e.render.toList = some (Reading.collected
          ["\x7b\"name\":\"O'Brien's well\"\x7d",
            "\x7b\"coordinates\":[],\"type\":\"Point\"\x7d"] 4326).tokens := by
  have hparse : Value.parse? surveyText = some surveyCollection := by cbv
  have hplain : ∀ s, surveyCollection ≠ .string s := fun s hs => by cases hs
  obtain ⟨-, hcollects, htext⟩ := geometry_collects 4326
  obtain ⟨e, he, hlex⟩ := (hcollects (.string surveyText) surveyCollection surveyFeatures _
    (.text hparse) ⟨_, rfl, rfl⟩ rfl).2 (List.cons_ne_nil _ _)
  exact ⟨hparse, e, (htext surveyText surveyCollection hparse hplain).symm.trans he, he, hlex⟩

end Rows

end ResourceTables
