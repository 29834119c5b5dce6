import ResourceTables.Package
import ResourceTables.Proofs.Json.Codec
import ResourceTables.Proofs.Package

/-!
# ResourceTables.Proofs.Documents

The documents of a package lose nothing. Each type of the data model is read back from what was
written for it, its parts by the laws of their types (`Json.Lawful`). Two types have documents that no
value writes, localized texts in their older shapes and identifiers in other forms; they are read into
values like all others. Only two things are not said by the types: a datatype that is kept by its tag
alone has a tag of its own, and a depth fits its word (`Package.Storable`).
-/

namespace ResourceTables

open Json (Decoder Value Fields Lawful)

/-! ### Datatypes and cardinalities -/

theorem Cardinality.lawful : Lawful ofJson toJson fun _ => True := by
  refine .of_read_write ?_
  intro c
  cases c <;> rfl

/-- A datatype that is only known by its tag has the tag of no other one. -/
def Datatype.Canonical (d : Datatype) : Prop := ∀ tag, d = other tag → tag ∉ known.map Datatype.tag

namespace Datatype

theorem ofTag_tag {d : Datatype} (h : d.Canonical) : ofTag d.tag = d := by
  cases d with
  | other tag =>
    have hnone : known.find? (fun d => d.tag == tag) = none := by
      rw [List.find?_eq_none]
      intro d hd heq
      exact h tag rfl (List.mem_map.2 ⟨d, hd, eq_of_beq heq⟩)
    show (known.find? fun d => d.tag == tag).getD (other tag) = other tag
    rw [hnone]
    rfl
  | _ => rfl

theorem canonical_of_mem_known {d : Datatype} (h : d ∈ known) : d.Canonical := by
  rintro tag rfl
  simp [known] at h

theorem canonical_ofTag (tag : String) : (ofTag tag).Canonical := by
  unfold ofTag
  cases hfound : known.find? fun d => d.tag == tag with
  | some d => exact canonical_of_mem_known (List.mem_of_find?_eq_some hfound)
  | none =>
    intro tag' heq hmem
    cases heq
    obtain ⟨d, hd, rfl⟩ := List.mem_map.1 hmem
    exact List.find?_eq_none.1 hfound d hd (beq_self_eq_true _)

theorem lawful : Lawful ofJson toJson Canonical where
  read_write d hd := by
    show (Except.ok d.tag).map ofTag = _
    rw [Except.map, ofTag_tag hd]
  valid_of_read v d h := by
    obtain ⟨tag, -, rfl⟩ := map_eq_ok_iff.1 h
    exact canonical_ofTag tag

end Datatype

/-! ### Localized texts -/

namespace LocalizedText

/-- A text whose code is behind all others is put at the end. -/
theorem insertText_of_lt {code text : String} {texts : List (String × String)}
    (h : ∀ p ∈ texts, p.1 < code) : insertText code text texts = texts ++ [(code, text)] := by
  induction texts with
  | nil => rfl
  | cons p texts ih =>
    obtain ⟨hp, hrest⟩ := List.forall_mem_cons.1 h
    have hlt : ¬ code < p.1 := fun hlt => String.lt_irrefl _ (String.lt_trans hp hlt)
    have hne : code ≠ p.1 := by
      rintro rfl
      exact String.lt_irrefl _ hp
    rw [insertText, if_neg hlt, if_neg hne, ih hrest, List.cons_append]

theorem foldl_insert {t : LocalizedText} {texts : List (String × String)}
    (h : ((t.texts ++ texts).map Prod.fst).Pairwise (· < ·)) :
    (texts.foldl (fun t (code, text) => t.insert code text) t).texts = t.texts ++ texts := by
  induction texts generalizing t with
  | nil => simp
  | cons p texts ih =>
    have hinsert : (t.insert p.1 p.2).texts = t.texts ++ [p] := by
      refine insertText_of_lt ?_
      intro q hq
      rw [List.map_append, List.pairwise_append] at h
      exact h.2.2 _ (List.mem_map_of_mem hq) _ (by simp)
    rw [List.foldl_cons, ih]
    · rw [hinsert, List.append_assoc, List.singleton_append]
    · rw [hinsert, List.append_assoc, List.singleton_append]
      exact h

theorem ofList_texts (t : LocalizedText) : ofList t.texts = t := by
  have htexts : (ofList t.texts).texts = t.texts := foldl_insert t.ascending
  cases hlist : ofList t.texts with
  | mk texts ascending =>
    rw [hlist] at htexts
    subst htexts
    rfl

theorem lawful : Lawful ofJson toJson fun _ => True := by
  refine .of_read_write ?_
  intro t
  have htexts : (t.texts.map fun p => (p.1, Value.string p.2)).filterMap
      (fun p => (textOf? p.2).map (p.1, ·)) = t.texts := by
    rw [List.filterMap_map]
    exact List.filterMap_some
  show Except.ok (ofList _) = _
  rw [htexts, ofList_texts]

end LocalizedText

/-! ### Graphs -/

theorem uuidOrNull_lawful : Lawful (Decoder.nullable Decoder.uuid) uuidOrNull fun _ => True := by
  have h := Lawful.nullable .uuid fun _ => Value.noConfusion
  exact .of_read_write fun o => h.read_write o (by simp)

theorem NodeGroup.lawful : Lawful ofJson toJson fun _ => True := by
  refine .of_read_write ?_
  intro g
  rw [ofJson, toJson, Fields.of_object]
  dsimp only [bind, Except.bind]
  rw [Fields.required_members .uuid trivial rfl,
    Fields.optional_members uuidOrNull_lawful trivial rfl,
    Fields.optional_members Cardinality.lawful trivial rfl, Fields.settle_members (by simp)]
  rfl

theorem Node.lawful : Lawful ofJson toJson fun n => n.datatype.Canonical where
  read_write n hn := by
    rw [ofJson, toJson, Fields.of_object]
    dsimp only [bind, Except.bind]
    rw [Fields.required_members .uuid trivial rfl, Fields.required_members .string trivial rfl,
      Fields.required_members Datatype.lawful hn rfl,
      Fields.optional_members uuidOrNull_lawful trivial rfl,
      Fields.optional_members .bool trivial rfl, Fields.optional_members .value trivial rfl,
      Fields.settle_members (by simp)]
    rfl
  valid_of_read v n h := by
    unfold ofJson at h
    obtain ⟨fields, -, h⟩ := bind_eq_ok_iff.1 h
    obtain ⟨-, -, h⟩ := bind_eq_ok_iff.1 h
    obtain ⟨id, -, h⟩ := bind_eq_ok_iff.1 h
    obtain ⟨name, -, h⟩ := bind_eq_ok_iff.1 h
    obtain ⟨datatype, hdatatype, h⟩ := bind_eq_ok_iff.1 h
    cases h
    exact Datatype.lawful.valid_of_required hdatatype

theorem Graph.lawful : Lawful ofJson toJson fun g => ∀ n ∈ g.nodes, n.datatype.Canonical where
  read_write g hg := by
    rw [ofJson, toJson, Fields.of_object]
    dsimp only [bind, Except.bind]
    rw [Fields.required_members .uuid trivial rfl,
      Fields.required_members LocalizedText.lawful trivial rfl,
      Fields.optional_members .bool trivial rfl, Fields.optional_members Node.lawful.list hg rfl,
      Fields.optional_members NodeGroup.lawful.list (fun _ _ => trivial) rfl,
      Fields.settle_members (by simp)]
    rfl
  valid_of_read v g h := by
    unfold ofJson at h
    obtain ⟨fields, -, h⟩ := bind_eq_ok_iff.1 h
    obtain ⟨-, -, h⟩ := bind_eq_ok_iff.1 h
    obtain ⟨id, -, h⟩ := bind_eq_ok_iff.1 h
    obtain ⟨name, -, h⟩ := bind_eq_ok_iff.1 h
    cases h
    exact Node.lawful.list.valid_of_optional (by simp)

/-! ### Records -/

theorem textOrNull_lawful :
    Lawful (Decoder.nullable Decoder.string) (Value.orNull .string) fun _ => True := by
  have h := Lawful.nullable .string fun _ => Value.noConfusion
  exact .of_read_write fun o => h.read_write o (by simp)

theorem Resource.lawful : Lawful ofJson toJson fun _ => True := by
  refine .of_read_write ?_
  rintro ⟨id, graph, legacyId⟩
  rw [ofJson, toJson, Fields.of_object]
  dsimp only [bind, Except.bind]
  -- The identifier in an older system is left out if there is none.
  cases legacyId with
  | none =>
    rw [Fields.required_members .uuid trivial rfl, Fields.required_members .uuid trivial rfl,
      Fields.optional_missing _ rfl, Fields.settle_members (by simp)]
    rfl
  | some text =>
    rw [Fields.required_members .uuid trivial rfl, Fields.required_members .uuid trivial rfl,
      Fields.optional_members (a := some text) textOrNull_lawful trivial rfl,
      Fields.settle_members (by simp)]
    rfl

theorem Tile.data_lawful : Lawful dataOfJson Value.object fun _ => True :=
  .of_read_write fun _ => rfl

theorem Tile.lawful : Lawful ofJson toJson fun _ => True := by
  refine .of_read_write ?_
  rintro ⟨id, resource, nodegroup, parent, data⟩
  rw [ofJson, toJson, Fields.of_object]
  dsimp only [bind, Except.bind]
  cases parent with
  | none =>
    rw [Fields.required_members .uuid trivial rfl, Fields.required_members .uuid trivial rfl,
      Fields.required_members .uuid trivial rfl, Fields.optional_missing _ rfl,
      Fields.optional_members data_lawful trivial rfl, Fields.settle_members (by simp)]
    rfl
  | some parent =>
    rw [Fields.required_members .uuid trivial rfl, Fields.required_members .uuid trivial rfl,
      Fields.required_members .uuid trivial rfl,
      Fields.optional_members (a := some parent) uuidOrNull_lawful trivial rfl,
      Fields.optional_members data_lawful trivial rfl, Fields.settle_members (by simp)]
    rfl

/-! ### Vocabularies -/

/-- The depth of an entry fits a word of thirty-two bits. -/
def Entry.Fits (e : Entry) : Prop := Number.fitsUnsigned 32 e.depth = true

theorem Entry.lawful : Lawful ofJson toJson Fits where
  read_write e he := by
    rw [ofJson, toJson, Fields.of_object]
    dsimp only [bind, Except.bind]
    rw [Fields.required_members .uuid trivial rfl, Fields.required_members .string trivial rfl,
      Fields.optional_members (.unsigned 32) he rfl, Fields.optional_members .bool trivial rfl,
      Fields.settle_members (by simp)]
    rfl
  valid_of_read v e h := by
    unfold ofJson at h
    obtain ⟨fields, -, h⟩ := bind_eq_ok_iff.1 h
    obtain ⟨-, -, h⟩ := bind_eq_ok_iff.1 h
    obtain ⟨id, -, h⟩ := bind_eq_ok_iff.1 h
    obtain ⟨label, -, h⟩ := bind_eq_ok_iff.1 h
    cases h
    exact (Lawful.unsigned 32).valid_of_optional (by decide)

theorem Collection.lawful : Lawful ofJson toJson fun c => ∀ e ∈ c.entries, e.Fits where
  read_write c hc := by
    rw [ofJson, toJson, Fields.of_object]
    dsimp only [bind, Except.bind]
    rw [Fields.required_members .uuid trivial rfl,
      Fields.optional_members textOrNull_lawful trivial rfl,
      Fields.optional_members Entry.lawful.list hc rfl, Fields.settle_members (by simp)]
    rfl
  valid_of_read v c h := by
    unfold ofJson at h
    obtain ⟨fields, -, h⟩ := bind_eq_ok_iff.1 h
    obtain ⟨-, -, h⟩ := bind_eq_ok_iff.1 h
    obtain ⟨id, -, h⟩ := bind_eq_ok_iff.1 h
    cases h
    exact Entry.lawful.list.valid_of_optional (by simp)

/-! ### Packages -/

/-- What a package holds that was read: datatypes by their tags, and depths that fit. -/
structure Package.Storable (p : Package) : Prop where
  datatypes : ∀ g ∈ p.graphs, ∀ n ∈ g.nodes, n.datatype.Canonical
  depths : ∀ c ∈ p.collections, ∀ e ∈ c.entries, e.Fits

namespace Package

theorem lawful : Lawful ofJson toJson Storable where
  read_write p hp := by
    rw [ofJson, toJson, Fields.of_object]
    dsimp only [bind, Except.bind]
    rw [Fields.optional_members Graph.lawful.list hp.datatypes rfl,
      Fields.optional_members Resource.lawful.list (fun _ _ => trivial) rfl,
      Fields.optional_members Tile.lawful.list (fun _ _ => trivial) rfl,
      Fields.optional_members Collection.lawful.list hp.depths rfl,
      Fields.settle_members (by simp)]
    rfl
  valid_of_read v p h := by
    unfold ofJson at h
    obtain ⟨fields, -, h⟩ := bind_eq_ok_iff.1 h
    obtain ⟨-, -, h⟩ := bind_eq_ok_iff.1 h
    cases h
    exact ⟨Graph.lawful.list.valid_of_optional (by simp),
      Collection.lawful.list.valid_of_optional (by simp)⟩

/-- A package is read back from its document. All that is ever read are packages of this kind, so the
document of what was read is a normal form. -/
theorem reads_back : (∀ p : Package, p.Storable → ofJson p.toJson = .ok p) ∧
    (∀ v p, ofJson v = .ok p → p.Storable) ∧
    ∀ v d, (ofJson v).map toJson = .ok d → (ofJson d).map toJson = .ok d :=
  ⟨lawful.read_write, lawful.valid_of_read, fun _ _ => lawful.write_read⟩

/-- A graph without nodes. -/
def bareGraph : Graph where
  id := .ofNat 10
  name := .single "en" "Site"

/-- A document of it, with the identifier in braces and the name as plain text. -/
def looseDocument : Value := .object
  [("graphid", .string "\x7b00000000-0000-0000-0000-00000000000A\x7d"), ("name", .string "Site")]

theorem ofJson_looseDocument : Graph.ofJson looseDocument = .ok bareGraph := by
  have hid : Decoder.uuid (.string "\x7b00000000-0000-0000-0000-00000000000A\x7d") =
      .ok (.ofNat 10) := by
    decide +kernel
  have hname : LocalizedText.ofJson (.string "Site") = .ok (.single "en" "Site") := by
    decide +kernel
  rw [Graph.ofJson, looseDocument, Fields.of_object]
  dsimp only [bind, Except.bind]
  rw [Fields.required_found rfl hid, Fields.required_found rfl hname,
    Fields.optional_missing _ rfl, Fields.optional_missing _ rfl, Fields.optional_missing _ rfl,
    Fields.settle_members (by simp)]
  rfl

theorem reads_back_sitePackage : sitePackage.Storable ∧
    ofJson sitePackage.toJson = .ok sitePackage ∧
    ofJson (.object [("graphs", .array [looseDocument])]) = .ok { graphs := [bareGraph] } ∧
    Storable { graphs := [bareGraph] } ∧
    (ofJson (toJson { graphs := [bareGraph] })).map toJson =
      .ok (toJson { graphs := [bareGraph] }) := by
  obtain ⟨hback, hread, hnormal⟩ := reads_back
  have hsite : sitePackage.Storable := by
    refine ⟨?_, ?_⟩
    · simp [sitePackage, siteGraph, Datatype.Canonical]
    · simp [sitePackage]
  have hloose : ofJson (.object [("graphs", .array [looseDocument])]) =
      .ok { graphs := [bareGraph] } := by
    have hlist : Decoder.list Graph.ofJson (.array [looseDocument]) = .ok [bareGraph] := by
      simp [Decoder.list, ofJson_looseDocument]
    rw [ofJson, Fields.of_object]
    dsimp only [bind, Except.bind]
    rw [Fields.optional_found rfl hlist, Fields.optional_missing _ rfl,
      Fields.optional_missing _ rfl, Fields.optional_missing _ rfl, Fields.settle_members (by simp)]
    rfl
  have hwritten : (ofJson (.object [("graphs", .array [looseDocument])])).map toJson =
      .ok (toJson { graphs := [bareGraph] }) := by
    rw [hloose]
    rfl
  exact ⟨hsite, hback _ hsite, hloose, hread _ _ hloose, hnormal _ _ hwritten⟩

end Package

end ResourceTables
