import ResourceTables.Package.Load
import ResourceTables.Proofs.Files.View

/-!
# ResourceTables.Proofs.Package.Contents

What the documents of a package are and what they hold. A document is known by the ending of its name
(`isDocument_iff`), and it holds the elements of one part of the package in one of several shapes
(`Part.Lists`). A file that holds nothing has a fault, which tells the path of the file.
-/

namespace ResourceTables

/-! ### Names -/

namespace Files

theorem extension?_append {stem ending : List Char} (h : '.' ∉ ending) :
    extension? (String.ofList (stem ++ '.' :: ending)) =
      if stem.isEmpty then none else some (String.ofList ending) := by
  rw [extension?, String.toList_ofList, List.splitOn_append_cons_self, List.splitOn_eq_singleton h,
    List.reverse_concat]
  dsimp only
  rw [List.reverse_reverse, List.intercalate_splitOn]

/-- The ending of a name stands behind its last point, and something stands before it. -/
theorem extension?_eq_some_iff {name ending : String} :
    extension? name = some ending ↔
      '.' ∉ ending.toList ∧ ∃ stem, stem ≠ "" ∧ name = stem ++ "." ++ ending := by
  have hpoint : ".".toList = ['.'] := rfl
  constructor
  · intro h
    by_cases hmem : '.' ∈ name.toList
    · -- The last point is the first one from the end.
      obtain ⟨last, before, hname, hlast⟩ := List.eq_append_cons_of_mem (List.mem_reverse.2 hmem)
      have hchars : name.toList = before.reverse ++ '.' :: last.reverse := by
        rw [← List.reverse_reverse name.toList, hname]
        simp
      rw [← String.ofList_toList (s := name), hchars,
        extension?_append (mt List.mem_reverse.1 hlast)] at h
      split at h
      · cases h
      · next hbefore =>
        cases h
        refine ⟨by rwa [String.toList_ofList, List.mem_reverse], String.ofList before.reverse, ?_, ?_⟩
        · rwa [ne_eq, String.ofList_eq_empty_iff, ← List.isEmpty_iff]
        · rw [← String.toList_inj, hchars]
          simp [hpoint]
    · rw [extension?, List.splitOn_eq_singleton hmem] at h
      cases h
  · intro h
    obtain ⟨hending, stem, hstem, rfl⟩ := h
    have hchars : stem ++ "." ++ ending = String.ofList (stem.toList ++ '.' :: ending.toList) := by
      rw [← String.toList_inj]
      simp [hpoint]
    have hne : stem.toList.isEmpty = false :=
      List.isEmpty_eq_false_iff.2 (mt String.toList_eq_nil_iff.1 hstem)
    rw [hchars, extension?_append hending, hne, String.ofList_toList]
    rfl

end Files

namespace Package

open Files (View FileError)
open Json (Decoder Value DecodeError)

/-- A name that ends in one of three endings behind a point, with something before it. -/
def IsDocumentName (name : String) : Prop :=
  ∃ stem ending, stem ≠ "" ∧ ending ∈ ["json", "yaml", "yml"] ∧ name = stem ++ "." ++ ending

theorem isDocument_iff {name : String} : isDocument name = true ↔ IsDocumentName name := by
  have hending : isDocument name = true ↔
      ∃ ending ∈ ["json", "yaml", "yml"], Files.extension? name = some ending := by
    unfold isDocument
    split <;> simp_all
  rw [hending]
  constructor
  · intro h
    obtain ⟨ending, hmem, hfound⟩ := h
    obtain ⟨-, stem, hstem, hname⟩ := Files.extension?_eq_some_iff.1 hfound
    exact ⟨stem, ending, hstem, hmem, hname⟩
  · intro h
    obtain ⟨stem, ending, hstem, hmem, hname⟩ := h
    have hpoint : ∀ ending ∈ ["json", "yaml", "yml"], '.' ∉ ending.toList := by decide
    exact ⟨ending, hmem, Files.extension?_eq_some_iff.2 ⟨hpoint ending hmem, stem, hstem, hname⟩⟩

instance : DecidablePred IsDocumentName := fun _ => decidable_of_iff _ isDocument_iff

/-! ### Shapes -/

theorem list_eq_ok_iff {α : Type} {decode : Decoder α} {v : Value} {items : List α} :
    Decoder.list decode v = .ok items ↔ ∃ values, v = .array values ∧
      List.Forall₂ (fun w item => decode w = .ok item) values items := by
  constructor
  · intro h
    cases v with
    | array values => exact ⟨values, rfl, forall₂_of_mapM_eq_ok h⟩
    | _ => cases h
  · intro h
    obtain ⟨values, rfl, hitems⟩ := h
    exact mapM_eq_ok_of_forall₂ hitems

/-- The elements of a document: a list in a member of an object, a list on its own, or one element. -/
inductive ListsIn (member : String) : Value → List Value → Prop
  | inMember {v : Value} {values : List Value} (h : v.get? member = some (.array values)) :
    ListsIn member v values
  | onItsOwn (values : List Value) : ListsIn member (.array values) values
  | one {v : Value} (hmember : v.get? member = none) (hlist : ∀ values, v ≠ .array values) :
    ListsIn member v [v]

theorem listOrOne_one {α : Type} {member : String} (decode : Decoder α) {v : Value}
    (hmember : v.get? member = none) (hlist : ∀ values, v ≠ .array values) :
    listOrOne member decode v = (decode v).map fun item => [item] := by
  unfold listOrOne
  rw [hmember]
  cases v with
  | array values => exact absurd rfl (hlist values)
  | _ => rfl

theorem listOrOne_eq_ok_iff {α : Type} {member : String} {decode : Decoder α} {v : Value}
    {items : List α} : listOrOne member decode v = .ok items ↔ ∃ values, ListsIn member v values ∧
      List.Forall₂ (fun w item => decode w = .ok item) values items := by
  constructor
  · intro h
    by_cases hlist : ∃ values, v = .array values
    · obtain ⟨values, rfl⟩ := hlist
      exact ⟨values, .onItsOwn values, forall₂_of_mapM_eq_ok h⟩
    have hlist : ∀ values, v ≠ .array values := fun values heq => hlist ⟨values, heq⟩
    cases hmember : v.get? member with
    | some found =>
      simp only [listOrOne, hmember] at h
      obtain ⟨values, rfl, hitems⟩ := list_eq_ok_iff.1 h
      exact ⟨values, .inMember hmember, hitems⟩
    | none =>
      rw [listOrOne_one decode hmember hlist] at h
      obtain ⟨item, hitem, rfl⟩ := map_eq_ok_iff.1 h
      exact ⟨[v], .one hmember hlist, .cons hitem .nil⟩
  · intro h
    obtain ⟨values, hvalues, hitems⟩ := h
    cases hvalues with
    | inMember hmember =>
      simp only [listOrOne, hmember]
      exact list_eq_ok_iff.2 ⟨values, rfl, hitems⟩
    | onItsOwn => exact mapM_eq_ok_of_forall₂ hitems
    | one hmember hlist =>
      obtain ⟨item, rest, hitem, hrest, rfl⟩ := List.forall₂_cons_left_iff.1 hitems
      cases List.forall₂_nil_left_iff.1 hrest
      rw [listOrOne_one decode hmember hlist, hitem]
      rfl

/-- The value that a document keeps its resources in: one inside it, or the document itself. -/
inductive KeepsIn : Value → Value → Prop
  | inside {v inner : Value} (h : v.get? "business_data" = some inner) : KeepsIn v inner
  | itself {v : Value} (h : v.get? "business_data" = none) : KeepsIn v v

/-- The resources of a document; there may be no list of them. -/
inductive ListsResources : Value → List Value → Prop
  | listed {v inner : Value} {values : List Value} (h : KeepsIn v inner)
    (hlisted : inner.get? "resources" = some (.array values)) : ListsResources v values
  | missing {v inner : Value} (h : KeepsIn v inner) (hmissing : inner.get? "resources" = none) :
    ListsResources v []

theorem keepsIn_getD (v : Value) : KeepsIn v ((v.get? "business_data").getD v) := by
  cases h : v.get? "business_data" with
  | some inner => exact .inside h
  | none => exact .itself h

theorem KeepsIn.eq_getD {v inner : Value} (h : KeepsIn v inner) :
    (v.get? "business_data").getD v = inner := by
  cases h with
  | inside h => rw [h, Option.getD_some]
  | itself h => rw [h, Option.getD_none]

theorem recordsOfJson_eq_ok_iff {v : Value} {records : List Record} :
    recordsOfJson v = .ok records ↔ ∃ values, ListsResources v values ∧
      List.Forall₂ (fun w record => Record.ofJson w = .ok record) values records := by
  unfold recordsOfJson
  constructor
  · intro h
    split at h
    · next found hfound =>
      obtain ⟨values, rfl, hrecords⟩ := list_eq_ok_iff.1 h
      exact ⟨values, .listed (keepsIn_getD v) hfound, hrecords⟩
    · next hmissing =>
      cases h
      exact ⟨[], .missing (keepsIn_getD v) hmissing, .nil⟩
  · intro h
    obtain ⟨values, hvalues, hrecords⟩ := h
    cases hvalues with
    | listed hinner hlisted =>
      rw [hinner.eq_getD, hlisted]
      exact list_eq_ok_iff.2 ⟨values, rfl, hrecords⟩
    | missing hinner hmissing =>
      rw [hinner.eq_getD, hmissing]
      cases List.forall₂_nil_left_iff.1 hrecords
      rfl

/-! ### Parts -/

/-- A part of a package, which has a directory of its own. -/
inductive Part
  | graphs
  | records
  | collections
  deriving DecidableEq

namespace Part

/-- The parts in the order in which they are loaded. -/
def all : List Part := [graphs, records, collections]

/-- The directory of a part. -/
def directory (root : String) : Part → String
  | graphs => Files.join root "graphs"
  | records => Files.join root "business_data"
  | collections => Files.join root "collections"

/-- The path of a document of a part. -/
def path (part : Part) (root name : String) : String := Files.join (part.directory root) name

/-- What a part consists of. -/
abbrev Item : Part → Type
  | graphs => Graph
  | records => Record
  | collections => Collection

/-- Reads one element of a part. -/
def decode : (part : Part) → Decoder part.Item
  | graphs => Graph.ofJson
  | records => Record.ofJson
  | collections => Collection.ofJson

/-- The elements of a document of a part. -/
def Lists : Part → Value → List Value → Prop
  | graphs => ListsIn "graph"
  | records => ListsResources
  | collections => ListsIn "collections"

/-- Reads a document of a part. -/
def decodeAll : (part : Part) → Decoder (List part.Item)
  | graphs => graphsOfJson
  | records => recordsOfJson
  | collections => collectionsOfJson

theorem decodeAll_eq_ok_iff {part : Part} {v : Value} {items : List part.Item} :
    part.decodeAll v = .ok items ↔ ∃ values, part.Lists v values ∧
      List.Forall₂ (fun w item => part.decode w = .ok item) values items := by
  cases part with
  | graphs | collections => exact listOrOne_eq_ok_iff
  | records => exact recordsOfJson_eq_ok_iff

end Part

/-! ### Documents -/

/-- A document that can be read and parsed holds the elements that are listed in it. -/
def Holds (files : View) (root : String) (part : Part) (name : String) (items : List part.Item) :
    Prop :=
  ∃ text v values, files.readText (part.path root name) = .ok text ∧
    parseDocument name text = some v ∧ part.Lists v values ∧
    List.Forall₂ (fun w item => part.decode w = .ok item) values items

/-- Why a document cannot be read or parsed. -/
inductive Fault (files : View) (root : String) (part : Part) (name : String) : LoadError → Prop
  | unreadable {cause : FileError} (h : files.readText (part.path root name) = .error cause) :
    Fault files root part name (.io (part.path root name) cause)
  | malformed {text : String} (h : files.readText (part.path root name) = .ok text)
    (hparse : parseDocument name text = none) :
    Fault files root part name (.malformed (part.path root name))
  | unfit {text : String} {v : Value} {cause : DecodeError}
    (h : files.readText (part.path root name) = .ok text) (hparse : parseDocument name text = some v)
    (hdecode : part.decodeAll v = .error cause) :
    Fault files root part name (.unfit (part.path root name) cause)

/-- A fault is told with the path of the file. -/
theorem Fault.path_infix {files : View} {root : String} {part : Part} {name : String} {e : LoadError}
    (h : Fault files root part name e) : (part.path root name).toList <:+: e.message.toList := by
  have hinfix (first path rest : String) : path.toList <:+: (first ++ path ++ rest).toList := by
    rw [String.toList_append, String.toList_append]
    exact List.infix_append _ _ _
  cases h with
  | @unreadable cause =>
    have h := hinfix "Failed to read " (part.path root name) (": " ++ cause.message)
    rwa [← String.append_assoc] at h
  | malformed =>
    have h := hinfix "Failed to parse " (part.path root name) ""
    rwa [String.append_empty] at h
  | unfit => exact hinfix "Failed to parse " (part.path root name) _

section

variable {files : View} {root name : String} {part : Part}

theorem run_access {α : Type} {path : String} {action : ReaderM View (Except FileError α)} :
    files.run (access path action) = (Id.run (action.run files)).mapError (.io path) := rfl

theorem run_loadDocument {α : Type} (decode : Decoder α) (directory name : String) :
    files.run (loadDocument decode directory name) =
      (files.readText (Files.join directory name)).mapError (.io (Files.join directory name)) >>=
        fun text => match parseDocument name text with
          | none => .error (.malformed (Files.join directory name))
          | some v => (decode v).mapError (.unfit (Files.join directory name)) := by
  unfold loadDocument
  dsimp only
  rw [View.run_bind, run_access]
  congr 1
  funext text
  cases parseDocument name text with
  | none => rfl
  | some v => cases hv : decode v <;> simp [hv, Except.mapError]

theorem loadDocument_eq_ok_iff {items : List part.Item} :
    files.run (loadDocument part.decodeAll (part.directory root) name) = .ok items ↔
      Holds files root part name items := by
  rw [run_loadDocument, bind_eq_ok_iff]
  constructor
  · intro h
    obtain ⟨text, htext, h⟩ := h
    split at h
    · cases h
    · next v hparse =>
      obtain ⟨values, hvalues, hitems⟩ := Part.decodeAll_eq_ok_iff.1 (mapError_eq_ok_iff.1 h)
      exact ⟨text, v, values, mapError_eq_ok_iff.1 htext, hparse, hvalues, hitems⟩
  · intro h
    obtain ⟨text, v, values, htext, hparse, hvalues, hitems⟩ := h
    refine ⟨text, mapError_eq_ok_iff.2 htext, ?_⟩
    rw [hparse]
    exact mapError_eq_ok_iff.2 (Part.decodeAll_eq_ok_iff.2 ⟨values, hvalues, hitems⟩)

theorem loadDocument_eq_error_iff {e : LoadError} :
    files.run (loadDocument part.decodeAll (part.directory root) name) = .error e ↔
      Fault files root part name e := by
  rw [run_loadDocument, bind_eq_error_iff]
  constructor
  · intro h
    rcases h with h | ⟨text, htext, h⟩
    · obtain ⟨cause, hcause, rfl⟩ := mapError_eq_error_iff.1 h
      exact .unreadable hcause
    have hread : files.readText (part.path root name) = .ok text := mapError_eq_ok_iff.1 htext
    split at h
    · next hparse =>
      cases h
      exact .malformed hread hparse
    · next v hparse =>
      obtain ⟨cause, hcause, rfl⟩ := mapError_eq_error_iff.1 h
      exact .unfit hread hparse hcause
  · intro h
    cases h with
    | unreadable h => exact .inl (mapError_eq_error_iff.2 ⟨_, h, rfl⟩)
    | malformed h hparse =>
      refine .inr ⟨_, mapError_eq_ok_iff.2 h, ?_⟩
      rw [hparse]
      rfl
    | unfit h hparse hdecode =>
      refine .inr ⟨_, mapError_eq_ok_iff.2 h, ?_⟩
      rw [hparse]
      exact mapError_eq_error_iff.2 ⟨_, hdecode, rfl⟩

end

end Package

end ResourceTables
