import Mathlib
import ResourceTables.Proofs.Package.Contents
import ResourceTables.Proofs.Text.ByteOrder

/-!
# ResourceTables.Proofs.Package.Load

A package is loaded as a whole or not at all, and in whatever order its directories are listed
(`load_outcome`). Either every document holds its elements, and these are the package in the order of the
names; or the first document that does not is told.

Design points:

* Only the documents count (`Files.View.documents`), as they are listed. What a document is called and
  holds is said by `IsDocumentName` and `Part.Lists`, without the functions that look.
* The outcome is a relation to the documents in order (`Outcome`), which has no outcome between the two.
* What is told of a view is true of every tree of files, by the view of the tree (`load_follows`).
-/

namespace ResourceTables

namespace Files

/-- The names of the documents of a directory, as they are listed; there are none in a directory that is
not there. -/
def View.documents (files : View) (directory : String) : List String :=
  if files.isDirectory directory then
    ((files.list directory).toOption.getD []).filter fun name =>
      decide (Package.IsDocumentName name) && files.isFile (join directory name)
  else []

/-- Files whose directories are listed in another order. -/
def View.relist (files : View) (order : String → List String → List String) : View :=
  { files with list := fun directory => (files.list directory).map (order directory) }

end Files

namespace Package

open Files (View Volume FileReader)
open Json (Decoder)

variable {files other : View} {root : String} {part : Part}

/-! ### Names in order -/

/-- A directory that is there, whose parts can be listed as far as they are there. -/
structure IsPackage (files : View) (root : String) : Prop where
  isThere : files.isDirectory root = true
  listed : ∀ part : Part, files.isDirectory (part.directory root) = true →
    ∃ names, files.list (part.directory root) = .ok names

/-- The documents of each part in the order of their names, by bytes. -/
structure InOrder (files : View) (root : String) (documents : Part → List String) : Prop where
  ascending : ∀ part, (documents part).Pairwise fun a b => Text.bytes a ≤ Text.bytes b
  perm : ∀ part : Part, (documents part).Perm (files.documents (part.directory root))

/-- The documents of a part, sorted. -/
def documentsIn (files : View) (root : String) (part : Part) : List String :=
  (files.documents (part.directory root)).mergeSort

theorem pairwise_documentsIn (files : View) (root : String) (part : Part) :
    (documentsIn files root part).Pairwise (· ≤ ·) :=
  List.pairwise_mergeSort' (· ≤ ·) (files.documents (part.directory root))

theorem documentsIn_perm (files : View) (root : String) (part : Part) :
    (documentsIn files root part).Perm (files.documents (part.directory root)) :=
  List.mergeSort_perm _ _

theorem inOrder_documentsIn (files : View) (root : String) :
    InOrder files root (documentsIn files root) where
  ascending part := (pairwise_documentsIn files root part).imp fun h => Text.le_iff_bytes_le.1 h
  perm := documentsIn_perm files root

theorem run_documentNames (h : IsPackage files root) (part : Part) :
    files.run (documentNames (part.directory root)) = .ok (documentsIn files root part) := by
  have hdocument (name : String) : isDocument name = decide (IsDocumentName name) :=
    Bool.eq_iff_iff.2 (isDocument_iff.trans decide_eq_true_iff.symm)
  unfold documentNames documentsIn View.documents
  rw [View.run_bind, View.run_isDirectory]
  show files.run (if _ then _ else _) = _
  split
  · next hthere =>
    obtain ⟨names, hnames⟩ := h.listed part hthere
    have hlist : files.run (access (part.directory root)
        (Files.FileReader.list (part.directory root))) = .ok names := by
      rw [run_access]
      exact mapError_eq_ok_iff.2 hnames
    rw [View.run_bind, hlist, hnames]
    show files.run (_ >>= _) = _
    rw [View.run_bind, View.run_filterM]
    · rfl
    · intro name
      rw [View.run_bind, View.run_isFile, ← hdocument]
      rfl
  · rw [List.mergeSort_nil]
    rfl

/-! ### Parts -/

/-- What the documents of a part hold, document by document. -/
def contentsOf (files : View) (root : String) (part : Part) :
    Except LoadError (List (List part.Item)) :=
  (documentsIn files root part).mapM fun name =>
    files.run (loadDocument part.decodeAll (part.directory root) name)

/-- The package of what the documents hold. -/
def ofContents (contents : (part : Part) → List (List part.Item)) : Package where
  graphs := (contents .graphs).flatten
  resources := (contents .records).flatten.map Record.resource
  tiles := (contents .records).flatten.flatMap Record.tiles
  collections := (contents .collections).flatten

theorem run_loadDirectory (h : IsPackage files root) (part : Part) :
    files.run (loadDirectory part.decodeAll (part.directory root)) =
      (contentsOf files root part).map List.flatten := by
  unfold loadDirectory
  rw [View.run_bind, run_documentNames h]
  show files.run (_ >>= _) = _
  rw [View.run_bind, View.run_mapM]
  unfold contentsOf
  cases (documentsIn files root part).mapM fun name =>
    files.run (loadDocument part.decodeAll (part.directory root) name) <;> rfl

theorem run_load (h : IsPackage files root) : files.run (load root) = do
    let graphs ← contentsOf files root .graphs
    let records ← contentsOf files root .records
    let collections ← contentsOf files root .collections
    return ofContents fun
      | .graphs => graphs
      | .records => records
      | .collections => collections := by
  have hgraphs : files.run (loadDirectory graphsOfJson (Files.join root "graphs")) = _ :=
    run_loadDirectory h .graphs
  have hrecords : files.run (loadDirectory recordsOfJson (Files.join root "business_data")) = _ :=
    run_loadDirectory h .records
  have hcollections :
      files.run (loadDirectory collectionsOfJson (Files.join root "collections")) = _ :=
    run_loadDirectory h .collections
  unfold load
  rw [View.run_bind, View.run_isDirectory, h.isThere]
  show files.run (_ >>= _) = _
  simp only [View.run_bind, hgraphs, hrecords, hcollections]
  cases contentsOf files root .graphs with
  | error e => rfl
  | ok graphs =>
    cases contentsOf files root .records with
    | error e => rfl
    | ok records => cases contentsOf files root .collections <;> rfl

/-! ### Outcomes -/

/-- The documents of all parts, in the order in which they are loaded. -/
def places (documents : Part → List String) : List (Part × String) :=
  Part.all.flatMap fun part => (documents part).map (part, ·)

/-- What may come of loading the documents of all parts in order: the package of all that they hold, or
what is wrong with the first one that holds nothing. -/
inductive Outcome (files : View) (root : String) (documents : Part → List String) :
    Except LoadError Package → Prop
  | loaded {contents : (part : Part) → List (List part.Item)}
    (h : ∀ part, List.Forall₂ (Holds files root part) (documents part) (contents part)) :
    Outcome files root documents (.ok (ofContents contents))
  | failed {before after : List (Part × String)} {part : Part} {name : String} {e : LoadError}
    (hplaces : places documents = before ++ (part, name) :: after)
    (hbefore : ∀ place ∈ before, ∃ items, Holds files root place.1 place.2 items)
    (hfault : Fault files root part name e) : Outcome files root documents (.error e)

theorem holds_of_contentsOf {contents : List (List part.Item)}
    (h : contentsOf files root part = .ok contents) :
    List.Forall₂ (Holds files root part) (documentsIn files root part) contents :=
  (forall₂_of_mapM_eq_ok h).imp fun _ _ => loadDocument_eq_ok_iff.1

/-- The first part that cannot be loaded decides. -/
theorem outcome_of_error (earlier later : List Part) {e : LoadError}
    (hall : Part.all = earlier ++ part :: later)
    (hearlier : ∀ p ∈ earlier, ∃ contents, contentsOf files root p = .ok contents)
    (h : contentsOf files root part = .error e) :
    Outcome files root (documentsIn files root) (.error e) := by
  obtain ⟨before, name, after, hnames, hbefore, hname⟩ := mapM_eq_error_iff.1 h
  have hplaces : places (documentsIn files root) =
      (earlier.flatMap (fun p => (documentsIn files root p).map (p, ·)) ++ before.map (part, ·)) ++
        (part, name) ::
          (after.map (part, ·) ++ later.flatMap fun p => (documentsIn files root p).map (p, ·)) := by
    rw [places, hall, List.flatMap_append, List.flatMap_cons, hnames, List.map_append, List.map_cons]
    simp only [List.append_assoc, List.cons_append]
  refine .failed hplaces (fun place hplace => ?_) (loadDocument_eq_error_iff.1 hname)
  rcases List.mem_append.1 hplace with hplace | hplace
  · obtain ⟨p, hp, hplace⟩ := List.mem_flatMap.1 hplace
    obtain ⟨document, hdocument, rfl⟩ := List.mem_map.1 hplace
    obtain ⟨contents, hcontents⟩ := hearlier p hp
    obtain ⟨items, -, hitems⟩ := exists_right_of_mem (holds_of_contentsOf hcontents) hdocument
    exact ⟨items, hitems⟩
  · obtain ⟨document, hdocument, rfl⟩ := List.mem_map.1 hplace
    obtain ⟨items, hitems⟩ := hbefore document hdocument
    exact ⟨items, loadDocument_eq_ok_iff.1 hitems⟩

theorem outcome_load (h : IsPackage files root) :
    Outcome files root (documentsIn files root) (files.run (load root)) := by
  rw [run_load h]
  cases hgraphs : contentsOf files root .graphs with
  | error e => exact outcome_of_error [] _ rfl (by simp) hgraphs
  | ok graphs =>
    cases hrecords : contentsOf files root .records with
    | error e => exact outcome_of_error [.graphs] _ rfl (by simp [hgraphs]) hrecords
    | ok records =>
      cases hcollections : contentsOf files root .collections with
      | error e =>
        exact outcome_of_error [.graphs, .records] _ rfl (by simp [hgraphs, hrecords]) hcollections
      | ok collections =>
        refine .loaded fun part => ?_
        cases part with
        | graphs => exact holds_of_contentsOf hgraphs
        | records => exact holds_of_contentsOf hrecords
        | collections => exact holds_of_contentsOf hcollections

/-! ### The same documents -/

/-- Views that have the same documents with the same texts, in whatever order they are listed and
whatever else there is. -/
structure SameDocuments (files other : View) (root : String) : Prop where
  perm : ∀ part : Part,
    (other.documents (part.directory root)).Perm (files.documents (part.directory root))
  readText : ∀ part : Part, ∀ name ∈ files.documents (part.directory root),
    other.readText (part.path root name) = files.readText (part.path root name)

theorem documentsIn_congr (h : SameDocuments files other root) (part : Part) :
    documentsIn other root part = documentsIn files root part := by
  have hperm : (documentsIn other root part).Perm (documentsIn files root part) :=
    (documentsIn_perm other root part).trans
      ((h.perm part).trans (documentsIn_perm files root part).symm)
  exact hperm.eq_of_pairwise (fun a b _ _ hab hba => le_antisymm hab hba)
    (pairwise_documentsIn other root part) (pairwise_documentsIn files root part)

theorem contentsOf_congr (h : SameDocuments files other root) (part : Part) :
    contentsOf other root part = contentsOf files root part := by
  unfold contentsOf
  rw [documentsIn_congr h]
  refine mapM_congr fun name hname => ?_
  have hmem : name ∈ files.documents (part.directory root) :=
    (documentsIn_perm files root part).mem_iff.1 hname
  have hread := h.readText part name hmem
  unfold Part.path at hread
  rw [run_loadDocument, run_loadDocument, hread]

theorem load_congr (hfiles : IsPackage files root) (hother : IsPackage other root)
    (h : SameDocuments files other root) : other.run (load root) = files.run (load root) := by
  rw [run_load hfiles, run_load hother, contentsOf_congr h, contentsOf_congr h, contentsOf_congr h]

theorem isPackage_relist (h : IsPackage files root) (order : String → List String → List String) :
    IsPackage (files.relist order) root where
  isThere := h.isThere
  listed part hthere := by
    obtain ⟨names, hnames⟩ := h.listed part hthere
    exact ⟨order (part.directory root) names, map_eq_ok_iff.2 ⟨names, hnames, rfl⟩⟩

theorem sameDocuments_relist {order : String → List String → List String}
    (horder : ∀ directory names, (order directory names).Perm names) :
    SameDocuments files (files.relist order) root where
  perm part := by
    unfold View.documents View.relist
    dsimp only
    split
    · refine List.Perm.filter _ ?_
      cases files.list (part.directory root) with
      | ok names => exact horder _ names
      | error e => exact .refl _
    · exact .refl _
  readText _ _ _ := rfl

/-! ### Trees -/

section

variable {v : Volume}

theorem list_follows (path : String) :
    v.Follows (access path (FileReader.list path)) (access path (FileReader.list path)) := rfl

theorem readText_follows (path : String) :
    v.Follows (access path (FileReader.readText path)) (access path (FileReader.readText path)) := rfl

theorem documentNames_follows (directory : String) :
    v.Follows (documentNames directory) (documentNames directory) := by
  unfold documentNames
  refine (Volume.Follows.isDirectory directory).bind fun isThere => ?_
  split
  · refine (list_follows directory).bind fun names => ?_
    refine (Volume.Follows.filterM fun name => ?_).bind fun found => .pure _
    exact (Volume.Follows.isFile _).bind fun isFile => .pure _
  · exact .pure _

theorem loadDocument_follows {α : Type} (decode : Decoder α) (directory name : String) :
    v.Follows (loadDocument decode directory name) (loadDocument decode directory name) := by
  unfold loadDocument
  refine (readText_follows _).bind fun text => ?_
  split
  · exact .throw _
  · split
    · exact .pure _
    · exact .throw _

theorem loadDirectory_follows {α : Type} (decode : Decoder (List α)) (directory : String) :
    v.Follows (loadDirectory decode directory) (loadDirectory decode directory) :=
  (documentNames_follows directory).bind fun _ =>
    (Volume.Follows.mapM fun name => loadDocument_follows decode directory name).bind fun _ => .pure _

/-- A package is loaded from a tree of files as from its view, and the tree stays what it is. -/
theorem load_follows (v : Volume) (root : String) : v.Follows (load root) (load root) := by
  unfold load
  refine (Volume.Follows.isDirectory root).bind fun isThere => ?_
  have hrest : v.Follows _ _ :=
    (loadDirectory_follows graphsOfJson (Files.join root "graphs")).bind fun graphs =>
      (loadDirectory_follows recordsOfJson (Files.join root "business_data")).bind fun records =>
        (loadDirectory_follows collectionsOfJson (Files.join root "collections")).bind fun
          collections => .pure (({
            graphs
            resources := records.map Record.resource
            tiles := records.flatMap Record.tiles
            collections }) : Package)
  cases isThere with
  | false => exact .throw _
  | true => exact hrest

end

/-- Of the package in a directory there is one outcome, by its documents in the order of their names:
all that they hold, or the first one that cannot be read or parsed, which is told with its path. The
order in which directories are listed and other files have no part in it; and what is told here of
files as they answer is told of every tree of files, which loading leaves as it is. -/
theorem load_outcome (h : IsPackage files root) :
    (∃ documents, InOrder files root documents ∧
      Outcome files root documents (files.run (load root))) ∧
    (∀ part name e, Fault files root part name e →
      (part.path root name).toList <:+: e.message.toList) ∧
    (∀ order : String → List String → List String,
      (∀ directory names, (order directory names).Perm names) →
        (files.relist order).run (load root) = files.run (load root)) ∧
    (∀ other, IsPackage other root → SameDocuments files other root →
      other.run (load root) = files.run (load root)) ∧
    ∀ v : Volume, v.Follows (load root) (load root) := by
  refine ⟨⟨documentsIn files root, inOrder_documentsIn files root, outcome_load h⟩, ?_, ?_, ?_, ?_⟩
  · exact fun _ _ _ hfault => hfault.path_infix
  · exact fun order horder => load_congr h (isPackage_relist h order) (sameDocuments_relist horder)
  · exact fun other hother hsame => load_congr h hother hsame
  · exact fun v => load_follows v root

/-- A package with a document that is cut off, listed out of order and next to another file. -/
def cutOffFiles : View where
  isThere path := path ∈ ["site", "site/graphs", "site/graphs/a.json", "site/graphs/b.json",
    "site/graphs/README.md"]
  isDirectory path := path ∈ ["site", "site/graphs"]
  isFile path := path ∈ ["site/graphs/a.json", "site/graphs/b.json", "site/graphs/README.md"]
  list path := if path = "site/graphs" then .ok ["b.json", "README.md", "a.json"] else .error .notFound
  readText path :=
    if path = "site/graphs/a.json" then .ok "[]"
    else if path = "site/graphs/b.json" then .ok "["
    else .error .notFound

theorem isPackage_cutOffFiles : IsPackage cutOffFiles "site" where
  isThere := by decide
  listed part hthere := by
    cases part with
    | graphs => exact ⟨["b.json", "README.md", "a.json"], by cbv⟩
    | records | collections => exact absurd hthere (by decide +kernel)

theorem load_cutOffFiles :
    cutOffFiles.run (load "site") = .error (.malformed "site/graphs/b.json") := by cbv

theorem load_outcome_cutOffFiles :
    IsPackage cutOffFiles "site" ∧
      (∃ documents, InOrder cutOffFiles "site" documents ∧
        Outcome cutOffFiles "site" documents (.error (.malformed "site/graphs/b.json"))) ∧
      (cutOffFiles.relist fun _ names => names.reverse).run (load "site") =
        .error (.malformed "site/graphs/b.json") := by
  obtain ⟨houtcome, -, hrelist, -⟩ := load_outcome isPackage_cutOffFiles
  rw [load_cutOffFiles] at houtcome hrelist
  exact ⟨isPackage_cutOffFiles, houtcome, hrelist _ fun _ names => names.reverse_perm⟩

end Package

end ResourceTables
