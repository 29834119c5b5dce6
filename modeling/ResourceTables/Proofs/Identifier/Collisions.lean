import ResourceTables.Proofs.Identifier.Ancestry
import ResourceTables.Proofs.Identifier.Words

/-!
# ResourceTables.Proofs.Identifier.Collisions

When two nodes of a graph have one name. A qualified name keeps the words of the names on the way to
the node and no trace of where one of them ends, so two nodes that are named in full have one name
exactly if they have the same words one after another (`qualify_eq_iff_words`). Names of one word are
told apart; a phase's description and a phase description are not.
-/

namespace ResourceTables

/-! ### Names on the way -/

namespace Graph

/-- The names that qualify a node: those of the collectors above its nodegroup from the top down, and
its own. -/
def lineage (g : Graph) (node : Node) : Except ExportError (List String) :=
  match node.nodegroup with
  | none => .ok [node.name]
  | some start => match g.nodegroup? start with
    | none => .error (.unknownNodegroup start)
    | some group => (g.ancestry [start] group.parent).map fun above =>
      (node :: above).reverse.map Node.name

theorem qualify_eq_lineage (names : Names) (g : Graph) (node : Node) : names.qualify g node =
    (g.lineage node).map fun texts => names.slug ("-".intercalate texts) := by
  cases hn : node.nodegroup with
  | none => simp [Names.qualify, qualifiedName, lineage, hn, Except.map]
  | some start =>
    cases hg : g.nodegroup? start with
    | none => simp [Names.qualify, qualifiedName, lineage, hn, hg, Except.map]
    | some group =>
      rw [qualify_eq hn hg, lineage, hn]
      simp only [hg, map_map]

theorem lineage_ne_nil {g : Graph} {node : Node} {texts : List String}
    (h : g.lineage node = .ok texts) : texts ≠ [] := by
  unfold lineage at h
  split at h
  · cases h
    simp
  · split at h
    · cases h
    · obtain ⟨above, -, rfl⟩ := map_eq_ok_iff.1 h
      simp

end Graph

/-! ### Slugs in full -/

namespace Slug

theorem length_le_joined {ws : List (List Char)} {w : List Char} (h : w ∈ ws) :
    w.length ≤ (joined ws).length := by
  induction ws with
  | nil => cases h
  | cons v ws ih =>
    rcases List.mem_cons.1 h with rfl | h
    · obtain ⟨rest, hrest⟩ := exists_joined_cons w ws
      simp [hrest]
    · have hrest := ih h
      rw [joined_cons v (List.ne_nil_of_mem h), List.length_append, List.length_cons]
      omega

theorem joined_inj {ws vs : List (List Char)} (hws : ∀ w ∈ ws, IsWord w)
    (hvs : ∀ v ∈ vs, IsWord v) : joined ws = joined vs ↔ ws = vs := by
  constructor
  · intro h
    rw [← words_joined hws, h, words_joined hvs]
  · rintro rfl
    rfl

end Slug

/-- The slug of a name is not cut. -/
def Names.Keeps (names : Names) (text : String) : Prop :=
  (Slug.whole text).length ≤ names.maxLength

instance (names : Names) (text : String) : Decidable (names.Keeps text) := Nat.decLe _ _

variable {names : Names} {texts texts' : List String} {text : String}

theorem Names.toList_slug_of_keeps (h : names.Keeps text) :
    (names.slug text).toList = Slug.whole text := by
  have hwords : ∀ w ∈ Slug.slugWords text, Slug.IsWord w := fun w => Slug.isWord_of_mem_slugWords
  rw [toList_slug, Slug.cut, List.take_of_length_le h, Slug.whole_eq_joined,
    Slug.trimEnd_joined hwords]

/-- Slugs in full are the same exactly if the names have the same words. -/
theorem Names.slug_eq_iff {text' : String} (h : names.Keeps text) (h' : names.Keeps text') :
    names.slug text = names.slug text' ↔ Slug.slugWords text = Slug.slugWords text' := by
  rw [← String.toList_inj, toList_slug_of_keeps h, toList_slug_of_keeps h', Slug.whole_eq_joined,
    Slug.whole_eq_joined]
  exact Slug.joined_inj (fun _ => Slug.isWord_of_mem_slugWords)
    fun _ => Slug.isWord_of_mem_slugWords

/-! ### Composed names -/

/-- The words of names one after another, or those that stand in for them if they have none. -/
def Slug.lineWords (texts : List String) : List (List Char) :=
  orStandIn ("-".intercalate texts) (texts.flatMap nameWords)

theorem Slug.slugWords_intercalate (texts : List String) :
    slugWords ("-".intercalate texts) = lineWords texts := by
  rw [slugWords, nameWords_intercalate, lineWords]

/-- The name has one word, so its slug holds no separator. -/
def Slug.IsSingle (text : String) : Prop := ∃ w, nameWords text = [w]

theorem Slug.flatMap_nameWords_of_isSingle (h : ∀ text ∈ texts, IsSingle text) :
    texts.flatMap nameWords = texts.map whole := by
  induction texts with
  | nil => rfl
  | cons text texts ih =>
    obtain ⟨⟨w, hw⟩, hrest⟩ := List.forall_mem_cons.1 h
    have hwhole : whole text = w := by
      rw [whole_eq_joined, slugWords, hw]
      exact joined_singleton w
    rw [List.flatMap_cons, List.map_cons, ih hrest, hw, hwhole, List.singleton_append]

/-- If the names have one word each, these are their slugs. -/
theorem Slug.lineWords_of_isSingle (hne : texts ≠ []) (h : ∀ text ∈ texts, IsSingle text) :
    lineWords texts = texts.map whole := by
  rw [lineWords, flatMap_nameWords_of_isSingle h, orStandIn.eq_def]
  split
  · rename_i hnil
    exact absurd (List.map_eq_nil_iff.1 hnil) hne
  · rfl

/-- What is not cut from the composed name is not cut from names of one word. -/
theorem Names.keeps_of_isSingle (h : ∀ text ∈ texts, Slug.IsSingle text)
    (hkeeps : names.Keeps ("-".intercalate texts)) (ht : text ∈ texts) : names.Keeps text := by
  have hmem : Slug.whole text ∈ Slug.slugWords ("-".intercalate texts) := by
    rw [Slug.slugWords_intercalate, Slug.lineWords_of_isSingle (List.ne_nil_of_mem ht) h]
    exact List.mem_map_of_mem ht
  have hlength := Slug.length_le_joined hmem
  rw [← Slug.whole_eq_joined] at hlength
  exact hlength.trans hkeeps

theorem Names.map_slug_eq (h : ∀ text ∈ texts, Slug.IsSingle text)
    (hkeeps : names.Keeps ("-".intercalate texts)) :
    texts.map names.slug = (texts.map Slug.whole).map String.ofList := by
  rw [List.map_map]
  refine List.map_congr_left ?_
  intro text ht
  rw [Function.comp_apply, ← toList_slug_of_keeps (keeps_of_isSingle h hkeeps ht),
    String.ofList_toList]

/-- Two nodes whose names are not cut have one name exactly if the names that qualify them have the
same words, one after another. If each of these names has one word only, that is if their slugs are
the same. -/
theorem qualify_eq_iff_words (names : Names) (g : Graph) (n n' : Node) (texts texts' : List String)
    (hn : g.lineage n = .ok texts) (hn' : g.lineage n' = .ok texts')
    (hkeeps : names.Keeps ("-".intercalate texts)) (hkeeps' : names.Keeps ("-".intercalate texts')) :
    (names.qualify g n = names.qualify g n' ↔ Slug.lineWords texts = Slug.lineWords texts') ∧
    ((∀ text ∈ texts ++ texts', Slug.IsSingle text) →
      (names.qualify g n = names.qualify g n' ↔ texts.map names.slug = texts'.map names.slug)) := by
  have hwords : names.qualify g n = names.qualify g n' ↔
      Slug.lineWords texts = Slug.lineWords texts' := by
    rw [Graph.qualify_eq_lineage, Graph.qualify_eq_lineage, hn, hn',
      ← Slug.slugWords_intercalate, ← Slug.slugWords_intercalate, ← Names.slug_eq_iff hkeeps hkeeps']
    simp [Except.map]
  refine ⟨hwords, ?_⟩
  intro hsingle
  obtain ⟨hs, hs'⟩ := List.forall_mem_append.1 hsingle
  rw [hwords, Slug.lineWords_of_isSingle (Graph.lineage_ne_nil hn) hs,
    Slug.lineWords_of_isSingle (Graph.lineage_ne_nil hn') hs', Names.map_slug_eq hs hkeeps,
    Names.map_slug_eq hs' hkeeps']
  exact (List.map_injective_iff.2 fun _ _ => String.ofList_injective).eq_iff.symm

/-- A description of phases. -/
def phaseDescriptionNode : Node where
  id := .ofNat 2
  name := "Phase Description"
  datatype := .string
  nodegroup := some (.ofNat 2)

/-- A phase. -/
def phaseNode : Node where
  id := .ofNat 3
  name := "Phase"
  datatype := .date
  nodegroup := some (.ofNat 3)

/-- A description, of whatever it is nested in. -/
def descriptionNode : Node where
  id := .ofNat 4
  name := "Description"
  datatype := .string
  nodegroup := some (.ofNat 4)

/-- A site with phases that are described both by themselves and together. -/
def describedGraph : Graph where
  id := .ofNat 9
  name := .single "en" "Site"
  isResource := true
  nodes := [{ id := .ofNat 1, name := "Site", datatype := .semantic, isTop := true },
    phaseDescriptionNode, phaseNode, descriptionNode]
  nodegroups := [{ id := .ofNat 2 }, { id := .ofNat 3 },
    { id := .ofNat 4, parent := some (.ofNat 3) }]

theorem qualify_eq_iff_words_describedGraph :
    ({} : Names).qualify describedGraph phaseDescriptionNode =
      ({} : Names).qualify describedGraph descriptionNode ∧
    ({} : Names).qualify describedGraph phaseNode ≠
      ({} : Names).qualify describedGraph descriptionNode := by
  have hphases : describedGraph.lineage phaseDescriptionNode = .ok ["Phase Description"] := by
    decide +kernel
  have hphase : describedGraph.lineage phaseNode = .ok ["Phase"] := by decide +kernel
  have hdescription : describedGraph.lineage descriptionNode = .ok ["Phase", "Description"] := by
    decide +kernel
  refine ⟨?_, ?_⟩
  · exact (qualify_eq_iff_words {} _ _ _ _ _ hphases hdescription (by decide +kernel)
      (by decide +kernel)).1.2 (by decide +kernel)
  · have hsingle : ∀ text ∈ ["Phase"] ++ ["Phase", "Description"], Slug.IsSingle text := by
      have hp : Slug.IsSingle "Phase" := ⟨"phase".toList, by decide +kernel⟩
      have hd : Slug.IsSingle "Description" := ⟨"description".toList, by decide +kernel⟩
      simp [hp, hd]
    intro h
    have hslugs := ((qualify_eq_iff_words {} _ _ _ _ _ hphase hdescription (by decide +kernel)
      (by decide +kernel)).2 hsingle).1 h
    simp at hslugs

/-- Different slugs on the way do not make different names, even if nothing is cut. -/
theorem not_qualify_injective : ¬ ∀ (names : Names) (g : Graph), ∀ n ∈ g.nodes, ∀ n' ∈ g.nodes,
    n.isCollector = true → n'.isCollector = true → ∀ texts texts', g.lineage n = .ok texts →
      g.lineage n' = .ok texts' → names.Keeps ("-".intercalate texts) →
      names.Keeps ("-".intercalate texts') → texts.map names.slug ≠ texts'.map names.slug →
      names.qualify g n ≠ names.qualify g n' := by
  intro h
  refine h {} describedGraph phaseDescriptionNode (by simp [describedGraph]) descriptionNode
    (by simp [describedGraph]) rfl rfl ["Phase Description"] ["Phase", "Description"]
    ?_ ?_ ?_ ?_ ?_ ?_
  all_goals decide +kernel

end ResourceTables
