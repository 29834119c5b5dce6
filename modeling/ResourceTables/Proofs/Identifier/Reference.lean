import Mathlib.Data.List.Chain
import ResourceTables.Proofs.Identifier.Limits

/-!
# ResourceTables.Proofs.Identifier.Reference

Slugs against a reference that is told by words only: the maximal runs of word characters of the folded
name, one separator between two, cut, without a separator at the end (`slugify_reference`).

Design points:

* `Runs` relates a text to its maximal runs without any way to find them. Each text has just one list of
  runs, and it is what splitting finds (`runs_iff`).
* Folding is a parameter (`Slug.ofFolded`): nothing here depends on what a name is folded to, so the
  bounds hold for every way to decompose and to lower characters.
-/

namespace ResourceTables

namespace Slug

/-! ### Runs -/

/-- The maximal runs of word characters of a text: what stands before a run and what comes right after
it are in none. -/
inductive Runs : List Char → List (List Char) → Prop
  | last {gap : List Char} (hgap : ∀ c ∈ gap, isWordChar c = false) : Runs gap []
  | run {gap w rest : List Char} {ws : List (List Char)} (hgap : ∀ c ∈ gap, isWordChar c = false)
      (hw : IsWord w) (hrest : ∀ c ∈ rest.head?, isWordChar c = false) (h : Runs rest ws) :
    Runs (gap ++ w ++ rest) (w :: ws)

theorem words_cons_of_gap {c : Char} (hc : isWordChar c = false) (cs : List Char) :
    words (c :: cs) = words cs := words_append_cons hc [] cs

theorem words_gap_append {gap : List Char} (hgap : ∀ c ∈ gap, isWordChar c = false)
    (cs : List Char) : words (gap ++ cs) = words cs := by
  induction gap with
  | nil => rfl
  | cons c gap ih =>
    obtain ⟨hc, hrest⟩ := List.forall_mem_cons.1 hgap
    rw [List.cons_append, words_cons_of_gap hc, ih hrest]

theorem words_word_append {w rest : List Char} (hw : IsWord w)
    (hrest : ∀ c ∈ rest.head?, isWordChar c = false) : words (w ++ rest) = w :: words rest := by
  cases rest with
  | nil =>
    rw [List.append_nil, words_of_isWord hw]
    rfl
  | cons c rest =>
    have hc := hrest c rfl
    rw [words_append_cons hc, words_of_isWord hw, words_cons_of_gap hc]
    rfl

theorem Runs.words_eq {cs : List Char} {ws : List (List Char)} (h : Runs cs ws) : words cs = ws := by
  induction h with
  | @last gap hgap =>
    rw [← List.append_nil gap, words_gap_append hgap]
    rfl
  | run hgap hw hrest _ ih => rw [List.append_assoc, words_gap_append hgap,
      words_word_append hw hrest, ih]

/-- A character before a text is in the gap before its first run, or in a run of its own, or at the
beginning of the first run. -/
theorem exists_runs (cs : List Char) : ∃ ws, Runs cs ws := by
  induction cs with
  | nil => exact ⟨[], .last (by simp)⟩
  | cons c cs ih =>
    obtain ⟨ws, h⟩ := ih
    cases hc : isWordChar c with
    | false =>
      cases h with
      | last hgap => exact ⟨_, .last (List.forall_mem_cons.2 ⟨hc, hgap⟩)⟩
      | run hgap hw hrest h => exact ⟨_, .run (List.forall_mem_cons.2 ⟨hc, hgap⟩) hw hrest h⟩
    | true =>
      have hword : IsWord [c] := ⟨List.cons_ne_nil _ _, by simpa using hc⟩
      have hnil : ∀ d ∈ ([] : List Char), isWordChar d = false := by simp
      cases h with
      | last hgap =>
        have hhead : ∀ d ∈ cs.head?, isWordChar d = false := fun d hd =>
          hgap d (List.mem_of_head? hd)
        exact ⟨_, .run hnil hword hhead (.last hgap)⟩
      | @run gap w rest ws hgap hw hrest h =>
        cases gap with
        | nil =>
          have hlonger : IsWord (c :: w) :=
            ⟨List.cons_ne_nil _ _, List.forall_mem_cons.2 ⟨hc, hw.2⟩⟩
          exact ⟨_, .run hnil hlonger hrest h⟩
        | cons d gap =>
          have hhead : ∀ e ∈ (d :: gap ++ w ++ rest).head?, isWordChar e = false := fun e he =>
            hgap e (by simp_all)
          exact ⟨_, .run hnil hword hhead (.run hgap hw hrest h)⟩

/-- The runs of a text are the words that splitting finds, and there are no others. -/
theorem runs_iff {cs : List Char} {ws : List (List Char)} : Runs cs ws ↔ words cs = ws := by
  constructor
  · exact Runs.words_eq
  · intro h
    obtain ⟨vs, hvs⟩ := exists_runs cs
    rwa [← h, hvs.words_eq]

/-! ### Cuts -/

/-- Whether no two separators stand side by side. -/
def NoneAdjacent (cs : List Char) : Prop :=
  cs.IsChain fun c d => ¬ (c = separator ∧ d = separator)

theorem NoneAdjacent.apart {cs : List Char} (h : NoneAdjacent cs) :
    ¬ [separator, separator] <:+: cs := by
  intro hpair
  have hchain := List.IsChain.infix h hpair
  exact List.isChain_pair.1 hchain ⟨rfl, rfl⟩

theorem IsWord.ne_separator {w : List Char} (h : IsWord w) {c : Char} (hc : c ∈ w) :
    c ≠ separator := by
  intro heq
  have hword := h.2 c hc
  rw [heq, isWordChar_separator] at hword
  cases hword

theorem IsWord.noneAdjacent {w : List Char} (h : IsWord w) : NoneAdjacent w := by
  refine List.Pairwise.isChain (List.pairwise_of_forall_mem_list ?_)
  intro c hc d _ hboth
  exact h.ne_separator hc hboth.1

/-- Joined words begin with a word character. -/
theorem isWordChar_of_head?_joined {ws : List (List Char)} (h : ∀ w ∈ ws, IsWord w) {c : Char}
    (hc : (joined ws).head? = some c) : isWordChar c = true := by
  cases ws with
  | nil => cases hc
  | cons w ws =>
    obtain ⟨rest, hrest⟩ := exists_joined_cons w ws
    have hw := h w List.mem_cons_self
    rw [hrest, List.head?_append_of_ne_nil _ hw.1] at hc
    exact hw.2 c (List.mem_of_head? hc)

theorem noneAdjacent_joined {ws : List (List Char)} (h : ∀ w ∈ ws, IsWord w) :
    NoneAdjacent (joined ws) := by
  induction ws with
  | nil => exact .nil
  | cons w ws ih =>
    obtain ⟨hw, hws⟩ := List.forall_mem_cons.1 h
    by_cases hne : ws = []
    · rw [hne, joined_singleton]
      exact hw.noneAdjacent
    · rw [joined_cons w hne]
      refine List.isChain_append.2 ⟨hw.noneAdjacent, List.isChain_cons.2 ⟨?_, ih hws⟩, ?_⟩
      · -- The separator is followed by the beginning of a word, ...
        intro c hc hboth
        have hword := isWordChar_of_head?_joined hws hc
        rw [hboth.2, isWordChar_separator] at hword
        cases hword
      · -- ... and it follows the end of one.
        intro c hc d _ hboth
        exact hw.ne_separator (List.mem_of_getLast? hc) hboth.1

/-- Nothing is trimmed from a text that does not end in a separator, and only from such a text. -/
theorem trimEnd_eq_self_iff {cs : List Char} :
    trimEnd cs = cs ↔ cs.getLast? ≠ some separator := by
  constructor
  · intro htrim hlast
    obtain ⟨init, hinit⟩ := List.getLast?_eq_some_iff.1 hlast
    have hlength := length_trimEnd_le init
    rw [hinit, trimEnd_append_of_eq_nil rfl] at htrim
    rw [htrim, List.length_append, List.length_singleton] at hlength
    omega
  · intro h
    refine List.rdropWhile_eq_self_iff.2 fun hne hlast => h ?_
    rw [List.getLast?_eq_some_getLast hne, eq_of_beq hlast]

theorem getLast?_joined_ne {ws : List (List Char)} (h : ∀ w ∈ ws, IsWord w) :
    (joined ws).getLast? ≠ some separator := trimEnd_eq_self_iff.1 (trimEnd_joined h)

/-- What is left of some characters when they are cut to `n`: the first `n`, less a separator at the
end. -/
structure IsCut (n : Nat) (cs r : List Char) : Prop where
  taken : r = cs.take n ∨ r ++ [separator] = cs.take n
  last : r.getLast? ≠ some separator

theorem IsCut.unique {n : Nat} {cs r r' : List Char} (h : IsCut n cs r) (h' : IsCut n cs r') :
    r = r' := by
  have hends (l : List Char) : (l ++ [separator]).getLast? = some separator :=
    List.getLast?_append_of_ne_nil _ (List.cons_ne_nil _ _)
  rcases h.taken with htaken | htaken <;> rcases h'.taken with htaken' | htaken'
  · rw [htaken, htaken']
  · exact absurd (by rw [htaken, ← htaken', hends]) h.last
  · exact absurd (by rw [htaken', ← htaken, hends]) h'.last
  · exact List.append_cancel_right (htaken.trans htaken'.symm)

/-- No more than one separator is at an end that a cut leaves. -/
theorem isCut_cut {cs : List Char} (h : NoneAdjacent cs) (n : Nat) : IsCut n cs (cut n cs) := by
  have htaken : NoneAdjacent (cs.take n) := h.take n
  unfold cut
  by_cases hlast : (cs.take n).getLast? = some separator
  · obtain ⟨init, hinit⟩ := List.getLast?_eq_some_iff.1 hlast
    rw [hinit] at htaken ⊢
    have hbefore : init.getLast? ≠ some separator := by
      intro hend
      obtain ⟨-, -, hjoint⟩ := List.isChain_append.1 htaken
      exact hjoint separator hend separator rfl ⟨rfl, rfl⟩
    have htrim : trimEnd (init ++ [separator]) = init := by
      rw [trimEnd_append_of_eq_nil rfl, trimEnd_eq_self_iff.2 hbefore]
    rw [htrim]
    exact ⟨.inr hinit.symm, hbefore⟩
  · rw [trimEnd_eq_self_iff.2 hlast]
    exact ⟨.inl rfl, hlast⟩

/-! ### Folded names -/

/-- The slug of a name, given what the name is folded to. -/
def ofFolded (name : String) (folded : List Char) (maxLength : Nat) : String :=
  let whole := match joinedWords (folded.filter fun c => !isQuote c) with
    | [] => standIn name
    | cs => cs
  String.ofList (cut maxLength whole)

theorem slugify_eq_ofFolded (name : String) (maxLength : Nat) : slugify name maxLength =
    ofFolded name (Text.lowercase (Text.fold name.toList)) maxLength := by
  unfold slugify whole prepared ofFolded
  generalize joinedWords _ = cs
  cases cs <;> rfl

theorem ofFolded_eq (name : String) (folded : List Char) (maxLength : Nat) :
    ofFolded name folded maxLength = String.ofList
      (cut maxLength (joined (orStandIn name (words (folded.filter fun c => !isQuote c))))) := by
  rw [← joined_orStandIn]
  unfold ofFolded
  generalize joinedWords _ = cs
  cases cs <;> rfl

/-- The quotes that are dropped. -/
def quotes : List Char := ['\x27', '\x22', '\x60', '\u2018', '\u2019']

/-- The identifier that a name has before it is cut, by the runs of the folded name. -/
def ofRuns (name : String) (ws : List (List Char)) : List Char :=
  if ws = [] then "n_".toList ++ (Uuid.ofName Uuid.objectNamespace name).digits.take 8
  else "_".toList.intercalate ws

theorem ofRuns_eq_joined (name : String) (ws : List (List Char)) :
    ofRuns name ws = joined (orStandIn name ws) := by
  cases ws with
  | nil =>
    have hstart : "n_".toList = ['n', separator] := rfl
    rw [ofRuns, if_pos rfl, orStandIn, ← standIn_eq_joined, standIn, hstart, List.cons_append,
      List.singleton_append]
  | cons w ws =>
    have hseparator : "_".toList = [separator] := rfl
    rw [ofRuns, if_neg (List.cons_ne_nil w ws), hseparator, orStandIn, joined]
    exact List.cons_ne_nil w ws

/-- What the slug of a name is: its runs without quotes, joined and cut. -/
def IsReference (name : String) (folded : List Char) (maxLength : Nat) (slug : String) : Prop :=
  ∃ ws, Runs (folded.filter (· ∉ quotes)) ws ∧ IsCut maxLength (ofRuns name ws) slug.toList

theorem ofFolded_eq_iff {name : String} {folded : List Char} {maxLength : Nat} {slug : String} :
    ofFolded name folded maxLength = slug ↔ IsReference name folded maxLength slug := by
  have hquotes : (folded.filter fun c => !isQuote c) = folded.filter (· ∉ quotes) := by
    refine List.filter_congr fun c _ => ?_
    simp [isQuote, quotes, Bool.beq_eq_decide_eq, Bool.and_assoc]
  have hwords : ∀ w ∈ orStandIn name (words (folded.filter (· ∉ quotes))), IsWord w :=
    fun w => isWord_of_mem_orStandIn
  have hcut := isCut_cut (noneAdjacent_joined hwords) maxLength
  rw [ofFolded_eq, hquotes]
  constructor
  · intro h
    refine ⟨_, runs_iff.2 rfl, ?_⟩
    rw [← h, String.toList_ofList, ofRuns_eq_joined]
    exact hcut
  · intro h
    obtain ⟨ws, hruns, hslug⟩ := h
    rw [← hruns.words_eq, ofRuns_eq_joined] at hslug
    rw [hcut.unique hslug, String.ofList_toList]

end Slug

/-! ### Bounds -/

/-- A text in so many bytes, from word character to word character, with no two separators side by
side. -/
structure IsTidy (limit : Nat) (s : String) : Prop where
  nonempty : s ≠ ""
  size : s.utf8ByteSize ≤ limit
  first : ∃ c, s.toList.head? = some c ∧ Slug.isWordChar c = true
  last : ∃ c, s.toList.getLast? = some c ∧ Slug.isWordChar c = true
  apart : ¬ [separator, separator] <:+: s.toList

theorem IsIdentifier.isTidy {limit : Nat} {s : String} (h : IsIdentifier limit s) :
    IsTidy limit s := by
  obtain ⟨⟨ws, hne, hws, hs⟩, hsize⟩ := h
  have hsome : s.toList ≠ [] := by
    rw [hs]
    exact Slug.joined_ne_nil hws hne
  refine ⟨fun hnil => hsome (by rw [hnil]; rfl), hsize, ?first, ?last, ?apart⟩
  case first =>
    obtain ⟨c, hc⟩ := Option.ne_none_iff_exists'.1 (mt List.head?_eq_none_iff.1 hsome)
    exact ⟨c, hc, Slug.isWordChar_of_head?_joined hws (hs ▸ hc)⟩
  case last =>
    obtain ⟨c, hc⟩ := Option.ne_none_iff_exists'.1 (mt List.getLast?_eq_none_iff.1 hsome)
    refine ⟨c, hc, ?_⟩
    rw [hs] at hc
    refine (Slug.mem_joined hws (List.mem_of_getLast? hc)).resolve_right fun hsep => ?_
    exact Slug.getLast?_joined_ne hws (hc.trans (congrArg some hsep))
  case apart =>
    rw [hs]
    exact (Slug.noneAdjacent_joined hws).apart

/-- A slug is told by words alone, for every way to fold names: the runs of word characters of the folded
name, one separator between two, or an identifier out of the name if there are none, cut to the given
length. If anything may be left it is tidy. The slug of a name is this for the folding of names. -/
theorem slugify_reference (name : String) (maxLength : Nat) :
    slugify name maxLength =
        Slug.ofFolded name (Text.lowercase (Text.fold name.toList)) maxLength ∧
      ∀ folded, (∀ slug, Slug.ofFolded name folded maxLength = slug ↔
          Slug.IsReference name folded maxLength slug) ∧
        (0 < maxLength → IsTidy maxLength (Slug.ofFolded name folded maxLength)) := by
  refine ⟨Slug.slugify_eq_ofFolded name maxLength, fun folded => ⟨?reference, ?tidy⟩⟩
  case reference =>
    intro slug
    exact Slug.ofFolded_eq_iff
  case tidy =>
    intro hlength
    rw [Slug.ofFolded_eq]
    exact (isIdentifier_cut (fun _ => Slug.isWord_of_mem_orStandIn) (Slug.orStandIn_ne_nil _ _)
      hlength).isTidy

/-- The cut is behind a separator, which goes as well. -/
theorem slugify_reference_owner :
    slugify "Owner's Parcel" 7 = "owners" ∧
      Slug.IsReference "Owner's Parcel"
        (Text.lowercase (Text.fold "Owner's Parcel".toList)) 7 "owners" ∧
      IsTidy 7 "owners" := by
  have hslug : slugify "Owner's Parcel" 7 = "owners" := by decide +kernel
  obtain ⟨hfolded, h⟩ := slugify_reference "Owner's Parcel" 7
  obtain ⟨hreference, htidy⟩ := h (Text.lowercase (Text.fold "Owner's Parcel".toList))
  have htidy := htidy (by decide)
  rw [← hfolded, hslug] at htidy
  exact ⟨hslug, (hreference "owners").1 (hfolded.symm.trans hslug), htidy⟩

end ResourceTables
