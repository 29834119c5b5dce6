import ResourceTables.Proofs.Identifier.Reference

/-!
# ResourceTables.Proofs.Identifier.Shortening

Slugs that are made from slugs. Names go through more than one slug on the way into a schema, so a slug
has to be the slug of itself, and a slug that is cut again has to be the slug that was cut only once
(`slugify_stable`).

Design points:

* A cut is a trimmed prefix, and trimming is monotone along prefixes (`Slug.trimEnd_mono`). All that is
  said here about cuts of cuts follows from this, for every text and without a look at its words.
* Words are read back from a slug, so the slug of a slug has the same ones. What this takes of folding is
  only that it leaves slugs alone (`Slug.KeepsSlugs`).
-/

namespace ResourceTables

namespace Slug

/-! ### Cuts of cuts -/

theorem trimEnd_begins (cs : List Char) : trimEnd cs <+: cs := List.rdropWhile_prefix _ cs

@[simp] theorem trimEnd_trimEnd (cs : List Char) : trimEnd (trimEnd cs) = trimEnd cs :=
  List.rdropWhile_idempotent _ cs

/-- Of a longer text there is no less left. -/
theorem trimEnd_mono {cs ds : List Char} (h : cs <+: ds) : trimEnd cs <+: trimEnd ds := by
  obtain ⟨rest, rfl⟩ := h
  by_cases hrest : trimEnd rest = []
  · exact (trimEnd_append_of_eq_nil hrest).symm ▸ List.prefix_rfl
  · rw [trimEnd_append_of_ne_nil hrest]
    exact (trimEnd_begins cs).trans (List.prefix_append _ _)

theorem cut_begins (n : Nat) (cs : List Char) : cut n cs <+: cs :=
  (trimEnd_begins _).trans (List.take_prefix _ _)

theorem length_cut_le (n : Nat) (cs : List Char) : (cut n cs).length ≤ n :=
  (length_trimEnd_le _).trans (List.length_take_le _ _)

@[simp] theorem cut_zero (cs : List Char) : cut 0 cs = [] := by
  rw [cut, List.take_zero]
  rfl

/-- The longest beginning of a text that has at most `n` characters and no separator at its end. -/
structure IsLongest (n : Nat) (cs r : List Char) : Prop where
  begins : r <+: cs
  size : r.length ≤ n
  last : r.getLast? ≠ some separator
  longest : ∀ q, q <+: cs → q.length ≤ n → q.getLast? ≠ some separator → q <+: r

theorem IsLongest.unique {n : Nat} {cs r r' : List Char} (h : IsLongest n cs r)
    (h' : IsLongest n cs r') : r = r' := by
  have hr := h'.longest r h.begins h.size h.last
  have hr' := h.longest r' h'.begins h'.size h'.last
  exact hr.eq_of_length_le hr'.length_le

/-- What fits is the longest beginning of itself. -/
theorem IsLongest.eq_self {n : Nat} {cs r : List Char} (h : IsLongest n cs r) (hn : cs.length ≤ n)
    (hlast : cs.getLast? ≠ some separator) : r = cs :=
  h.begins.eq_of_length_le (h.longest cs List.prefix_rfl hn hlast).length_le

/-- A cut leaves as much as it may. -/
theorem isLongest_cut (n : Nat) (cs : List Char) : IsLongest n cs (cut n cs) where
  begins := cut_begins n cs
  size := length_cut_le n cs
  last := trimEnd_eq_self_iff.1 (trimEnd_trimEnd _)
  longest := by
    intro q hq hlength hlast
    have htake : q <+: cs.take n := List.prefix_take_iff.2 ⟨hq, hlength⟩
    rw [← trimEnd_eq_self_iff.2 hlast]
    exact trimEnd_mono htake

/-- What a shorter cut leaves is the beginning of what a longer one leaves. -/
theorem cut_begins_cut {a b : Nat} (h : a ≤ b) (cs : List Char) : cut a cs <+: cut b cs :=
  (isLongest_cut b cs).longest _ (cut_begins a cs) ((length_cut_le a cs).trans h)
    (isLongest_cut a cs).last

/-- After a longer cut a shorter one leaves what it leaves of the whole. -/
theorem cut_cut {a b : Nat} (h : a ≤ b) (cs : List Char) : cut a (cut b cs) = cut a cs := by
  have hagain := isLongest_cut a (cut b cs)
  have honce := isLongest_cut a cs
  refine List.IsPrefix.eq_of_length_le ?_ (List.IsPrefix.length_le ?_)
  · exact honce.longest _ (hagain.begins.trans (cut_begins b cs)) hagain.size hagain.last
  · exact hagain.longest _ (cut_begins_cut h cs) honce.size honce.last

/-! ### Slugs of slugs -/

/-- How names are folded. -/
def folded (cs : List Char) : List Char := Text.lowercase (Text.fold cs)

/-- Folding leaves texts of small letters, digits and separators as they are. -/
def KeepsSlugs (fold : List Char → List Char) : Prop := ∀ s, IsSlug s → fold s.toList = s.toList

/-- The slug of a name, given a way to fold names. -/
def slugBy (fold : List Char → List Char) (name : String) (maxLength : Nat) : String :=
  ofFolded name (fold name.toList) maxLength

theorem slugify_eq_slugBy : slugify = slugBy folded :=
  funext fun name => funext fun maxLength => slugify_eq_ofFolded name maxLength

theorem toNat_lt_of_isWordChar {c : Char} (h : isWordChar c = true ∨ c = separator) :
    c.toNat < 0x80 := by
  have hval : c.val.toNat ≤ 127 :=
    UInt32.le_iff_toNat_le.1 (Char.utf8Size_eq_one_iff.1 (utf8Size_eq_one h))
  exact Nat.lt_succ_of_le hval

theorem toLower_of_isWordChar {c : Char} (h : isWordChar c = true ∨ c = separator) :
    c.toLower = c := by
  rcases h with h | rfl
  · simp only [isWordChar, Bool.or_eq_true, Bool.and_eq_true, decide_eq_true_eq] at h
    -- The capital letters are between the digits and the small letters.
    refine dif_neg fun hcapital => ?_
    rcases h with ⟨hsmall, -⟩ | ⟨-, hdigit⟩
    · exact absurd (UInt32.le_trans hsmall hcapital.2) (by decide)
    · exact absurd (UInt32.le_trans hcapital.1 hdigit) (by decide)
  · rfl

theorem isQuote_of_isWordChar {c : Char} (h : isWordChar c = true ∨ c = separator) :
    isQuote c = false := by
  refine Bool.eq_false_iff.2 fun hquote => ?_
  simp only [isQuote, Bool.or_eq_true, beq_iff_eq] at hquote
  rcases hquote with (((rfl | rfl) | rfl) | rfl) | rfl <;> exact absurd h (by decide)

theorem keepsSlugs_folded : KeepsSlugs folded := by
  intro s hs
  have hascii : ∀ c ∈ s.toList, c.toNat < 0x80 := fun c hc => toNat_lt_of_isWordChar (hs c hc)
  rw [folded, Text.fold_eq_self fun c hc => (hascii c hc).trans (by decide)]
  exact Text.lowercase_eq_self fun c hc => ⟨hascii c hc, toLower_of_isWordChar (hs c hc)⟩

theorem isSlug_joined {ws : List (List Char)} (h : ∀ w ∈ ws, IsWord w) :
    IsSlug (String.ofList (joined ws)) := by
  intro c hc
  rw [String.toList_ofList] at hc
  exact mem_joined h hc

theorem filter_quotes_of_isSlug {s : String} (h : IsSlug s) :
    (s.toList.filter fun c => !isQuote c) = s.toList :=
  List.filter_eq_self.2 fun c hc => by rw [isQuote_of_isWordChar (h c hc), Bool.not_false]

/-- The words of the slug of a name before it is cut, given a way to fold names. -/
def wordsBy (fold : List Char → List Char) (name : String) : List (List Char) :=
  orStandIn name (words ((fold name.toList).filter fun c => !isQuote c))

theorem slugBy_eq_cut (fold : List Char → List Char) (name : String) (n : Nat) :
    slugBy fold name n = String.ofList (cut n (joined (wordsBy fold name))) :=
  ofFolded_eq name (fold name.toList) n

@[simp] theorem slugBy_zero (fold : List Char → List Char) (name : String) :
    slugBy fold name 0 = "" := by
  rw [slugBy_eq_cut, cut_zero, String.ofList_nil]

theorem isWord_of_mem_wordsBy {fold : List Char → List Char} {name : String} {w : List Char}
    (h : w ∈ wordsBy fold name) : IsWord w := isWord_of_mem_orStandIn h

/-- Joined words are read as these words. -/
theorem wordsBy_joined {fold : List Char → List Char} (hfold : KeepsSlugs fold)
    {ws : List (List Char)} (h : ∀ w ∈ ws, IsWord w) (hne : ws ≠ []) :
    wordsBy fold (String.ofList (joined ws)) = ws := by
  obtain ⟨w, rest, rfl⟩ := List.exists_cons_of_ne_nil hne
  have hslug := isSlug_joined h
  rw [wordsBy, hfold _ hslug, filter_quotes_of_isSlug hslug, String.toList_ofList, words_joined h]
  rfl

/-- Slugs that are cut to lengths of one's own choice: a slug is cut again like the name, and the shorter
one is the beginning of the longer one. -/
structure Stable (slug : String → Nat → String) : Prop where
  again : ∀ name a b, a ≤ b → slug (slug name b) a = slug name a
  begins : ∀ name a b, a ≤ b → (slug name a).toList <+: (slug name b).toList

theorem stable_slugBy {fold : List Char → List Char} (hfold : KeepsSlugs fold) :
    Stable (slugBy fold) where
  again name a b hab := by
    by_cases hb : b = 0
    · -- Nothing is left of any name.
      have ha : a = 0 := Nat.eq_zero_of_le_zero (hab.trans_eq hb)
      rw [ha, slugBy_zero, slugBy_zero]
    · obtain ⟨vs, hvs, hcut, hsome⟩ :=
        exists_cut_joined (fun w (hw : w ∈ wordsBy fold name) => isWord_of_mem_wordsBy hw) b
      have hne : vs ≠ [] := hsome (Nat.pos_of_ne_zero hb) (orStandIn_ne_nil _ _)
      calc slugBy fold (slugBy fold name b) a
        _ = slugBy fold (String.ofList (joined vs)) a := by rw [slugBy_eq_cut fold name, hcut]
        _ = String.ofList (cut a (joined vs)) := by
          rw [slugBy_eq_cut, wordsBy_joined hfold hvs hne]
        _ = slugBy fold name a := by rw [← hcut, cut_cut hab, slugBy_eq_cut fold name]
  begins name a b hab := by
    rw [slugBy_eq_cut, slugBy_eq_cut, String.toList_ofList, String.toList_ofList]
    exact cut_begins_cut hab _

end Slug

/-- The slug of a slug is the slug of the name, cut to the same length, and a shorter slug is the
beginning of a longer one. This is so for the folding of names and for any other that leaves slugs as
they are. -/
theorem slugify_stable :
    Slug.Stable slugify ∧ ∀ fold, Slug.KeepsSlugs fold → Slug.Stable (Slug.slugBy fold) := by
  refine ⟨?_, fun fold hfold => Slug.stable_slugBy hfold⟩
  rw [Slug.slugify_eq_slugBy]
  exact Slug.stable_slugBy Slug.keepsSlugs_folded

/-- Both cuts are next to the separator, and folding may be no more than lowering. -/
theorem slugify_stable_heritage :
    slugify (slugify "Heritage Resource" 10) 9 = "heritage" ∧
      Slug.KeepsSlugs (List.map Char.toLower) ∧
      (Slug.slugBy (List.map Char.toLower) "Heritage Resource" 9).toList <+:
        (Slug.slugBy (List.map Char.toLower) "Heritage Resource" 10).toList := by
  have hfold : Slug.KeepsSlugs (List.map Char.toLower) := by
    intro s hs
    exact (List.map_congr_left fun c hc => Slug.toLower_of_isWordChar (hs c hc)).trans
      (List.map_id _)
  have hcut : slugify "Heritage Resource" 9 = "heritage" := by decide +kernel
  obtain ⟨hslugs, hother⟩ := slugify_stable
  exact ⟨(hslugs.again _ 9 10 (by decide)).trans hcut, hfold,
    (hother _ hfold).begins _ 9 10 (by decide)⟩

end ResourceTables
