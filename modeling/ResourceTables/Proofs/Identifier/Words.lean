import Mathlib.Data.List.DropRight
import ResourceTables.Proofs.Identifier.Slug
import ResourceTables.Proofs.Text.Pieces

/-!
# ResourceTables.Proofs.Identifier.Words

Slugs by their words. The words of a text are its runs of word characters (`Slug.words`); joined by
one separator they are what is left of the text (`joinedWords_eq`), and they are read back from there
(`words_joined`). A cut takes whole words and at most the beginning of one more (`exists_cut_joined`).

Words are also what tells slugs of composed names apart: those of texts joined by a hyphen are the
words of the texts, one after another (`nameWords_intercalate`).
-/

namespace ResourceTables.Slug

/-! ### Words -/

/-- A word is not empty and has no characters but those of words. -/
def IsWord (w : List Char) : Prop := w ≠ [] ∧ ∀ c ∈ w, isWordChar c = true

/-- The runs of word characters of a text. -/
def words (cs : List Char) : List (List Char) :=
  (cs.splitOnP fun c => !isWordChar c).filter (· ≠ [])

theorem isWordChar_separator : isWordChar separator = false := rfl

theorem isWord_of_mem_words {cs w : List Char} (h : w ∈ words cs) : IsWord w := by
  obtain ⟨hmem, hne⟩ := List.mem_filter.1 h
  refine ⟨of_decide_eq_true hne, fun c hc => ?_⟩
  simpa using Text.eq_false_of_mem_splitOnP hmem hc

/-- Words end where a text has a character that is in no word. -/
theorem words_append_cons {c : Char} (hc : isWordChar c = false) (cs ds : List Char) :
    words (cs ++ c :: ds) = words cs ++ words ds := by
  rw [words, List.splitOnP_append_cons cs ds (by simpa using hc), List.filter_append]
  rfl

theorem words_of_isWord {w : List Char} (h : IsWord w) : words w = [w] := by
  rw [words, List.splitOnP_eq_singleton fun c hc => by simpa using h.2 c hc]
  simp [h.1]

/-! ### Joined words -/

/-- Words with one separator between two. -/
def joined (ws : List (List Char)) : List Char := [separator].intercalate ws

@[simp] theorem joined_nil : joined [] = [] := rfl

@[simp] theorem joined_singleton (w : List Char) : joined [w] = w := List.intercalate_singleton

theorem joined_cons {ws : List (List Char)} (w : List Char) (h : ws ≠ []) :
    joined (w :: ws) = w ++ separator :: joined ws := by
  rw [joined, List.intercalate_cons_of_ne_nil h]
  simp [joined]

theorem joined_append {ws vs : List (List Char)} (hws : ws ≠ []) (hvs : vs ≠ []) :
    joined (ws ++ vs) = joined ws ++ separator :: joined vs := by
  induction ws with
  | nil => exact absurd rfl hws
  | cons w ws ih =>
    by_cases hne : ws = []
    · rw [hne, List.singleton_append, joined_cons w hvs, joined_singleton]
    · rw [List.cons_append, joined_cons w (by simp [hvs]), joined_cons w hne, ih hne,
        List.append_assoc, List.cons_append]

theorem joined_ne_nil {ws : List (List Char)} (h : ∀ w ∈ ws, IsWord w) (hne : ws ≠ []) :
    joined ws ≠ [] := by
  obtain ⟨w, rest, rfl⟩ := List.exists_cons_of_ne_nil hne
  have hw := (h w List.mem_cons_self).1
  cases rest with
  | nil => simpa using hw
  | cons v rest => simp [joined_cons]

theorem mem_joined {ws : List (List Char)} (h : ∀ w ∈ ws, IsWord w) {c : Char}
    (hc : c ∈ joined ws) : isWordChar c = true ∨ c = separator := by
  induction ws with
  | nil => cases hc
  | cons w ws ih =>
    obtain ⟨hw, hws⟩ := List.forall_mem_cons.1 h
    by_cases hne : ws = []
    · rw [hne, joined_singleton] at hc
      exact .inl (hw.2 c hc)
    · rw [joined_cons w hne] at hc
      rcases List.mem_append.1 hc with hc | hc
      · exact .inl (hw.2 c hc)
      · rcases List.mem_cons.1 hc with rfl | hc
        · exact .inr rfl
        · exact ih hws hc

/-- Joined words are told apart again. -/
theorem words_joined {ws : List (List Char)} (h : ∀ w ∈ ws, IsWord w) : words (joined ws) = ws := by
  induction ws with
  | nil => rfl
  | cons w ws ih =>
    obtain ⟨hw, hws⟩ := List.forall_mem_cons.1 h
    by_cases hne : ws = []
    · rw [hne, joined_singleton, words_of_isWord hw]
    · rw [joined_cons w hne, words_append_cons isWordChar_separator, words_of_isWord hw, ih hws,
        List.singleton_append]

/-! ### Trimming -/

theorem length_trimEnd_le (cs : List Char) : (trimEnd cs).length ≤ cs.length :=
  (List.rdropWhile_prefix _ cs).length_le

theorem trimEnd_append_of_ne_nil {cs ds : List Char} (h : trimEnd ds ≠ []) :
    trimEnd (cs ++ ds) = cs ++ trimEnd ds := by
  unfold trimEnd at h ⊢
  rw [List.reverse_append, List.dropWhile_append, if_neg (by simpa using h), List.reverse_append,
    List.reverse_reverse]

theorem trimEnd_append_of_eq_nil {cs ds : List Char} (h : trimEnd ds = []) :
    trimEnd (cs ++ ds) = trimEnd cs := by
  unfold trimEnd at h ⊢
  rw [List.reverse_append, List.dropWhile_append, if_pos (by simpa using h)]

theorem trimEnd_of_isWord {w : List Char} (h : ∀ c ∈ w, isWordChar c = true) : trimEnd w = w := by
  refine List.rdropWhile_eq_self_iff.2 fun hne hlast => ?_
  have hword := h _ (List.getLast_mem hne)
  rw [eq_of_beq hlast, isWordChar_separator] at hword
  cases hword

theorem trimEnd_joined {ws : List (List Char)} (h : ∀ w ∈ ws, IsWord w) :
    trimEnd (joined ws) = joined ws := by
  induction ws with
  | nil => rfl
  | cons w ws ih =>
    obtain ⟨hw, hws⟩ := List.forall_mem_cons.1 h
    by_cases hne : ws = []
    · rw [hne, joined_singleton, trimEnd_of_isWord hw.2]
    · have hsome : trimEnd (joined ws) ≠ [] := by
        rw [ih hws]
        exact joined_ne_nil hws hne
      rw [joined_cons w hne, ← List.singleton_append, ← List.append_assoc,
        trimEnd_append_of_ne_nil hsome, ih hws]

/-! ### What is left of a text -/

theorem splitOnP_congr {p q : Char → Bool} {cs : List Char} (h : ∀ c ∈ cs, p c = q c) :
    cs.splitOnP p = cs.splitOnP q := by
  induction cs with
  | nil => rfl
  | cons c rest ih =>
    obtain ⟨hc, hrest⟩ := List.forall_mem_cons.1 h
    rw [List.splitOnP_cons_eq_if_modifyHead, List.splitOnP_cons_eq_if_modifyHead, hc, ih hrest]

/-- The first piece of a text is empty if the text begins with a character that it is split at. -/
theorem eq_nil_iff_of_splitOnP_cons {p : Char → Bool} {c : Char} {cs first : List Char}
    {others : List (List Char)} (h : (c :: cs).splitOnP p = first :: others) :
    first = [] ↔ p c = true := by
  rw [List.splitOnP_cons_eq_if_modifyHead] at h
  split at h
  · rename_i hc
    simp [(List.cons.inj h).1.symm, hc]
  · rename_i hc
    obtain ⟨x, xs, hx⟩ := List.exists_cons_of_ne_nil (List.splitOnP_ne_nil p cs)
    rw [hx, List.modifyHead_cons] at h
    simp [(List.cons.inj h).1.symm, hc]

/-- What is left of a text is what its pieces leave: of the empty ones only those at either end. -/
theorem exists_splitOnP_separated (cs : List Char) : ∃ first others ends,
    (cs.splitOnP fun c => !isWordChar c) = first :: others ∧
    ((separated cs).splitOnP fun c => !isWordChar c) =
      first :: (others.filter (· ≠ []) ++ ends) ∧ (ends = [] ∨ ends = [[]]) := by
  induction cs with
  | nil => exact ⟨[], [], [], rfl, rfl, .inl rfl⟩
  | cons c rest ih =>
    obtain ⟨first, others, ends, hrest, hleft, hends⟩ := ih
    rw [List.splitOnP_cons_eq_if_modifyHead, hrest]
    by_cases hc : isWordChar c = true
    · refine ⟨c :: first, others, ends, by simp [hc], ?_, hends⟩
      rw [separated, if_pos hc, List.splitOnP_cons_eq_if_modifyHead, hleft]
      simp [hc]
    · refine ⟨[], first :: others, ?_⟩
      rw [separated, if_neg hc]
      cases hs : separated rest with
      | nil =>
        -- Nothing is left of the rest, so its pieces are all empty.
        rw [hs, List.splitOnP_nil] at hleft
        obtain ⟨rfl, hnil⟩ := List.cons.inj hleft
        obtain ⟨hothers, -⟩ := List.append_eq_nil_iff.1 hnil.symm
        refine ⟨[[]], by simp [hc], ?_, .inr rfl⟩
        have hempty : (([] :: others).filter fun x => decide (x ≠ [])) = [] := hothers
        rw [hempty, List.splitOnP_cons_eq_if_modifyHead, List.splitOnP_nil, isWordChar_separator]
        rfl
      | cons d tail =>
        rw [hs] at hleft
        dsimp only
        by_cases hd : d = separator
        · -- One separator stands for this character as well.
          rw [if_pos hd]
          have hfirst : first = [] := (eq_nil_iff_of_splitOnP_cons hleft).2 (by rw [hd]; rfl)
          refine ⟨ends, by simp [hc], ?_, hends⟩
          rw [hleft, hfirst]
          rfl
        · rw [if_neg hd]
          have hword : isWordChar d = true :=
            (mem_separated (hs ▸ List.mem_cons_self)).resolve_right hd
          have hfirst : first ≠ [] := by simp [eq_nil_iff_of_splitOnP_cons hleft, hword]
          refine ⟨ends, by simp [hc], ?_, hends⟩
          rw [List.splitOnP_cons_eq_if_modifyHead, hleft]
          simp [isWordChar_separator, hfirst]

theorem separated_eq_joined (cs : List Char) :
    separated cs = joined ((separated cs).splitOnP fun c => !isWordChar c) := by
  have hsame : (separated cs).splitOnP (· == separator) =
      (separated cs).splitOnP fun c => !isWordChar c := by
    refine splitOnP_congr fun c hc => ?_
    rcases mem_separated hc with hword | rfl
    · have hne : c ≠ separator := by
        rintro rfl
        rw [isWordChar_separator] at hword
        cases hword
      simp [hword, hne]
    · rfl
  rw [← hsame, ← List.splitOn_eq_splitOnP]
  exact (List.intercalate_splitOn separator).symm

theorem exists_joined_cons (w : List Char) (ws : List (List Char)) :
    ∃ rest, joined (w :: ws) = w ++ rest := by
  by_cases hne : ws = []
  · exact ⟨[], by rw [hne, joined_singleton, List.append_nil]⟩
  · exact ⟨_, joined_cons w hne⟩

theorem dropWhile_joined_append {ws ends : List (List Char)} (h : ∀ w ∈ ws, IsWord w)
    (hends : ends = [] ∨ ends = [[]]) :
    (joined (ws ++ ends)).dropWhile (· == separator) = joined (ws ++ ends) := by
  cases ws with
  | nil => rcases hends with rfl | rfl <;> rfl
  | cons w ws =>
    obtain ⟨hne, hchars⟩ := h w List.mem_cons_self
    obtain ⟨c, tail, rfl⟩ := List.exists_cons_of_ne_nil hne
    obtain ⟨rest, hrest⟩ := exists_joined_cons (c :: tail) (ws ++ ends)
    have hc : c ≠ separator := by
      rintro rfl
      exact absurd (hchars separator List.mem_cons_self) (by decide)
    rw [List.cons_append, hrest, List.cons_append, List.dropWhile_cons_of_neg (by simpa using hc)]

theorem trimEnd_joined_append {ws ends : List (List Char)} (h : ∀ w ∈ ws, IsWord w)
    (hends : ends = [] ∨ ends = [[]]) : trimEnd (joined (ws ++ ends)) = joined ws := by
  rcases hends with rfl | rfl
  · rw [List.append_nil, trimEnd_joined h]
  · by_cases hne : ws = []
    · rw [hne]
      rfl
    · rw [joined_append hne (by simp), trimEnd_append_of_eq_nil rfl, trimEnd_joined h]

/-- What is left of a text are its words, joined. -/
theorem joinedWords_eq (cs : List Char) : joinedWords cs = joined (words cs) := by
  obtain ⟨first, others, ends, hcs, hleft, hends⟩ := exists_splitOnP_separated cs
  have hwords : words cs = [first].filter (· ≠ []) ++ others.filter (· ≠ []) := by
    rw [words, hcs, ← List.singleton_append, List.filter_append]
  have hall : ∀ w ∈ words cs, IsWord w := fun w => isWord_of_mem_words
  have hstart : (separated cs).dropWhile (· == separator) = joined (words cs ++ ends) := by
    rw [separated_eq_joined, hleft]
    by_cases hfirst : first = []
    · have hrest : words cs = others.filter (· ≠ []) := by rw [hwords, hfirst]; rfl
      rw [hfirst, ← hrest]
      refine Eq.trans ?_ (dropWhile_joined_append hall hends)
      by_cases hne : words cs ++ ends = []
      · rw [hne]
        rfl
      · rw [joined_cons [] hne]
        rfl
    · have hrest : words cs = first :: others.filter (· ≠ []) := by
        rw [hwords, List.filter_cons_of_pos (by simpa using hfirst)]
        rfl
      rw [← List.cons_append, ← hrest, dropWhile_joined_append hall hends]
  rw [joinedWords, hstart, trimEnd_joined_append hall hends]

/-! ### Cuts -/

theorem IsWord.take {w : List Char} (h : IsWord w) {n : Nat} (hn : 0 < n) : IsWord (w.take n) := by
  refine ⟨fun hnil => ?_, fun c hc => h.2 c (List.mem_of_mem_take hc)⟩
  rcases List.take_eq_nil_iff.1 hnil with hzero | hnil
  · omega
  · exact h.1 hnil

/-- A cut behind a word and its separator cuts the rest; if that leaves nothing, the separator goes
as well. -/
theorem trimEnd_word_append {w cs : List Char} (h : IsWord w) :
    trimEnd (w ++ separator :: cs) =
      if trimEnd cs = [] then w else w ++ separator :: trimEnd cs := by
  rw [← List.singleton_append, ← List.append_assoc]
  split
  · rename_i hcs
    rw [trimEnd_append_of_eq_nil hcs, trimEnd_append_of_eq_nil rfl, trimEnd_of_isWord h.2]
  · rename_i hcs
    rw [trimEnd_append_of_ne_nil hcs, List.append_assoc, List.singleton_append]

/-- A cut through joined words leaves joined words, and at least one if anything may be left. -/
theorem exists_cut_joined {ws : List (List Char)} (h : ∀ w ∈ ws, IsWord w) (n : Nat) :
    ∃ vs, (∀ v ∈ vs, IsWord v) ∧ cut n (joined ws) = joined vs ∧
      (0 < n → ws ≠ [] → vs ≠ []) := by
  induction ws generalizing n with
  | nil => exact ⟨[], by simp, by simp [cut, trimEnd], fun _ hne => hne⟩
  | cons w ws ih =>
    obtain ⟨hw, hws⟩ := List.forall_mem_cons.1 h
    by_cases hzero : n = 0
    · exact ⟨[], by simp, by simp [cut, trimEnd, hzero], by omega⟩
    by_cases hn : n ≤ w.length
    · -- The cut is in the first word.
      have hfirst : IsWord (w.take n) := hw.take (by omega)
      obtain ⟨rest, hrest⟩ := exists_joined_cons w ws
      refine ⟨[w.take n], by simpa using hfirst, ?_, by simp⟩
      rw [cut, hrest, List.take_append_of_le_length hn, trimEnd_of_isWord hfirst.2,
        joined_singleton]
    by_cases hne : ws = []
    · refine ⟨[w], by simpa using hw, ?_, by simp⟩
      rw [cut, hne, joined_singleton, List.take_of_length_le (by omega), trimEnd_of_isWord hw.2]
    · obtain ⟨vs, hvs, hcut, -⟩ := ih hws (n - w.length - 1)
      have htake : (joined (w :: ws)).take n =
          w ++ separator :: (joined ws).take (n - w.length - 1) := by
        rw [joined_cons w hne, List.take_append, List.take_of_length_le (by omega),
          List.take_cons (by omega)]
      rw [cut] at hcut
      rw [cut, htake, trimEnd_word_append hw, hcut]
      split
      · exact ⟨[w], by simpa using hw, (joined_singleton w).symm, by simp⟩
      · rename_i hsome
        have hvsne : vs ≠ [] := by
          rintro rfl
          exact hsome rfl
        exact ⟨w :: vs, List.forall_mem_cons.2 ⟨hw, hvs⟩, (joined_cons w hvsne).symm, by simp⟩

/-! ### The words of a name -/

/-- The words of a name after folding. -/
def nameWords (name : String) : List (List Char) := words (prepared name)

/-- The words of the slug of a name that has none itself. -/
def standInWords (name : String) : List (List Char) :=
  [['n'], (Uuid.ofName Uuid.objectNamespace name).digits.take 8]

/-- The words, or those that stand in for a name that has none. -/
def orStandIn (name : String) : List (List Char) → List (List Char)
  | [] => standInWords name
  | ws => ws

/-- The words of the slug of a name before it is cut. -/
def slugWords (name : String) : List (List Char) := orStandIn name (nameWords name)

theorem standIn_eq_joined (name : String) : standIn name = joined (standInWords name) := by
  rw [standInWords, joined_cons _ (by simp), joined_singleton, standIn, List.singleton_append]

theorem isWord_of_mem_standInWords {name : String} {w : List Char} (h : w ∈ standInWords name) :
    IsWord w := by
  have hdigits : ∀ d : Fin 16, isWordChar (Text.hexDigit d) = true := by decide
  rcases List.mem_cons.1 h with rfl | h
  · exact ⟨by simp, List.forall_mem_singleton.2 rfl⟩
  · rw [List.mem_singleton.1 h]
    refine IsWord.take ⟨?_, ?_⟩ (by decide)
    · exact List.ne_nil_of_length_pos (by rw [Uuid.length_digits]; decide)
    · intro c hc
      obtain ⟨d, rfl⟩ := Text.mem_hexDigits hc
      exact hdigits d

theorem isWord_of_mem_orStandIn {name : String} {cs w : List Char}
    (h : w ∈ orStandIn name (words cs)) : IsWord w := by
  unfold orStandIn at h
  split at h
  · exact isWord_of_mem_standInWords h
  · exact isWord_of_mem_words h

theorem orStandIn_ne_nil (name : String) (ws : List (List Char)) : orStandIn name ws ≠ [] := by
  unfold orStandIn
  split
  · simp [standInWords]
  · rename_i hne
    exact hne

/-- What is left of a folded name, or what stands in for it, are the words, joined. -/
theorem joined_orStandIn (name : String) (cs : List Char) :
    (match joinedWords cs with
      | [] => standIn name
      | cs => cs) = joined (orStandIn name (words cs)) := by
  have hall : ∀ w ∈ words cs, IsWord w := fun w => isWord_of_mem_words
  unfold orStandIn
  rw [joinedWords_eq]
  generalize words cs = ws at hall
  cases ws with
  | nil => exact standIn_eq_joined name
  | cons w ws =>
    dsimp only
    split
    · rename_i hnil
      exact absurd hnil (joined_ne_nil hall (by simp))
    · rfl

theorem isWord_of_mem_slugWords {name : String} {w : List Char} (h : w ∈ slugWords name) :
    IsWord w := isWord_of_mem_orStandIn h

theorem slugWords_ne_nil (name : String) : slugWords name ≠ [] := orStandIn_ne_nil name _

/-- The slug of a name before it is cut are its words, joined. -/
theorem whole_eq_joined (name : String) : whole name = joined (slugWords name) :=
  joined_orStandIn name (prepared name)

/-! ### Composed names -/

/-- A character as far as words are concerned: all that are in none are the same. -/
def gap (c : Char) : Char := if isWordChar c then c else separator

theorem isWordChar_gap (c : Char) : isWordChar (gap c) = isWordChar c := by
  unfold gap
  split
  · rfl
  · rename_i hc
    rw [isWordChar_separator, Bool.eq_false_iff.2 hc]

theorem words_map_gap (cs : List Char) : words (cs.map gap) = words cs := by
  have hsplit : ((cs.map gap).splitOnP fun c => !isWordChar c) =
      cs.splitOnP fun c => !isWordChar c := by
    induction cs with
    | nil => rfl
    | cons c rest ih =>
      rw [List.map_cons, List.splitOnP_cons_eq_if_modifyHead,
        List.splitOnP_cons_eq_if_modifyHead, ih, isWordChar_gap]
      by_cases hc : isWordChar c = true
      · simp [hc, gap]
      · simp [hc]
  rw [words, hsplit, words]

/-- What a folded character adds to a text, as far as words are concerned. -/
def lowered (before : List Char) (c : Char) (after : List Char) : List Char :=
  ((Text.lowerCharIn before c after).filter fun d => !isQuote d).map gap

/-- The place of a character does not count: the two forms of the letter for which it does are both in
no word. -/
theorem lowered_eq (before : List Char) (c : Char) (after : List Char) :
    lowered before c after = lowered [] c [] := by
  unfold lowered Text.lowerCharIn
  split
  · split <;> split <;> rfl
  · rfl

theorem map_gap_lowercaseAfter (before cs : List Char) :
    ((Text.lowercaseAfter before cs).filter fun d => !isQuote d).map gap =
      cs.flatMap fun c => lowered [] c [] := by
  induction cs generalizing before with
  | nil => rfl
  | cons c rest ih =>
    rw [Text.lowercaseAfter, List.filter_append, List.map_append, ih, List.flatMap_cons,
      ← lowered_eq before c rest]
    rfl

/-- What a character adds to a name, as far as words are concerned. -/
def trace (c : Char) : List Char := (Text.baseChars c).flatMap fun d => lowered [] d []

/-- Words are found character by character, whatever stands around. -/
theorem nameWords_eq (name : String) : nameWords name = words (name.toList.flatMap trace) := by
  rw [nameWords, prepared, ← words_map_gap, Text.lowercase, map_gap_lowercaseAfter, Text.fold,
    List.flatMap_assoc]
  rfl

theorem trace_hyphen : trace '-' = [separator] := by decide

/-- The words of texts that are joined by a hyphen are those of the texts, one after another. -/
theorem nameWords_intercalate (texts : List String) :
    nameWords ("-".intercalate texts) = texts.flatMap nameWords := by
  induction texts with
  | nil => rfl
  | cons text rest ih =>
    by_cases hrest : rest = []
    · simp [hrest]
    · rw [List.flatMap_cons, ← ih, String.intercalate_cons_of_ne_nil hrest, nameWords_eq,
        nameWords_eq, nameWords_eq]
      simp only [String.toList_append, List.flatMap_append]
      have hhyphen : "-".toList.flatMap trace = [separator] := by
        rw [← trace_hyphen]
        simp
      rw [hhyphen, List.append_assoc, List.singleton_append,
        words_append_cons isWordChar_separator]

end ResourceTables.Slug
