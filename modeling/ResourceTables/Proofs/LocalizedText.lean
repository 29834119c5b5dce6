import Mathlib
import ResourceTables.Proofs.Documents
import ResourceTables.Proofs.Text.ByteOrder

/-!
# ResourceTables.Proofs.LocalizedText

All shapes of a stored localized text mean the same (`shapes_agree`). An object is read by what its
members carry, whichever way each of them carries it, and the JSON text of an object is as good as the
object.

Design points:

* What a member carries is a relation (`Carries`), apart from the function that looks for it.
* A localized text is known by its pairs alone (`ext_pairs`), since their order is fixed. So it is enough
  to tell which pairs are in a text, and the order of the members of an object is of no account.
-/

namespace ResourceTables.LocalizedText

open Json (Value Members)

variable {t u : LocalizedText} {code text language fallback : String}

/-! ### Pairs -/

theorem pairwise_texts (t : LocalizedText) : t.texts.Pairwise fun p q => p.1 < q.1 :=
  List.pairwise_map.1 t.ascending

/-- Texts with the same pairs are the same. -/
theorem ext_pairs (h : ∀ p, p ∈ t.texts ↔ p ∈ u.texts) : t = u := by
  have hasymm (p q : String × String) (hpq : p.1 < q.1) (hqp : q.1 < p.1) : p = q :=
    absurd hqp (lt_asymm hpq)
  have hperm : t.texts.Perm u.texts := by
    have hnodup (w : LocalizedText) : w.texts.Nodup :=
      w.pairwise_texts.imp fun hlt heq => absurd (heq ▸ hlt) (lt_irrefl _)
    exact (List.perm_ext_iff_of_nodup (hnodup t) (hnodup u)).2 h
  have htexts : t.texts = u.texts :=
    hperm.eq_of_pairwise (fun p q _ _ => hasymm p q) t.pairwise_texts u.pairwise_texts
  cases t
  cases u
  cases htexts
  rfl

/-- A pair is set in place of the one of its code. -/
theorem mem_insertText {p : String × String} {texts : List (String × String)}
    (h : texts.Pairwise fun p q => p.1 < q.1) :
    p ∈ insertText code text texts ↔ p = (code, text) ∨ p.1 ≠ code ∧ p ∈ texts := by
  induction texts with
  | nil => simp [insertText]
  | cons q rest ih =>
    obtain ⟨hq, hrest⟩ := List.pairwise_cons.1 h
    rw [insertText]
    split
    · next hlt =>
      -- The code is in front of all others.
      have hne : ∀ r ∈ q :: rest, r.1 ≠ code := by
        refine List.forall_mem_cons.2 ⟨(ne_of_lt hlt).symm, fun r hr => ?_⟩
        exact (ne_of_lt (lt_trans hlt (hq r hr))).symm
      rw [List.mem_cons]
      exact or_congr_right ⟨fun hp => ⟨hne p hp, hp⟩, And.right⟩
    · split
      · next heq =>
        have hne : ∀ r ∈ rest, r.1 ≠ code := fun r hr => heq ▸ (ne_of_lt (hq r hr)).symm
        rw [List.mem_cons, List.mem_cons]
        refine or_congr_right ⟨fun hp => ⟨hne p hp, .inr hp⟩, fun hp => ?_⟩
        exact hp.2.resolve_left fun hpq => hp.1 (hpq ▸ heq.symm)
      · next hlt hne =>
        rw [List.mem_cons, List.mem_cons, ih hrest]
        have hcode : p = q → p.1 ≠ code := fun hpq heq => hne (heq ▸ hpq ▸ rfl)
        tauto

theorem mem_texts_insert {p : String × String} :
    p ∈ (t.insert code text).texts ↔ p = (code, text) ∨ p.1 ≠ code ∧ p ∈ t.texts :=
  mem_insertText t.pairwise_texts

/-- Of pairs with different codes each one is kept. -/
theorem mem_texts_ofList {p : String × String} {texts : List (String × String)}
    (h : (texts.map Prod.fst).Nodup) : p ∈ (ofList texts).texts ↔ p ∈ texts := by
  have hfold (t : LocalizedText) :
      p ∈ (texts.foldl (fun t q => t.insert q.1 q.2) t).texts ↔
        p ∈ texts ∨ p.1 ∉ texts.map Prod.fst ∧ p ∈ t.texts := by
    induction texts generalizing t with
    | nil => simp
    | cons q texts ih =>
      obtain ⟨hq, hrest⟩ := List.nodup_cons.1 h
      rw [List.foldl_cons, ih hrest, mem_texts_insert, List.map_cons, List.mem_cons, List.mem_cons]
      have hfirst : p = q → p.1 ∉ texts.map Prod.fst := fun hpq => hpq ▸ hq
      tauto
  exact (hfold empty).trans (by simp [empty])

/-! ### Members -/

/-- A member of an object carries a text as a string or in `value`, whatever else stands beside it. -/
inductive Carries : Value → String → Prop
  | plain (text : String) : Carries (.string text) text
  | wrapped {members : Members} {text : String} (h : members.lookup "value" = some (.string text)) :
    Carries (.object members) text

theorem textOf?_eq_some_iff {v : Value} : textOf? v = some text ↔ Carries v text := by
  constructor
  · intro h
    cases v with
    | string =>
      cases h
      exact .plain _
    | object members =>
      obtain ⟨found, hfound, htext⟩ := Option.bind_eq_some_iff.1 h
      cases found with
      | string =>
        cases htext
        exact .wrapped hfound
      | _ => cases htext
    | _ => cases h
  · intro h
    cases h with
    | plain => rfl
    | wrapped hfound => exact Option.bind_eq_some_iff.2 ⟨_, hfound, rfl⟩

/-- The members of an object carry exactly the texts of `t`; some may carry none. -/
def IsCarriedBy (t : LocalizedText) (members : Members) : Prop :=
  ∀ code text, (code, text) ∈ t.texts ↔ ∃ v, (code, v) ∈ members ∧ Carries v text

theorem codes_sublist (members : Members) :
    ((members.filterMap fun (code, v) => (textOf? v).map (code, ·)).map Prod.fst).Sublist
      (members.map Prod.fst) := by
  induction members with
  | nil => exact .slnil
  | cons m members ih =>
    simp only [List.filterMap_cons, List.map_cons]
    cases textOf? m.2 with
    | none => exact ih.cons _
    | some text => exact ih.cons_cons _

theorem isCarriedBy_ofMembers {members : Members} (h : (members.map Prod.fst).Nodup) :
    (ofMembers members).IsCarriedBy members := by
  intro code text
  rw [ofMembers, mem_texts_ofList (h.sublist (codes_sublist members)), List.mem_filterMap]
  constructor
  · intro hmem
    obtain ⟨⟨c, v⟩, hv, htext⟩ := hmem
    obtain ⟨_, hfound, heq⟩ := Option.map_eq_some_iff.1 htext
    cases heq
    exact ⟨v, hv, textOf?_eq_some_iff.1 hfound⟩
  · intro hcarried
    obtain ⟨v, hv, hcarries⟩ := hcarried
    exact ⟨(code, v), hv, Option.map_eq_some_iff.2 ⟨text, textOf?_eq_some_iff.2 hcarries, rfl⟩⟩

theorem ofMembers_eq_iff {members : Members} (h : (members.map Prod.fst).Nodup) :
    ofMembers members = t ↔ t.IsCarriedBy members := by
  refine ⟨fun heq => heq ▸ isCarriedBy_ofMembers h, fun hcarried => ext_pairs fun p => ?_⟩
  exact (isCarriedBy_ofMembers h p.1 p.2).trans (hcarried p.1 p.2).symm

/-! ### Looking up -/

theorem lookup_texts_eq_some_iff : t.texts.lookup code = some text ↔ (code, text) ∈ t.texts := by
  rw [List.lookup_eq_some_iff]
  constructor
  · intro h
    obtain ⟨before, after, htexts, -⟩ := h
    exact htexts ▸ List.mem_append_cons_self
  · intro h
    obtain ⟨before, after, htexts⟩ := List.append_of_mem h
    refine ⟨before, after, htexts, fun p hp => bne_iff_ne.2 fun heq => ?_⟩
    have hlt := t.pairwise_texts
    rw [htexts, List.pairwise_append] at hlt
    exact ne_of_lt (hlt.2.2 p hp _ List.mem_cons_self) heq.symm

theorem lookup_texts_eq_none_iff : t.texts.lookup code = none ↔ code ∉ t.languages := by
  rw [List.lookup_eq_none_iff, languages, List.mem_map, not_exists]
  refine forall_congr' fun p => ?_
  rw [bne_iff_ne, not_and, ne_comm]

/-- The text that is shown to a reader of a language: the text in it, else the text in a second language,
else the text of the code whose bytes come first, else nothing. -/
inductive Resolves (t : LocalizedText) (language fallback : String) : String → Prop
  | asked {text : String} (h : (language, text) ∈ t.texts) : Resolves t language fallback text
  | fallback {text : String} (hasked : language ∉ t.languages) (h : (fallback, text) ∈ t.texts) :
    Resolves t language fallback text
  | first {code text : String} (hasked : language ∉ t.languages) (hfallback : fallback ∉ t.languages)
    (h : (code, text) ∈ t.texts)
    (hfirst : ∀ other ∈ t.languages, Text.bytes code ≤ Text.bytes other) :
    Resolves t language fallback text
  | nothing (h : t.texts = []) : Resolves t language fallback ""

theorem le_of_head?_texts {p : String × String} (h : t.texts.head? = some p) :
    ∀ other ∈ t.languages, p.1 ≤ other := by
  obtain ⟨rest, htexts⟩ := List.head?_eq_some_iff.1 h
  have hlt := t.ascending
  rw [htexts, List.map_cons, List.pairwise_cons] at hlt
  intro other hother
  rw [languages, htexts, List.map_cons] at hother
  rcases List.mem_cons.1 hother with rfl | hrest
  · exact le_rfl
  · exact (hlt.1 other hrest).le

theorem resolves_resolve (t : LocalizedText) (language fallback : String) :
    t.Resolves language fallback (t.resolve language fallback) := by
  unfold resolve
  cases hasked : t.texts.lookup language with
  | some text => exact .asked (lookup_texts_eq_some_iff.1 hasked)
  | none =>
    cases hfallback : t.texts.lookup fallback with
    | some text =>
      exact .fallback (lookup_texts_eq_none_iff.1 hasked) (lookup_texts_eq_some_iff.1 hfallback)
    | none =>
      cases hfirst : t.texts.head? with
      | none => exact .nothing (List.head?_eq_none_iff.1 hfirst)
      | some p =>
        refine .first (lookup_texts_eq_none_iff.1 hasked) (lookup_texts_eq_none_iff.1 hfallback)
          (List.mem_of_head? hfirst) fun other hother => ?_
        exact Text.le_iff_bytes_le.1 (le_of_head?_texts hfirst other hother)

theorem Resolves.resolve_eq (h : t.Resolves language fallback text) :
    t.resolve language fallback = text := by
  unfold resolve
  cases h with
  | asked h => rw [lookup_texts_eq_some_iff.2 h]; rfl
  | fallback hasked h =>
    rw [lookup_texts_eq_none_iff.2 hasked, lookup_texts_eq_some_iff.2 h]
    rfl
  | @first code _ hasked hfallback h hfirst =>
    rw [lookup_texts_eq_none_iff.2 hasked, lookup_texts_eq_none_iff.2 hfallback]
    obtain ⟨p, rest, htexts⟩ := List.exists_cons_of_ne_nil (List.ne_nil_of_mem h)
    have hp : t.texts.head? = some p := by rw [htexts, List.head?_cons]
    have hmem : p ∈ t.texts := List.mem_of_head? hp
    -- No code is in front of the first pair, and none is in front of this one.
    have hcode : code = p.1 :=
      le_antisymm (Text.le_iff_bytes_le.2 (hfirst p.1 (List.mem_map_of_mem hmem)))
        (le_of_head?_texts hp code (List.mem_map_of_mem h))
    have htext : text = p.2 := Option.some.inj
      ((lookup_texts_eq_some_iff.2 h).symm.trans (hcode ▸ lookup_texts_eq_some_iff.2 hmem))
    rw [hp, htext]
    rfl
  | nothing h =>
    rw [h]
    rfl

/-! ### Shapes -/

/-- Every shape of a stored text is read as what it carries, whatever the language that is given. An
object is read as `t` exactly if its members carry the texts of `t`, each as a string or in an object of
any other members, beside members that carry none; so is the object that is written for `t`. The JSON
text of an object is read as the object, and any other text is the one text of the given language. What is
shown to a reader is found in this order: the language asked for, the second language, the first code
there is. -/
theorem shapes_agree :
    (∀ t language, ofValue? t.toJson language = some t) ∧
    (∀ (members : Members) t language, (members.map Prod.fst).Nodup →
      (ofValue? (.object members) language = some t ↔ t.IsCarriedBy members)) ∧
    (∀ s members language, Value.parse? s = some (.object members) →
      ofValue? (.string s) language = ofValue? (.object members) language) ∧
    (∀ s language, (∀ members, Value.parse? s ≠ some (.object members)) →
      ofValue? (.string s) language = some (single language s)) ∧
    (∀ t, ofJson t.toJson = .ok t) ∧
    ∀ (t : LocalizedText) language fallback text,
      t.resolve language fallback = text ↔ t.Resolves language fallback text := by
  refine ⟨?written, ?members, ?text, ?other, ?back, ?resolve⟩
  case written =>
    intro t language
    have hback : ofJson t.toJson = .ok t := lawful.read_write t trivial
    exact congrArg some (Except.ok.inj hback)
  case members =>
    intro members t language h
    rw [← ofMembers_eq_iff h]
    exact Option.some_inj
  case text =>
    intro s members language h
    rw [ofValue?, h]
    rfl
  case other =>
    intro s language h
    rw [ofValue?]
    split
    · next members hparse => exact absurd hparse (h members)
    · rfl
  case back => exact fun t => lawful.read_write t trivial
  case resolve =>
    intro t language fallback text
    exact ⟨fun heq => heq ▸ resolves_resolve t language fallback, Resolves.resolve_eq⟩

/-- A text that looks like JSON, and one in another language. -/
def quotedTexts : LocalizedText :=
  ⟨[("de", "\x7b\"en\": \"Mauer\"\x7d"), ("en", "Wall")], by decide⟩

/-- An object that carries them, with a note beside the first one and a member without text. -/
def quotedMembers : Members :=
  [("de", .object [("note", .null), ("value", .string "\x7b\"en\": \"Mauer\"\x7d")]),
    ("en", .string "Wall"), ("fr", .array [.string "Mur"])]

/-- A JSON text of this object, with blanks. -/
def quotedJson : String :=
  "\x7b\"de\": \x7b\"note\": null, \"value\": \"\x7b\\\"en\\\": \\\"Mauer\\\"\x7d\"\x7d," ++
    " \"en\": \"Wall\", \"fr\": [\"Mur\"]\x7d"

theorem shapes_agree_quotedTexts :
    quotedTexts.IsCarriedBy quotedMembers ∧
      ofValue? (.object quotedMembers) "fr" = some quotedTexts ∧
      ofValue? (.string quotedJson) "fr" = some quotedTexts ∧
      ofValue? (.string "[\"Mur\"]") "fr" = some (single "fr" "[\"Mur\"]") ∧
      quotedTexts.resolve "fr" "it" = "\x7b\"en\": \"Mauer\"\x7d" := by
  obtain ⟨-, hmembers, htext, hother, -, hresolve⟩ := shapes_agree
  have hcodes : (quotedMembers.map Prod.fst).Nodup := by decide
  have hcarried : quotedTexts.IsCarriedBy quotedMembers :=
    (ofMembers_eq_iff hcodes).1 (by decide +kernel)
  have hobject := (hmembers quotedMembers quotedTexts "fr" hcodes).2 hcarried
  have hparse : Value.parse? quotedJson = some (.object quotedMembers) := by cbv
  have hlist : Value.parse? "[\"Mur\"]" = some (.array [.string "Mur"]) := by cbv
  refine ⟨hcarried, hobject, (htext _ _ _ hparse).trans hobject, hother _ _ ?_,
    (hresolve _ _ _ _).2 ?_⟩
  · intro members h
    cases hlist.symm.trans h
  · refine .first (by decide) (by decide) List.mem_cons_self ?_
    decide +kernel

end ResourceTables.LocalizedText
