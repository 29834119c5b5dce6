import ResourceTables.Json.Read
import ResourceTables.Json.Decode

/-!
# ResourceTables.LocalizedText

Text in several languages, by language code. Stored values carry it in several shapes: as a plain
text, as an object of texts, as an object of objects that hold the text in `value`, and as the JSON
text of such an object. `ofValue?` brings them all to one form.

The codes are in ascending order and each stands once, so equal texts are equal values.
-/

namespace ResourceTables

/-- The language of plain texts, and the one to fall back to. -/
def defaultLanguage : String := "en"

/-- A text in each of some languages. -/
structure LocalizedText where
  texts : List (String × String)
  ascending : (texts.map Prod.fst).Pairwise (· < ·)
  deriving DecidableEq

namespace LocalizedText

/-! ### Construction -/

/-- No text in any language. -/
def empty : LocalizedText := ⟨[], List.Pairwise.nil⟩

instance : Inhabited LocalizedText := ⟨empty⟩

/-- A text in one language. -/
def single (language text : String) : LocalizedText := ⟨[(language, text)], by simp⟩

/-- Puts a text at the place of its code, or in place of the text of that code. -/
def insertText (code text : String) : List (String × String) → List (String × String)
  | [] => [(code, text)]
  | (c, t) :: rest =>
    if code < c then (code, text) :: (c, t) :: rest
    else if code = c then (code, text) :: rest
    else (c, t) :: insertText code text rest

theorem mem_keys_insertText {code text k : String} {texts : List (String × String)}
    (h : k ∈ (insertText code text texts).map Prod.fst) : k = code ∨ k ∈ texts.map Prod.fst := by
  induction texts with
  | nil => simpa [insertText] using h
  | cons head rest ih =>
    obtain ⟨c, t⟩ := head
    simp only [insertText] at h
    split at h
    · simpa using h
    · split at h
      · rename_i heq
        simp only [List.map_cons, List.mem_cons] at h ⊢
        grind
      · simp only [List.map_cons, List.mem_cons] at h ⊢
        rcases h with h | h
        · exact .inr (.inl h)
        · rcases ih h with h | h
          · exact .inl h
          · exact .inr (.inr h)

theorem ascending_insertText {code text : String} {texts : List (String × String)}
    (h : (texts.map Prod.fst).Pairwise (· < ·)) :
    ((insertText code text texts).map Prod.fst).Pairwise (· < ·) := by
  induction texts with
  | nil => simp [insertText]
  | cons head rest ih =>
    obtain ⟨c, t⟩ := head
    simp only [List.map_cons, List.pairwise_cons] at h
    simp only [insertText]
    split
    · rename_i hlt
      simp only [List.map_cons, List.pairwise_cons, List.mem_cons]
      refine ⟨?_, h⟩
      rintro k (rfl | hk)
      · exact hlt
      · exact String.lt_trans hlt (h.1 k hk)
    · split
      · rename_i heq
        subst heq
        simpa [List.pairwise_cons] using h
      · rename_i hlt hne
        simp only [List.map_cons, List.pairwise_cons]
        refine ⟨fun k hk => ?_, ih h.2⟩
        rcases mem_keys_insertText hk with rfl | hk
        · exact Classical.byContradiction fun hn =>
            hne (String.le_antisymm (String.not_lt.1 hn) (String.not_lt.1 hlt))
        · exact h.1 k hk

/-- Sets the text of a language. -/
def insert (t : LocalizedText) (code text : String) : LocalizedText :=
  ⟨insertText code text t.texts, ascending_insertText t.ascending⟩

/-- The texts of a list; of several for one code the last one counts. -/
def ofList (texts : List (String × String)) : LocalizedText :=
  texts.foldl (fun t (code, text) => t.insert code text) empty

/-! ### Reading stored values -/

/-- The text a member of a localized object carries: it is a string, or an object with one in
`value`. -/
def textOf? : Json.Value → Option String
  | .string text => some text
  | .object members => (members.lookup "value").bind Json.Value.text?
  | _ => none

/-- The texts of a localized object; members that carry none are left out. -/
def ofMembers (members : Json.Members) : LocalizedText :=
  ofList (members.filterMap fun (code, v) => (textOf? v).map (code, ·))

/-- The localized text of a stored value; nothing for values that carry no text at all. A text that
is not the JSON text of an object belongs to the given language. -/
def ofValue? (value : Json.Value) (language : String) : Option LocalizedText :=
  match value with
  | .string text => match Json.Value.parse? text with
    | some (.object members) => some (ofMembers members)
    | _ => some (single language text)
  | .object members => some (ofMembers members)
  | _ => none

/-- Reads any value; one that carries no text is empty. -/
def ofJson : Json.Decoder LocalizedText := fun v =>
  .ok ((ofValue? v defaultLanguage).getD empty)

/-- The object of the texts. -/
def toJson (t : LocalizedText) : Json.Value :=
  .object (t.texts.map fun (code, text) => (code, .string text))

/-! ### Looking up -/

/-- The language codes, in ascending order. -/
def languages (t : LocalizedText) : List String := t.texts.map Prod.fst

/-- The text in a language, else in the second language, else in the first one there is, else no
text. -/
def resolve (t : LocalizedText) (language fallback : String) : String :=
  (((t.texts.lookup language).or (t.texts.lookup fallback)).or (t.texts.head?.map Prod.snd)).getD ""

/-- The text in the default language. -/
def text (t : LocalizedText) : String := t.resolve defaultLanguage defaultLanguage

/-- Whether there is no text in any language. -/
def isEmpty (t : LocalizedText) : Bool := t.texts.isEmpty

end LocalizedText

end ResourceTables
