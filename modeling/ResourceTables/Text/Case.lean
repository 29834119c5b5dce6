import ResourceTables.Text.Case.Table

/-!
# ResourceTables.Text.Case

Lower-casing of a text by the full mappings. One letter has two lower-case forms: a capital sigma at
the end of a word becomes `ς`, and `σ` elsewhere.
-/

namespace ResourceTables.Text

/-- The lower-case form of a character apart from context. -/
def lowerChar (c : Char) : List Char :=
  if c.toNat < 0x80 then [c.toLower] else (lowerCaseForms.image? c).getD [c]

/-- Whether a cased letter stands first, characters that case ignores left aside. -/
def startsCased (cs : List Char) : Bool :=
  match cs.dropWhile caseIgnorableChars.contains with
  | c :: _ => casedChars.contains c
  | [] => false

/-- The lower-case form of a character between the characters before it, nearest first, and those
after it. -/
def lowerCharIn (before : List Char) (c : Char) (after : List Char) : List Char :=
  if c = 'Σ' then
    if startsCased before && !startsCased after then ['ς'] else ['σ']
  else lowerChar c

/-- The lower-case form of a text that follows the characters `before`, nearest first. -/
def lowercaseAfter (before : List Char) : List Char → List Char
  | [] => []
  | c :: rest => lowerCharIn before c rest ++ lowercaseAfter (c :: before) rest

/-- The lower-case form of a text. -/
def lowercase (cs : List Char) : List Char := lowercaseAfter [] cs

theorem lowercaseAfter_eq_self {before cs : List Char}
    (h : ∀ c ∈ cs, c.toNat < 0x80 ∧ c.toLower = c) : lowercaseAfter before cs = cs := by
  induction cs generalizing before with
  | nil => rfl
  | cons c rest ih =>
    obtain ⟨hc, hl⟩ := h c (by simp)
    have hs : c ≠ 'Σ' := by
      rintro rfl
      revert hc
      decide
    simp [lowercaseAfter, lowerCharIn, hs, lowerChar, hc, hl, ih fun d hd => h d (by simp [hd])]

/-- Lower-casing leaves a text of ASCII characters without capitals as it is. -/
theorem lowercase_eq_self {cs : List Char} (h : ∀ c ∈ cs, c.toNat < 0x80 ∧ c.toLower = c) :
    lowercase cs = cs :=
  lowercaseAfter_eq_self h

end ResourceTables.Text
