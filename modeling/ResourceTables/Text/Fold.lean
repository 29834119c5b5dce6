import ResourceTables.Text.Fold.Table

/-!
# ResourceTables.Text.Fold

Folding of a text to base characters: every character is replaced by its full compatibility
decomposition, and combining marks are dropped. So `é` becomes `e` and a ligature its letters.

Decomposition also puts marks in a canonical order, but since no mark is left, only the order of the
other characters counts, and that never changes.
-/

namespace ResourceTables.Text

/-- The two or three parts of a Hangul syllable, given its number in the block. -/
def hangulParts (n : Nat) : List Char :=
  let parts := [Char.ofNat (0x1100 + n / 588), Char.ofNat (0x1161 + n % 588 / 28)]
  if n % 28 = 0 then parts else parts ++ [Char.ofNat (0x11A7 + n % 28)]

/-- The base characters of a character. Below U+00A0 every character is its own base. -/
def baseChars (c : Char) : List Char :=
  let n := c.toNat
  if n < 0xA0 then [c]
  else if 0xAC00 ≤ n && n ≤ 0xD7A3 then hangulParts (n - 0xAC00)
  else if combiningMarks.contains c then []
  else (compatibilityBases.image? c).getD [c]

/-- The base characters of a text. -/
def fold (cs : List Char) : List Char := cs.flatMap baseChars

theorem baseChars_of_lt {c : Char} (h : c.toNat < 0xA0) : baseChars c = [c] := by
  simp [baseChars, h]

@[simp] theorem fold_append (cs ds : List Char) : fold (cs ++ ds) = fold cs ++ fold ds := by
  simp [fold]

/-- Folding leaves a text below U+00A0 as it is. -/
theorem fold_eq_self {cs : List Char} (h : ∀ c ∈ cs, c.toNat < 0xA0) : fold cs = cs := by
  induction cs with
  | nil => rfl
  | cons c rest ih =>
    have hc := baseChars_of_lt (h c (by simp))
    have hrest := ih fun d hd => h d (by simp [hd])
    simp only [fold] at hrest ⊢
    simp [hc, hrest]

end ResourceTables.Text
