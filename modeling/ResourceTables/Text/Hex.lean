/-!
# ResourceTables.Text.Hex

Hexadecimal digits: numbers are written in a fixed width with lower-case digits and read from
digits of either case.
-/

namespace ResourceTables.Text

/-- The lower-case digit of a number below sixteen. -/
def hexDigit (n : Nat) : Char :=
  if n < 10 then Char.ofNat (48 + n) else Char.ofNat (87 + n)

/-- The number a digit of either case stands for. -/
def hexValue? (c : Char) : Option Nat :=
  let n := c.toNat
  if 48 ≤ n && n ≤ 57 then some (n - 48)
  else if 97 ≤ n && n ≤ 102 then some (n - 87)
  else if 65 ≤ n && n ≤ 70 then some (n - 55)
  else none

/-- The last `width` hexadecimal digits of a number, with leading zeros. -/
def hexDigits : (width : Nat) → (n : Nat) → List Char
  | 0, _ => []
  | width + 1, n => hexDigits width (n / 16) ++ [hexDigit (n % 16)]

/-- The number a run of digits stands for; nothing if one of them is no digit. -/
def ofHexDigits? (digits : List Char) : Option Nat :=
  digits.foldlM (fun n c => (hexValue? c).map (16 * n + ·)) 0

@[simp] theorem length_hexDigits (width n : Nat) : (hexDigits width n).length = width := by
  induction width generalizing n with
  | zero => rfl
  | succ width ih => simp [hexDigits, ih]

theorem hexValue?_hexDigit : ∀ n : Fin 16, hexValue? (hexDigit n) = some n.val := by
  decide

/-- Reading the written digits of a number that fits the width gives the number back. -/
theorem ofHexDigits?_hexDigits (width n : Nat) (h : n < Nat.pow 16 width) :
    ofHexDigits? (hexDigits width n) = some n := by
  induction width generalizing n with
  | zero => simp_all [hexDigits, ofHexDigits?]
  | succ width ih =>
    have hq : n / 16 < Nat.pow 16 width := by
      rw [Nat.div_lt_iff_lt_mul (by decide)]; simpa [Nat.pow_succ] using h
    have hd := hexValue?_hexDigit ⟨n % 16, Nat.mod_lt _ (by decide)⟩
    have := ih _ hq
    simp only [ofHexDigits?] at this ⊢
    simp only [hexDigits, List.foldlM_append, this, List.foldlM_cons, List.foldlM_nil]
    simp only [bind, Option.bind, hd, Option.map, pure]
    congr 1
    omega

end ResourceTables.Text
