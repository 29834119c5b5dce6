import Mathlib.Data.List.TakeWhile
import ResourceTables.Json.Text
import ResourceTables.Text.Decimal
import ResourceTables.Proofs.Uuid

/-!
# ResourceTables.Proofs.Printed

Texts without control characters. The compact text of every JSON value is one (`Value.printed_compact`):
strings are written with such characters escaped, and numbers need none. So is every text that spells
a number (`printed_of_spellsNumber`).
-/

namespace ResourceTables

/-- Characters with none of those below U+0020 among them. -/
def Printed (cs : List Char) : Prop := ∀ c ∈ cs, 0x20 ≤ c.toNat

instance (cs : List Char) : Decidable (Printed cs) := List.decidableBAll _ cs

namespace Printed

variable {cs ds : List Char}

theorem append (h : Printed cs) (h' : Printed ds) : Printed (cs ++ ds) :=
  List.forall_mem_append.2 ⟨h, h'⟩

theorem cons {c : Char} (hc : 0x20 ≤ c.toNat) (h : Printed cs) : Printed (c :: cs) :=
  List.forall_mem_cons.2 ⟨hc, h⟩

theorem of_subset (h : Printed ds) (hsub : cs ⊆ ds) : Printed cs := fun c hc => h c (hsub hc)

theorem replicate (n : Nat) {c : Char} (hc : 0x20 ≤ c.toNat) : Printed (List.replicate n c) := by
  intro d hd
  rwa [List.eq_of_mem_replicate hd]

theorem nul_notMem (h : Printed cs) : '\x00' ∉ cs := fun hmem => absurd (h _ hmem) (by decide)

end Printed

/-! ### Digits -/

theorem printed_of_isDigit {cs : List Char} (h : ∀ c ∈ cs, c.isDigit = true) : Printed cs := by
  intro c hc
  have hlow := (Char.isDigit_iff_toNat.1 (h c hc)).1
  exact Nat.le_trans (by decide) hlow

theorem printed_toDigits (n : Nat) : Printed (Nat.toDigits 10 n) :=
  printed_of_isDigit fun _ => Nat.isDigit_of_mem_toDigits (by decide) (by decide)

theorem printed_hexDigits (width n : Nat) : Printed (Text.hexDigits width n) := by
  have hdigits : ∀ d : Fin 16, 0x20 ≤ (Text.hexDigit d).toNat := by decide
  intro c hc
  obtain ⟨d, rfl⟩ := Text.mem_hexDigits hc
  exact hdigits d

theorem printed_int (n : Int) : Printed (toString n).toList := by
  have hnat (m : Nat) : Printed (toString m).toList := by
    rw [Nat.toString_eq_repr, Nat.toList_repr]
    exact printed_toDigits m
  cases n with
  | ofNat m => exact hnat m
  | negSucc m =>
    show Printed ("-" ++ toString (m + 1)).toList
    rw [String.toList_append]
    exact .append (by decide) (hnat (m + 1))

namespace Number.Double

theorem printed_significant (c : Nat) : Printed (significant c) := by
  refine (printed_toDigits c).of_subset fun d hd => ?_
  have hmem := (List.dropWhile_suffix _).subset (List.mem_reverse.1 hd)
  exact List.mem_reverse.1 hmem

theorem printed_layout {ds : List Char} (h : Printed ds) (exponent : Int) :
    Printed (layout ds exponent) := by
  have htake (n : Nat) : Printed (ds.take n) := h.of_subset (List.take_subset n ds)
  have hdrop (n : Nat) : Printed (ds.drop n) := h.of_subset (List.drop_subset n ds)
  unfold layout
  split
  · refine ((htake _).append (.replicate _ (by decide))).append (.cons (by decide) ?_)
    split
    · decide
    · exact hdrop _
  · split
    · exact .cons (by decide) (.cons (by decide) (.append (.replicate _ (by decide)) h))
    · refine ((htake 1).append ?_).append (.cons (by decide) (.cons ?_ (printed_toDigits _)))
      · split
        · decide
        · exact .cons (by decide) (hdrop 1)
      · split <;> decide

theorem printed_toString (d : Double) : Printed d.toString.toList := by
  have hmagnitude : Printed (if d.parts.1 = 0 then ['0', '.', '0'] else
      layout (significant (shortestOf d.parts.1 d.parts.2).1)
        ((shortestOf d.parts.1 d.parts.2).2 +
          (Nat.toDigits 10 (shortestOf d.parts.1 d.parts.2).1).length - 1)) := by
    split
    · decide
    · exact printed_layout (printed_significant _) _
  unfold toString
  rw [String.toList_ofList]
  split
  · exact .cons (by decide) hmagnitude
  · exact hmagnitude

end Number.Double

/-! ### JSON texts -/

namespace Json

theorem Number.printed_text (n : Number) : Printed n.text.toList := by
  cases n with
  | integer n => exact printed_int n
  | double d => exact d.printed_toString

theorem printed_escapeChar (c : Char) : Printed (escapeChar c) := by
  unfold escapeChar
  -- All control characters without a short escape are written by their number.
  repeat' split
  case isFalse.isFalse.isFalse.isFalse.isFalse.isFalse.isFalse.isTrue =>
    exact .cons (by decide) (.cons (by decide) (printed_hexDigits 4 _))
  case isFalse.isFalse.isFalse.isFalse.isFalse.isFalse.isFalse.isFalse hc =>
    exact .cons (Nat.le_of_not_lt hc) (by decide)
  all_goals decide

theorem printed_quoted (s : String) : Printed (quoted s).toList := by
  rw [quoted, String.toList_ofList]
  refine .append (.cons (by decide) ?_) (by decide)
  exact List.forall_mem_flatMap.2 fun c _ => printed_escapeChar c

mutual
/-- The text of a value has no control characters. -/
theorem Value.printed_compact : (v : Value) → Printed v.compact.toList
  | .null => by decide
  | .bool b => by cases b <;> decide
  | .number n => n.printed_text
  | .string s => printed_quoted s
  | .array items => by
    rw [Value.compact, String.toList_append, String.toList_append]
    exact .append (.append (by decide) (printed_compactItems items)) (by decide)
  | .object members => by
    rw [Value.compact, String.toList_append, String.toList_append]
    exact .append (.append (by decide) (printed_compactMembers members)) (by decide)

theorem printed_compactItems : (items : List Value) → Printed (compactItems items).toList
  | [] => by decide
  | [v] => v.printed_compact
  | v :: w :: rest => by
    show Printed (v.compact ++ "," ++ compactItems (w :: rest)).toList
    rw [String.toList_append, String.toList_append]
    exact .append (.append v.printed_compact (by decide)) (printed_compactItems (w :: rest))

theorem printed_compactMembers : (members : Members) → Printed (compactMembers members).toList
  | [] => by decide
  | [(name, v)] => by
    rw [compactMembers, String.toList_append, String.toList_append]
    exact .append (.append (printed_quoted name) (by decide)) v.printed_compact
  | (name, v) :: m :: rest => by
    show Printed (quoted name ++ ":" ++ v.compact ++ "," ++ compactMembers (m :: rest)).toList
    rw [String.toList_append, String.toList_append, String.toList_append, String.toList_append]
    exact .append (.append (.append (.append (printed_quoted name) (by decide))
      v.printed_compact) (by decide)) (printed_compactMembers (m :: rest))
end

end Json

/-! ### Texts of numbers -/

namespace Text

theorem printed_of_afterSign {cs : List Char} (h : Printed (afterSign cs)) : Printed cs := by
  unfold afterSign at h
  split at h
  · exact .cons (by decide) h
  · exact .cons (by decide) h
  · exact h

theorem printed_of_exponent? {cs : List Char} (h : (exponent? cs).isSome = true) : Printed cs := by
  unfold exponent? at h
  split at h
  · decide
  · next c cs =>
    dsimp only at h
    split at h
    · next hdigits =>
      simp only [Bool.and_eq_true, Bool.or_eq_true, beq_iff_eq, List.all_eq_true] at hdigits
      obtain ⟨⟨hletter, -⟩, hdigits⟩ := hdigits
      have hc : 0x20 ≤ c.toNat := by
        rcases hletter with rfl | rfl <;> decide
      exact .cons hc (printed_of_afterSign (printed_of_isDigit hdigits))
    · cases h

theorem printed_of_decimal? {cs : List Char} (h : (decimal? cs).isSome = true) : Printed cs := by
  have hwhole (ds : List Char) : Printed (ds.takeWhile Char.isDigit) :=
    printed_of_isDigit fun _ hc => List.mem_takeWhile_imp hc
  have hsplit (ds : List Char) (hrest : Printed (ds.dropWhile Char.isDigit)) : Printed ds := by
    rw [← List.takeWhile_append_dropWhile (p := Char.isDigit) (l := ds)]
    exact (hwhole ds).append hrest
  have hexponent {e : Option Int} {f : Int → Nat × Int} {b : Bool}
      (h : (if b = true then none else e.map f).isSome = true) : e.isSome = true := by
    cases b <;> simp_all
  refine hsplit cs ?_
  unfold decimal? at h
  split at h
  next whole fraction rest hpoint =>
  split at hpoint
  · next after hafter =>
    cases hpoint
    rw [hafter]
    exact .cons (by decide) (hsplit after (printed_of_exponent? (hexponent h)))
  · cases hpoint
    exact printed_of_exponent? (hexponent h)

/-- Only capital letters are changed by lowering. -/
theorem le_toNat_of_toLower {c : Char} (h : 0x20 ≤ c.toLower.toNat) : 0x20 ≤ c.toNat := by
  unfold Char.toLower at h
  split at h
  · next hupper => exact Nat.le_trans (by decide) (UInt32.le_iff_toNat_le.1 hupper.1)
  · exact h

/-- A text that spells a number has no control characters. -/
theorem printed_of_spellsNumber {text : String} (h : spellsNumber text = true) :
    Printed text.toList := by
  rw [spellsNumber, Bool.or_eq_true] at h
  refine printed_of_afterSign ?_
  rcases h with h | h
  · exact printed_of_decimal? h
  · have hwords : ∀ word ∈ ["inf", "infinity", "nan"], Printed word.toList := by decide
    have hlower := hwords _ (List.contains_iff_mem.1 h)
    rw [String.toList_ofList] at hlower
    intro c hc
    exact le_toNat_of_toLower (hlower _ (List.mem_map_of_mem hc))

end Text

end ResourceTables
