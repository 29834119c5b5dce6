import Mathlib.Data.Set.Function
import ResourceTables.Proofs.Sql.Insertion

/-!
# ResourceTables.Proofs.Sql.Unquoting

Quoting is undone by reading. A quoted text is read up to its closing quote, and exactly the texts that
quoting writes are read so, unless a further quote follows and runs together with the closing one
(`unquote?_eq_some_iff`). So texts that are quoted alike are the same, less what a literal cannot hold.
-/

namespace ResourceTables.Sql

/-- Reads the quoted text that a text begins with: what it stands for, and what follows it. -/
def unquote? (quote : Char) (text : String) : Option (String × String) :=
  match text.toList with
  | [] => none
  | c :: rest =>
    if c = quote then
      (readQuoted quote rest).map fun (value, after) => (String.ofList value, String.ofList after)
    else none

/-! ### What is read -/

/-- A text is read up to a closing quote exactly if doubled quotes and the closing one make it up. -/
theorem readQuoted_eq_some_iff {quote : Char} {cs value after : List Char} :
    readQuoted quote cs = some (value, after) ↔
      cs = doubled quote value ++ quote :: after ∧ after.head? ≠ some quote := by
  refine ⟨fun h => ?_, fun h => h.1 ▸ readQuoted_doubled h.2⟩
  induction cs using readQuoted.induct quote generalizing value with
  | case1 => cases h
  | case2 =>
    rw [readQuoted, if_pos rfl] at h
    cases h
    exact ⟨rfl, by simp⟩
  | case3 c hc =>
    rw [readQuoted, if_neg hc] at h
    cases h
  | case4 c d rest hc ih =>
    rw [readQuoted, if_pos hc] at h
    obtain ⟨⟨tail, _⟩, hread, heq⟩ := Option.map_eq_some_iff.1 h
    cases heq
    obtain ⟨hrest, hafter⟩ := ih hread
    have hdoubled : doubled quote (c :: tail) = c :: doubled quote tail := by
      simp [doubled, hc]
    exact ⟨by rw [hrest, hdoubled, List.cons_append], hafter⟩
  | case5 c rest hc ih =>
    rw [readQuoted, if_neg hc, if_pos rfl] at h
    obtain ⟨⟨tail, _⟩, hread, heq⟩ := Option.map_eq_some_iff.1 h
    cases heq
    obtain ⟨hrest, hafter⟩ := ih hread
    refine ⟨?_, hafter⟩
    rw [hrest, not_not.1 hc]
    simp [doubled]
  | case6 c d rest hc hd =>
    rw [readQuoted, if_neg hc, if_neg hd] at h
    cases h
    refine ⟨by rw [not_not.1 hc, doubled_nil, List.nil_append], ?_⟩
    simpa using hd

/-- Exactly what is quoted is read, and no quote follows it. -/
theorem unquote?_eq_some_iff {quote : Char} {text value after : String} :
    unquote? quote text = some (value, after) ↔
      text.toList = quote :: doubled quote value.toList ++ quote :: after.toList ∧
        after.toList.head? ≠ some quote := by
  unfold unquote?
  constructor
  · intro h
    split at h
    · cases h
    · next c rest htext =>
      split at h
      · next hc =>
        obtain ⟨⟨vs, as⟩, hread, heq⟩ := Option.map_eq_some_iff.1 h
        cases heq
        rw [String.toList_ofList, String.toList_ofList, htext, hc, List.cons_append,
          List.cons.injEq, eq_self, true_and]
        exact readQuoted_eq_some_iff.1 hread
      · cases h
  · intro h
    obtain ⟨htext, hafter⟩ := h
    have hread : readQuoted quote (doubled quote value.toList ++ quote :: after.toList) =
        some (value.toList, after.toList) := readQuoted_doubled hafter
    rw [htext]
    dsimp only [List.cons_append]
    rw [if_pos rfl, hread, Option.map_some, String.ofList_toList, String.ofList_toList]

/-! ### Reading what was quoted -/

theorem unquote?_identifier_append (name after : String) :
    unquote? '\x22' (identifier name ++ after) = some (name, after) ↔
      after.toList.head? ≠ some '\x22' := by
  rw [unquote?_eq_some_iff, String.toList_append, toList_identifier]
  simp [Token.source, identifierChars]

theorem unquote?_literal_append (value after : String) :
    unquote? '\x27' (literal value ++ after) = some (stored value, after) ↔
      after.toList.head? ≠ some '\x27' := by
  rw [unquote?_eq_some_iff, String.toList_append, toList_literal]
  simp [Token.source, literalToken, stored]

theorem identifier_injective : Function.Injective identifier := by
  intro name other h
  have hname := (unquote?_identifier_append name "").2 (by decide)
  have hother := (unquote?_identifier_append other "").2 (by decide)
  rw [h] at hname
  exact congrArg Prod.fst (Option.some.inj (hname.symm.trans hother))

/-- Literals are told apart by all that they can hold. -/
theorem stored_eq_of_literal_eq {value other : String} (h : literal value = literal other) :
    stored value = stored other := by
  have hvalue := (unquote?_literal_append value "").2 (by decide)
  have hother := (unquote?_literal_append other "").2 (by decide)
  rw [h] at hvalue
  exact congrArg Prod.fst (Option.some.inj (hvalue.symm.trans hother))

/-- A quoted text is read as what was quoted, less the characters NUL in a literal, and nothing else is
consumed; this is so exactly if the text after it does not begin with the same quote. So different names
are quoted differently, and so are different texts without NUL. -/
theorem unquote_quote :
    (∀ value after : String, unquote? '\x27' (literal value ++ after) =
        some (String.ofList (value.toList.filter fun c => c ≠ '\x00'), after) ↔
      after.toList.head? ≠ some '\x27') ∧
    (∀ name after : String, unquote? '\x22' (identifier name ++ after) = some (name, after) ↔
      after.toList.head? ≠ some '\x22') ∧
    Function.Injective identifier ∧
    Set.InjOn literal {value | '\x00' ∉ value.toList} := by
  refine ⟨?literals, unquote?_identifier_append, identifier_injective, ?apart⟩
  case literals =>
    intro value after
    have hstored : String.ofList (value.toList.filter fun c => c ≠ '\x00') = stored value := by
      unfold stored storable
      congr 1
      exact List.filter_congr fun c _ => decide_not
    rw [hstored]
    exact unquote?_literal_append value after
  case apart =>
    intro value hvalue other hother h
    have hstored := stored_eq_of_literal_eq h
    rwa [stored_eq_self hvalue, stored_eq_self hother] at hstored

/-- Quotes and characters NUL stand next to the closing quote, and further quotes follow. -/
theorem unquote_quote_trailingQuotes :
    unquote? '\x27' (literal "wall's ''\x00'" ++ "::text, 'x'") =
        some ("wall's '''", "::text, 'x'") ∧
      unquote? '\x22' (identifier "a\"b\"" ++ ".\"c\"") = some ("a\"b\"", ".\"c\"") ∧
      literal "'" ≠ literal "''" := by
  obtain ⟨hliterals, hidentifiers, -, hapart⟩ := unquote_quote
  refine ⟨(hliterals _ _).2 (by decide), (hidentifiers _ _).2 (by decide), fun h => ?_⟩
  have heq : "'" = "''" := hapart (by simp) (by simp) h
  exact absurd heq (by decide)

end ResourceTables.Sql
