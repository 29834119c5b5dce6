import Mathlib.Data.List.Chain
import ResourceTables.Sql.Quoting

/-!
# ResourceTables.Proofs.Sql.Lexing

How a database reads the text of a script, up to the words it is made of.

Design points:

* The rules are those of PostgreSQL with standard conforming strings. Inside quotes a doubled quote
  stands for itself and nothing else is special; a comment goes from two hyphens to the end of the
  line.
* Everything else is read character by character. A text is refused where other rules would apply:
  at an escape string or another literal with a prefix, a dollar quote, a block comment, an operator.
* Tokens are told by their source texts. They are read back from them as long as no two of them run
  together (`lex_flatMap_source`).
-/

namespace ResourceTables.Sql

/-- What a text is read as. -/
inductive Token
  | literal (value : String)
  | identifier (name : String)
  | comment (text : String)
  /-- A character outside of quotes and comments. -/
  | plain (c : Char)
  deriving DecidableEq

/-- The characters that words and numbers are made of. -/
def isWordChar (c : Char) : Bool := c.isAlphanum || c = '_'

/-- The characters that may stand outside of quotes and comments. -/
def isPlainChar (c : Char) : Bool :=
  isWordChar c || [' ', '\n', '.', ',', ';', ':', '=', '(', ')', '[', ']'].contains c

/-- The quotes of literals and identifiers. -/
def isQuoteChar (c : Char) : Bool := c = '\x27' || c = '\x22'

/-- Whether a text has no line break. -/
def isLine (text : String) : Bool := text.toList.all fun c => c ≠ '\n' && c ≠ '\r'

theorem isQuoteChar_of_isPlainChar {c : Char} (h : isPlainChar c = true) :
    isQuoteChar c = false := by
  rw [isQuoteChar, Bool.or_eq_false_iff, decide_eq_false_iff_not, decide_eq_false_iff_not]
  constructor <;> rintro rfl <;> exact absurd h (by decide)

namespace Token

/-- The text of a token. -/
def source : Token → List Char
  | literal value => '\x27' :: doubled '\x27' value.toList ++ ['\x27']
  | identifier name => identifierChars name.toList
  | comment text => '-' :: '-' :: text.toList ++ ['\n']
  | plain c => [c]

/-- The first character of a token. -/
def first : Token → Char
  | literal _ => '\x27'
  | identifier _ => '\x22'
  | comment _ => '-'
  | plain c => c

theorem head?_flatMap_source (ts : List Token) :
    (ts.flatMap source).head? = ts.head?.map first := by
  cases ts with
  | nil => rfl
  | cons t ts => cases t <;> rfl

/-- Whether the text of a token is read as one. -/
def isValid : Token → Bool
  | comment text => isLine text
  | plain c => isPlainChar c
  | _ => true

/-- Whether two tokens do not run together. A word before a quote would be a prefix of it. -/
def joins : Token → Token → Bool
  | literal _, literal _ | identifier _, identifier _ => false
  | plain c, literal _ | plain c, identifier _ => !isWordChar c
  | _, _ => true

end Token

/-! ### Reading -/

/-- Reads up to the closing quote; what is quoted, and the rest. -/
def readQuoted (quote : Char) : List Char → Option (List Char × List Char)
  | [] => none
  | [c] => if c = quote then some ([], []) else none
  | c :: d :: rest =>
    if c ≠ quote then (readQuoted quote (d :: rest)).map fun (value, after) => (c :: value, after)
    -- Only the character after a quote tells whether it closes.
    else if d = quote then (readQuoted quote rest).map fun (value, after) => (quote :: value, after)
    else some ([], d :: rest)

theorem length_of_readQuoted {quote : Char} {cs value after : List Char}
    (h : readQuoted quote cs = some (value, after)) : after.length < cs.length := by
  induction cs using readQuoted.induct quote generalizing value with
  | case1 => cases h
  | case2 =>
    rw [readQuoted, if_pos rfl] at h
    cases h
    exact Nat.zero_lt_one
  | case3 c hc =>
    rw [readQuoted, if_neg hc] at h
    cases h
  | case4 c d rest hc ih =>
    rw [readQuoted, if_pos hc] at h
    obtain ⟨⟨_, _⟩, hread, heq⟩ := Option.map_eq_some_iff.1 h
    cases heq
    have := ih hread
    simp only [List.length_cons] at this ⊢
    omega
  | case5 c rest hc ih =>
    rw [readQuoted, if_neg hc, if_pos rfl] at h
    obtain ⟨⟨_, _⟩, hread, heq⟩ := Option.map_eq_some_iff.1 h
    cases heq
    have := ih hread
    simp only [List.length_cons]
    omega
  | case6 c d rest hc hd =>
    rw [readQuoted, if_neg hc, if_neg hd] at h
    cases h
    simp

/-- The tokens of a text; nothing if a quote is not closed or if the text has to be read by other
rules. -/
def lex (cs : List Char) : Option (List Token) :=
  match cs with
  | [] => some []
  | c :: rest =>
    if c = '\x27' then
      match _h : readQuoted '\x27' rest with
      | some (value, after) => (lex after).map (.literal (String.ofList value) :: ·)
      | none => none
    else if c = '\x22' then
      match _h : readQuoted '\x22' rest with
      | some (name, after) => (lex after).map (.identifier (String.ofList name) :: ·)
      | none => none
    -- A carriage return would end the comment as well; such a text is refused.
    else if c = '-' ∧ rest.head? = some '-' ∧ '\r' ∉ rest.tail.takeWhile (· ≠ '\n') then
      (lex ((rest.tail.dropWhile (· ≠ '\n')).drop 1)).map
        (.comment (String.ofList (rest.tail.takeWhile (· ≠ '\n'))) :: ·)
    -- A word right before a quote would tell how to read what is quoted.
    else if isPlainChar c && !(isWordChar c && rest.head?.any isQuoteChar) then
      (lex rest).map (.plain c :: ·)
    else none
termination_by cs.length
decreasing_by
  · have := length_of_readQuoted _h
    simp only [List.length_cons]
    omega
  · have := length_of_readQuoted _h
    simp only [List.length_cons]
    omega
  · have := (List.dropWhile_suffix (l := rest.tail) (· ≠ '\n')).length_le
    simp only [List.length_cons, List.length_drop, List.length_tail] at this ⊢
    omega
  · simp

/-! ### Reading what was written -/

theorem readQuoted_doubled {quote : Char} {cs rest : List Char} (h : rest.head? ≠ some quote) :
    readQuoted quote (doubled quote cs ++ quote :: rest) = some (cs, rest) := by
  induction cs with
  | nil =>
    cases rest with
    | nil => simp [readQuoted]
    | cons d rest =>
      have hd : d ≠ quote := fun heq => h (congrArg some heq)
      simp [readQuoted, hd]
  | cons c cs ih =>
    have hdoubled : doubled quote (c :: cs) =
        (if c = quote then [quote, quote] else [c]) ++ doubled quote cs := rfl
    rw [hdoubled]
    by_cases hc : c = quote
    · rw [if_pos hc, List.append_assoc, hc]
      simp [readQuoted, ih]
    · rw [if_neg hc, List.append_assoc, List.singleton_append]
      -- What follows the character is not empty, since the closing quote is still to come.
      obtain ⟨d, tail, htail⟩ := List.exists_cons_of_ne_nil
        (l := doubled quote cs ++ quote :: rest) (by simp)
      rw [htail] at ih ⊢
      simp [readQuoted, hc, ih]

theorem lex_literal {value : String} {rest : List Char} (h : rest.head? ≠ some '\x27') :
    lex ((Token.literal value).source ++ rest) = (lex rest).map (.literal value :: ·) := by
  have hread : readQuoted '\x27' (doubled '\x27' value.toList ++ '\x27' :: rest) =
      some (value.toList, rest) := readQuoted_doubled h
  rw [Token.source, List.cons_append, List.cons_append, List.append_assoc, List.singleton_append,
    lex, if_pos rfl]
  split
  · next value' after hread' =>
    cases hread.symm.trans hread'
    rw [String.ofList_toList]
  · next hread' => cases hread.symm.trans hread'

theorem lex_identifier {name : String} {rest : List Char} (h : rest.head? ≠ some '\x22') :
    lex ((Token.identifier name).source ++ rest) = (lex rest).map (.identifier name :: ·) := by
  have hread : readQuoted '\x22' (doubled '\x22' name.toList ++ '\x22' :: rest) =
      some (name.toList, rest) := readQuoted_doubled h
  rw [Token.source, identifierChars, List.cons_append, List.cons_append, List.append_assoc,
    List.singleton_append, lex, if_neg (by decide), if_pos rfl]
  split
  · next name' after hread' =>
    cases hread.symm.trans hread'
    rw [String.ofList_toList]
  · next hread' => cases hread.symm.trans hread'

theorem lex_comment {text : String} {rest : List Char} (h : isLine text = true) :
    lex ((Token.comment text).source ++ rest) = (lex rest).map (.comment text :: ·) := by
  rw [isLine, List.all_eq_true] at h
  have hne : ∀ c ∈ text.toList, decide (c ≠ '\n') = true := fun c hc =>
    (Bool.and_eq_true_iff.1 (h c hc)).1
  have hreturn : '\r' ∉ text.toList := fun hmem => absurd (h _ hmem) (by decide)
  have htake : (text.toList ++ '\n' :: rest).takeWhile (fun c => decide (c ≠ '\n')) =
      text.toList := by
    rw [List.takeWhile_append_of_pos hne]
    simp
  have hsource : (Token.comment text).source ++ rest =
      '-' :: '-' :: (text.toList ++ '\n' :: rest) := by
    simp [Token.source]
  rw [hsource, lex, if_neg (by decide), if_neg (by decide), List.tail_cons, htake,
    if_pos ⟨rfl, rfl, hreturn⟩, List.dropWhile_append_of_pos hne, String.ofList_toList]
  simp

theorem lex_plain {c : Char} {rest : List Char} (hc : isPlainChar c = true)
    (h : isWordChar c = true → rest.head?.any isQuoteChar = false) :
    lex ((Token.plain c).source ++ rest) = (lex rest).map (.plain c :: ·) := by
  have hquote := isQuoteChar_of_isPlainChar hc
  rw [isQuoteChar, Bool.or_eq_false_iff, decide_eq_false_iff_not, decide_eq_false_iff_not] at hquote
  have hcomment : ¬ (c = '-' ∧ rest.head? = some '-' ∧
      '\r' ∉ rest.tail.takeWhile (· ≠ '\n')) := by
    rintro ⟨rfl, -⟩
    revert hc
    decide
  rw [Token.source, List.singleton_append, lex, if_neg hquote.1, if_neg hquote.2,
    if_neg hcomment, if_pos]
  rw [hc, Bool.true_and]
  cases hw : isWordChar c with
  | false => rfl
  | true => rw [h hw]; rfl

/-- A token that begins with a quote is quoted by it. -/
theorem Token.eq_of_isQuoteChar_first {t : Token} (ht : t.isValid = true)
    (h : isQuoteChar t.first = true) :
    (∃ value, t = .literal value ∧ t.first = '\x27') ∨
      ∃ name, t = .identifier name ∧ t.first = '\x22' := by
  cases t with
  | literal value => exact .inl ⟨value, rfl, rfl⟩
  | identifier name => exact .inr ⟨name, rfl, rfl⟩
  | comment text => exact absurd h (by simp [first, isQuoteChar])
  | plain c => exact absurd h (by simp [first, isQuoteChar_of_isPlainChar ht])

/-- Tokens that do not run together are read back from their texts. -/
theorem lex_flatMap_source {ts : List Token} (hvalid : ∀ t ∈ ts, t.isValid = true)
    (hjoins : ts.IsChain fun t u => t.joins u = true) :
    lex (ts.flatMap Token.source) = some ts := by
  induction ts with
  | nil => rw [List.flatMap_nil, lex]
  | cons t ts ih =>
    obtain ⟨hnext, hchain⟩ := List.isChain_cons.1 hjoins
    have hread := ih (fun u hu => hvalid u (List.mem_cons_of_mem _ hu)) hchain
    -- What stands at the head of the rest is the first character of a token that does not run
    -- together with this one.
    have hhead {c : Char} (hc : (ts.flatMap Token.source).head? = some c) :
        ∃ u, u.isValid = true ∧ t.joins u = true ∧ u.first = c := by
      rw [Token.head?_flatMap_source] at hc
      obtain ⟨u, hu, hfirst⟩ := Option.map_eq_some_iff.1 hc
      exact ⟨u, hvalid u (List.mem_cons_of_mem _ (List.mem_of_head? hu)), hnext u hu, hfirst⟩
    rw [List.flatMap_cons]
    cases t with
    | literal value =>
      rw [lex_literal, hread, Option.map_some]
      intro hc
      obtain ⟨u, hu, hjoin, hfirst⟩ := hhead hc
      rcases u.eq_of_isQuoteChar_first hu (hfirst ▸ rfl) with ⟨_, rfl, -⟩ | ⟨_, rfl, -⟩
      · cases hjoin
      · cases hfirst
    | identifier name =>
      rw [lex_identifier, hread, Option.map_some]
      intro hc
      obtain ⟨u, hu, hjoin, hfirst⟩ := hhead hc
      rcases u.eq_of_isQuoteChar_first hu (hfirst ▸ rfl) with ⟨_, rfl, -⟩ | ⟨_, rfl, -⟩
      · cases hfirst
      · cases hjoin
    | comment text =>
      rw [lex_comment (hvalid _ List.mem_cons_self), hread, Option.map_some]
    | plain c =>
      rw [lex_plain (hvalid _ List.mem_cons_self), hread, Option.map_some]
      intro hword
      cases hc : (ts.flatMap Token.source).head? with
      | none => rfl
      | some d =>
        obtain ⟨u, hu, hjoin, rfl⟩ := hhead hc
        rw [Option.any_some, Bool.eq_false_iff]
        intro hd
        rcases u.eq_of_isQuoteChar_first hu hd with ⟨_, rfl, -⟩ | ⟨_, rfl, -⟩ <;>
          simp [Token.joins, hword] at hjoin

end ResourceTables.Sql
