import ResourceTables.Proofs.Steps
import ResourceTables.Proofs.Sql.Reading

/-!
# ResourceTables.Proofs.Sql.Insertion

Insertions read back from their texts. `readInsert` takes the text of an insertion apart into the table
and what is stored in each column. A row of texts and identifiers is read as what was written
(`readInsert_render`), less the characters that a literal cannot hold.
-/

namespace ResourceTables.Sql

/-! ### Reading -/

/-- A text as a literal can hold it. -/
def stored (text : String) : String := String.ofList (storable text.toList)

/-- The names among tokens. -/
def identifiers (ts : List Token) : List String :=
  ts.filterMap fun
    | .identifier name => some name
    | _ => none

/-- What stands up to a closing parenthesis, cut at the commas. -/
def readListed (ts : List Token) : List (List Token) :=
  (ts.takeWhile (· ≠ .plain ')')).splitOn (.plain ',')

/-- Reads a field of a row: a literal, which may be cast to a type, or `NULL`. -/
def readField (ts : List Token) : Option (Option String) :=
  match ts.dropWhile (· = .plain ' ') with
  | .literal value :: rest =>
    if rest = [] ∨ rest.take 2 = wording "::" then some (some value) else none
  | rest => if rest = wording "NULL" then some none else none

/-- Reads an insertion: the table, and what is stored in each column. -/
def readInsert (text : String) : Option (TableName × List (String × Option String)) := do
  let ts ← lex text.toList
  match ts.splitOn (.plain '(') with
  | [head, columns, values] =>
    match identifiers head with
    | [schema, table] =>
      if head = wording "INSERT INTO " ++ TableName.tokens ⟨schema, table⟩ ++ wording " " then
        let fields ← (readListed values).mapM readField
        if (identifiers columns).length = fields.length then
          some (⟨schema, table⟩, (identifiers columns).zip fields)
        else none
      else none
    | _ => none
  | _ => none

/-! ### Fields -/

theorem stored_eq_self {text : String} (h : '\x00' ∉ text.toList) : stored text = text := by
  rw [stored, storable, List.filter_eq_self.2, String.ofList_toList]
  exact fun c hc => bne_iff_ne.2 fun heq => h (heq ▸ hc)

theorem stored_uuid (id : Uuid) : stored id.toString = id.toString := by
  rw [stored, storable_uuid, String.ofList_toList]

/-- What is stored of an expression, if it is written as one literal or as `NULL`. -/
def Expression.content? : Expression → Option (Option String)
  | null => some none
  | text value | cast value _ => some (some (stored value))
  | uuid id => some (some id.toString)
  | uuidArray _ | collection _ _ => none

theorem readField_tokens {e : Expression} {content : Option String}
    (h : e.content? = some content) :
    readField e.tokens = some content ∧ readField (.plain ' ' :: e.tokens) = some content := by
  have hliteral (value : String) (rest : List Token)
      (hrest : rest = [] ∨ rest.take 2 = wording "::") :
      readField (literalToken value :: rest) = some (some (stored value)) ∧
        readField (.plain ' ' :: literalToken value :: rest) = some (some (stored value)) :=
    ⟨if_pos hrest, if_pos hrest⟩
  cases e with
  | null =>
    cases h
    decide
  | text value =>
    cases h
    exact hliteral value [] (.inl rfl)
  | cast value type =>
    cases h
    refine hliteral value _ (.inr ?_)
    cases type <;> decide +kernel
  | uuid id =>
    cases h
    have hfield := hliteral id.toString (wording "::uuid") (.inr rfl)
    rwa [stored_uuid] at hfield
  | uuidArray | collection => cases h

/-- Neither parentheses nor commas stand in a field. -/
theorem plain_notMem_tokens {e : Expression} {content : Option String}
    (h : e.content? = some content) {c : Char} (hc : c = '(' ∨ c = ')' ∨ c = ',') :
    Token.plain c ∉ e.tokens := by
  have hliteral {value : String} {ts : List Token} (hts : Token.plain c ∉ ts) :
      Token.plain c ∉ literalToken value :: ts := by
    simpa [literalToken] using hts
  cases e with
  | null => rcases hc with rfl | rfl | rfl <;> decide
  | text value => exact hliteral List.not_mem_nil
  | cast value type =>
    refine hliteral ?_
    rcases hc with rfl | rfl | rfl <;> cases type <;> decide +kernel
  | uuid id =>
    refine hliteral ?_
    rcases hc with rfl | rfl | rfl <;> decide
  | uuidArray | collection => cases h

/-! ### Lists -/

theorem intercalate_cons_head {α : Type} (sep : List α) (a : α) (part : List α)
    (parts : List (List α)) :
    sep.intercalate ((a :: part) :: parts) = a :: sep.intercalate (part :: parts) := by
  cases parts with
  | nil => simp
  | cons next parts => simp [List.intercalate_cons_cons]

/-- The blank after a comma belongs to what comes next. -/
theorem listedTokens_cons (part : List Token) (parts : List (List Token)) :
    listedTokens (part :: parts) =
      [Token.plain ','].intercalate (part :: parts.map (.plain ' ' :: ·)) := by
  have hcomma : wording ", " = [.plain ',', .plain ' '] := rfl
  unfold listedTokens
  induction parts generalizing part with
  | nil => simp
  | cons next parts ih =>
    rw [List.intercalate_cons_cons, ih, List.map_cons, List.intercalate_cons_cons,
      intercalate_cons_head, hcomma]
    simp

theorem splitOn_listedTokens {part : List Token} {parts : List (List Token)}
    (h : ∀ p ∈ part :: parts, Token.plain ',' ∉ p) :
    (listedTokens (part :: parts)).splitOn (.plain ',') =
      part :: parts.map (.plain ' ' :: ·) := by
  obtain ⟨hpart, hparts⟩ := List.forall_mem_cons.1 h
  rw [listedTokens_cons, List.splitOn_intercalate _ _ (List.cons_ne_nil _ _)]
  refine List.forall_mem_cons.2 ⟨hpart, List.forall_mem_map.2 fun p hp => ?_⟩
  simpa using hparts p hp

theorem plain_notMem_listedTokens {parts : List (List Token)} {c : Char}
    (hc : c = '(' ∨ c = ')') (h : ∀ p ∈ parts, Token.plain c ∉ p) :
    Token.plain c ∉ listedTokens parts := by
  intro hmem
  rcases mem_intercalate hmem with hmem | ⟨p, hp, hmem⟩
  · revert hmem
    rcases hc with rfl | rfl <;> decide
  · exact h p hp hmem

theorem identifiers_append (ts us : List Token) :
    identifiers (ts ++ us) = identifiers ts ++ identifiers us := List.filterMap_append

theorem identifiers_wording (s : String) : identifiers (wording s) = [] :=
  List.filterMap_eq_nil_iff.2 (List.forall_mem_map.2 fun _ _ => rfl)

theorem identifiers_listedTokens (names : List String) :
    identifiers (listedTokens (names.map fun name => [.identifier name])) = names := by
  unfold listedTokens
  induction names with
  | nil => rfl
  | cons name names ih =>
    cases names with
    | nil => simp [identifiers]
    | cons next names =>
      rw [List.map_cons, List.map_cons, List.intercalate_cons_cons, identifiers_append,
        identifiers_append, identifiers_wording, ← List.map_cons (f := fun name =>
          [Token.identifier name]), ih]
      rfl

/-! ### Insertions -/

variable {t : TableName} {fields : List (String × Expression)} {contents : List (Option String)}

/-- The fields of a row are read one by one. -/
theorem mapM_readField_fields {rest : List Token} (hne : fields ≠ [])
    (h : List.Forall₂ (fun f c => f.2.content? = some c) fields contents) :
    (readListed (listedTokens (fields.map fun f => f.2.tokens) ++ .plain ')' :: rest)).mapM
      readField = some contents := by
  have hplain {c : Char} (hc : c = '(' ∨ c = ')' ∨ c = ',') :
      ∀ p ∈ fields.map fun f => f.2.tokens, Token.plain c ∉ p := by
    refine List.forall_mem_map.2 fun f hf => ?_
    obtain ⟨content, -, hcontent⟩ := exists_right_of_mem h hf
    exact plain_notMem_tokens hcontent hc
  have htake : (listedTokens (fields.map fun f => f.2.tokens) ++ .plain ')' :: rest).takeWhile
      (· ≠ .plain ')') = listedTokens (fields.map fun f => f.2.tokens) := by
    have hclose := plain_notMem_listedTokens (.inr rfl) (hplain (.inr (.inl rfl)))
    rw [List.takeWhile_append_of_pos, List.takeWhile_cons_of_neg (by simp), List.append_nil]
    exact fun t ht => decide_eq_true fun heq => hclose (heq ▸ ht)
  rw [readListed, htake]
  cases h with
  | nil => exact absurd rfl hne
  | cons hfirst hrest =>
    rw [List.map_cons, splitOn_listedTokens (hplain (.inr (.inr rfl)))]
    refine mapM_eq_some_of_forall₂ (.cons (readField_tokens hfirst).1 ?_)
    rw [List.map_map, List.forall₂_map_left_iff]
    exact hrest.imp fun f c hc => (readField_tokens hc).2

/-- The parentheses of an insertion are those around the names and around the fields. -/
theorem splitOn_tokens_insert
    (h : List.Forall₂ (fun f c => f.2.content? = some c) fields contents) :
    (Statement.insert t fields).tokens.splitOn (.plain '(') =
      [wording "INSERT INTO " ++ t.tokens ++ wording " ",
        listedTokens (fields.map fun f => [.identifier f.1]) ++ wording ") VALUES ",
        listedTokens (fields.map fun f => f.2.tokens) ++ .plain ')' :: [.plain ';']] := by
  have htokens : (Statement.insert t fields).tokens = [Token.plain '('].intercalate
      [wording "INSERT INTO " ++ t.tokens ++ wording " ",
        listedTokens (fields.map fun f => [.identifier f.1]) ++ wording ") VALUES ",
        listedTokens (fields.map fun f => f.2.tokens) ++ .plain ')' :: [.plain ';']] := by
    have hopen : wording " (" = wording " " ++ [.plain '('] := rfl
    have hbetween : wording ") VALUES (" = wording ") VALUES " ++ [.plain '('] := rfl
    have hclose : wording ")" = [.plain ')'] := rfl
    rw [Statement.tokens, Statement.body, hopen, hbetween, hclose, List.intercalate_cons_cons,
      List.intercalate_cons_cons, List.intercalate_singleton]
    simp only [List.append_assoc, List.cons_append, List.nil_append]
  rw [htokens, List.splitOn_intercalate _ _ (List.cons_ne_nil _ _)]
  simp only [List.forall_mem_cons, List.mem_append, not_or]
  refine ⟨⟨⟨by decide, by simp [TableName.tokens]⟩, by decide⟩, ⟨?columns, by decide⟩,
    ⟨?values, by decide⟩, by simp⟩
  case columns =>
    exact plain_notMem_listedTokens (.inl rfl) (List.forall_mem_map.2 fun f _ => by simp)
  case values =>
    refine plain_notMem_listedTokens (.inl rfl) (List.forall_mem_map.2 fun f hf => ?_)
    obtain ⟨content, -, hcontent⟩ := exists_right_of_mem h hf
    exact plain_notMem_tokens hcontent (.inl rfl)

/-- An insertion of texts and identifiers is read back. -/
theorem readInsert_render (hne : fields ≠ [])
    (h : List.Forall₂ (fun f c => f.2.content? = some c) fields contents) :
    readInsert (Statement.insert t fields).render =
      some (t, (fields.map Prod.fst).zip contents) := by
  have htable : identifiers (wording "INSERT INTO " ++ t.tokens ++ wording " ") =
      [t.schema, t.table] := by
    rw [identifiers_append, identifiers_append, identifiers_wording, identifiers_wording]
    rfl
  have hcolumns : identifiers (listedTokens (fields.map fun f => [.identifier f.1]) ++
      wording ") VALUES ") = fields.map Prod.fst := by
    rw [identifiers_append, identifiers_wording, List.append_nil,
      ← identifiers_listedTokens (fields.map Prod.fst), List.map_map]
    rfl
  have hlength : (fields.map Prod.fst).length = contents.length :=
    (List.length_map _).trans h.length_eq
  rw [readInsert, Statement.lex_render, Option.bind_eq_bind, Option.bind_some,
    splitOn_tokens_insert h]
  dsimp only
  rw [htable]
  dsimp only
  rw [if_pos rfl, mapM_readField_fields hne h, hcolumns, Option.bind_eq_bind, Option.bind_some,
    if_pos hlength]

end ResourceTables.Sql
