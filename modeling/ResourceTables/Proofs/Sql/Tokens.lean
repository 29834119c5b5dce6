import Mathlib.Data.List.Chain
import ResourceTables.Sql.Statement
import ResourceTables.Proofs.Sql.Lexing
import ResourceTables.Proofs.Uuid

/-!
# ResourceTables.Proofs.Sql.Tokens

Statements as tokens. `Statement.tokens` follows the wording of `Statement.render` and is its text
(`toList_render`); what it keeps apart are the names and the texts that were put into it.

Design points:

* Each token of a statement is a literal, an identifier out of `Statement.names`, or a character of the
  wording, and no semicolon stands before the end (`clean_body`). Pieces of wording are told to
  separate what stands around them, so no two tokens run together.
* The wording of a statement depends on its kind, on types and on how much it holds, but on no name
  and no text (`outside_body`).
-/

namespace ResourceTables.Sql

/-! ### Wording -/

/-- A piece of wording, character by character. -/
def wording (s : String) : List Token := s.toList.map .plain

@[simp] theorem flatMap_source_wording (s : String) :
    (wording s).flatMap Token.source = s.toList := by
  simp [wording, List.flatMap_map, Token.source]

/-- Parts with a comma and a blank between two. -/
def listedTokens (parts : List (List Token)) : List Token := (wording ", ").intercalate parts

/-- What is told of a text piece by piece is told of pieces with a separator between them. -/
theorem apply_intercalate {α β : Type} {f : List α → List β} (hnil : f [] = [])
    (happend : ∀ l l', f (l ++ l') = f l ++ f l') (sep : List α) (parts : List (List α)) :
    f (sep.intercalate parts) = (f sep).intercalate (parts.map f) := by
  induction parts with
  | nil => exact hnil
  | cons part parts ih =>
    cases parts with
    | nil => simp
    | cons next parts =>
      rw [List.intercalate_cons_cons, happend, happend, ih]
      exact (List.intercalate_cons_cons).symm

theorem flatMap_source_intercalate (sep : String) (parts : List (List Token)) :
    ((wording sep).intercalate parts).flatMap Token.source =
      sep.toList.intercalate (parts.map fun part => part.flatMap Token.source) := by
  have h := apply_intercalate (f := fun ts => List.flatMap Token.source ts) rfl
    (fun _ _ => List.flatMap_append) (wording sep) parts
  rwa [flatMap_source_wording] at h

/-- The literal of a text, without what a literal cannot hold. -/
def literalToken (value : String) : Token := .literal (String.ofList (storable value.toList))

theorem toList_literal (value : String) : (literal value).toList = (literalToken value).source := by
  simp [literal, literalChars, literalToken, Token.source]

theorem toList_identifier (name : String) :
    (identifier name).toList = (Token.identifier name).source := by
  simp [identifier, Token.source]

/-- A table in its schema. -/
def TableName.tokens (t : TableName) : List Token :=
  [.identifier t.schema, .plain '.', .identifier t.table]

theorem toList_qualified (t : TableName) :
    (Phrase.qualified t.schema t.table).toList = t.tokens.flatMap Token.source := by
  simp [Phrase.qualified, TableName.tokens, toList_identifier, Token.source]

theorem toList_listed {α : Type} {l : List α} {f : α → String} {g : α → List Token}
    (h : ∀ a ∈ l, (f a).toList = (g a).flatMap Token.source) :
    (Phrase.listed (l.map f)).toList = (listedTokens (l.map g)).flatMap Token.source := by
  rw [Phrase.listed, String.toList_intercalate, listedTokens, flatMap_source_intercalate,
    List.map_map, List.map_map]
  congr 1
  exact List.map_congr_left h

/-! ### Expressions -/

/-- One geometry of a collection. -/
def geometryTokens (srid : Nat) (geojson : String) : List Token :=
  wording "ST_SetSRID(ST_GeomFromGeoJSON(" ++ [literalToken geojson] ++
    wording ("), " ++ toString srid ++ ")")

/-- The tokens of an expression. -/
def Expression.tokens : Expression → List Token
  | null => wording "NULL"
  | text value => [literalToken value]
  | cast value type =>
    literalToken value :: wording ("::" ++ String.ofList (Text.lowercase type.sql.toList))
  | uuid id => literalToken id.toString :: wording "::uuid"
  | uuidArray ids =>
    wording "ARRAY[" ++ listedTokens (ids.map fun id => [literalToken id.toString]) ++
      wording "]::uuid[]"
  | collection geometries srid =>
    wording "ST_Collect(ARRAY[" ++
      listedTokens (geometries.map (geometryTokens srid)) ++ wording "])"

theorem doubled_eq_self {quote : Char} {cs : List Char} (h : quote ∉ cs) :
    doubled quote cs = cs := by
  induction cs with
  | nil => rfl
  | cons c cs ih =>
    obtain ⟨hc, hcs⟩ := List.ne_and_not_mem_of_not_mem_cons h
    show (if c = quote then [quote, quote] else [c]) ++ doubled quote cs = c :: cs
    rw [if_neg hc.symm, ih hcs]
    rfl

/-- A literal can hold all of the text of an identifier. -/
theorem storable_uuid (id : Uuid) : storable id.toString.toList = id.toString.toList := by
  have hdigits : ∀ d : Fin 16, Text.hexDigit d ≠ '\x00' := by decide
  refine List.filter_eq_self.2 ?_
  intro c hc
  rcases Uuid.mem_toString hc with rfl | ⟨d, rfl⟩
  · rfl
  · simpa using hdigits d

/-- Nothing in the text of an identifier has to be written in another way. -/
theorem toList_uuid (id : Uuid) : (Phrase.uuid id).toList =
    (literalToken id.toString).source ++ "::uuid".toList := by
  have hdigits : ∀ d : Fin 16, Text.hexDigit d ≠ '\x27' := by decide
  have hquote : '\x27' ∉ id.toString.toList := by
    intro h
    rcases Uuid.mem_toString h with h | ⟨d, h⟩
    · exact absurd h (by decide)
    · exact hdigits d h.symm
  have hopen : "'".toList = ['\x27'] := rfl
  have hclose : "'::uuid".toList = '\x27' :: "::uuid".toList := rfl
  unfold Phrase.uuid
  rw [literalToken, Token.source, String.toList_ofList, storable_uuid, doubled_eq_self hquote,
    String.toList_append, String.toList_append, hopen, hclose, List.append_assoc, List.append_assoc,
    List.singleton_append, List.singleton_append, List.cons_append]

theorem Expression.toList_geometry (srid : Nat) (geojson : String) :
    (geometry srid geojson).toList = (geometryTokens srid geojson).flatMap Token.source := by
  unfold geometry geometryTokens
  simp only [String.toList_append, toList_literal, List.flatMap_append, List.flatMap_singleton,
    flatMap_source_wording, List.append_assoc]

theorem Expression.toList_render (e : Expression) :
    e.render.toList = e.tokens.flatMap Token.source := by
  cases e with
  | null => exact (flatMap_source_wording "NULL").symm
  | text value => exact (toList_literal value).trans (List.flatMap_singleton _ _).symm
  | cast value type =>
    unfold render tokens Phrase.cast
    simp only [String.toList_append, toList_literal, List.flatMap_cons, flatMap_source_wording,
      List.append_assoc]
  | uuid id =>
    unfold render tokens
    dsimp only
    rw [List.flatMap_cons, flatMap_source_wording, toList_uuid]
  | uuidArray ids =>
    have hids := toList_listed (l := ids) (f := fun id => literal id.toString)
      (g := fun id => [literalToken id.toString]) fun id _ => by
        rw [List.flatMap_singleton, toList_literal]
    unfold render tokens
    simp only [String.toList_append, hids, List.flatMap_append, flatMap_source_wording]
  | collection geometries srid =>
    have hgeometries := toList_listed (l := geometries) fun geojson _ => toList_geometry srid geojson
    unfold render tokens
    simp only [String.toList_append, hgeometries, List.flatMap_append, flatMap_source_wording]

/-! ### Statements -/

/-- The tokens of a column of a new table. -/
def ColumnDef.tokens (c : ColumnDef) : List Token :=
  .identifier c.name :: wording (" " ++ c.type.sql ++ if c.isKey then " PRIMARY KEY" else "")

theorem ColumnDef.toList_columnDef (c : ColumnDef) :
    (Phrase.columnDef c.name c.type.sql c.isKey).toList = c.tokens.flatMap Token.source := by
  simp only [Phrase.columnDef, tokens, String.toList_append, toList_identifier, List.flatMap_cons,
    flatMap_source_wording, List.append_assoc]

namespace Statement

/-- The tokens of a statement before the semicolon. -/
def body : Statement → List Token
  | dropSchema schema => wording "DROP SCHEMA IF EXISTS " ++ [.identifier schema] ++
      wording " CASCADE"
  | createSchema schema => wording "CREATE SCHEMA " ++ [.identifier schema]
  | ensureSchema schema => wording "CREATE SCHEMA IF NOT EXISTS " ++ [.identifier schema]
  | dropTable t => wording "DROP TABLE IF EXISTS " ++ t.tokens
  | createTable t columns => wording "CREATE TABLE " ++ t.tokens ++ wording " (" ++
      listedTokens (columns.map ColumnDef.tokens) ++ wording ")"
  | addColumn t column type => wording "ALTER TABLE " ++ t.tokens ++ wording " ADD COLUMN " ++
      [.identifier column] ++ wording (" " ++ type.sql)
  | addForeignKey t name column target targetColumn => wording "ALTER TABLE " ++ t.tokens ++
      wording " ADD CONSTRAINT " ++ [.identifier name] ++ wording " FOREIGN KEY (" ++
      [.identifier column] ++ wording ") REFERENCES " ++ target.tokens ++ wording " (" ++
      [.identifier targetColumn] ++ wording ")"
  | createSpatialIndex t index column => wording "CREATE INDEX " ++ [.identifier index] ++
      wording " ON " ++ t.tokens ++ wording " USING GIST (" ++ [.identifier column] ++ wording ")"
  | commentOnTable t text => wording "COMMENT ON TABLE " ++ t.tokens ++ wording " IS " ++
      [literalToken text]
  | commentOnColumn t column text => wording "COMMENT ON COLUMN " ++ t.tokens ++ wording "." ++
      [.identifier column] ++ wording " IS " ++ [literalToken text]
  | insert t fields => wording "INSERT INTO " ++ t.tokens ++ wording " (" ++
      listedTokens (fields.map fun field => [.identifier field.1]) ++ wording ") VALUES (" ++
      listedTokens (fields.map fun field => field.2.tokens) ++ wording ")"
  | update t column value keyColumn key => wording "UPDATE " ++ t.tokens ++ wording " SET " ++
      [.identifier column] ++ wording " = " ++ value.tokens ++ wording " WHERE " ++
      [.identifier keyColumn] ++ wording " = " ++ (Expression.uuid key).tokens

/-- The tokens of a statement. -/
def tokens (st : Statement) : List Token := st.body ++ [.plain ';']

theorem toList_render (st : Statement) : st.render.toList = st.tokens.flatMap Token.source := by
  unfold render tokens body
  -- The semicolon ends the last piece of wording there and is a token of its own here; `rfl` puts
  -- the two together.
  cases st with
  | dropSchema schema =>
    unfold Phrase.dropSchema
    simp only [String.toList_append, toList_identifier, List.flatMap_append,
      List.flatMap_singleton, flatMap_source_wording, List.append_assoc]
    rfl
  | createSchema schema =>
    unfold Phrase.createSchema
    simp only [String.toList_append, toList_identifier, List.flatMap_append,
      List.flatMap_singleton, flatMap_source_wording, List.append_assoc]
    rfl
  | ensureSchema schema =>
    unfold Phrase.ensureSchema
    simp only [String.toList_append, toList_identifier, List.flatMap_append,
      List.flatMap_singleton, flatMap_source_wording, List.append_assoc]
    rfl
  | dropTable t =>
    unfold Phrase.dropTable
    simp only [String.toList_append, toList_qualified, List.flatMap_append,
      List.flatMap_singleton, flatMap_source_wording, List.append_assoc]
    rfl
  | createTable t columns =>
    have hcolumns := toList_listed (l := columns) fun c _ => c.toList_columnDef
    unfold Phrase.createTable
    simp only [String.toList_append, toList_qualified, hcolumns, List.flatMap_append,
      List.flatMap_singleton, flatMap_source_wording, List.append_assoc]
    rfl
  | addColumn t column type =>
    unfold Phrase.addColumn
    simp only [String.toList_append, toList_qualified, toList_identifier, List.flatMap_append,
      List.flatMap_singleton, flatMap_source_wording, List.append_assoc]
    rfl
  | addForeignKey t name column target targetColumn =>
    unfold Phrase.addForeignKey
    simp only [String.toList_append, toList_qualified, toList_identifier, List.flatMap_append,
      List.flatMap_singleton, flatMap_source_wording, List.append_assoc]
    rfl
  | createSpatialIndex t index column =>
    unfold Phrase.createSpatialIndex
    simp only [String.toList_append, toList_qualified, toList_identifier, List.flatMap_append,
      List.flatMap_singleton, flatMap_source_wording, List.append_assoc]
    rfl
  | commentOnTable t text =>
    unfold Phrase.commentOnTable
    simp only [String.toList_append, toList_qualified, toList_literal, List.flatMap_append,
      List.flatMap_singleton, flatMap_source_wording, List.append_assoc]
    rfl
  | commentOnColumn t column text =>
    unfold Phrase.commentOnColumn
    simp only [String.toList_append, toList_qualified, toList_identifier, toList_literal,
      List.flatMap_append, List.flatMap_singleton, flatMap_source_wording, List.append_assoc]
    rfl
  | insert t fields =>
    have hnames := toList_listed (l := fields) (f := fun field => identifier field.1)
      (g := fun field => [.identifier field.1]) fun field _ => by
        rw [List.flatMap_singleton, toList_identifier]
    have hvalues := toList_listed (l := fields) fun field _ => field.2.toList_render
    unfold Phrase.insert
    simp only [List.map_map, Function.comp_def, String.toList_append, toList_qualified, hnames,
      hvalues, List.flatMap_append, List.flatMap_singleton, flatMap_source_wording,
      List.append_assoc]
    rfl
  | update t column value keyColumn key =>
    unfold Phrase.update
    simp only [String.toList_append, toList_qualified, toList_identifier, value.toList_render,
      (Expression.uuid key).toList_render.symm, List.flatMap_append, List.flatMap_singleton,
      flatMap_source_wording, List.append_assoc]
    rfl

end Statement

/-! ### What a statement is made of -/

/-- What may stand in a statement before its end, given which names may. -/
def Token.isInert (ok : String → Prop) : Token → Prop
  | literal _ => True
  | identifier name => ok name
  | comment _ => False
  | plain c => isPlainChar c = true ∧ c ≠ ';'

/-- Tokens that do not run together, with none that ends a statement and none of a comment. -/
structure Clean (ok : String → Prop) (ts : List Token) : Prop where
  joins : ts.IsChain fun t u => t.joins u = true
  inert : ∀ t ∈ ts, t.isInert ok

/-- Whether a text may be wording of a statement. -/
def isWording (s : String) : Bool := s.toList.all fun c => isPlainChar c && c ≠ ';'

theorem isWording_append {s t : String} (hs : isWording s = true) (ht : isWording t = true) :
    isWording (s ++ t) = true := by
  unfold isWording at *
  rw [String.toList_append, List.all_append, hs, ht]
  rfl

theorem isWording_toString (n : Nat) : isWording (toString n) = true := by
  rw [isWording, List.all_eq_true]
  intro c hc
  rw [Nat.toString_eq_repr, Nat.toList_repr] at hc
  have hdigit := Nat.isDigit_of_mem_toDigits (by decide) (by decide) hc
  have hend : c ≠ ';' := by
    rintro rfl
    exact absurd hdigit (by decide)
  simp [isPlainChar, isWordChar, Char.isAlphanum, hdigit, hend]

/-- Wording that ends before a word or a quote may begin. -/
def separates (s : String) : Bool := isWording s && s.toList.getLast?.any (!isWordChar ·)

namespace Clean

variable {ok : String → Prop} {ts us : List Token} {s : String}

theorem nil : Clean ok [] := ⟨.nil, by simp⟩

theorem literal (value : String) : Clean ok [literalToken value] :=
  ⟨.singleton _, by simp [literalToken, Token.isInert]⟩

theorem identifier {name : String} (h : ok name) : Clean ok [.identifier name] :=
  ⟨.singleton _, by simpa [Token.isInert] using h⟩

theorem wording (h : isWording s = true) : Clean ok (wording s) := by
  rw [isWording, List.all_eq_true] at h
  constructor
  · rw [Sql.wording, List.isChain_map]
    exact (List.pairwise_of_forall fun _ _ => rfl).isChain
  · intro t ht
    obtain ⟨c, hc, rfl⟩ := List.mem_map.1 ht
    simpa [Token.isInert] using h c hc

theorem append (ht : Clean ok ts) (hu : Clean ok us)
    (h : ∀ t ∈ ts.getLast?, ∀ u ∈ us.head?, t.joins u = true) : Clean ok (ts ++ us) := by
  refine ⟨List.isChain_append.2 ⟨ht.joins, hu.joins, h⟩, ?_⟩
  exact List.forall_mem_append.2 ⟨ht.inert, hu.inert⟩

/-- Wording may follow everything. -/
theorem append_wording (ht : Clean ok ts) (h : isWording s = true) :
    Clean ok (ts ++ Sql.wording s) := by
  refine ht.append (wording h) ?_
  intro t _ u hu
  obtain ⟨c, -, rfl⟩ := List.mem_map.1 (List.mem_of_head? hu)
  cases t <;> rfl

/-- Everything may follow wording that separates. -/
theorem separate (h : separates s = true) (ht : Clean ok ts) (hu : Clean ok us) :
    Clean ok (ts ++ Sql.wording s ++ us) := by
  rw [separates, Bool.and_eq_true] at h
  obtain ⟨hs, hlast⟩ := h
  -- The wording is not empty and ends outside of a word, so its last character joins everything.
  refine (ht.append_wording hs).append hu ?_
  intro t htlast u _
  obtain ⟨c, hc, hword⟩ := (Option.any_eq_true _ _).1 hlast
  have hwording : (Sql.wording s).getLast? = some (.plain c) := by
    rw [Sql.wording, List.getLast?_map, hc]
    rfl
  rw [List.getLast?_append, hwording, Option.some_or, Option.mem_some_iff] at htlast
  subst htlast
  cases u <;> simp_all [Token.joins]

/-- A separator in front. -/
theorem separate_left (h : separates s = true) (hu : Clean ok us) :
    Clean ok (Sql.wording s ++ us) := by
  rw [← List.nil_append (Sql.wording s)]
  exact nil.separate h hu

theorem intercalate (h : separates s = true) {parts : List (List Token)}
    (hparts : ∀ part ∈ parts, Clean ok part) : Clean ok ((Sql.wording s).intercalate parts) := by
  induction parts with
  | nil => exact nil
  | cons part parts ih =>
    cases parts with
    | nil =>
      rw [List.intercalate_singleton]
      exact hparts part List.mem_cons_self
    | cons next parts =>
      rw [List.intercalate_cons_cons]
      exact (hparts part List.mem_cons_self).separate h
        (ih fun p hp => hparts p (List.mem_cons_of_mem _ hp))

theorem listed {parts : List (List Token)} (h : ∀ part ∈ parts, Clean ok part) :
    Clean ok (listedTokens parts) :=
  intercalate (by decide) h

theorem listed_map {α : Type} {l : List α} {f : α → List Token} (h : ∀ a ∈ l, Clean ok (f a)) :
    Clean ok (listedTokens (l.map f)) :=
  listed (List.forall_mem_map.2 h)

theorem table {t : TableName} (hschema : ok t.schema) (htable : ok t.table) :
    Clean ok t.tokens :=
  (identifier hschema).separate (s := ".") (by decide) (identifier htable)

end Clean

theorem clean_geometryTokens {ok : String → Prop} (srid : Nat) (geojson : String) :
    Clean ok (geometryTokens srid geojson) := by
  refine ((Clean.literal geojson).separate_left (by decide)).append_wording ?_
  exact isWording_append (isWording_append (by decide) (isWording_toString srid)) (by decide)

theorem Expression.clean_tokens {ok : String → Prop} (e : Expression) : Clean ok e.tokens := by
  unfold tokens
  cases e with
  | null => exact .wording (by decide)
  | text value => exact .literal value
  | cast value type =>
    refine (Clean.literal value).append_wording ?_
    cases type <;> decide +kernel
  | uuid id => exact (Clean.literal _).append_wording (by decide)
  | uuidArray ids =>
    exact ((Clean.listed_map fun id _ => .literal _).separate_left (by decide)).append_wording
      (by decide)
  | collection geometries srid =>
    exact ((Clean.listed_map fun geojson _ => clean_geometryTokens srid geojson).separate_left
      (by decide)).append_wording (by decide)

namespace Statement

/-- The names that are written as identifiers. -/
def names : Statement → List String
  | dropSchema schema | createSchema schema | ensureSchema schema => [schema]
  | dropTable t | commentOnTable t _ => [t.schema, t.table]
  | createTable t columns => t.schema :: t.table :: columns.map ColumnDef.name
  | addColumn t column _ | commentOnColumn t column _ => [t.schema, t.table, column]
  | addForeignKey t name column target targetColumn =>
    [t.schema, t.table, name, column, target.schema, target.table, targetColumn]
  | createSpatialIndex t index column => [t.schema, t.table, index, column]
  | insert t fields => t.schema :: t.table :: fields.map Prod.fst
  | update t column _ keyColumn _ => [t.schema, t.table, column, keyColumn]

theorem clean_body {ok : String → Prop} {st : Statement} (h : ∀ name ∈ st.names, ok name) :
    Clean ok st.body := by
  unfold body
  cases st with
  | dropSchema schema =>
    obtain ⟨hschema, -⟩ := List.forall_mem_cons.1 h
    exact ((Clean.identifier hschema).separate_left (by decide)).append_wording (by decide)
  | createSchema schema | ensureSchema schema =>
    obtain ⟨hschema, -⟩ := List.forall_mem_cons.1 h
    exact (Clean.identifier hschema).separate_left (by decide)
  | dropTable t =>
    simp only [names, List.forall_mem_cons] at h
    obtain ⟨hschema, htable, -⟩ := h
    exact (Clean.table hschema htable).separate_left (by decide)
  | createTable t columns =>
    simp only [names, List.forall_mem_cons, List.forall_mem_map] at h
    obtain ⟨hschema, htable, hcolumns⟩ := h
    refine (((Clean.table hschema htable).separate_left (by decide)).separate (by decide)
      (.listed_map fun c hc => ?_)).append_wording (by decide)
    refine (Clean.identifier (hcolumns c hc)).append_wording ?_
    cases c.type <;> cases c.isKey <;> decide
  | addColumn t column type =>
    simp only [names, List.forall_mem_cons] at h
    obtain ⟨hschema, htable, hcolumn, -⟩ := h
    refine (((Clean.table hschema htable).separate_left (by decide)).separate (by decide)
      (.identifier hcolumn)).append_wording ?_
    cases type <;> decide
  | addForeignKey t name column target targetColumn =>
    simp only [names, List.forall_mem_cons] at h
    obtain ⟨hschema, htable, hname, hcolumn, htargetSchema, htarget, htargetColumn, -⟩ := h
    exact (((((Clean.table hschema htable).separate_left (by decide)).separate (by decide)
      (.identifier hname)).separate (by decide) (.identifier hcolumn)).separate (by decide)
      (.table htargetSchema htarget)).separate (by decide)
      (.identifier htargetColumn) |>.append_wording (by decide)
  | createSpatialIndex t index column =>
    simp only [names, List.forall_mem_cons] at h
    obtain ⟨hschema, htable, hindex, hcolumn, -⟩ := h
    exact ((((Clean.identifier hindex).separate_left (by decide)).separate (by decide)
      (.table hschema htable)).separate (by decide) (.identifier hcolumn)).append_wording
      (by decide)
  | commentOnTable t text =>
    simp only [names, List.forall_mem_cons] at h
    obtain ⟨hschema, htable, -⟩ := h
    exact ((Clean.table hschema htable).separate_left (by decide)).separate (by decide)
      (.literal text)
  | commentOnColumn t column text =>
    simp only [names, List.forall_mem_cons] at h
    obtain ⟨hschema, htable, hcolumn, -⟩ := h
    exact (((Clean.table hschema htable).separate_left (by decide)).separate (by decide)
      (.identifier hcolumn)).separate (by decide) (.literal text)
  | insert t fields =>
    simp only [names, List.forall_mem_cons, List.forall_mem_map] at h
    obtain ⟨hschema, htable, hfields⟩ := h
    exact ((((Clean.table hschema htable).separate_left (by decide)).separate (by decide)
      (.listed_map fun field hf => .identifier (hfields field hf))).separate (by decide)
      (.listed_map fun field _ => field.2.clean_tokens)).append_wording (by decide)
  | update t column value keyColumn key =>
    simp only [names, List.forall_mem_cons] at h
    obtain ⟨hschema, htable, hcolumn, hkey, -⟩ := h
    exact (((((Clean.table hschema htable).separate_left (by decide)).separate (by decide)
      (.identifier hcolumn)).separate (by decide) value.clean_tokens).separate (by decide)
      (.identifier hkey)).separate (by decide) (Expression.clean_tokens _)

end Statement

/-! ### Wording and contents -/

/-- The characters outside of quotes and comments. -/
def outside (ts : List Token) : List Char :=
  ts.filterMap fun
    | .plain c => some c
    | _ => none

@[simp] theorem outside_append (ts us : List Token) :
    outside (ts ++ us) = outside ts ++ outside us := List.filterMap_append

@[simp] theorem outside_identifier (name : String) : outside [.identifier name] = [] := rfl

@[simp] theorem outside_literalToken (value : String) : outside [literalToken value] = [] := rfl

@[simp] theorem outside_literalToken_cons (value : String) (ts : List Token) :
    outside (literalToken value :: ts) = outside ts := rfl

@[simp] theorem outside_identifier_cons (name : String) (ts : List Token) :
    outside (.identifier name :: ts) = outside ts := rfl

@[simp] theorem outside_table (t : TableName) : outside t.tokens = ['.'] := rfl

theorem outside_listedTokens (parts : List (List Token)) :
    outside (listedTokens parts) = (outside (wording ", ")).intercalate (parts.map outside) :=
  apply_intercalate rfl outside_append _ _

/-- An expression of the same kind, type and size without its texts. -/
def Expression.shape : Expression → Expression
  | null => null
  | text _ => text ""
  | cast _ type => cast "" type
  | uuid _ => uuid default
  | uuidArray ids => uuidArray (ids.map fun _ => default)
  | collection geometries srid => collection (geometries.map fun _ => "") srid

theorem outside_geometryTokens (srid : Nat) (geojson : String) :
    outside (geometryTokens srid geojson) = outside (geometryTokens srid "") := by
  unfold geometryTokens
  simp only [outside_append, outside_literalToken]

theorem Expression.outside_tokens (e : Expression) : outside e.tokens = outside e.shape.tokens := by
  unfold shape tokens
  cases e with
  | null => rfl
  | text value => simp only [outside_literalToken]
  | cast value type => simp only [outside_literalToken_cons]
  | uuid id => simp only [outside_literalToken_cons]
  | uuidArray ids =>
    simp only [outside_append, outside_listedTokens, List.map_map, Function.comp_def,
      outside_literalToken]
  | collection geometries srid =>
    simp only [outside_append, outside_listedTokens, List.map_map, Function.comp_def,
      outside_geometryTokens]

namespace Statement

/-- A statement of the same kind, types and size without its names and texts. -/
def shape : Statement → Statement
  | dropSchema _ => dropSchema ""
  | createSchema _ => createSchema ""
  | ensureSchema _ => ensureSchema ""
  | dropTable _ => dropTable ⟨"", ""⟩
  | createTable _ columns => createTable ⟨"", ""⟩ (columns.map fun c => ⟨"", c.type, c.isKey⟩)
  | addColumn _ _ type => addColumn ⟨"", ""⟩ "" type
  | addForeignKey .. => addForeignKey ⟨"", ""⟩ "" "" ⟨"", ""⟩ ""
  | createSpatialIndex .. => createSpatialIndex ⟨"", ""⟩ "" ""
  | commentOnTable .. => commentOnTable ⟨"", ""⟩ ""
  | commentOnColumn .. => commentOnColumn ⟨"", ""⟩ "" ""
  | insert _ fields => insert ⟨"", ""⟩ (fields.map fun field => ("", field.2.shape))
  | update _ _ value _ _ => update ⟨"", ""⟩ "" value.shape "" default

/-- No name and no text shows outside of the quotes around it. -/
theorem outside_body (st : Statement) : outside st.body = outside st.shape.body := by
  unfold shape body
  cases st <;>
    simp only [outside_append, outside_listedTokens, outside_identifier, outside_table,
      outside_literalToken, List.map_map, Function.comp_def]
  case createTable t columns =>
    unfold ColumnDef.tokens
    simp only [outside_identifier_cons]
  case insert t fields =>
    have hvalues : (fun field : String × Expression => outside field.2.tokens) =
        fun field => outside field.2.shape.tokens := by
      funext field
      exact field.2.outside_tokens
    rw [hvalues]
  case update t column value keyColumn key =>
    rw [value.outside_tokens, Expression.outside_tokens (.uuid key),
      Expression.outside_tokens (.uuid default)]
    rfl

end Statement

end ResourceTables.Sql
