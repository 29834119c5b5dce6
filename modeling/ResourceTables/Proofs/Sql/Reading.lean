import ResourceTables.Sql.Script
import ResourceTables.Proofs.Sql.Script
import ResourceTables.Proofs.Sql.Tokens

/-!
# ResourceTables.Proofs.Sql.Reading

A script read back. Its text is cut after every semicolon outside of quotes and comments
(`readScript`); what comes out are the statements it was written from, in the order in which they are
run and with nothing between them (`readScript_render`).
-/

namespace ResourceTables.Sql

/-! ### Cutting -/

/-- The tokens cut after every semicolon. -/
def cutTokens : List Token → List (List Token)
  | [] => []
  | t :: rest =>
    -- The end of a statement belongs to it.
    if t = .plain ';' then [t] :: cutTokens rest
    else match cutTokens rest with
      | [] => [[t]]
      | piece :: pieces => (t :: piece) :: pieces

/-- Whether a token may stand between statements: comments and line breaks. -/
def Token.isBreak : Token → Bool
  | comment _ => true
  | plain c => c = '\n'
  | _ => false

/-- The tokens of each statement, without the comments and line breaks in front of it. -/
def statementTokens (ts : List Token) : List (List Token) :=
  ((cutTokens ts).map fun piece => piece.dropWhile Token.isBreak).filter (· ≠ [])

/-- The statements of a text; nothing if it cannot be read. -/
def readScript (text : String) : Option (List String) :=
  (lex text.toList).map fun ts =>
    (statementTokens ts).map fun piece => String.ofList (piece.flatMap Token.source)

theorem statementTokens_cons_of_isBreak {t : Token} {ts : List Token} (h : t.isBreak = true) :
    statementTokens (t :: ts) = statementTokens ts := by
  have hend : t ≠ .plain ';' := by
    rintro rfl
    exact absurd h (by decide)
  unfold statementTokens
  rw [cutTokens, if_neg hend]
  cases cutTokens ts with
  | nil => simp [h]
  | cons piece pieces => simp [h]

theorem cutTokens_append {body ts : List Token} (h : Token.plain ';' ∉ body) :
    cutTokens (body ++ .plain ';' :: ts) = (body ++ [.plain ';']) :: cutTokens ts := by
  induction body with
  | nil => rw [List.nil_append, cutTokens, if_pos rfl, List.nil_append]
  | cons t body ih =>
    obtain ⟨ht, hbody⟩ := List.ne_and_not_mem_of_not_mem_cons h
    rw [List.cons_append, cutTokens, if_neg ht.symm, ih hbody]
    rfl

/-- A statement is cut off at its end, as long as it begins with a word of its own. -/
theorem statementTokens_append {body ts : List Token} (h : Token.plain ';' ∉ body)
    (hfirst : ∀ t ∈ body.head?, t.isBreak = false) :
    statementTokens (body ++ .plain ';' :: ts) = (body ++ [.plain ';']) :: statementTokens ts := by
  have hdrop : (body ++ [Token.plain ';']).dropWhile Token.isBreak = body ++ [.plain ';'] := by
    cases body with
    | nil => rfl
    | cons t body =>
      rw [List.cons_append, List.dropWhile_cons_of_neg]
      rw [hfirst t rfl]
      decide
  unfold statementTokens
  rw [cutTokens_append h, List.map_cons, hdrop, List.filter_cons_of_pos]
  simp

/-! ### Texts that can be read -/

/-- Tokens that are read back from their texts. -/
structure Readable (ts : List Token) : Prop where
  joins : ts.IsChain fun t u => t.joins u = true
  valid : ∀ t ∈ ts, t.isValid = true

namespace Readable

variable {ts us : List Token}

theorem nil : Readable [] := ⟨.nil, by simp⟩

theorem lex_source (h : Readable ts) : lex (ts.flatMap Token.source) = some ts :=
  lex_flatMap_source h.valid h.joins

/-- After a comment everything may follow. -/
theorem comment {text : String} (htext : isLine text = true) (h : Readable ts) :
    Readable (.comment text :: ts) := by
  refine ⟨List.isChain_cons.2 ⟨fun u _ => rfl, h.joins⟩, ?_⟩
  exact List.forall_mem_cons.2 ⟨htext, h.valid⟩

/-- A character outside of words may stand between any two texts. -/
theorem append_plain {c : Char} (hc : isPlainChar c = true) (hword : isWordChar c = false)
    (ht : Readable ts) (hu : Readable us) : Readable (ts ++ .plain c :: us) := by
  have hafter : ∀ u ∈ us.head?, (Token.plain c).joins u = true := by
    intro u _
    cases u <;> simp [Token.joins, hword]
  have hbefore : ∀ t ∈ ts.getLast?, ∀ u ∈ (Token.plain c :: us).head?, t.joins u = true := by
    intro t _ u hu
    cases hu
    cases t <;> rfl
  refine ⟨List.isChain_append.2 ⟨ht.joins, List.isChain_cons.2 ⟨hafter, hu.joins⟩, hbefore⟩, ?_⟩
  refine List.forall_mem_append.2 ⟨ht.valid, List.forall_mem_cons.2 ⟨hc, hu.valid⟩⟩

end Readable

theorem Clean.readable {ok : String → Prop} {ts : List Token} (h : Clean ok ts) : Readable ts := by
  refine ⟨h.joins, ?_⟩
  intro t ht
  have hinert := h.inert t ht
  cases t with
  | comment _ => cases hinert
  | plain c => exact hinert.1
  | _ => rfl

namespace Statement

theorem clean_body_any (st : Statement) : Clean (fun _ => True) st.body :=
  clean_body fun _ _ => trivial

theorem readable_tokens (st : Statement) : Readable st.tokens :=
  st.clean_body_any.readable.append_plain (c := ';') (by decide) (by decide) .nil

/-- A statement is read as its tokens. -/
theorem lex_render (st : Statement) : lex st.render.toList = some st.tokens := by
  rw [toList_render]
  exact st.readable_tokens.lex_source

theorem end_notMem_body (st : Statement) : Token.plain ';' ∉ st.body := fun h =>
  (st.clean_body_any.inert _ h).2 rfl

theorem isBreak_head?_body (st : Statement) : ∀ t ∈ st.body.head?, t.isBreak = false := by
  intro t ht
  cases st <;>
  · cases ht
    rfl

end Statement

/-! ### Phases -/

/-- The statements of a phase, each on a line of its own. -/
def lineTokens (statements : List Statement) : List Token :=
  statements.flatMap fun st => st.tokens ++ [.plain '\n']

/-- A phase with its heading. -/
def sectionTokens (label : String) (statements : List Statement) : List Token :=
  .comment (" " ++ label) :: lineTokens statements

/-- The phases of a script that have statements, with their labels. -/
def sections (s : Script Statement) : List (String × List Statement) :=
  Phase.all.filterMap fun phase =>
    match s.statements phase with
    | [] => none
    | statements => some (phase.label, statements)

/-- The tokens of a script. -/
def scriptTokens (s : Script Statement) : List Token :=
  [Token.plain '\n'].intercalate ((sections s).map fun part => sectionTokens part.1 part.2)

theorem flatMap_sections (s : Script Statement) :
    (sections s).flatMap Prod.snd = s.toList.map Prod.snd := by
  rw [Script.map_snd_toList, sections]
  induction Phase.all with
  | nil => rfl
  | cons phase phases ih =>
    rw [List.filterMap_cons, List.flatMap_cons, ← ih]
    cases s.statements phase <;> rfl

theorem flatMap_source_lineTokens (statements : List Statement) :
    (lineTokens statements).flatMap Token.source =
      (String.join ((statements.map Statement.render).map (· ++ "\n"))).toList := by
  rw [String.toList_join, lineTokens, List.flatMap_assoc, List.flatMap_map, List.flatMap_map]
  congr 1
  funext st
  rw [List.flatMap_append, ← st.toList_render, String.toList_append]
  rfl

theorem toList_script (s : Script Statement) :
    (s.map Statement.render).render.toList = (scriptTokens s).flatMap Token.source := by
  have hsections : Phase.all.filterMap (s.map Statement.render).section? =
      (sections s).map fun part => "-- " ++ part.1 ++ "\n" ++
        String.join ((part.2.map Statement.render).map (· ++ "\n")) := by
    rw [sections, List.map_filterMap]
    congr 1
    funext phase
    unfold Script.section?
    rw [Script.statements_map]
    cases s.statements phase <;> rfl
  have hsection (part : String × List Statement) :
      ("-- " ++ part.1 ++ "\n" ++
        String.join ((part.2.map Statement.render).map (· ++ "\n"))).toList =
        (sectionTokens part.1 part.2).flatMap Token.source := by
    rw [sectionTokens, List.flatMap_cons, flatMap_source_lineTokens, String.toList_append]
    congr 1
    rw [Token.source, String.toList_append, String.toList_append, String.toList_append]
    rfl
  have hscript := apply_intercalate (f := fun ts => List.flatMap Token.source ts) rfl
    (fun _ _ => List.flatMap_append) [Token.plain '\n']
    ((sections s).map fun part => sectionTokens part.1 part.2)
  rw [scriptTokens, hscript, Script.render, String.toList_intercalate, hsections, List.map_map,
    List.map_map]
  congr 1
  exact List.map_congr_left fun part _ => hsection part

/-! ### Reading a script -/

theorem readable_lineTokens {statements : List Statement} {ts : List Token} (h : Readable ts) :
    Readable (lineTokens statements ++ ts) := by
  induction statements with
  | nil => exact h
  | cons st statements ih =>
    rw [lineTokens, List.flatMap_cons, List.append_assoc, List.append_assoc]
    exact st.readable_tokens.append_plain (by decide) (by decide) ih

theorem isLine_label (phase : Phase) : isLine (" " ++ phase.label) = true := by
  cases phase <;> decide

theorem statementTokens_lineTokens (statements : List Statement) (ts : List Token) :
    statementTokens (lineTokens statements ++ ts) =
      statements.map Statement.tokens ++ statementTokens ts := by
  induction statements with
  | nil => rfl
  | cons st statements ih =>
    have hline : lineTokens (st :: statements) ++ ts =
        st.body ++ .plain ';' :: .plain '\n' :: (lineTokens statements ++ ts) := by
      simp [lineTokens, Statement.tokens]
    rw [hline, statementTokens_append st.end_notMem_body st.isBreak_head?_body,
      statementTokens_cons_of_isBreak (by decide), ih]
    rfl

/-- Phases one below the other, with an empty line between two, are read statement by statement. -/
theorem readable_intercalate (parts : List (String × List Statement))
    (hlabels : ∀ part ∈ parts, isLine (" " ++ part.1) = true) :
    Readable ([Token.plain '\n'].intercalate
        (parts.map fun part => sectionTokens part.1 part.2)) ∧
      statementTokens ([Token.plain '\n'].intercalate
        (parts.map fun part => sectionTokens part.1 part.2)) =
        (parts.flatMap Prod.snd).map Statement.tokens := by
  induction parts with
  | nil => exact ⟨.nil, rfl⟩
  | cons part parts ih =>
    obtain ⟨hlabel, hrest⟩ := List.forall_mem_cons.1 hlabels
    obtain ⟨hread, hcut⟩ := ih hrest
    -- What comes after the phase, be it nothing or the empty line and the other phases.
    obtain ⟨after, hafter, hreadAfter, hcutAfter⟩ : ∃ after : List Token,
        [Token.plain '\n'].intercalate
            ((part :: parts).map fun part => sectionTokens part.1 part.2) =
          .comment (" " ++ part.1) :: (lineTokens part.2 ++ after) ∧
        Readable after ∧
        statementTokens after = (parts.flatMap Prod.snd).map Statement.tokens := by
      cases parts with
      | nil => exact ⟨[], by simp [sectionTokens], .nil, rfl⟩
      | cons next parts =>
        refine ⟨_, ?_, Readable.append_plain (c := '\n') (by decide) (by decide) .nil hread, ?_⟩
        · rw [List.map_cons, List.map_cons, List.intercalate_cons_cons, sectionTokens]
          simp
        · rw [List.nil_append, statementTokens_cons_of_isBreak (by decide), hcut]
    rw [hafter]
    refine ⟨(readable_lineTokens hreadAfter).comment hlabel, ?_⟩
    rw [statementTokens_cons_of_isBreak rfl, statementTokens_lineTokens, hcutAfter,
      List.flatMap_cons, List.map_append]

theorem exists_label_of_mem_sections {s : Script Statement} {part : String × List Statement}
    (h : part ∈ sections s) : ∃ phase : Phase, part.1 = phase.label := by
  obtain ⟨phase, -, heq⟩ := List.mem_filterMap.1 h
  split at heq
  · cases heq
  · cases heq
    exact ⟨phase, rfl⟩

theorem isLine_of_mem_sections (s : Script Statement) :
    ∀ part ∈ sections s, isLine (" " ++ part.1) = true := by
  intro part hpart
  obtain ⟨phase, hphase⟩ := exists_label_of_mem_sections hpart
  rw [hphase]
  exact isLine_label phase

/-- A script is read as its tokens. -/
theorem lex_script (s : Script Statement) :
    lex (s.map Statement.render).render.toList = some (scriptTokens s) := by
  rw [toList_script]
  exact (readable_intercalate _ (isLine_of_mem_sections s)).1.lex_source

/-- A script is read back as its statements, in the order in which they are run. -/
theorem readScript_render (s : Script Statement) :
    readScript (s.map Statement.render).render =
      some (s.toList.map fun st => st.2.render) := by
  have hcut : statementTokens (scriptTokens s) = (s.toList.map Prod.snd).map Statement.tokens := by
    rw [scriptTokens, (readable_intercalate _ (isLine_of_mem_sections s)).2, flatMap_sections]
  rw [readScript, lex_script, Option.map_some, hcut, List.map_map, List.map_map]
  congr 1
  refine List.map_congr_left fun st _ => ?_
  show String.ofList (st.2.tokens.flatMap Token.source) = st.2.render
  rw [← st.2.toList_render, String.ofList_toList]

theorem mem_intercalate {α : Type} {a : α} {sep : List α} {parts : List (List α)}
    (h : a ∈ sep.intercalate parts) : a ∈ sep ∨ ∃ part ∈ parts, a ∈ part := by
  induction parts with
  | nil => cases h
  | cons part parts ih =>
    cases parts with
    | nil =>
      rw [List.intercalate_singleton] at h
      exact .inr ⟨part, List.mem_cons_self, h⟩
    | cons next parts =>
      rw [List.intercalate_cons_cons, List.mem_append, List.mem_append] at h
      rcases h with (h | h) | h
      · exact .inr ⟨part, List.mem_cons_self, h⟩
      · exact .inl h
      · rcases ih h with h | ⟨p, hp, h⟩
        · exact .inl h
        · exact .inr ⟨p, List.mem_cons_of_mem _ hp, h⟩

/-- The comments of a script are the headings of its phases. -/
theorem comment_mem_scriptTokens {s : Script Statement} {text : String}
    (h : Token.comment text ∈ scriptTokens s) : ∃ phase : Phase, text = " " ++ phase.label := by
  rcases mem_intercalate h with h | ⟨ts, hts, h⟩
  · cases List.mem_singleton.1 h
  · obtain ⟨part, hpart, rfl⟩ := List.mem_map.1 hts
    rcases List.mem_cons.1 h with heading | h
    · cases heading
      obtain ⟨phase, hphase⟩ := exists_label_of_mem_sections hpart
      exact ⟨phase, by rw [hphase]⟩
    -- No statement has a comment.
    · obtain ⟨st, -, h⟩ := List.mem_flatMap.1 h
      simp only [Statement.tokens, List.mem_append, List.mem_singleton, reduceCtorEq,
        or_false] at h
      exact (st.clean_body_any.inert _ h).elim

end ResourceTables.Sql
