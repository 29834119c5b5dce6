import ResourceTables.Shapefile
import ResourceTables.Proofs.Steps
import ResourceTables.Proofs.Sql.Reading
import ResourceTables.Proofs.Text.Pieces

/-!
# ResourceTables.Proofs.Shapefile

What an export of shapefiles will run (`plan_outcome`). A table is named by one to three parts, and
whatever stands in them, it is the parts that are read from the quoted name and from the queries. The
counts tell which kinds of geometries get a command. The password changes nothing that can be seen of a
command.

Design points:

* A name is taken apart by a relation (`IsTableName`), which says what pieces there are and what blanks
  surround their parts.
* A query begins with a star, which is an operator to `Sql.lex`; what is read is what follows it.
* A plan with a password is the plan without one in which every command has got it
  (`plan_withPassword`), so nothing else can depend on it.
-/

namespace ResourceTables

/-! ### Names of tables -/

/-- The parts of a table's name: what the pieces between points are without the blanks around them. There
are one to three parts, and none is empty. -/
structure IsTableName (table : String) (parts : List String) : Prop where
  pieces : ∃ pieces, ['.'].intercalate pieces = table.toList ∧ (∀ piece ∈ pieces, '.' ∉ piece) ∧
    List.Forall₂ (fun piece part => Text.Trims piece part.toList) pieces parts
  someParts : parts ≠ []
  fewParts : parts.length ≤ 3
  notEmpty : ∀ part ∈ parts, part ≠ ""

theorem tableParts_eq_iff {table : String} {parts : List String} :
    tableParts table = parts ↔ parts ≠ [] ∧ ∃ pieces, ['.'].intercalate pieces = table.toList ∧
      (∀ piece ∈ pieces, '.' ∉ piece) ∧
      List.Forall₂ (fun piece part => Text.Trims piece part.toList) pieces parts := by
  have htrim (piece : List Char) (part : String) :
      Text.trim (String.ofList piece) = part ↔ Text.Trims piece part.toList := by
    rw [Text.trim_eq_iff, String.toList_ofList]
  unfold tableParts
  constructor
  · intro h
    subst h
    refine ⟨fun h => List.splitOn_ne_nil _ _ (List.map_eq_nil_iff.1 h), table.toList.splitOn '.',
      List.intercalate_splitOn _, fun piece => Text.notMem_of_mem_splitOn, ?_⟩
    rw [List.forall₂_map_right_iff, List.forall₂_same]
    exact fun piece _ => (htrim piece _).1 rfl
  · intro h
    obtain ⟨hne, pieces, htable, hpoint, htrims⟩ := h
    have hpieces : pieces ≠ [] := by
      intro h
      subst h
      exact hne (List.forall₂_nil_left_iff.1 htrims)
    have hparts : pieces.map (fun piece => Text.trim (String.ofList piece)) = parts.map id :=
      map_eq_map_of_forall₂ htrims fun piece part h => (htrim piece part).2 h
    rw [← htable, List.splitOn_intercalate '.' hpoint hpieces, hparts, List.map_id]

theorem isTableName_iff {table : String} {parts : List String} :
    IsTableName table parts ↔
      tableParts table = parts ∧ parts.length ≤ 3 ∧ ∀ part ∈ parts, part ≠ "" := by
  rw [tableParts_eq_iff]
  exact ⟨fun h => ⟨⟨h.someParts, h.pieces⟩, h.fewParts, h.notEmpty⟩,
    fun h => ⟨h.1.2, h.1.1, h.2.1, h.2.2⟩⟩

theorem IsTableName.eq {table : String} {parts others : List String} (h : IsTableName table parts)
    (hothers : IsTableName table others) : parts = others :=
  (isTableName_iff.1 h).1.symm.trans (isTableName_iff.1 hothers).1

/-- The name of a table as its parts are quoted. -/
def quotedName (parts : List String) : String := ".".intercalate (parts.map Sql.identifier)

/-- Exactly the names with one to three parts are accepted. -/
theorem quoteTableName_eq_ok_iff {table quoted : String} :
    quoteTableName table = .ok quoted ↔ ∃ parts, IsTableName table parts ∧ quoted = quotedName parts := by
  have hempty : (tableParts table).any String.isEmpty = false ↔ ∀ part ∈ tableParts table, part ≠ "" := by
    simp [List.any_eq_false]
  unfold quoteTableName
  dsimp only
  split
  · next h =>
    refine ⟨fun h => (by cases h), fun ⟨parts, hparts, _⟩ => ?_⟩
    obtain ⟨rfl, hfew, hne⟩ := isTableName_iff.1 hparts
    rw [hempty.2 hne, Bool.or_false, decide_eq_true_iff] at h
    omega
  · next h =>
    rw [Bool.not_eq_true, Bool.or_eq_false_iff, decide_eq_false_iff_not, hempty, not_lt] at h
    have hname : IsTableName table (tableParts table) := isTableName_iff.2 ⟨rfl, h⟩
    constructor
    · intro hquoted
      cases hquoted
      exact ⟨_, hname, rfl⟩
    · intro hquoted
      obtain ⟨parts, hparts, rfl⟩ := hquoted
      rw [hparts.eq hname]
      rfl

/-! ### Readings -/

section

open Sql (Token wording listedTokens lex Clean)

/-- The tokens of a table's name. -/
def nameTokens (parts : List String) : List Token :=
  (wording ".").intercalate (parts.map fun part => [.identifier part])

/-- The tokens of a query for the rows of a kind, from the name of the table on. -/
def queryTokens (parts : List String) (kind : GeometryKind) : List Token :=
  nameTokens parts ++ wording " WHERE geom_type IN (" ++
    listedTokens (kind.types.map fun type => [.literal type]) ++ wording ")" ++ [.plain ';']

theorem toList_quotedName (parts : List String) :
    (quotedName parts).toList = (nameTokens parts).flatMap Token.source := by
  unfold quotedName nameTokens
  rw [String.toList_intercalate, Sql.flatMap_source_intercalate, List.map_map, List.map_map]
  congr 1
  refine List.map_congr_left fun part _ => ?_
  exact (Sql.toList_identifier part).trans (List.flatMap_singleton _ _).symm

theorem clean_nameTokens (parts : List String) : Clean (fun _ => True) (nameTokens parts) :=
  Clean.intercalate (by decide) (List.forall_mem_map.2 fun _ _ => .identifier trivial)

/-- Whatever the parts of a name are, they are read from the quoted name. -/
theorem lex_quotedName (parts : List String) :
    lex (quotedName parts).toList = some (nameTokens parts) := by
  rw [toList_quotedName]
  exact (clean_nameTokens parts).readable.lex_source

/-- The types of geometries have nothing in them that a literal cannot hold. -/
theorem literalToken_types (kind : GeometryKind) :
    kind.types.map (fun type => [Token.literal type]) = kind.types.map fun type =>
      [Sql.literalToken type] := by
  cases kind <;> decide

/-- A query asks the table that is named, whatever its name is, and for the rows of the kind. -/
theorem lex_query (parts : List String) (kind : GeometryKind) :
    lex (quotedName parts ++ " WHERE " ++ kind.condition ++ ";").toList =
      some (queryTokens parts kind) := by
  have htypes : (Sql.Phrase.listed (kind.types.map Sql.literal)).toList = _ :=
    Sql.toList_listed fun type _ => (Sql.toList_literal type).trans (List.flatMap_singleton _ _).symm
  have hsource : (quotedName parts ++ " WHERE " ++ kind.condition ++ ";").toList =
      (queryTokens parts kind).flatMap Token.source := by
    unfold GeometryKind.condition queryTokens
    rw [literalToken_types]
    simp only [String.toList_append, toList_quotedName, htypes, List.flatMap_append,
      List.flatMap_singleton, Sql.flatMap_source_wording, List.append_assoc]
    rfl
  have hclean : Clean (fun _ => True) (nameTokens parts ++ wording " WHERE geom_type IN (" ++
      listedTokens (kind.types.map fun type => [Sql.literalToken type]) ++ wording ")") :=
    ((clean_nameTokens parts).separate (by decide)
      (Clean.listed_map fun type _ => .literal type)).append_wording (by decide)
  rw [hsource, queryTokens, literalToken_types]
  exact (hclean.readable.append_plain (c := ';') (by decide) (by decide) .nil).lex_source

end

/-! ### Plans -/

theorem GeometryKind.mem_all (kind : GeometryKind) : kind ∈ all := by
  cases kind <;> decide

/-- A command for the rows of one kind in the table that the parts name: it asks for them with its last
argument. -/
structure ShapefileCommand.Exports (parts : List String) (kind : GeometryKind) (c : ShapefileCommand) :
    Prop where
  ofKind : c.kind = kind
  query : ∃ rest, c.arguments.getLast? = some ("SELECT * FROM " ++ rest) ∧
    rest = quotedName parts ++ " WHERE " ++ kind.condition ++ ";" ∧
    Sql.lex rest.toList = some (queryTokens parts kind)

namespace ShapefileExporter

variable {x : ShapefileExporter} {counts : TableCounts} {table quoted destination : String}
  {kinds : List GeometryKind} {r : ShapefileRequest}

theorem exports_command (x : ShapefileExporter) (parts : List String) (destination : String)
    (kind : GeometryKind) : (x.command (quotedName parts) destination kind).Exports parts kind where
  ofKind := rfl
  query := by
    refine ⟨_, ?_, rfl, lex_query parts kind⟩
    simp only [command, List.getLast?_cons_cons, List.getLast?_singleton, String.append_assoc]

theorem commands_of_counts {numbers : GeometryKind → Nat}
    (h : ∀ kind ∈ kinds, counts.ofKind table kind = .ok (numbers kind)) :
    x.commands counts table destination kinds =
      .ok ((kinds.filter fun kind => 0 < numbers kind).map (x.command table destination)) := by
  induction kinds with
  | nil => rfl
  | cons kind rest ih =>
    obtain ⟨hkind, hrest⟩ := List.forall_mem_cons.1 h
    rw [commands, hkind, ih hrest]
    by_cases hn : 0 < numbers kind
    · rw [List.filter_cons_of_pos (by simpa using hn)]
      exact congrArg Except.ok (if_pos hn)
    · rw [List.filter_cons_of_neg (by simpa using hn)]
      exact congrArg Except.ok (if_neg hn)

theorem counted_of_commands {commands : List ShapefileCommand}
    (h : x.commands counts table destination kinds = .ok commands) :
    ∀ kind ∈ kinds, ∃ n, counts.ofKind table kind = .ok n := by
  induction kinds generalizing commands with
  | nil => exact fun kind hkind => absurd hkind List.not_mem_nil
  | cons kind rest ih =>
    obtain ⟨n, hn, h⟩ := bind_eq_ok_iff.1 h
    obtain ⟨others, hothers, -⟩ := bind_eq_ok_iff.1 h
    exact List.forall_mem_cons.2 ⟨⟨n, hn⟩, ih hothers⟩

theorem commands_eq_ok_iff {commands : List ShapefileCommand} :
    x.commands counts table destination GeometryKind.all = .ok commands ↔
      ∃ numbers : GeometryKind → Nat, (∀ kind, counts.ofKind table kind = .ok (numbers kind)) ∧
        commands = (GeometryKind.all.filter fun kind => 0 < numbers kind).map
          (x.command table destination) := by
  constructor
  · intro h
    choose numbers hnumbers using fun kind => counted_of_commands h kind kind.mem_all
    refine ⟨numbers, hnumbers, ?_⟩
    rw [commands_of_counts fun kind _ => hnumbers kind] at h
    exact (Except.ok.inj h).symm
  · intro h
    obtain ⟨numbers, hnumbers, rfl⟩ := h
    exact commands_of_counts fun kind _ => hnumbers kind

/-- The plan for a table that can be named and a destination that is not there. -/
theorem plan_eq (h : quoteTableName r.table = .ok quoted) : x.plan counts false r = do
    let n ← (counts.rows quoted).mapError fun e => ExportError.failed e.message
    if n = 0 then return .noRecords
    else return .run (← (x.commands counts quoted r.destination GeometryKind.all).mapError fun e =>
      ExportError.failed e.message) := by
  unfold plan
  rw [h]
  rfl

theorem plan_eq_noRecords_iff (h : quoteTableName r.table = .ok quoted) :
    x.plan counts false r = .ok .noRecords ↔ counts.rows quoted = .ok 0 := by
  rw [plan_eq h, bind_eq_ok_iff]
  constructor
  · intro h
    obtain ⟨n, hrows, hplan⟩ := h
    split at hplan
    · next hn => rw [mapError_eq_ok_iff.1 hrows, hn]
    · obtain ⟨commands, -, hplan⟩ := bind_eq_ok_iff.1 hplan
      cases hplan
  · intro hrows
    exact ⟨0, mapError_eq_ok_iff.2 hrows, rfl⟩

theorem plan_eq_run_iff (h : quoteTableName r.table = .ok quoted) {commands : List ShapefileCommand} :
    x.plan counts false r = .ok (.run commands) ↔ (∃ n, counts.rows quoted = .ok n ∧ 0 < n) ∧
      x.commands counts quoted r.destination GeometryKind.all = .ok commands := by
  rw [plan_eq h, bind_eq_ok_iff]
  constructor
  · intro h
    obtain ⟨n, hrows, hplan⟩ := h
    split at hplan
    · cases hplan
    · next hn =>
      obtain ⟨found, hfound, hplan⟩ := bind_eq_ok_iff.1 hplan
      cases hplan
      exact ⟨⟨n, mapError_eq_ok_iff.1 hrows, Nat.pos_of_ne_zero hn⟩, mapError_eq_ok_iff.1 hfound⟩
  · intro h
    obtain ⟨⟨n, hrows, hn⟩, hcommands⟩ := h
    refine ⟨n, mapError_eq_ok_iff.2 hrows, ?_⟩
    rw [if_neg hn.ne', hcommands]
    rfl

end ShapefileExporter

/-! ### Passwords -/

/-- What others see of a command: what is run, and the texts that it is shown as. -/
structure ShapefileCommand.Sight where
  kind : GeometryKind
  program : String
  arguments : List String
  line : String
  text : String

/-- What can be seen of a command. -/
def ShapefileCommand.sight (c : ShapefileCommand) : Sight where
  kind := c.kind
  program := c.program
  arguments := c.arguments
  line := c.line
  text := c.text

/-- A command that gives its program a password. -/
def ShapefileCommand.withPassword (password : String) (c : ShapefileCommand) : ShapefileCommand :=
  { c with password := some password }

theorem ShapefileCommand.sight_withPassword (password other : String) (c : ShapefileCommand) :
    (c.withPassword password).sight = (c.withPassword other).sight := rfl

/-- What can be seen of the commands of a plan; nothing if there are no records. -/
def ShapefilePlan.sight : ShapefilePlan → Option (List ShapefileCommand.Sight)
  | noRecords => none
  | run commands => some (commands.map ShapefileCommand.sight)

/-- A plan whose commands give their programs a password. -/
def ShapefilePlan.withPassword (password : String) : ShapefilePlan → ShapefilePlan
  | noRecords => noRecords
  | run commands => run (commands.map (ShapefileCommand.withPassword password))

theorem ShapefilePlan.sight_withPassword (password other : String) (p : ShapefilePlan) :
    (p.withPassword password).sight = (p.withPassword other).sight := by
  cases p with
  | noRecords => rfl
  | run commands =>
    simp only [withPassword, sight, List.map_map, Function.comp_def,
      ShapefileCommand.sight_withPassword password other]

namespace ShapefileExporter

variable {counts : TableCounts}

/-- An exporter that connects with a password. -/
def withPassword (password : String) (x : ShapefileExporter) : ShapefileExporter :=
  { x with connection := { x.connection with password := some password } }

theorem commands_withPassword (x : ShapefileExporter) (password table destination : String)
    (kinds : List GeometryKind) :
    (x.withPassword password).commands counts table destination kinds =
      (x.commands counts table destination kinds).map
        (List.map (ShapefileCommand.withPassword password)) := by
  induction kinds with
  | nil => rfl
  | cons kind rest ih =>
    rw [commands, commands, ih]
    cases counts.ofKind table kind with
    | error e => rfl
    | ok n =>
      cases x.commands counts table destination rest with
      | error e => rfl
      | ok others =>
        show Except.ok (if 0 < n then _ else _) = Except.ok (List.map _ (if 0 < n then _ else _))
        split <;> rfl

/-- The password is given to the programs, and that is all it is used for. -/
theorem plan_withPassword (x : ShapefileExporter) (password : String) (isThere : Bool)
    (r : ShapefileRequest) : (x.withPassword password).plan counts isThere r =
      (x.plan counts isThere r).map (ShapefilePlan.withPassword password) := by
  cases isThere with
  | true => rfl
  | false =>
    cases hquoted : quoteTableName r.table with
    | error e =>
      unfold plan
      rw [hquoted]
      rfl
    | ok quoted =>
      rw [plan_eq hquoted, plan_eq hquoted, commands_withPassword]
      cases counts.rows quoted with
      | error e => rfl
      | ok n =>
        cases x.commands counts quoted r.destination GeometryKind.all with
        | error e => cases n <;> rfl
        | ok commands => cases n <;> rfl

theorem sight_plan (x : ShapefileExporter) (password other : String) (isThere : Bool)
    (r : ShapefileRequest) :
    ((x.withPassword password).plan counts isThere r).map ShapefilePlan.sight =
      ((x.withPassword other).plan counts isThere r).map ShapefilePlan.sight := by
  rw [plan_withPassword, plan_withPassword, map_map, map_map]
  congr 1
  funext p
  exact p.sight_withPassword password other

end ShapefileExporter

open ShapefileExporter in
/-- The exports that are planned. Exactly the tables are accepted that one to three parts name, and these
parts are read from the quoted name. If the destination is not there, the numbers of rows tell the plan:
nothing for an empty table, and else one command for each kind that has rows, in the order of the kinds,
which asks for these rows of that table. Another password changes nothing that can be seen of the
commands. -/
theorem plan_outcome :
    (∀ table quoted, quoteTableName table = .ok quoted ↔
      ∃ parts, IsTableName table parts ∧ quoted = quotedName parts ∧
        Sql.lex quoted.toList = some (nameTokens parts)) ∧
    (∀ (x : ShapefileExporter) (counts : TableCounts) (r : ShapefileRequest) (parts : List String),
      IsTableName r.table parts →
      (x.plan counts false r = .ok .noRecords ↔ counts.rows (quotedName parts) = .ok 0) ∧
      (∀ commands, x.plan counts false r = .ok (.run commands) ↔
        (∃ n, counts.rows (quotedName parts) = .ok n ∧ 0 < n) ∧
        ∃ numbers : GeometryKind → Nat,
          (∀ kind, counts.ofKind (quotedName parts) kind = .ok (numbers kind)) ∧
          commands = ([.lineString, .point, .polygon].filter fun kind => 0 < numbers kind).map
            (x.command (quotedName parts) r.destination)) ∧
      ∀ kind, (x.command (quotedName parts) r.destination kind).Exports parts kind) ∧
    ∀ (x : ShapefileExporter) (password other : String) (counts : TableCounts) (isThere : Bool)
      (r : ShapefileRequest),
      ((x.withPassword password).plan counts isThere r).map ShapefilePlan.sight =
        ((x.withPassword other).plan counts isThere r).map ShapefilePlan.sight := by
  refine ⟨fun table quoted => ?names, fun x counts r parts hparts => ?plans, ?passwords⟩
  case names =>
    rw [quoteTableName_eq_ok_iff]
    refine exists_congr fun parts => and_congr_right fun _ => ?_
    refine ⟨fun h => ⟨h, ?_⟩, And.left⟩
    rw [h, lex_quotedName]
  case plans =>
    have hquoted : quoteTableName r.table = .ok (quotedName parts) :=
      quoteTableName_eq_ok_iff.2 ⟨parts, hparts, rfl⟩
    refine ⟨plan_eq_noRecords_iff hquoted, fun commands => ?_, exports_command x parts r.destination⟩
    rw [plan_eq_run_iff hquoted, commands_eq_ok_iff]
    rfl
  case passwords =>
    exact fun x password other counts isThere r => x.sight_plan password other isThere r

/-- A table whose name has a quote, a point within the quotes and blanks in it. -/
def surveyRequest : ShapefileRequest where
  table := " survey \"A.B\" "
  destination := "out"

/-- Points and areas, but no lines. -/
def surveyCounts : TableCounts where
  rows _ := .ok 3
  ofKind _ kind := .ok (if kind = .lineString then 0 else 1)

theorem isTableName_survey : IsTableName surveyRequest.table ["survey \"A", "B\""] :=
  isTableName_iff.2 (by decide +kernel)

/-- An exporter with the usual connection. -/
def surveyExporter : ShapefileExporter where
  connection := {}

theorem plan_outcome_survey :
    IsTableName surveyRequest.table ["survey \"A", "B\""] ∧
      quoteTableName surveyRequest.table = .ok "\"survey \"\"A\".\"B\"\"\"" ∧
      surveyExporter.plan surveyCounts false surveyRequest = .ok (.run ([.point, .polygon].map
        (surveyExporter.command "\"survey \"\"A\".\"B\"\"\"" "out"))) ∧
      ((surveyExporter.withPassword "wall").plan surveyCounts false surveyRequest).map
          ShapefilePlan.sight =
        ((surveyExporter.withPassword "gate").plan surveyCounts false surveyRequest).map
          ShapefilePlan.sight := by
  obtain ⟨hnames, hplans, hpasswords⟩ := plan_outcome
  obtain ⟨-, hrun, -⟩ := hplans surveyExporter surveyCounts surveyRequest _ isTableName_survey
  have hquoted : "\"survey \"\"A\".\"B\"\"\"" = quotedName ["survey \"A", "B\""] := by
    decide +kernel
  refine ⟨isTableName_survey, ?_, ?_, hpasswords _ _ _ _ _ _⟩
  · exact (hnames _ _).2 ⟨_, isTableName_survey, hquoted, hquoted ▸ lex_quotedName _⟩
  · rw [hquoted]
    exact (hrun _).2 ⟨⟨3, rfl, by decide⟩, fun kind => if kind = .lineString then 0 else 1,
      fun _ => rfl, rfl⟩

end ResourceTables
