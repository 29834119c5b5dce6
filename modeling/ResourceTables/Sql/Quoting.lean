/-!
# ResourceTables.Sql.Quoting

Quoted identifiers and literals. Inside quotes a quote is written twice, so the quotes of a text
never end it. A literal cannot hold the character NUL, which is left out.
-/

namespace ResourceTables.Sql

/-- The characters with every quote written twice. -/
def doubled (quote : Char) (cs : List Char) : List Char :=
  cs.flatMap fun c => if c = quote then [quote, quote] else [c]

/-- A quoted identifier. -/
def identifierChars (name : List Char) : List Char := '\x22' :: doubled '\x22' name ++ ['\x22']

/-- The characters a literal can hold. -/
def storable (cs : List Char) : List Char := cs.filter (· != '\x00')

/-- A quoted literal. -/
def literalChars (value : List Char) : List Char :=
  '\x27' :: doubled '\x27' (storable value) ++ ['\x27']

/-- A quoted identifier. -/
def identifier (name : String) : String := String.ofList (identifierChars name.toList)

/-- A quoted literal. -/
def literal (value : String) : String := String.ofList (literalChars value.toList)

@[simp] theorem doubled_nil (quote : Char) : doubled quote [] = [] := rfl

@[simp] theorem doubled_append (quote : Char) (cs ds : List Char) :
    doubled quote (cs ++ ds) = doubled quote cs ++ doubled quote ds := by
  simp [doubled]

end ResourceTables.Sql
