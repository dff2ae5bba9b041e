/-
Quoted text whose only escape is doubling: the quote character inside the text
is written twice, and nothing else changes. Column names in a query and string
literals in a spreadsheet formula are both written this way, with different
quote characters.
-/

namespace Sieve.Text

/-- The text with every quote character written twice. -/
def double (quote : Char) : List Char → List Char
  | [] => []
  | character :: rest =>
    if character = quote then quote :: quote :: double quote rest
    else character :: double quote rest

/-- The text between two quote characters, with the quotes inside doubled. -/
def enclose (quote : Char) (text : List Char) : List Char :=
  quote :: double quote text ++ [quote]

end Sieve.Text
