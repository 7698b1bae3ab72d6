/-!
# C string literals

A text is written as a C string literal between double quotes.  Double quotes, backslashes and line
feeds are escaped; every other character stands for itself.
-/

namespace DatasetCompiler.CLiteral

def encodeChar : Char → List Char
  | '"' => ['\\', '"']
  | '\\' => ['\\', '\\']
  | '\n' => ['\\', 'n']
  | c => [c]

/-- The characters between the quotes. -/
def encode (cs : List Char) : List Char := cs.flatMap encodeChar

def ofText (text : String) : String :=
  String.ofList ('"' :: encode text.toList ++ ['"'])

end DatasetCompiler.CLiteral
