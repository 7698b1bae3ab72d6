import DatasetCompiler.Json.Builder
import DatasetCompiler.Json.Source

/-!
# Reading JSON values

The two ways to read a value: from a text, and from a source that delivers bytes in pieces and may
fail.
-/

namespace DatasetCompiler.Json

def ofText (text : String) : Except Fault Json :=
  ofLexed (lexText text)

def ofSource (source : Source) : Except Fault Json :=
  ofLexed source.lex

end DatasetCompiler.Json
