import DatasetCompiler.Model

/-!
# SQL statements

The statements that every model has, and the statements of its queries.
-/

namespace DatasetCompiler

namespace Model

/-- Inserts a row, or replaces the row with its key. -/
def insertStatement (m : Model) : String :=
  "INSERT OR REPLACE INTO " ++ m.tableName ++ " VALUES (" ++
    ", ".intercalate (m.fields.map fun _ => "?") ++ ");"

def columnDefinition (f : Field) : String := f.name ++ " " ++ f.type.columnType

def createTableStatement (m : Model) : String :=
  "CREATE TABLE IF NOT EXISTS " ++ m.tableName ++ "(" ++
    ",".intercalate (m.fields.map columnDefinition) ++ ");"

def getAllStatement (m : Model) : String := "SELECT * FROM " ++ m.tableName ++ ";"

def countAllStatement (m : Model) : String := "SELECT COUNT(*) FROM " ++ m.tableName ++ ";"

def deleteAllStatement (m : Model) : String := "DELETE FROM " ++ m.tableName ++ ";"

def findByIdStatement (m : Model) : Except KeyViolation String := do
  let key ← m.primaryKey
  return "SELECT * FROM " ++ m.tableName ++ " WHERE " ++ key.name ++ " = ?;"

def deleteByIdStatement (m : Model) : Except KeyViolation String := do
  let key ← m.primaryKey
  return "DELETE FROM " ++ m.tableName ++ " WHERE " ++ key.name ++ " = ?;"

def queryStatement (m : Model) (q : Query) : String :=
  match q.type with
  | .select => "SELECT * FROM " ++ m.tableName ++ " " ++ q.text
  | .find => "SELECT * FROM " ++ m.tableName ++ " " ++ q.text ++ " LIMIT 1"
  | .count => "SELECT COUNT(*) FROM " ++ m.tableName ++ " " ++ q.text
  | .delete => "DELETE FROM " ++ m.tableName ++ " " ++ q.text
  | .update => "UPDATE " ++ m.tableName ++ " " ++ q.text

def selectCountStatement (m : Model) (q : Query) : String :=
  "SELECT COUNT(*) FROM " ++ m.tableName ++ " " ++ q.text

end Model

end DatasetCompiler
