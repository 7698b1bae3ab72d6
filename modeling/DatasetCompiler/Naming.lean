import DatasetCompiler.Model
import DatasetCompiler.Text.UpperCase

/-!
# Names in the generated code

Every function, macro, constant and file of the generated code is named after a dataset, a table or
a model by a fixed suffix.  The functions fall into three families: those of the database, those of
a table, and those of the rows in memory.
-/

namespace DatasetCompiler

/-! ### Functions -/

/-- The functions of a whole database. -/
inductive DatabaseFunction where
  | prepare
  | deleteAllData
deriving DecidableEq, Repr

def DatabaseFunction.suffix : DatabaseFunction → String
  | .prepare => "_database_initialize"
  | .deleteAllData => "_database_delete_all_data"

/-- The functions that work on the table of a model. -/
inductive TableFunction where
  | insertNew
  | findById
  | deleteById
  | saveExisting
  | getAll
  | countAll
  | deleteAll
  | insertAllNew
  | saveAllExisting
deriving DecidableEq, Repr

def TableFunction.all : List TableFunction :=
  [.insertNew, .findById, .deleteById, .saveExisting, .getAll, .countAll, .deleteAll,
    .insertAllNew, .saveAllExisting]

def TableFunction.suffix : TableFunction → String
  | .insertNew => "_insert_new"
  | .findById => "_find_by_id"
  | .deleteById => "_delete_by_id"
  | .saveExisting => "_save_existing"
  | .getAll => "_get_all"
  | .countAll => "_count_all"
  | .deleteAll => "_delete_all"
  | .insertAllNew => "_insert_all_new"
  | .saveAllExisting => "_save_all_existing"

/-- The functions that work on rows in memory. -/
inductive RowFunction where
  | addToResultList
  | fromRowResult
  | free
  | init
  | listFree
  | listInit
deriving DecidableEq, Repr

def RowFunction.all : List RowFunction :=
  [.addToResultList, .fromRowResult, .free, .init, .listFree, .listInit]

def RowFunction.suffix : RowFunction → String
  | .addToResultList => "_add_to_result_list"
  | .fromRowResult => "_from_row_result"
  | .free => "_free"
  | .init => "_init"
  | .listFree => "_list_free"
  | .listInit => "_list_init"

def Dataset.databaseFunction (d : Dataset) (f : DatabaseFunction) : String :=
  d.name ++ f.suffix

def Model.tableFunction (m : Model) (f : TableFunction) : String :=
  m.tableName ++ f.suffix

def Model.rowFunction (m : Model) (f : RowFunction) : String :=
  m.name ++ f.suffix

/-! ### Macros and constants -/

/-- The kinds of names that are written in capital letters. -/
inductive ConstantKind where
  | column
  | tableCreate
  | typesGuard
  | accessorGuard
deriving DecidableEq, Repr

def ConstantKind.suffix : ConstantKind → String
  | .column => "_COL"
  | .tableCreate => "_TABLE_CREATE"
  | .typesGuard => "_CDAL_H"
  | .accessorGuard => "_CDAL_ACCESSOR_H"

def Dataset.typesHeaderGuard (d : Dataset) : String :=
  Text.upper d.name ++ ConstantKind.typesGuard.suffix

def Dataset.accessorHeaderGuard (d : Dataset) : String :=
  Text.upper d.name ++ ConstantKind.accessorGuard.suffix

/-- The constant that holds the statement which creates the table. -/
def Model.tableCreateConstant (m : Model) : String :=
  Text.upper m.tableName ++ ConstantKind.tableCreate.suffix

def Model.columnConstant (m : Model) (f : Field) : String :=
  Text.upper m.tableName ++ "_" ++ Text.upper f.name ++ ConstantKind.column.suffix

/-! ### Files -/

/-- The four templates, one for each generated file. -/
inductive Template where
  | typesHeader
  | typesSource
  | accessorHeader
  | accessorSource
deriving DecidableEq, Repr

/-- What the name of a generated file has behind the name of the dataset. -/
def Template.fileSuffix : Template → String
  | .typesHeader => ".cdal.h"
  | .typesSource => ".cdal.c"
  | .accessorHeader => ".cdal.accessor.h"
  | .accessorSource => ".cdal.accessor.c"

def Dataset.typesHeader (d : Dataset) : String := d.name ++ Template.typesHeader.fileSuffix

def Dataset.typesSource (d : Dataset) : String := d.name ++ Template.typesSource.fileSuffix

def Dataset.accessorHeader (d : Dataset) : String := d.name ++ Template.accessorHeader.fileSuffix

def Dataset.accessorSource (d : Dataset) : String := d.name ++ Template.accessorSource.fileSuffix

/-- A file of the project as an include target. -/
def quotedInclude (file : String) : String := "\"" ++ file ++ "\""

end DatasetCompiler
