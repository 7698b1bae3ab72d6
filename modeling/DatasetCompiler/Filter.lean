import DatasetCompiler.Access
import DatasetCompiler.CLiteral
import DatasetCompiler.Declaration
import DatasetCompiler.Statement

/-!
# Filters

A template asks for everything it writes about a dataset by the name of a filter.  A filter is a
function on a dataset, on a model, on a field with its model, on a query or on a parameter; each
template has its own set of filters, some of them shared.

Main definitions: `Filter`, `Template.filters` and `Filter.values`, which applies a filter to all
parts of a dataset that it is about.
-/

namespace DatasetCompiler

/-- A function that templates can use. -/
inductive Filter where
  | dataset (apply : Dataset → String)
  | model (apply : Model → String)
  | checkedModel (apply : Model → Except KeyViolation String)
  | field (apply : Field → String)
  | column (apply : Model → Field → String)
  | fieldBind (apply : Model → Field → (query row : String) → Call)
  | fieldRead (apply : Model → Field → (query row success : String) → Read)
  | query (apply : Model → Query → String)
  | param (apply : QueryParam → String)
  | paramBind (apply : QueryParam → (query : String) → Call)

def Filter.kind : Filter → String
  | .dataset _ => "Dataset"
  | .model _ => "Model"
  | .checkedModel _ => "CheckedModel"
  | .field _ => "Field"
  | .column _ => "Column"
  | .fieldBind _ => "FieldBind"
  | .fieldRead _ => "FieldRead"
  | .query _ => "Query"
  | .param _ => "Param"
  | .paramBind _ => "ParamBind"

structure NamedFilter where
  name : String
  filter : Filter

/-! ### The filters of the templates -/

namespace Filter

/-- The filters that every template has. -/
def common : List NamedFilter := [
  ⟨"field_column_type", .field (·.type.columnType)⟩,
  ⟨"field_name_declaration", .field Field.nameDeclaration⟩,
  ⟨"field_type_declaration", .field Field.typeDeclaration⟩,
  ⟨"model_c_type", .model Model.typeName⟩,
  ⟨"model_const_pointer_type", .model Model.constPointerType⟩,
  ⟨"model_free_function_name", .model (·.rowFunction .free)⟩,
  ⟨"model_init_function_name", .model (·.rowFunction .init)⟩,
  ⟨"model_list_c_type", .model Model.listType⟩,
  ⟨"model_list_const_pointer_type", .model Model.listConstPointerType⟩,
  ⟨"model_list_free_function_name", .model (·.rowFunction .listFree)⟩,
  ⟨"model_list_init_function_name", .model (·.rowFunction .listInit)⟩,
  ⟨"model_list_pointer_type", .model Model.listPointerType⟩,
  ⟨"model_pointer_type", .model Model.pointerType⟩,
  ⟨"query_param_c_type", .param QueryParam.typeDeclaration⟩]

def functions : List NamedFilter := [
  ⟨"database_delete_all_data_function_name", .dataset (·.databaseFunction .deleteAllData)⟩,
  ⟨"database_initialize_function_name", .dataset (·.databaseFunction .prepare)⟩,
  ⟨"model_delete_by_id_function_name", .model (·.tableFunction .deleteById)⟩,
  ⟨"model_find_by_id_function_name", .model (·.tableFunction .findById)⟩,
  ⟨"model_insert_new_function_name", .model (·.tableFunction .insertNew)⟩,
  ⟨"model_save_existing_function_name", .model (·.tableFunction .saveExisting)⟩,
  ⟨"models_count_all_function_name", .model (·.tableFunction .countAll)⟩,
  ⟨"models_delete_all_function_name", .model (·.tableFunction .deleteAll)⟩,
  ⟨"models_get_all_function_name", .model (·.tableFunction .getAll)⟩,
  ⟨"models_insert_all_new_function_name", .model (·.tableFunction .insertAllNew)⟩,
  ⟨"models_save_all_existing_function_name", .model (·.tableFunction .saveAllExisting)⟩]

/-- The filters for statements, each a C literal. -/
def statements : List NamedFilter := [
  ⟨"model_create_table_query_string", .model fun m => CLiteral.ofText m.createTableStatement⟩,
  ⟨"model_delete_by_id_query_string",
    .checkedModel fun m => m.deleteByIdStatement.map CLiteral.ofText⟩,
  ⟨"model_find_by_id_query_string",
    .checkedModel fun m => m.findByIdStatement.map CLiteral.ofText⟩,
  ⟨"model_insert_query_string", .model fun m => CLiteral.ofText m.insertStatement⟩,
  ⟨"models_count_all_query_string", .model fun m => CLiteral.ofText m.countAllStatement⟩,
  ⟨"models_delete_all_query_string", .model fun m => CLiteral.ofText m.deleteAllStatement⟩,
  ⟨"models_get_all_query_string", .model fun m => CLiteral.ofText m.getAllStatement⟩,
  ⟨"query_get_full_string", .query fun m q => CLiteral.ofText (m.queryStatement q)⟩,
  ⟨"select_query_get_count_query_string",
    .query fun m q => CLiteral.ofText (m.selectCountStatement q)⟩]

def access : List NamedFilter := [
  ⟨"field_bind_function_call", .fieldBind Model.bindField⟩,
  ⟨"field_column_enum", .column Model.columnConstant⟩,
  ⟨"field_read_result_function_call", .fieldRead Model.readField⟩,
  ⟨"model_add_to_result_list_function_name", .model (·.rowFunction .addToResultList)⟩,
  ⟨"model_from_row_result_function_name", .model (·.rowFunction .fromRowResult)⟩,
  ⟨"query_param_bind_call", .paramBind QueryParam.bind⟩,
  ⟨"table_create_query_var", .model Model.tableCreateConstant⟩]

end Filter

/-- The filters of one template beyond the common ones. -/
def Template.ownFilters : Template → List NamedFilter
  | .typesHeader => [
    ⟨"header_guard_macro", .dataset Dataset.typesHeaderGuard⟩,
    ⟨"header_name", .dataset Dataset.typesHeader⟩]
  | .typesSource => [⟨"source_name", .dataset Dataset.typesSource⟩]
  | .accessorHeader => Filter.functions ++ [
    ⟨"header_guard_macro", .dataset Dataset.accessorHeaderGuard⟩,
    ⟨"header_name", .dataset Dataset.accessorHeader⟩]
  | .accessorSource => Filter.functions ++ Filter.access ++ Filter.statements ++ [
    ⟨"source_name", .dataset Dataset.accessorSource⟩]

/-- All filters of a template; no two of them share a name. -/
def Template.allFilters (t : Template) : List NamedFilter :=
  Filter.common ++ t.ownFilters

def Template.filters (t : Template) : List NamedFilter :=
  t.allFilters.mergeSort fun a b => a.name ≤ b.name

def Template.filter? (t : Template) (name : String) : Option Filter :=
  (t.allFilters.find? (·.name == name)).map (·.filter)

/-! ### Applying a filter -/

/-- The values of a filter on a dataset, one for each part it is about, in order. -/
def Filter.values (vars : Variables) (d : Dataset) : Filter → Except KeyViolation (List String)
  | .dataset apply => .ok [apply d]
  | .model apply => .ok (d.models.map apply)
  | .checkedModel apply => d.models.mapM apply
  | .field apply => .ok (d.models.flatMap fun m => m.fields.map apply)
  | .column apply => .ok (d.models.flatMap fun m => m.fields.map (apply m))
  | .fieldBind apply =>
    .ok (d.models.flatMap fun m => m.fields.map fun f => (apply m f vars.query vars.model).text)
  | .fieldRead apply =>
    .ok (d.models.flatMap fun m =>
      m.fields.map fun f => (apply m f vars.query vars.model vars.success).text)
  | .query apply => .ok (d.models.flatMap fun m => m.queries.map (apply m))
  | .param apply => .ok (d.models.flatMap fun m => m.queries.flatMap fun q => q.params.map apply)
  | .paramBind apply =>
    .ok (d.models.flatMap fun m =>
      m.queries.flatMap fun q => q.params.map fun p => (apply p vars.query).text)

end DatasetCompiler
