import Audience.Vocabulary.Operator

set_option autoImplicit false

/-! # The catalog of columns

The columns that conditions may speak about, by dataset. The catalog says which type a column has,
and so which operators apply to it, and which category of value mappings its values belong to. A
column that is not in the catalog counts as text without mappings. -/

namespace Audience

/-- The datasets, customers first. -/
inductive Dataset where
  | customers
  | transactions
  | productLines
  | stores
  deriving DecidableEq

namespace Dataset

/-- Every dataset in order. -/
def all : List Dataset :=
  [.customers, .transactions, .productLines, .stores]

/-- The name of a dataset. -/
def name : Dataset → String
  | .customers => "customers"
  | .transactions => "transactions"
  | .productLines => "product_lines"
  | .stores => "stores"

end Dataset

/-- The categories of value mappings. -/
inductive Category where
  | gender
  | city
  | paymentMethod
  | storeType
  | productCategory
  deriving DecidableEq

/-- The name of a category. -/
def Category.name : Category → String
  | .gender => "gender"
  | .city => "city"
  | .paymentMethod => "payment_method"
  | .storeType => "store_type"
  | .productCategory => "product_category"

/-- A column of the catalog. -/
structure Column where
  dataset : Dataset
  name : String
  type : FieldType
  mapping : Option Category
  deriving DecidableEq

namespace Catalog

/-- Every column, customers first. -/
def columns : List Column := [
  ⟨.customers, "customer_id", .number, none⟩,
  ⟨.customers, "full_name", .text, none⟩,
  ⟨.customers, "email", .text, none⟩,
  ⟨.customers, "phone", .text, none⟩,
  ⟨.customers, "gender", .text, some .gender⟩,
  ⟨.customers, "birth_date", .datetime, none⟩,
  ⟨.customers, "city", .text, some .city⟩,
  ⟨.customers, "registration_date", .datetime, none⟩,
  ⟨.customers, "is_active", .boolean, none⟩,
  ⟨.transactions, "transaction_id", .number, none⟩,
  ⟨.transactions, "customer_id", .number, none⟩,
  ⟨.transactions, "store_id", .number, none⟩,
  ⟨.transactions, "product_line_id", .number, none⟩,
  ⟨.transactions, "quantity", .number, none⟩,
  ⟨.transactions, "unit_price", .number, none⟩,
  ⟨.transactions, "total_amount", .number, none⟩,
  ⟨.transactions, "payment_method", .text, some .paymentMethod⟩,
  ⟨.transactions, "transaction_date", .datetime, none⟩,
  ⟨.productLines, "product_line_id", .number, none⟩,
  ⟨.productLines, "name", .text, none⟩,
  ⟨.productLines, "category", .text, some .productCategory⟩,
  ⟨.productLines, "brand", .text, none⟩,
  ⟨.productLines, "unit_price", .number, none⟩,
  ⟨.stores, "store_id", .number, none⟩,
  ⟨.stores, "store_name", .text, none⟩,
  ⟨.stores, "store_type", .text, some .storeType⟩,
  ⟨.stores, "city", .text, some .city⟩,
  ⟨.stores, "region", .text, none⟩,
  ⟨.stores, "opening_date", .datetime, none⟩]

/-- The column of a dataset, if it is in the catalog. -/
def lookup (dataset column : String) : Option Column :=
  columns.find? fun c => c.dataset.name == dataset && c.name == column

/-- The column of the first dataset that has one of this name. -/
def locate (column : String) : Option Column :=
  columns.find? (·.name == column)

/-- The type of a column; text when the catalog does not know it. -/
def fieldType (dataset column : String) : FieldType :=
  ((lookup dataset column).map Column.type).getD .text

/-- The category of value mappings of a column, if it has one. -/
def mapping (dataset column : String) : Option Category :=
  (lookup dataset column).bind Column.mapping

/-- Whether a dataset of this name exists. -/
def isKnownDataset (dataset : String) : Bool :=
  Dataset.all.any (·.name == dataset)

end Catalog

end Audience
