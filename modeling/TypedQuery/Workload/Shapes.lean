import TypedQuery.Plan.Draft

/-!
# Query shapes

The retrievals of a trading company's daily work, as plans over its tables: whole tables, rows by
number, searches by name, and the joins that bring an employee together with the manager, a product
with its supplier and an order with its lines. Every shape takes the registry, so that it can be
made over other tables with the same columns.
-/

namespace TypedQuery.Shape

/-- All rows of a table. -/
def fullScan (registry : Registry) (table : String) : Except QueryError Plan := do
  let draft ← (Draft.new registry).selectFrom table
  draft.build

/-- The keys of a table in rising order. -/
def ids (registry : Registry) (table : String) : Except QueryError Plan := do
  let draft ← (Draft.new registry).selectFrom table
  let draft ← draft.selectColumns ["id"]
  let draft ← draft.orderBy "id" .ascending
  draft.build

/-- The row of a table with a key. -/
def byId (registry : Registry) (table : String) (id : Value) : Except QueryError Plan := do
  let draft ← (Draft.new registry).selectFrom table
  let draft ← draft.whereEq "id" id
  draft.build

/-- The rows of a table in which a column contains a term. -/
def search (registry : Registry) (table column term : String) : Except QueryError Plan := do
  let draft ← (Draft.new registry).selectFrom table
  let draft ← draft.whereContains column term
  draft.build

/-- The customers whose company name contains a term. -/
def customerSearch (registry : Registry) (term : String) : Except QueryError Plan :=
  search registry "customer" "company_name" term

/-- The products whose name contains a term. -/
def productSearch (registry : Registry) (term : String) : Except QueryError Plan :=
  search registry "product" "name" term

/-- The columns of an employee's manager, under names that the employee's own columns do not
have. -/
def managerColumns : List String :=
  ["e2.id as e2_id",
   "e2.last_name as e2_last_name",
   "e2.first_name as e2_first_name",
   "e2.title as e2_title",
   "e2.title_of_courtesy as e2_title_of_courtesy",
   "e2.birth_date as e2_birth_date",
   "e2.hire_date as e2_hire_date",
   "e2.address as e2_address",
   "e2.city as e2_city",
   "e2.postal_code as e2_postal_code",
   "e2.country as e2_country",
   "e2.home_phone as e2_home_phone",
   "e2.extension as e2_extension",
   "e2.notes as e2_notes",
   "e2.reports_to as e2_reports_to"]

/-- An employee with the manager, whose columns are null if the employee reports to nobody. -/
def employeeWithManager (registry : Registry) (id : Int64) : Except QueryError Plan := do
  let draft ← (Draft.new registry).selectFrom "employee as e1"
  let draft ← draft.joinSpec .left "employee as e2" "e1.reports_to" "e2.id"
  let draft ← draft.selectColumns ("e1.*" :: managerColumns)
  let draft ← draft.whereRaw "e1.id = ?" [.integer id]
  draft.build

/-- A product with its supplier. -/
def productWithSupplier (registry : Registry) (id : Int64) : Except QueryError Plan := do
  let draft ← (Draft.new registry).selectFrom "product"
  let draft ← draft.joinSpec .left "supplier" "supplier.id" "product.supplier_id"
  let draft ← draft.selectColumns
    ["product.*", "supplier.id as s_id", "company_name", "contact_name", "contact_title",
     "address", "city", "region", "postal_code", "country", "phone"]
  let draft ← draft.whereRaw "product.id = ?" [.integer id]
  draft.build

/-- A row for each order: the number of its lines, and its total quantity and price. Orders without
lines are there with a count of zero. -/
def orderSummary (registry : Registry) : Except QueryError Plan := do
  let draft ← (Draft.new registry).selectFrom "order"
  let draft ← draft.joinSpec .left "order_detail" "order_detail.order_id" "order.id"
  let draft ← draft.selectColumns
    ["order.id", "order.shipped_date", "order.ship_name", "order.ship_city", "order.ship_country"]
  let draft ← draft.aggregateSpec .count "product_id as products_count"
  let draft ← draft.aggregateSpec .sum "quantity as quantity_sum"
  let draft ← draft.aggregate .sumOfProduct ["quantity", "unit_price"] "total_price"
  let draft ← draft.groupBy ["order.id"]
  let draft ← draft.orderBy "order.id" .ascending
  draft.build

/-- The lines of an order, each with its product and the order itself. -/
def orderDetails (registry : Registry) (order : Int64) : Except QueryError Plan := do
  let draft ← (Draft.new registry).selectFrom "order_detail"
  let draft ← draft.joinSpec .left "product" "product.id" "order_detail.product_id"
  let draft ← draft.joinSpec .left "order" "order.id" "order_detail.order_id"
  let draft ← draft.selectColumns
    ["order_detail.*", "order.id as o_id", "order_date", "required_date", "shipped_date",
     "ship_via", "freight", "ship_name", "ship_city", "ship_region", "ship_postal_code",
     "ship_country", "customer_id", "employee_id", "product.id as p_id", "name",
     "quantity_per_unit", "product.unit_price as p_unit_price", "units_in_stock",
     "units_on_order", "reorder_level", "discontinued", "supplier_id"]
  let draft ← draft.whereRaw "order_detail.order_id = ?" [.integer order]
  draft.build

end TypedQuery.Shape
