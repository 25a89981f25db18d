import TypedQuery.Schema.Registry

/-!
# The tables of a trading company

Six tables of a company that buys products from suppliers and sells them to customers, with the
employees who take the orders and the lines of each order. An employee may report to another, which
makes the table point at itself, and the lines of an order have no key of their own.
-/

namespace TypedQuery.TradingCompany

/-- The customers, known by a short text. -/
def customer : Table where
  name := "customer"
  columns :=
    [⟨"id", .text, false⟩,
     ⟨"company_name", .text, false⟩,
     ⟨"contact_name", .text, false⟩,
     ⟨"contact_title", .text, false⟩,
     ⟨"address", .text, false⟩,
     ⟨"city", .text, false⟩,
     ⟨"postal_code", .text, true⟩,
     ⟨"region", .text, true⟩,
     ⟨"country", .text, false⟩,
     ⟨"phone", .text, false⟩,
     ⟨"fax", .text, true⟩]
  primaryKey := some "id"

/-- The employees, with the employee that each reports to. -/
def employee : Table where
  name := "employee"
  columns :=
    [⟨"id", .integer, false⟩,
     ⟨"last_name", .text, false⟩,
     ⟨"first_name", .text, false⟩,
     ⟨"title", .text, false⟩,
     ⟨"title_of_courtesy", .text, false⟩,
     ⟨"birth_date", .date, false⟩,
     ⟨"hire_date", .date, false⟩,
     ⟨"address", .text, false⟩,
     ⟨"city", .text, false⟩,
     ⟨"postal_code", .text, false⟩,
     ⟨"country", .text, false⟩,
     ⟨"home_phone", .text, false⟩,
     ⟨"extension", .integer, false⟩,
     ⟨"notes", .text, false⟩,
     ⟨"reports_to", .integer, true⟩]
  primaryKey := some "id"
  foreignKeys := [⟨"reports_to", "employee", "id"⟩]

/-- The orders, each of one customer and taken by one employee. -/
def order : Table where
  name := "order"
  columns :=
    [⟨"id", .integer, false⟩,
     ⟨"order_date", .date, false⟩,
     ⟨"required_date", .date, false⟩,
     ⟨"shipped_date", .date, true⟩,
     ⟨"ship_via", .integer, false⟩,
     ⟨"freight", .real, false⟩,
     ⟨"ship_name", .text, false⟩,
     ⟨"ship_city", .text, false⟩,
     ⟨"ship_region", .text, true⟩,
     ⟨"ship_postal_code", .text, true⟩,
     ⟨"ship_country", .text, false⟩,
     ⟨"customer_id", .text, false⟩,
     ⟨"employee_id", .integer, false⟩]
  primaryKey := some "id"
  foreignKeys := [⟨"customer_id", "customer", "id"⟩, ⟨"employee_id", "employee", "id"⟩]

/-- The suppliers of products. -/
def supplier : Table where
  name := "supplier"
  columns :=
    [⟨"id", .integer, false⟩,
     ⟨"company_name", .text, false⟩,
     ⟨"contact_name", .text, false⟩,
     ⟨"contact_title", .text, false⟩,
     ⟨"address", .text, false⟩,
     ⟨"city", .text, false⟩,
     ⟨"region", .text, true⟩,
     ⟨"postal_code", .text, false⟩,
     ⟨"country", .text, false⟩,
     ⟨"phone", .text, false⟩]
  primaryKey := some "id"

/-- The products, each bought from one supplier. -/
def product : Table where
  name := "product"
  columns :=
    [⟨"id", .integer, false⟩,
     ⟨"name", .text, false⟩,
     ⟨"quantity_per_unit", .text, false⟩,
     ⟨"unit_price", .real, false⟩,
     ⟨"units_in_stock", .integer, false⟩,
     ⟨"units_on_order", .integer, false⟩,
     ⟨"reorder_level", .integer, false⟩,
     ⟨"discontinued", .boolean, false⟩,
     ⟨"supplier_id", .integer, false⟩]
  primaryKey := some "id"
  foreignKeys := [⟨"supplier_id", "supplier", "id"⟩]

/-- The lines of the orders: a product, its quantity and its price. -/
def orderDetail : Table where
  name := "order_detail"
  columns :=
    [⟨"unit_price", .real, false⟩,
     ⟨"quantity", .integer, false⟩,
     ⟨"discount", .real, false⟩,
     ⟨"order_id", .integer, false⟩,
     ⟨"product_id", .integer, false⟩]
  foreignKeys := [⟨"order_id", "order", "id"⟩, ⟨"product_id", "product", "id"⟩]

/-- The six tables, each after the ones that it points at. -/
def registry : Registry :=
  ⟨[customer, employee, order, supplier, product, orderDetail]⟩

/-- The registry is what registering its tables one after another gives. -/
theorem registerAll_eq_registry :
    Registry.empty.registerAll registry.tables = .ok registry := by
  rfl

end TypedQuery.TradingCompany
