import TableTalk.Lexicon.Basic

namespace TableTalk.Demo

def customers : Taxonomy :=
  { table := "customers"
    aliases := ["customer", "clients", "client"]
    customerFields := ["name", "company"]
    statusFields := ["status"]
    dateFields := ["created_at"]
    locationFields := ["city", "address"]
    relationships := [("sales", ⟨"customer_id", "id"⟩)] }

def products : Taxonomy :=
  { table := "products"
    aliases := ["product", "items", "item"]
    productFields := ["name", "description", "category"]
    statusFields := ["status"]
    dateFields := ["created_at"]
    numericFields := ["price", "stock_quantity"]
    numericHints := [
      ("price", "price"), ("cost", "price"), ("stock", "stock_quantity"),
      ("quantity", "stock_quantity"), ("inventory", "stock_quantity")]
    relationships := [("sales", ⟨"product_id", "id"⟩), ("stock", ⟨"product_id", "id"⟩)] }

def sales : Taxonomy :=
  { table := "sales"
    aliases := ["sale", "orders", "order", "revenue"]
    userFields := ["sales_rep_id"]
    productFields := ["product_name"]
    customerFields := ["customer_name"]
    statusFields := ["status"]
    dateFields := ["sale_date", "created_at"]
    numericFields := ["total_amount", "quantity", "unit_price"]
    numericHints := [
      ("sales", "total_amount"), ("revenue", "total_amount"), ("amount", "total_amount"),
      ("total", "total_amount"), ("quantity", "quantity"), ("units", "quantity"),
      ("price", "unit_price")]
    relationships := [
      ("products", ⟨"product_id", "id"⟩), ("customers", ⟨"customer_id", "id"⟩),
      ("users", ⟨"sales_rep_id", "id"⟩)] }

def stock : Taxonomy :=
  { table := "stock"
    aliases := ["inventory"]
    productFields := ["product_name"]
    dateFields := ["last_restocked", "created_at"]
    locationFields := ["warehouse_location"]
    numericFields := ["quantity_available", "reserved_quantity", "reorder_level"]
    numericHints := [
      ("stock", "quantity_available"), ("quantity", "quantity_available"),
      ("available", "quantity_available"), ("reserved", "reserved_quantity"),
      ("reorder", "reorder_level")]
    relationships := [("products", ⟨"product_id", "id"⟩)] }

def tasks : Taxonomy :=
  { table := "tasks"
    aliases := ["task", "todos", "todo"]
    userFields := ["assigned_to"]
    statusFields := ["status"]
    priorityFields := ["priority"]
    dateFields := ["due_date", "completed_at", "created_at"]
    relationships := [("users", ⟨"assigned_to", "id"⟩)] }

def users : Taxonomy :=
  { table := "users"
    aliases := ["user", "employees", "employee", "staff"]
    userFields := ["id", "full_name", "email"]
    dateFields := ["created_at"]
    locationFields := ["city"]
    relationships := [
      ("tasks", ⟨"assigned_to", "id"⟩), ("sales", ⟨"sales_rep_id", "id"⟩),
      ("shifts", ⟨"user_id", "id"⟩), ("attendance", ⟨"user_id", "id"⟩)] }

def shifts : Taxonomy :=
  { table := "shifts"
    aliases := ["shift", "schedule", "schedules"]
    userFields := ["user_id"]
    statusFields := ["status"]
    dateFields := ["shift_date"]
    locationFields := ["location"]
    numericFields := ["break_duration"]
    relationships := [("users", ⟨"user_id", "id"⟩), ("attendance", ⟨"shift_id", "id"⟩)] }

def attendance : Taxonomy :=
  { table := "attendance"
    aliases := ["attendances", "timesheet", "timesheets"]
    userFields := ["user_id"]
    statusFields := ["status"]
    dateFields := ["clock_in", "clock_out"]
    numericFields := ["total_hours"]
    numericHints := [("hours", "total_hours")]
    relationships := [("users", ⟨"user_id", "id"⟩), ("shifts", ⟨"shift_id", "id"⟩)] }

def keywords : Synonyms where
  status := [
    ("pending", ["pending", "waiting", "queued", "on hold", "open"]),
    ("completed", ["completed", "complete", "finished", "done", "closed", "resolved", "fulfilled"]),
    ("in_progress", ["in progress", "ongoing", "started", "underway"]),
    ("cancelled", ["cancelled", "canceled", "aborted"]),
    ("scheduled", ["scheduled", "planned"]),
    ("present", ["present"]),
    ("absent", ["absent"]),
    ("late", ["late"]),
    ("active", ["active"]),
    ("inactive", ["inactive"])]
  priority := [
    ("high", ["high priority", "urgent", "critical", "high"]),
    ("medium", ["medium priority", "normal priority", "medium"]),
    ("low", ["low priority", "low"])]
  location := [
    ("main warehouse", ["main warehouse", "central warehouse"]),
    ("north warehouse", ["north warehouse"]),
    ("south warehouse", ["south warehouse"]),
    ("warehouse", ["warehouse", "depot"]),
    ("head office", ["head office", "main office", "hq"]),
    ("office", ["office"]),
    ("remote", ["remote", "work from home", "wfh"]),
    ("dubai", ["dubai"]),
    ("london", ["london"]),
    ("new york", ["new york", "nyc"]),
    ("cairo", ["cairo"]),
    ("riyadh", ["riyadh"]),
    ("berlin", ["berlin"])]
  temporal := [
    ("today", ["today"]),
    ("yesterday", ["yesterday"]),
    ("tomorrow", ["tomorrow"]),
    ("this_week", ["this week", "current week"]),
    ("last_week", ["last week", "past week", "previous week"]),
    ("next_week", ["next week", "coming week", "following week"]),
    ("this_month", ["this month", "current month"]),
    ("last_month", ["last month", "past month", "previous month"]),
    ("next_month", ["next month", "coming month", "following month"]),
    ("this_year", ["this year", "current year"]),
    ("last_year", ["last year", "past year", "previous year"]),
    ("next_year", ["next year", "coming year", "following year"])]

def lexicon : Lexicon where
  tables := [customers, products, sales, stock, tasks, users, shifts, attendance]
  synonyms := keywords
  pronouns := ["me", "my", "mine", "i", "myself"]
  comparisons := [
    (.above, ["above", "over", "greater than", "more than", "higher than"]),
    (.below, ["below", "under", "less than", "fewer than", "lower than"])]
  stopWords := [
    "a", "an", "the", "of", "for", "in", "true", "at", "to", "by", "with", "from", "and", "or",
    "is", "are", "was", "show", "list", "find", "get", "give", "all", "any", "what", "which",
    "who", "how", "many", "much", "records", "record", "data", "please", "that", "this", "those",
    "these", "last", "next", "than"]
  domainSources := [
    { category := "product", table := "products", valueColumns := ["name"] },
    { category := "customer", table := "customers", valueColumns := ["name", "company"] },
    { category := "user", table := "users", valueColumns := ["full_name"] }]
  categories := [
    ⟨"product", "products", ["products", "sales", "stock"]⟩,
    ⟨"customer", "customers", ["customers", "sales"]⟩,
    ⟨"user", "users", ["users", "tasks", "shifts", "attendance"]⟩]
  fallbackTables := ["products", "sales", "customers"]
  personalTables := ["tasks", "shifts", "attendance", "sales"]

end TableTalk.Demo
