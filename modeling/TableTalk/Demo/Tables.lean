import TableTalk.Store.Basic

namespace TableTalk.Demo

def usersTable : Frame :=
  .typed
    [("id", .text), ("email", .text), ("full_name", .text), ("role", .text), ("department", .text),
      ("city", .text), ("created_at", .moment)]
    [
      [.text "usr-001", .text "sarah.khan@acme.io", .text "Sarah Khan", .text "manager",
        .text "Operations", .text "Dubai", .text "2023-01-09 09:00"],
      [.text "usr-002", .text "omar.farouk@acme.io", .text "Omar Farouk", .text "sales_rep",
        .text "Sales", .text "Cairo", .text "2023-03-14 09:00"],
      [.text "usr-003", .text "lena.fischer@acme.io", .text "Lena Fischer", .text "staff",
        .text "Warehouse", .text "Berlin", .text "2023-07-01 09:00"],
      [.text "usr-004", .text "james.carter@acme.io", .text "James Carter", .text "sales_rep",
        .text "Sales", .text "London", .text "2024-02-19 09:00"]]

def customersTable : Frame :=
  .typed
    [("id", .text), ("name", .text), ("email", .text), ("phone", .text), ("company", .text),
      ("address", .text), ("city", .text), ("status", .text), ("created_at", .moment)]
    [
      [.text "cus-001", .text "Nadia Haddad", .text "nadia@salescorp.ae", .text "+971 4 555 0101",
        .text "Sales Corp", .text "12 Marina Walk", .text "Dubai", .text "active",
        .text "2023-05-02 10:00"],
      [.text "cus-002", .text "Peter Novak", .text "peter@northwind.co.uk",
        .text "+44 20 5550 0102", .text "Northwind Traders", .text "3 Fleet Street", .text "London",
        .text "active", .text "2023-08-21 10:00"],
      [.text "cus-003", .text "Aisha Rahman", .text "aisha@blueharbor.sa", .text "+966 11 555 0103",
        .text "Blue Harbor Foods", .text "88 King Fahd Road", .text "Riyadh", .text "active",
        .text "2024-01-11 10:00"],
      [.text "cus-004", .text "Marco Rossi", .text "marco@rossi-imports.de",
        .text "+49 30 5550 0104", .text "Rossi Imports", .text "5 Torstrasse", .text "Berlin",
        .text "inactive", .text "2022-11-30 10:00"]]

def productsTable : Frame :=
  .typed
    [("id", .text), ("name", .text), ("description", .text), ("sku", .text), ("category", .text),
      ("price", .float), ("stock_quantity", .int), ("status", .text), ("created_at", .moment)]
    [
      [.text "prd-001", .text "Gaming Laptop", .text "High-end laptop with a dedicated GPU",
        .text "LAP-GM-01", .text "Electronics", .float 2499.0, .int 12, .text "active",
        .text "2023-02-01 08:00"],
      [.text "prd-002", .text "Business Laptop", .text "Lightweight laptop for office work",
        .text "LAP-BZ-02", .text "Electronics", .float 1299.0, .int 30, .text "active",
        .text "2023-02-01 08:00"],
      [.text "prd-003", .text "Wireless Mouse", .text "Ergonomic two-button mouse",
        .text "ACC-MS-03", .text "Accessories", .float 39.9, .int 200, .text "active",
        .text "2023-04-15 08:00"],
      [.text "prd-004", .text "Mechanical Keyboard", .text "Tenkeyless keyboard, brown switches",
        .text "ACC-KB-04", .text "Accessories", .float 129.0, .int 80, .text "active",
        .text "2023-04-15 08:00"],
      [.text "prd-005", .text "Office Chair", .text "Mesh back swivel chair", .text "FUR-CH-05",
        .text "Furniture", .float 349.0, .int 4, .text "inactive", .text "2022-09-10 08:00"],
      [.text "prd-006", .text "UltraWide Monitor", .text "34 inch curved display",
        .text "MON-UW-06", .text "Electronics", .float 699.0, .int 25, .text "active",
        .text "2023-10-03 08:00"]]

def salesTable : Frame :=
  .typed
    [("id", .text), ("customer_id", .text), ("customer_name", .text), ("product_id", .text),
      ("product_name", .text), ("sales_rep_id", .text), ("quantity", .int), ("unit_price", .float),
      ("total_amount", .float), ("sale_date", .moment), ("status", .text), ("notes", .text),
      ("created_at", .moment)]
    [
      [.text "sal-001", .text "cus-001", .text "Nadia Haddad", .text "prd-001",
        .text "Gaming Laptop", .text "usr-002", .int 1, .float 2499.0, .float 2499.0,
        .text "2024-06-10 14:20", .text "completed", .null, .text "2024-06-10 14:20"],
      [.text "sal-002", .text "cus-002", .text "Peter Novak", .text "prd-002",
        .text "Business Laptop", .text "usr-004", .int 2, .float 1299.0, .float 2598.0,
        .text "2024-06-03 11:05", .text "completed", .text "Bulk order", .text "2024-06-03 11:05"],
      [.text "sal-003", .text "cus-003", .text "Aisha Rahman", .text "prd-003",
        .text "Wireless Mouse", .text "usr-002", .int 10, .float 39.9, .float 399.0,
        .text "2024-05-20 09:45", .text "pending", .null, .text "2024-05-20 09:45"],
      [.text "sal-004", .text "cus-001", .text "Nadia Haddad", .text "prd-004",
        .text "Mechanical Keyboard", .text "usr-001", .int 3, .float 129.0, .float 387.0,
        .text "2024-06-12 08:30", .text "pending", .null, .text "2024-06-12 08:30"],
      [.text "sal-005", .text "cus-004", .text "Marco Rossi", .text "prd-002",
        .text "Business Laptop", .text "usr-002", .int 1, .float 1299.0, .float 1299.0,
        .text "2024-04-15 16:00", .text "cancelled", .text "Refunded", .text "2024-04-15 16:00"],
      [.text "sal-006", .text "cus-002", .text "Peter Novak", .text "prd-006",
        .text "UltraWide Monitor", .text "usr-001", .int 2, .float 699.0, .float 1398.0,
        .text "2024-06-11 10:10", .text "completed", .null, .text "2024-06-11 10:10"]]

def stockTable : Frame :=
  .typed
    [("id", .text), ("product_id", .text), ("product_name", .text), ("warehouse_location", .text),
      ("quantity_available", .int), ("reserved_quantity", .int), ("reorder_level", .int),
      ("last_restocked", .moment), ("created_at", .moment)]
    [
      [.text "stk-001", .text "prd-001", .text "Gaming Laptop", .text "Main Warehouse", .int 12,
        .int 2, .int 5, .text "2024-06-01 07:00", .text "2023-02-01 08:00"],
      [.text "stk-002", .text "prd-002", .text "Business Laptop", .text "North Warehouse", .int 30,
        .int 5, .int 10, .text "2024-05-28 07:00", .text "2023-02-01 08:00"],
      [.text "stk-003", .text "prd-003", .text "Wireless Mouse", .text "Main Warehouse", .int 200,
        .int 20, .int 50, .text "2024-06-05 07:00", .text "2023-04-15 08:00"],
      [.text "stk-004", .text "prd-005", .text "Office Chair", .text "South Warehouse", .int 4,
        .int 0, .int 5, .text "2024-04-30 07:00", .text "2022-09-10 08:00"]]

def tasksTable : Frame :=
  .typed
    [("id", .text), ("title", .text), ("description", .text), ("assigned_to", .text),
      ("status", .text), ("priority", .text), ("due_date", .moment), ("completed_at", .moment),
      ("created_at", .moment)]
    [
      [.text "tsk-001", .text "Prepare quarterly report", .text "Q2 numbers for the board",
        .text "usr-001", .text "pending", .text "high", .text "2024-06-12 17:00", .null,
        .text "2024-06-01 09:00"],
      [.text "tsk-002", .text "Review shift roster", .text "Next week's warehouse roster",
        .text "usr-001", .text "in_progress", .text "medium", .text "2024-06-12 12:00", .null,
        .text "2024-06-05 09:00"],
      [.text "tsk-003", .text "Approve expense claims", .null, .text "usr-001", .text "completed",
        .text "low", .text "2024-06-10 17:00", .text "2024-06-10 15:30", .text "2024-06-03 09:00"],
      [.text "tsk-004", .text "Call Northwind about renewal", .text "Contract ends in July",
        .text "usr-002", .text "pending", .text "high", .text "2024-06-14 12:00", .null,
        .text "2024-06-07 09:00"],
      [.text "tsk-005", .text "Cycle count aisle 4", .null, .text "usr-003", .text "pending",
        .text "low", .text "2024-06-12 15:00", .null, .text "2024-06-10 09:00"],
      [.text "tsk-006", .text "Update price list", .text "Apply July price changes",
        .text "usr-004", .text "cancelled", .text "medium", .text "2024-06-20 17:00", .null,
        .text "2024-06-06 09:00"]]

def shiftsTable : Frame :=
  .typed
    [("id", .text), ("user_id", .text), ("shift_date", .moment), ("start_time", .text),
      ("end_time", .text), ("break_duration", .int), ("location", .text), ("status", .text),
      ("notes", .text), ("created_at", .moment)]
    [
      [.text "shf-001", .text "usr-001", .text "2024-06-12", .text "09:00", .text "17:00", .int 30,
        .text "Head Office", .text "scheduled", .null, .text "2024-06-01 09:00"],
      [.text "shf-002", .text "usr-003", .text "2024-06-12", .text "08:00", .text "16:00", .int 45,
        .text "Main Warehouse", .text "scheduled", .null, .text "2024-06-01 09:00"],
      [.text "shf-003", .text "usr-001", .text "2024-06-11", .text "09:00", .text "17:00", .int 30,
        .text "Remote", .text "completed", .text "Working from home", .text "2024-06-01 09:00"],
      [.text "shf-004", .text "usr-002", .text "2024-06-13", .text "10:00", .text "18:00", .int 30,
        .text "Dubai Showroom", .text "scheduled", .null, .text "2024-06-01 09:00"]]

def attendanceTable : Frame :=
  .typed
    [("id", .text), ("user_id", .text), ("shift_id", .text), ("clock_in", .moment),
      ("clock_out", .moment), ("total_hours", .float), ("status", .text), ("notes", .text),
      ("created_at", .moment)]
    [
      [.text "att-001", .text "usr-001", .text "shf-003", .text "2024-06-11 09:02",
        .text "2024-06-11 17:05", .float 8.05, .text "present", .null, .text "2024-06-11 09:02"],
      [.text "att-002", .text "usr-003", .text "shf-002", .text "2024-06-12 08:15", .null, .null,
        .text "late", .text "Traffic", .text "2024-06-12 08:15"],
      [.text "att-003", .text "usr-002", .null, .text "2024-06-10 10:00", .text "2024-06-10 18:00",
        .float 8.0, .text "present", .null, .text "2024-06-10 10:00"]]

def tables : List (String × Frame) := [
  ("users", usersTable),
  ("customers", customersTable),
  ("products", productsTable),
  ("sales", salesTable),
  ("stock", stockTable),
  ("tasks", tasksTable),
  ("shifts", shiftsTable),
  ("attendance", attendanceTable)]

end TableTalk.Demo
