import TableTalk.Demo.Tables

namespace TableTalk.Demo

def seed (d : Database) : Except StoreError Database :=
  tables.foldlM (fun d entry => d.load entry.1 entry.2) d

def seedReport (path : String) : List String :=
  s!"[Seed] Writing demo data to {path}"
    :: tables.map fun entry => s!"  ✓ {entry.1}: {entry.2.size} rows"

def store : Except StoreError Store :=
  Store.ofTables tables

end TableTalk.Demo
