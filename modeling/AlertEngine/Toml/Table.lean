import AlertEngine.Toml.Value

/-! # Tables of TOML

A document is a list of statements: values under dotted keys and headers that open a table or a
further row of a list of tables. No statement may touch what another one has settled: a value
stands for itself, a table has one header, and a dotted key reaches only into tables that dotted
keys made.
-/

namespace AlertEngine.Toml

/-- A dotted key, outermost name first. -/
abbrev Key := List String

inductive Statement where
  | pair (key : Key) (value : Toml)
  | table (key : Key)
  | row (key : Key)

/-- How a table came about: by its own header, on the way to another header, or on the way of a
    dotted key. -/
inductive Origin where
  | header
  | passed
  | dotted
  deriving DecidableEq

/-- What stands under a name while a document is put together. The rows before the last one are
    kept in reverse. -/
inductive Draft where
  | leaf (value : Toml)
  | table (origin : Origin) (entries : List (String × Draft))
  | rows (earlier : List (List (String × Draft))) (last : List (String × Draft))

namespace Draft

abbrev Entries := List (String × Draft)

/-- Put under `name` what `change` makes of what stands there. -/
def alter? (name : String) (change : Option Draft → Option Draft) : Entries → Option Entries
  | [] => (change none).map fun draft => [(name, draft)]
  | (other, draft) :: rest =>
    if other = name then (change (some draft)).map fun draft => (other, draft) :: rest
    else (alter? name change rest).map ((other, draft) :: ·)

/-- Define a value under a dotted key. The names on the way lead through tables that dotted keys
    made; a table that is there for a header or a row may be passed, but a value under a dotted
    key is not put into it. -/
def define? : Key → Toml → Entries → Option Entries
  | [], _, _ => none
  | [name], value, entries =>
    alter? name (fun draft => if draft.isNone then some (.leaf value) else none) entries
  | name :: next :: rest, value, entries =>
    let inner := define? (next :: rest) value
    alter? name
      (fun
        | none => (inner []).map (.table .dotted)
        | some (.table .dotted entries) => (inner entries).map (.table .dotted)
        | some (.table .passed entries) =>
          if rest.isEmpty then none else (inner entries).map (.table .passed)
        | some (.rows earlier last) =>
          if rest.isEmpty then none else (inner last).map (.rows earlier)
        | some (.table .header _) | some (.leaf _) => none)
      entries

/-- Change the table that a header leads to, through the last row of each list of tables. -/
def within? : Key → (Entries → Option Entries) → Entries → Option Entries
  | [], change, entries => change entries
  | name :: rest, change, entries =>
    alter? name
      (fun
        | none => (within? rest change []).map (.table .passed)
        | some (.table origin entries) => (within? rest change entries).map (.table origin)
        | some (.rows earlier last) => (within? rest change last).map (.rows earlier)
        | some (.leaf _) => none)
      entries

/-- Open a table, which has no header yet. -/
def openTable : Option Draft → Option Draft
  | none => some (.table .header [])
  | some (.table .passed entries) => some (.table .header entries)
  | some _ => none

/-- Open the first or a further row. -/
def openRow : Option Draft → Option Draft
  | none => some (.rows [] [])
  | some (.rows earlier last) => some (.rows (last :: earlier) [])
  | some _ => none

def header? (key : Key) (change : Option Draft → Option Draft) (entries : Entries) :
    Option Entries :=
  match key.getLast? with
  | none => none
  | some name => within? key.dropLast (alter? name change) entries

mutual

def settled : Draft → Toml
  | .leaf value => value
  | .table _ entries => .table (settledEntries entries)
  | .rows earlier last =>
    .array ((settledRows earlier).reverse ++ [.table (settledEntries last)])

def settledEntries : List (String × Draft) → List (String × Toml)
  | [] => []
  | (name, draft) :: rest => (name, draft.settled) :: settledEntries rest

def settledRows : List (List (String × Draft)) → List Toml
  | [] => []
  | row :: rest => .table (settledEntries row) :: settledRows rest

end

/-- Put a document together. Values belong to the table of the header above them. -/
def ofStatements? (header : Key) (entries : Entries) : List Statement → Option Entries
  | [] => some entries
  | .pair key value :: rest =>
    (within? header (define? key value) entries).bind fun entries =>
      ofStatements? header entries rest
  | .table key :: rest =>
    (header? key openTable entries).bind fun entries => ofStatements? key entries rest
  | .row key :: rest =>
    (header? key openRow entries).bind fun entries => ofStatements? key entries rest

end Draft

def ofStatements? (statements : List Statement) : Option Toml :=
  (Draft.ofStatements? [] [] statements).map fun entries => .table (Draft.settledEntries entries)

/-- The table of the pairs between braces. -/
def ofPairs? (pairs : List (Key × Toml)) : Option Toml :=
  ofStatements? (pairs.map fun pair => .pair pair.1 pair.2)

end AlertEngine.Toml
