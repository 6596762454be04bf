import AlertEngine.Json.Value
import AlertEngine.Settings.Path
import AlertEngine.Text.LowerCase
import AlertEngine.Toml.Value

/-! # Layers of settings

Settings come in layers, each of which overrides the ones below it entry by entry. A table never
replaces another one: its entries are set one after the other. What is no table replaces whatever
stood in its place, and gives way where an entry is set below it. Names are set in small letters,
but a list is taken as it is, with the tables in it.
-/

namespace AlertEngine

inductive Setting where
  | unset
  | bool (value : Bool)
  | int (value : Int)
  | float (value : Float)
  | string (text : String)
  | list (items : List Setting)
  | table (entries : List (String × Setting))

namespace Setting

abbrev Entries := List (String × Setting)

/-- The entries of a table; anything else has none. -/
def entries : Setting → Entries
  | .table entries => entries
  | _ => []

/-- The items of a list; anything else has none. -/
def items : Setting → List Setting
  | .list items => items
  | _ => []

/-- Put under `name` what `change` makes of what stands there. -/
def alter (name : String) (change : Option Setting → Setting) : Entries → Entries
  | [] => [(name, change none)]
  | (other, setting) :: rest =>
    if other = name then (other, change (some setting)) :: rest
    else (other, setting) :: alter name change rest

mutual

/-- Set an entry of a table, or of the empty table in place of something else. -/
def set (name : String) : Setting → Setting → Setting
  | .table incoming, target =>
    .table (alter (Text.lowered name) (fun old => setAll incoming (old.getD (.table [])))
      target.entries)
  | value, target => .table (alter (Text.lowered name) (fun _ => value) target.entries)

/-- Set one entry after the other. No entries leave the target as it is, even if it is no table. -/
def setAll : List (String × Setting) → Setting → Setting
  | [], target => target
  | (name, value) :: rest, target => setAll rest (set name value target)

end

/-- Fill up a list with unset items until it has an item at an index, which counts from the end
    if it is negative. The index is given from the start with the list. -/
def reachIndex (index : Int) (items : List Setting) : Nat × List Setting :=
  if 0 ≤ index then
    (index.toNat, items ++ List.replicate (index.toNat + 1 - items.length) .unset)
  else
    (items.length - index.natAbs, List.replicate (index.natAbs - items.length) .unset ++ items)

/-- Change the item of a list at an index. -/
def alterAt (index : Int) (change : Setting → Setting) (items : List Setting) : List Setting :=
  let (index, items) := reachIndex index items
  items.modify index change

/-- Set what is at the end of a path. What stands in the way gives way to a table or a list. -/
def setAt : Path → Setting → Setting → Setting
  | [], value, _ => value
  | [.name name], value, target => set name value target
  | .name name :: rest, value, target =>
    .table (alter (Text.lowered name) (fun old => setAt rest value (old.getD .unset))
      target.entries)
  | .index index :: rest, value, target =>
    .list (alterAt index (fun old => setAt rest value old) target.items)

/-- Lay a layer over what is set so far. The names of its entries are paths. -/
def overlay (target : Setting) (layer : Entries) : Setting :=
  layer.foldl (fun target entry => setAt (Path.ofText entry.1) entry.2 target) target

mutual

/-- The settings of a document. -/
def ofJson : Json → Setting
  | .null | .meaningless => .unset
  | .bool value => .bool value
  | .number (.int value) => .int value
  | .number (.float value) => .float value
  | .string text => .string text
  | .array items => .list (ofJsonItems items)
  | .object fields => .table (ofJsonFields fields)

def ofJsonItems : List Json → List Setting
  | [] => []
  | item :: rest => ofJson item :: ofJsonItems rest

def ofJsonFields : List (String × Json) → Entries
  | [] => []
  | (name, value) :: rest => (name, ofJson value) :: ofJsonFields rest

end

mutual

/-- The settings of a file. A moment is set as its text. -/
def ofToml : Toml → Setting
  | .string text => .string text
  | .integer value => .int value
  | .float value => .float value
  | .bool value => .bool value
  | .moment text => .string text
  | .array items => .list (ofTomlItems items)
  | .table entries => .table (ofTomlEntries entries)

def ofTomlItems : List Toml → List Setting
  | [] => []
  | item :: rest => ofToml item :: ofTomlItems rest

def ofTomlEntries : List (String × Toml) → Entries
  | [] => []
  | (name, value) :: rest => (name, ofToml value) :: ofTomlEntries rest

end

end Setting

end AlertEngine
