import Rendezvous.Number.Binary64

/-!
# Rendezvous.Toml.Value

What a TOML document holds, and the tables as they grow while one is read. A table that is
only passed through on the way to another is *implicit* and may still be given a header; one
made by a dotted key may only be added to by dotted keys; a value is closed.

* `Toml.Value`: the values;
* `Toml.Item`, `Toml.Entries`: tables that are still growing;
* `Toml.Entries.put?`, `Toml.Entries.openTable?`, `Toml.Entries.openElement?`: the three ways
  in which a document adds to them.
-/

namespace Rendezvous.Toml

/-- A value of a document. -/
inductive Value where
  | text (s : String)
  | integer (n : Int)
  | float (x : Binary64)
  | bool (b : Bool)
  /-- A date, a time, or both. -/
  | date
  | array (items : List Value)
  | table (entries : List (String × Value))
deriving Inhabited

/-- A part of a table that is still growing. -/
inductive Item where
  | value (v : Value)
  /-- A table: whether it is implicit, whether a dotted key made it, and what it holds. -/
  | table (implicit dotted : Bool) (entries : List (String × Item))
  /-- The tables of an array, the last one first. -/
  | tables (elements : List (List (String × Item)))
deriving Inhabited

/-- What a growing table holds. -/
abbrev Entries : Type := List (String × Item)

/-! ### Closing -/

mutual

/-- The value of a part that no longer grows. -/
def Item.close : Item → Value
  | .value v => v
  | .table _ _ entries => .table (closeEntries entries)
  | .tables elements => .array (closeElements elements).reverse

/-- The values of entries. -/
def closeEntries : List (String × Item) → List (String × Value)
  | [] => []
  | (k, i) :: rest => (k, i.close) :: closeEntries rest

/-- The values of the tables of an array. -/
def closeElements : List (List (String × Item)) → List Value
  | [] => []
  | entries :: rest => .table (closeEntries entries) :: closeElements rest

end

namespace Entries

/-- The part under a key. -/
def get? (entries : Entries) (key : String) : Option Item :=
  (entries.find? fun e => e.1 == key).map (·.2)

/-- Puts a part under a key, in the place of the one that was there. -/
def set (entries : Entries) (key : String) (item : Item) : Entries :=
  if entries.any fun e => e.1 == key then
    entries.map fun e => if e.1 == key then (key, item) else e
  else entries ++ [(key, item)]

/-- Changes the table that a path of keys leads to. Tables that are missing on the way are
made, implicit, and dotted if the path is that of a dotted key. `change` also learns whether
the table was made by a dotted key. -/
def descend? (dotted : Bool) (change : Bool → Entries → Option Entries) :
    (isDotted : Bool) → List String → Entries → Option Entries
  | isDotted, [], entries => change isDotted entries
  | _, key :: path, entries => do
    match (entries.get? key).getD (.table true dotted []) with
    | .value _ => none
    | .tables (last :: earlier) => do
      let last ← descend? dotted change false path last
      return entries.set key (.tables (last :: earlier))
    | .tables [] => none
    | .table implicit madeDotted inner => do
      if dotted && !implicit then none
      else
        let inner ← descend? dotted change madeDotted path inner
        return entries.set key (.table implicit madeDotted inner)

/-- Puts a value under a dotted key, whose last part has no value yet. -/
def put? (entries : Entries) (path : List String) (key : String) (v : Value) : Option Entries :=
  descend? true
    (fun isDotted inner =>
      if isDotted == path.isEmpty then none
      else if (inner.get? key).isSome then none
      else some (inner.set key (.value v)))
    false path entries

/-- Begins the table of a header. What an implicit table already holds stays, but it is then
the last one where it stands. -/
def openTable? (entries : Entries) (path : List String) (key : String) : Option Entries :=
  descend? false
    (fun _ inner =>
      match inner.get? key with
      | none => some (inner.set key (.table false false []))
      | some (.table true false held) =>
        some ((inner.filter fun e => e.1 != key) ++ [(key, .table false false held)])
      | some _ => none)
    false path entries

/-- Begins one more table of an array. -/
def openElement? (entries : Entries) (path : List String) (key : String) : Option Entries :=
  descend? false
    (fun _ inner =>
      match inner.get? key with
      | none => some (inner.set key (.tables [[]]))
      | some (.tables earlier) => some (inner.set key (.tables ([] :: earlier)))
      | some _ => none)
    false path entries

/-- Puts a value into the table that a header began. -/
def putUnder? (entries : Entries) (header : List String) (path : List String) (key : String)
    (v : Value) : Option Entries :=
  descend? false (fun _ inner => put? inner path key v) false header entries

end Entries

end Rendezvous.Toml
