import BrailleDisplay.Toml.Value

/-!
# TOML tables under construction

A document fills its tables in any order, but it may open each only once.  While it is read, a table
remembers how it came to be:

* `explicit` — by a header of its own, or as the root;
* `implied` — on the way of a header to a table inside it; it may still get a header;
* `dotted` — on the way of a dotted key; it can grow by dotted keys only.

`Entries.within` goes down a path of keys, making what is missing, and changes the table there;
`Entries.insert`, `Entries.openTable` and `Entries.openElement` are the three changes a document can
ask for.  In an array of tables, a path leads into the last one.
-/

namespace BrailleDisplay.Toml

/-- How a table came to be. -/
inductive Origin where
  | explicit
  | implied
  | dotted
  deriving DecidableEq, Repr

/-- A value, a table or an array of tables under construction. -/
inductive Node where
  /-- A finished value. -/
  | value (v : Value)
  /-- A table. -/
  | table (origin : Origin) (entries : List (String × Node))
  /-- Tables of one header, the one being filled apart. -/
  | tables (earlier : List (List (String × Node))) (last : List (String × Node))

/-- The entries of a table under construction. -/
abbrev Entries := List (String × Node)

namespace Entries

/-- The entries with `node` at `key`, in place of what was there. -/
def put (key : String) (node : Node) : Entries → Entries
  | [] => [(key, node)]
  | (k, n) :: rest => if k = key then (k, node) :: rest else (k, n) :: put key node rest

/-- The node at a key. -/
def find? (entries : Entries) (key : String) : Option Node :=
  entries.lookup key

/-- Change the table at the end of a path; `dotted` tells whether a dotted key leads there. -/
def within (dotted : Bool) (change : Origin → Entries → Except Fault Entries) :
    List String → Origin → Entries → Except Fault Entries
  | [], origin, entries => change origin entries
  | key :: path, _, entries =>
    match entries.find? key with
    | none => do
      let made := if dotted then Origin.dotted else .implied
      let inner ← within dotted change path made []
      return entries.put key (.table made inner)
    | some (.value _) => .error (.notATable key)
    | some (.table origin inner) => do
      if dotted && origin == .explicit then throw (.duplicateKey key)
      let inner ← within dotted change path origin inner
      return entries.put key (.table origin inner)
    | some (.tables earlier last) => do
      let last ← within dotted change path .explicit last
      return entries.put key (.tables earlier last)

/-- Put a value at the end of a path of keys. -/
def insert (path : List String) (key : String) (v : Value) (entries : Entries) :
    Except Fault Entries :=
  within true (fun origin inner =>
    if (origin == .dotted) == path.isEmpty then .error (.duplicateKey key)
    else if (inner.find? key).isSome then .error (.duplicateKey key)
    else .ok (inner.put key (.value v))) path .explicit entries

/-- Open the table at the end of a path of keys. -/
def openTable (path : List String) (key : String) (entries : Entries) : Except Fault Entries :=
  within false (fun _ inner =>
    match inner.find? key with
    | none => .ok (inner.put key (.table .explicit []))
    | some (.table .implied content) => .ok (inner.put key (.table .explicit content))
    | some _ => .error (.duplicateKey key)) path .explicit entries

/-- Open the next table of the array at the end of a path of keys. -/
def openElement (path : List String) (key : String) (entries : Entries) : Except Fault Entries :=
  within false (fun _ inner =>
    match inner.find? key with
    | none => .ok (inner.put key (.tables [] []))
    | some (.tables earlier last) => .ok (inner.put key (.tables (earlier ++ [last]) []))
    | some _ => .error (.duplicateKey key)) path .explicit entries

end Entries

/-! ### Finished tables -/

mutual

/-- The value of a node. -/
def Node.finish : Node → Value
  | .value v => v
  | .table _ entries => .table (finishEntries entries)
  | .tables earlier last => .array (finishTables earlier ++ [.table (finishEntries last)])

/-- The entries of a table, finished. -/
def finishEntries : List (String × Node) → List (String × Value)
  | [] => []
  | (key, node) :: rest => (key, node.finish) :: finishEntries rest

/-- The tables of an array, finished. -/
def finishTables : List (List (String × Node)) → List Value
  | [] => []
  | entries :: rest => .table (finishEntries entries) :: finishTables rest

end

end BrailleDisplay.Toml
