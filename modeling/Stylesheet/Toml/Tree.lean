import Stylesheet.Toml.Value

/-!
# Growing a TOML document

The tables of a document come about in several ways: by a header, by a header below them, by a
dotted key, or within a value. How a table came about decides what may still be added to it.

* A header may open a table that does not exist yet, or one that exists only because of
  headers below it; it may not open a table twice, nor one made by dotted keys.
* A dotted key may pass through tables that do not exist yet, that exist only because of
  headers below them, or that dotted keys made.
* A double header adds a table to a list that double headers began.
* A value, also one that is a list or a table, is never changed.

A path that meets a list of tables goes on in the last of them.
-/

namespace Stylesheet.Toml

/-- How a table came about. -/
inductive Origin where
  /-- A header below it was met. -/
  | implied
  /-- A dotted key passed through it. -/
  | dotted
  /-- It has a header of its own. -/
  | declared
  deriving DecidableEq, Repr

/-- What a name stands for while a document is read. -/
inductive Node where
  /-- A value, which stays as it is. -/
  | leaf (v : Value)
  /-- A table that may grow. -/
  | table (origin : Origin) (entries : List (String × Node))
  /-- A list of tables, of which the last may grow. -/
  | tables (earlier : List (List (String × Node))) (last : List (String × Node))

/-- The entries of a growing table, in the order in which they were given. -/
abbrev Entries := List (String × Node)

/-- A key: the names it passes through and the one it sets. -/
structure Key where
  /-- The tables on the way. -/
  parents : List String
  /-- The name at its end. -/
  last : String
  deriving DecidableEq, Repr

/-- All names of a key. -/
def Key.path (k : Key) : List String := k.parents ++ [k.last]

/-! ### Changing what a name stands for -/

/-- Changes what a name stands for, or adds it at the end. No change if the function refuses. -/
def alter (name : String) (f : Option Node → Option Node) : Entries → Option Entries
  | [] => (f none).map fun n => [(name, n)]
  | (k, n) :: rest =>
    if k = name then (f (some n)).map fun m => (k, m) :: rest
    else (alter name f rest).map fun rest' => (k, n) :: rest'

/-- The entries behind a name, with the way to put them back. -/
structure Passage where
  /-- The entries. -/
  inside : Entries
  /-- What the name stands for with these entries. -/
  close : Entries → Node

/-- How a header passes through a name. -/
def headerPassage : Option Node → Option Passage
  | none => some ⟨[], .table .implied⟩
  | some (.table origin entries) => some ⟨entries, .table origin⟩
  | some (.tables earlier last) => some ⟨last, .tables earlier⟩
  | some (.leaf _) => none

/-- How a dotted key passes through a name. -/
def dottedPassage : Option Node → Option Passage
  | none => some ⟨[], .table .dotted⟩
  | some (.table .declared _) => none
  | some (.table _ entries) => some ⟨entries, .table .dotted⟩
  | some (.tables _ _) => none
  | some (.leaf _) => none

/-- Changes the entries at the end of a path. -/
def within (passage : Option Node → Option Passage) (f : Entries → Option Entries) :
    List String → Entries → Option Entries
  | [], entries => f entries
  | name :: path, entries =>
    alter name (fun n => do
      let p ← passage n
      let inside ← within passage f path p.inside
      return p.close inside) entries

/-! ### The three kinds of statement -/

/-- Opens the table of a header. -/
def declare (k : Key) : Entries → Option Entries :=
  within headerPassage (alter k.last open?) k.parents
where
  /-- The table that a header opens. -/
  open? : Option Node → Option Node
    | none => some (.table .declared [])
    | some (.table .implied entries) => some (.table .declared entries)
    | _ => none

/-- Adds a table to the list of a double header. -/
def append (k : Key) : Entries → Option Entries :=
  within headerPassage (alter k.last grow?) k.parents
where
  /-- The list with one more table. -/
  grow? : Option Node → Option Node
    | none => some (.tables [] [])
    | some (.tables earlier last) => some (.tables (earlier ++ [last]) [])
    | _ => none

/-- Sets a key to a value; nothing may be there yet. -/
def assign (k : Key) (v : Value) : Entries → Option Entries :=
  within dottedPassage (alter k.last fresh?) k.parents
where
  /-- The value, if the name is free. -/
  fresh? : Option Node → Option Node
    | none => some (.leaf v)
    | some _ => none

/-- Sets a key to a value in the table of a header. -/
def assignUnder (header : List String) (k : Key) (v : Value) : Entries → Option Entries :=
  within headerPassage (assign k v) header

/-! ### The finished document -/

mutual

/-- The value a node stands for in the end. -/
def Node.value : Node → Value
  | .leaf v => v
  | .table _ entries => .table (entryValues entries)
  | .tables earlier last => .array (tableValues earlier ++ [.table (entryValues last)])

/-- The values of entries. -/
def entryValues : List (String × Node) → List (String × Value)
  | [] => []
  | (name, n) :: rest => (name, n.value) :: entryValues rest

/-- The values of tables. -/
def tableValues : List (List (String × Node)) → List Value
  | [] => []
  | entries :: rest => .table (entryValues entries) :: tableValues rest

end

end Stylesheet.Toml
