/-!
# TOML documents

The values of a TOML document, and how headers and dotted keys build up its tables. A table may be
written in many places of a document, but what has been given as a whole may not be added to later.
-/

namespace SolanaBlocks

namespace Toml

/-- How a table has come about: under a header of its own, as the surroundings of another header, by
a dotted key, or whole between braces. -/
inductive Origin where
  | header
  | surroundings
  | dotted
  | whole
deriving DecidableEq, Repr

end Toml

/-- A TOML value. Of a date or a time it is only known that it is one. An array of tables keeps the
latest table first. -/
inductive Toml where
  | integer (value : Int)
  | float (value : Float)
  | bool (value : Bool)
  | text (value : String)
  | moment
  | array (items : List Toml)
  | table (origin : Toml.Origin) (entries : List (String × Toml))
  | tables (latest : List (String × Toml)) (earlier : List (List (String × Toml)))
deriving Inhabited

namespace Toml

/-- The entries of a table. -/
abbrev Entries := List (String × Toml)

/-- Replaces the entry of a key by what `change` makes of it, which may be nothing to begin with. A
new entry comes last. -/
def alter (key : String) (change : Option Toml → Option Toml) : Entries → Option Entries
  | [] => (change none).map fun value => [(key, value)]
  | (other, value) :: rest =>
    if other = key then (change (some value)).map fun value => (other, value) :: rest
    else (alter key change rest).map ((other, value) :: ·)

/-- A change of entries at a place in a document, told how the table there has come about. -/
abbrev Change := Origin → Entries → Option Entries

/-- Changes the table that an entry stands for, the latest one if it is an array of tables. Nothing
may be changed inside a plain value. `enter` says which tables may be entered. -/
def change (enter : Origin → Bool) (f : Change) : Toml → Option Toml
  | table origin entries => if enter origin then (f origin entries).map (table origin) else none
  | tables latest earlier => (f .header latest).map fun latest => tables latest earlier
  | _ => none

/-- Changes the table at the end of a path. Missing tables on the way come about as `missing`. -/
def changeAt (missing : Origin) (enter : Origin → Bool) (f : Change) : List String → Change
  | [] => f
  | key :: path => fun _ entries =>
    alter key
      (fun entry => change enter (changeAt missing enter f path) (entry.getD (table missing [])))
      entries

/-- Changes the table at the end of a path of headers. Only what stands between braces is closed to
headers. -/
def changeUnder (f : Change) (path : List String) : Change :=
  changeAt .surroundings (· != .whole) f path

/-- Gives a value to a key that has none. Under a dotted key, only tables are entered that no header
has opened, and the last one has to have come about by dotted keys. -/
def assign (path : List String) (key : String) (value : Toml) : Change :=
  let add : Change := fun origin entries =>
    if path.isEmpty || origin == .dotted then
      alter key (fun entry => if entry.isSome then none else some value) entries
    else none
  changeAt .dotted (fun origin => origin == .dotted || origin == .surroundings) add path

/-- Opens a table under a header. It may have come about before as the surroundings of others. -/
def openTable (path : List String) (key : String) : Change :=
  changeUnder
    (fun _ => alter key fun
      | none => some (table .header [])
      | some (table .surroundings entries) => some (table .header entries)
      | some _ => none)
    path

/-- Opens one more table of an array under a header. -/
def openNext (path : List String) (key : String) : Change :=
  changeUnder
    (fun _ => alter key fun
      | none => some (tables [] [])
      | some (tables latest earlier) => some (tables [] (latest :: earlier))
      | some _ => none)
    path

/-- One statement of a document: a value for a dotted key, a header, or the header of one more table
in an array. -/
inductive Statement where
  | assign (path : List String) (key : String) (value : Toml)
  | open (path : List String) (key : String)
  | openNext (path : List String) (key : String)

/-- Builds the entries of a document from its statements. `header` is the path of the table that is
open. -/
def build (header : List String) (entries : Entries) : List Statement → Option Entries
  | [] => some entries
  | .assign path key value :: rest => do
    let entries ← changeUnder (assign path key value) header .header entries
    build header entries rest
  | .open path key :: rest => do
    let entries ← openTable path key .header entries
    build (path ++ [key]) entries rest
  | .openNext path key :: rest => do
    let entries ← openNext path key .header entries
    build (path ++ [key]) entries rest

/-- The table between braces that some assignments make up. -/
def buildWhole (entries : Entries) : List (List String × String × Toml) → Option Toml
  | [] => some (table .whole entries)
  | (path, key, value) :: rest => do
    let entries ← assign path key value .header entries
    buildWhole entries rest

end Toml

end SolanaBlocks
