/-!
# TOML values

The values of a TOML document, and how its tables grow. A document builds its tables in pieces, and
how a table came about decides which later pieces may add to it:

* a header may add to a table that other headers only implied, once;
* a dotted key may add to tables that dotted keys made, and to no others;
* nothing may add to a table that was written in braces.
-/

namespace PropertyTesting

/-- How a table came about. -/
inductive TableOrigin where
  /-- By a header of its own, or as the document itself. -/
  | declared
  /-- On the way to a header. -/
  | implied
  /-- On the way of a dotted key. -/
  | dotted
  /-- In braces. -/
  | inline
  deriving DecidableEq, Repr

/-- A TOML value. Values that no configuration can use keep the text they are written in. -/
inductive Toml where
  | string (s : String)
  | integer (n : Int)
  /-- What is written like a whole number but spells none. -/
  | misspelt (literal : String)
  | boolean (b : Bool)
  | float (literal : String)
  | dateTime (literal : String)
  /-- An array, which either is written in brackets or made of tables by headers. -/
  | array (isOfTables : Bool) (items : List Toml)
  | table (origin : TableOrigin) (entries : List (String × Toml))
  deriving Repr, Inhabited

namespace Toml

/-- The table without entries. -/
def emptyTable (origin : TableOrigin) : Toml :=
  table origin []

/-- Puts a value in the place of the one with a key. -/
def replaceEntry (key : String) (value : Toml) (entries : List (String × Toml)) :
    List (String × Toml) :=
  entries.map fun entry => if entry.1 = key then (key, value) else entry

/-- Changes the table that keys lead to from a table. Keys that lead nowhere yet make tables; the
last table of an array stands for it. `isDotted` says whether the keys are those of a dotted key or
those of a header. -/
def alter? (isDotted : Bool) (change : Toml → Option Toml) : List String → Toml → Option Toml
  | [], t => change t
  | key :: rest, table origin entries =>
    match entries.lookup key with
    | none => do
      let made := emptyTable (if isDotted then .dotted else .implied)
      let changed ← alter? isDotted change rest made
      some (table origin (entries ++ [(key, changed)]))
    | some (array true items) => do
      let changed ← alter? isDotted change rest (← items.getLast?)
      some (table origin (replaceEntry key (array true (items.dropLast ++ [changed])) entries))
    | some (table inner innerEntries) =>
      if inner = .inline || (isDotted && inner = .declared) then none
      else do
        let changed ← alter? isDotted change rest (table inner innerEntries)
        some (table origin (replaceEntry key changed entries))
    | some _ => none
  | _ :: _, _ => none

/-- Adds an entry to a table. The table must be one that dotted keys made exactly if the key is the
last of a dotted key. -/
def addField? (isDotted : Bool) (key : String) (value : Toml) : Toml → Option Toml
  | table origin entries =>
    if (origin == .dotted) != isDotted || (entries.lookup key).isSome then none
    else some (table origin (entries ++ [(key, value)]))
  | _ => none

/-- Adds the value of a key, which may be dotted, to a table. -/
def insert? (path : List String) (value : Toml) (t : Toml) : Option Toml := do
  let key ← path.getLast?
  let way := path.dropLast
  alter? true (addField? (!way.isEmpty) key value) way t

/-- Begins the table with a key in a table. -/
def declareField? (key : String) : Toml → Option Toml
  | table origin entries =>
    match entries.lookup key with
    | none => some (table origin (entries ++ [(key, emptyTable .declared)]))
    | some (table .implied inner) =>
      some (table origin (replaceEntry key (table .declared inner) entries))
    | some _ => none
  | _ => none

/-- Begins the next table of the array with a key in a table. -/
def extendField? (key : String) : Toml → Option Toml
  | table origin entries =>
    match entries.lookup key with
    | none => some (table origin (entries ++ [(key, array true [emptyTable .declared])]))
    | some (array true items) =>
      some (table origin (replaceEntry key (array true (items ++ [emptyTable .declared])) entries))
    | some _ => none
  | _ => none

/-- Begins the table of a header in a document. `isArray` says whether the header is that of an
array of tables. -/
def declare? (isArray : Bool) (path : List String) (document : Toml) : Option Toml := do
  let key ← path.getLast?
  alter? false (if isArray then extendField? key else declareField? key) path.dropLast document

/-- Adds the value of a key to the table of the latest header in a document. -/
def insertUnder? (header path : List String) (value : Toml) (document : Toml) : Option Toml :=
  alter? false (insert? path value) header document

end Toml

end PropertyTesting
