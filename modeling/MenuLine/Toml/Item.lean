import MenuLine.Text.Basic

/-!
# Tables of settings

What a settings file holds: values by key, in tables that may stand inside
each other. A table remembers how it came about, because that decides what
may still be added to it.
-/

namespace MenuLine

namespace Toml

inductive Origin where
  /-- Named by a header of its own. -/
  | header
  /-- Only passed through on the way to another header. -/
  | implied
  /-- Made by a key with dots. -/
  | dotted
deriving DecidableEq, Repr

/-- Values that the settings here have no use for are known by their kind
alone. -/
inductive Item where
  | text (t : Text)
  | integer (n : Int)
  | float
  | boolean (b : Bool)
  | time
  | array (items : List Item)
  | inlineTable (entries : List (Text × Item))
  | table (origin : Origin) (entries : List (Text × Item))
  | tables (earlier : List (List (Text × Item))) (last : List (Text × Item))

abbrev Entries := List (Text × Item)

namespace Entries

def find? (entries : Entries) (key : Text) : Option Item :=
  (List.find? (fun e => e.1 == key) entries).map Prod.snd

/-- Replaces the item of a key, or adds it. -/
def set (entries : Entries) (key : Text) (item : Item) : Entries :=
  if (find? entries key).isSome then
    List.map (fun e => if e.1 == key then (key, item) else e) entries
  else entries ++ [(key, item)]

/-- A key may be given once. -/
def insert? (entries : Entries) (key : Text) (item : Item) : Option Entries :=
  if (find? entries key).isSome then none else some (entries ++ [(key, item)])

/-- Adds an item below a key with dots. Tables on the way are made as needed;
those that have a header are not to be added to, and the innermost has to be
one that dots have made. `innermost` tells that of the table at hand. -/
def insertDotted (innermost : Bool) (entries : Entries) (key : Text) (item : Item) :
    List Text → Option Entries
  | [] => if innermost then insert? entries key item else none
  | name :: path =>
    match find? entries name with
    | none =>
      (insertDotted true [] key item path).map fun inner => set entries name (.table .dotted inner)
    | some (.table .dotted inner) =>
      (insertDotted true inner key item path).map fun inner =>
        set entries name (.table .dotted inner)
    | some (.table .implied inner) =>
      (insertDotted false inner key item path).map fun inner =>
        set entries name (.table .implied inner)
    | some (.tables earlier last) =>
      (insertDotted false last key item path).map fun last =>
        set entries name (.tables earlier last)
    | some _ => none

def insertKey (entries : Entries) (path : List Text) (key : Text) (item : Item) : Option Entries :=
  insertDotted true entries key item path

/-- Changes the table that a path leads to; tables on the way are made as
needed, and of several tables the last one counts. -/
def alter (change : Entries → Option Entries) (entries : Entries) : List Text → Option Entries
  | [] => change entries
  | name :: path =>
    match find? entries name with
    | none => (alter change [] path).map fun inner => set entries name (.table .implied inner)
    | some (.table origin inner) =>
      (alter change inner path).map fun inner => set entries name (.table origin inner)
    | some (.tables earlier last) =>
      (alter change last path).map fun last => set entries name (.tables earlier last)
    | some _ => none

/-- The header of a table, which may be given once. -/
def openTable (entries : Entries) (path : List Text) (key : Text) : Option Entries :=
  alter (fun inner =>
    match find? inner key with
    | none => some (set inner key (.table .header []))
    | some (.table .implied content) => some (set inner key (.table .header content))
    | some _ => none) entries path

/-- The header of one more of several tables. -/
def openNext (entries : Entries) (path : List Text) (key : Text) : Option Entries :=
  alter (fun inner =>
    match find? inner key with
    | none => some (set inner key (.tables [] []))
    | some (.tables earlier last) => some (set inner key (.tables (earlier ++ [last]) []))
    | some _ => none) entries path

/-- Adds an item to the table that was opened last. -/
def insertAt (entries : Entries) (current : List Text) (path : List Text) (key : Text)
    (item : Item) : Option Entries :=
  alter (fun inner => insertKey inner path key item) entries current

end Entries

end Toml

end MenuLine
