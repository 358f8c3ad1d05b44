import ModalKeys.Toml.Value

/-! How the pairs and headers of a text make up tables. No name is given twice, and what one
notation has finished another may not add to. -/
namespace ModalKeys.Toml

namespace Entries

/-- Gives a name its value, in the place of the old one if there is one. -/
def put (name : String) (value : Value) : Entries → Entries
  | [] => [(name, value)]
  | (n, old) :: es => if n == name then (n, value) :: es else (n, old) :: put name value es

/-- Adds a value under a dotted key. The key makes the tables it passes, or passes those that
dotted keys made; it also passes those that headers imply, but the table that receives the value
must be of a dotted key, unless the key has one part. -/
def addPair (value : Value) : List String → Entries → Option Entries
  | [], _ => none
  | [name], es =>
    match es.lookup name with
    | none => some (put name value es)
    | some _ => none
  | name :: next :: path, es =>
    match es.lookup name with
    | none => (addPair value (next :: path) []).map fun sub => put name (.table .dotted sub) es
    | some (.table .dotted sub) =>
      (addPair value (next :: path) sub).map fun sub => put name (.table .dotted sub) es
    | some (.table .implied sub) =>
      if path.isEmpty then none
      else (addPair value (next :: path) sub).map fun sub => put name (.table .implied sub) es
    | some (.tables latest earlier) =>
      if path.isEmpty then none
      else (addPair value (next :: path) latest).map fun l => put name (.tables l earlier) es
    | some _ => none

/-- Changes the table at the end of a header's path, through the latest of the tables of a
repeated header. Tables that are not there yet are implied. -/
def changeAt (change : Entries → Option Entries) : List String → Entries → Option Entries
  | [], es => change es
  | name :: path, es =>
    match es.lookup name with
    | none => (changeAt change path []).map fun sub => put name (.table .implied sub) es
    | some (.table .inline _) => none
    | some (.table origin sub) =>
      (changeAt change path sub).map fun sub => put name (.table origin sub) es
    | some (.tables latest earlier) =>
      (changeAt change path latest).map fun l => put name (.tables l earlier) es
    | some _ => none

/-- Opens the table of a header, which must be new or only implied so far. -/
def openTable (name : String) (es : Entries) : Option Entries :=
  match es.lookup name with
  | none => some (put name (.table .header []) es)
  | some (.table .implied sub) => some (put name (.table .header sub) es)
  | some _ => none

/-- Opens one more table of a repeated header. -/
def openElement (name : String) (es : Entries) : Option Entries :=
  match es.lookup name with
  | none => some (put name (.tables [] []) es)
  | some (.tables latest earlier) => some (put name (.tables [] (latest :: earlier)) es)
  | some _ => none

/-- The entries that pairs with dotted keys make. -/
def ofPairs? (pairs : List (List String × Value)) : Option Entries :=
  pairs.foldlM (fun es (key, value) => addPair value key es) []

end Entries

/-- What a line of a text says. -/
inductive Statement where
  | table (path : List String) (name : String)
  | element (path : List String) (name : String)
  | pair (key : List String) (value : Value)
  deriving Repr

/-- A text read so far: its tables, and the path of the one that is open. -/
structure Document where
  root : Entries := []
  current : List String := []

namespace Document

def add (d : Document) : Statement → Option Document
  | .table path name => do
    let root ← d.root.changeAt (Entries.openTable name) path
    return ⟨root, path ++ [name]⟩
  | .element path name => do
    let root ← d.root.changeAt (Entries.openElement name) path
    return ⟨root, path ++ [name]⟩
  | .pair key value => do
    let root ← d.root.changeAt (Entries.addPair value key) d.current
    return { d with root }

/-- The tables that statements make, one after the other. -/
def ofStatements? (statements : List Statement) : Option Entries :=
  (statements.foldlM add {}).map (·.root)

end Document
end ModalKeys.Toml
