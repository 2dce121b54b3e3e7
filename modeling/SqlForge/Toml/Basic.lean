import SqlForge.Entries

/-!
TOML documents. A table remembers how it came to be, because that settles what may still be added
to it.
-/

namespace SqlForge

inductive Toml where
  | text (s : String)
  | integer (n : Int)
  | float
  | bool (b : Bool)
  | time
  /-- Written like a number, but none. It is an error to look at it, and no error to leave it. -/
  | malformed
  | array (items : List Toml)
  /-- Closed with its brace. -/
  | inline (entries : List (String × Toml))
  /-- Under a header of its own. -/
  | table (entries : List (String × Toml))
  /-- Named on the way to another table, by a header or, if `dotted`, by a key. -/
  | implied (dotted : Bool) (entries : List (String × Toml))
  /-- Under headers in double brackets; the last element comes first. -/
  | tables (elements : List (List (String × Toml)))
  deriving Inhabited

namespace Toml

abbrev Entries := List (String × Toml)

/--
Adds a value under a key that may have dots in it. A table that headers have named is not added to,
but a table within it may be made.
-/
def addValue (value : Toml) : List String → Entries → Option Entries
  | [], _ => none
  | [key], entries => if (entries.lookup key).isSome then none else some (entries ++ [(key, value)])
  | key :: path, entries =>
    match entries.lookup key with
    | none => (addValue value path []).map fun inner => setEntry key (.implied true inner) entries
    | some (.implied dotted inner) =>
      if dotted || 1 < path.length then
        (addValue value path inner).map fun inner => setEntry key (.implied dotted inner) entries
      else none
    | some (.tables (current :: earlier)) =>
      if 1 < path.length then
        (addValue value path current).map fun current =>
          setEntry key (.tables (current :: earlier)) entries
      else none
    | some _ => none

/-- Changes the table at a path, and makes the tables on the way that are not there yet. -/
def alterAt (change : Entries → Option Entries) : List String → Entries → Option Entries
  | [], entries => change entries
  | key :: path, entries =>
    match entries.lookup key with
    | none => (alterAt change path []).map fun inner => setEntry key (.implied false inner) entries
    | some (.implied dotted inner) =>
      (alterAt change path inner).map fun inner => setEntry key (.implied dotted inner) entries
    | some (.table inner) =>
      (alterAt change path inner).map fun inner => setEntry key (.table inner) entries
    | some (.tables (current :: earlier)) =>
      (alterAt change path current).map fun current =>
        setEntry key (.tables (current :: earlier)) entries
    | some _ => none

/-- What the header of a table does. -/
def openTable (key : String) (entries : Entries) : Option Entries :=
  match entries.lookup key with
  | none => some (setEntry key (.table []) entries)
  | some (.implied false inner) => some (setEntry key (.table inner) entries)
  | some _ => none

/-- What a header in double brackets does. -/
def openElement (key : String) (entries : Entries) : Option Entries :=
  match entries.lookup key with
  | none => some (setEntry key (.tables [[]]) entries)
  | some (.tables elements) => some (setEntry key (.tables ([] :: elements)) entries)
  | some _ => none

/-- The entries of a table, however it came to be. A time is a table with no known entry. -/
def entries? : Toml → Option Entries
  | .inline entries | .table entries | .implied _ entries => some entries
  | .time => some []
  | _ => none

mutual
/-- Whether everything in a value can be looked at. -/
def isSound : Toml → Bool
  | .malformed => false
  | .array items => areSound items
  | .inline entries | .table entries | .implied _ entries => entriesAreSound entries
  | .tables elements => elementsAreSound elements
  | _ => true

def areSound : List Toml → Bool
  | [] => true
  | item :: items => item.isSound && areSound items

def entriesAreSound : Entries → Bool
  | [] => true
  | (_, value) :: entries => value.isSound && entriesAreSound entries

def elementsAreSound : List Entries → Bool
  | [] => true
  | entries :: elements => entriesAreSound entries && elementsAreSound elements
end

end Toml

end SqlForge
