import SqlForge.Text.Blank

/-!
The shape of a name as it is written: a star, a name with an alias, a path into a JSON column, or
segments between dots. `Identifier.parse` tells which; quoting of segments and texts is here too.
-/

namespace SqlForge

/-- A name split into its parts; nothing in it is checked or quoted. -/
inductive Identifier where
  | star
  | aliased (target label : String)
  | json (column : String) (path : List String)
  | dotted (segments : List String)
  deriving DecidableEq, Repr

namespace Identifier

/-- Pieces between the separators; there is always at least one. -/
def splitDots : List Char → List (List Char)
  | [] => [[]]
  | c :: cs =>
    if c = '.' then [] :: splitDots cs
    else match splitDots cs with
      | [] => [[c]]
      | part :: parts => (c :: part) :: parts

/-- Pieces between the arrows `->`; there is always at least one. -/
def splitArrows : List Char → List (List Char)
  | [] => [[]]
  | '-' :: '>' :: cs => [] :: splitArrows cs
  | c :: cs =>
    match splitArrows cs with
    | [] => [[c]]
    | part :: parts => (c :: part) :: parts

/-- Whether `c` is the letter in either case; the long `s` is a form of `s`. -/
def isLetterA (c : Char) : Bool :=
  c = 'a' || c = 'A'

def isLetterS (c : Char) : Bool :=
  c = 's' || c = 'S' || c = '\u017f'

/-- What follows the word `as` when blanks, the word and another blank stand in front. -/
def afterAs? : List Char → Option (List Char)
  | [] => none
  | c :: cs =>
    if Text.isBlank c then
      match cs.dropWhile Text.isBlank with
      | a :: s :: b :: rest =>
        if isLetterA a && isLetterS s && Text.isBlank b then some rest else none
      | _ => none
    else none

/-- What stands before and after the first `as` between blanks. -/
def splitAs? : List Char → Option (List Char × List Char)
  | [] => none
  | c :: cs =>
    ((afterAs? (c :: cs)).map fun rest => ([], rest)).or
      ((splitAs? cs).map fun (before, rest) => (c :: before, rest))

/-- Target and alias, trimmed. The first `as` counts, and neither side of it may be blank. -/
def splitAlias? (s : String) : Option (String × String) :=
  match splitAs? s.toList with
  | some (before, rest) =>
    let target := Text.trim before
    let label := Text.trim rest
    if target.isEmpty || label.isEmpty then none
    else some (String.ofList target, String.ofList label)
  | none => none

/-- Column and path; further `>` at the start of a key are passed over. -/
def splitJson? (s : String) : Option (String × List String) :=
  match splitArrows s.toList with
  | column :: key :: keys =>
    some (String.ofList column,
      (key :: keys).map fun k => String.ofList (k.dropWhile (· == '>')))
  | _ => none

/-- The parts between the dots. -/
def segments (s : String) : List String :=
  (splitDots s.toList).map String.ofList

/-- What stands behind the last dot. -/
def lastSegment (s : String) : String :=
  (segments s).getLastD s

def parse (s : String) : Identifier :=
  if s = "*" then .star
  else
    match splitAlias? s with
    | some (target, label) => .aliased target label
    | none =>
      match splitJson? s with
      | some (column, path) => .json column path
      | none => .dotted (segments s)

/-! ### Quoting -/

/-- Every quote inside is written twice. -/
def double (quote : Char) : List Char → List Char
  | [] => []
  | c :: cs => if c = quote then quote :: quote :: double quote cs else c :: double quote cs

/-- `s` between quotes. -/
def quoted (quote : Char) (s : String) : String :=
  String.ofList (quote :: double quote s.toList ++ [quote])

/-- A segment between quotes; a star stays bare. -/
def quoteSegment (quote : Char) (segment : String) : String :=
  if segment = "*" then "*" else quoted quote segment

/-- A text literal. -/
def quoteText (s : String) : String :=
  quoted '\x27' s

end Identifier

end SqlForge
