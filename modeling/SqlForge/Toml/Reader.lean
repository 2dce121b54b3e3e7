import SqlForge.Toml.Word

/-!
Reading TOML. Every reader takes the text that is left and gives back what it read and the text
after it, or nothing if the text does not have the right form.
-/

namespace SqlForge.Toml

open SqlForge.Number

/-! ### Blanks and comments -/

/-- Controls other than the tab stand nowhere but at the ends of lines. -/
def isPrintable (c : Char) : Bool :=
  c = '\t' || (0x20 ≤ c.toNat && c.toNat ≠ 0x7F)

def skipSpaces (cs : List Char) : List Char :=
  cs.dropWhile isSpace

/-- Passes over blanks, ends of lines and comments. -/
def skipFiller (inComment : Bool) : List Char → Option (List Char)
  | [] => some []
  | '\n' :: cs => skipFiller false cs
  | '\r' :: '\n' :: cs => skipFiller false cs
  | c :: cs =>
    if inComment then if isPrintable c then skipFiller true cs else none
    else if isSpace c then skipFiller false cs
    else if c = '#' then skipFiller true cs
    else some (c :: cs)

/-- Passes over blanks up to a comment or the end of the line. -/
def endLine? (cs : List Char) : Option (List Char) :=
  match skipSpaces cs with
  | [] => some []
  | '\n' :: cs => some cs
  | '\r' :: '\n' :: cs => some cs
  | '#' :: cs => some ('#' :: cs)
  | _ => none

/-! ### Texts -/

/-- The character whose number is written in this many hexadecimal digits. -/
def readCode (digits : Nat) (cs : List Char) : Option (Char × List Char) := do
  let values ← (cs.take digits).mapM Json.hexValue?
  let n := values.foldl (fun n d => 16 * n + d) 0
  if values.length = digits ∧ n.isValidChar then some (Char.ofNat n, cs.drop digits) else none

def readEscape : List Char → Option (Char × List Char)
  | c :: cs =>
    if c = '\x22' then some ('\x22', cs)
    else if c = '\\' then some ('\\', cs)
    else if c = 'b' then some ('\x08', cs)
    else if c = 't' then some ('\t', cs)
    else if c = 'n' then some ('\n', cs)
    else if c = 'f' then some ('\x0c', cs)
    else if c = 'r' then some ('\r', cs)
    else if c = 'e' then some ('\x1b', cs)
    else if c = 'x' then readCode 2 cs
    else if c = 'u' then readCode 4 cs
    else if c = 'U' then readCode 8 cs
    else none
  | [] => none

/-- Reads a text of one line up to its closing quote. -/
def readLine (quote : Char) (before : List Char) : Nat → List Char → Option (String × List Char)
  | 0, _ => none
  | _, [] => none
  | fuel + 1, c :: cs =>
    if c = quote then some (String.ofList before.reverse, cs)
    else if c = '\\' ∧ quote = '\x22' then
      match readEscape cs with
      | some (e, rest) => readLine quote (e :: before) fuel rest
      | none => none
    else if isPrintable c then readLine quote (c :: before) fuel cs
    else none

/-- What follows a backslash at the end of a line: the next character that is no blank. -/
def skipFold? (cs : List Char) : Option (List Char) :=
  match skipSpaces cs with
  | '\n' :: cs => some (skipBreaks cs)
  | '\r' :: '\n' :: cs => some (skipBreaks cs)
  | _ => none
where
  skipBreaks : List Char → List Char
    | '\r' :: '\n' :: cs => skipBreaks cs
    | c :: cs => if isSpace c || c = '\n' then skipBreaks cs else c :: cs
    | [] => []

/-- Reads a text of several lines up to three quotes, before which two more may stand. -/
def readLines (quote : Char) (before : List Char) : Nat → List Char → Option (String × List Char)
  | 0, _ => none
  | _, [] => none
  | fuel + 1, c :: cs =>
    if c = quote then
      let count := ((c :: cs).take 5).takeWhile (· == quote) |>.length
      if 3 ≤ count then
        some (String.ofList (List.replicate (count - 3) quote ++ before).reverse,
          (c :: cs).drop count)
      else readLines quote (c :: before) fuel cs
    else if c = '\\' ∧ quote = '\x22' then
      match skipFold? cs with
      | some rest => readLines quote before fuel rest
      | none =>
        match readEscape cs with
        | some (e, rest) => readLines quote (e :: before) fuel rest
        | none => none
    else if c = '\n' ∨ isPrintable c then readLines quote (c :: before) fuel cs
    else if c = '\r' ∧ cs.head? = some '\n' then readLines quote (c :: before) fuel cs
    else none

/-- The first end of a line does not belong to the text. -/
def skipFirstBreak : List Char → List Char
  | '\n' :: cs => cs
  | '\r' :: '\n' :: cs => cs
  | cs => cs

/-- Reads a text whose first quote has been read. -/
def readText (quote : Char) (cs : List Char) : Option (String × List Char) :=
  match cs with
  | a :: b :: rest =>
    if a = quote ∧ b = quote then readLines quote [] (rest.length + 1) (skipFirstBreak rest)
    else readLine quote [] (cs.length + 1) cs
  | cs => readLine quote [] (cs.length + 1) cs

/-! ### Keys -/

def isBare (c : Char) : Bool :=
  c.isAlphanum || c = '_' || c = '-'

def readKeyPart : List Char → Option (String × List Char)
  | [] => none
  | c :: cs =>
    if c = '\x22' ∨ c = '\x27' then readLine c [] (cs.length + 1) cs
    else
      let bare := (c :: cs).takeWhile isBare
      if bare.isEmpty then none
      else some (String.ofList bare, (c :: cs).dropWhile isBare)

/-- Reads up to `most` parts with dots between them, and the blanks around them. -/
def readParts : (most : Nat) → List Char → Option (List String × List Char)
  | 0, _ => none
  | most + 1, cs =>
    match readKeyPart (skipSpaces cs) with
    | none => none
    | some (part, rest) =>
      match skipSpaces rest with
      | '.' :: rest => (readParts most rest).map fun (parts, rest) => (part :: parts, rest)
      | rest => some ([part], rest)

/-- A key has at most 80 parts. -/
def readKey (cs : List Char) : Option (List String × List Char) :=
  readParts 80 cs

/-! ### Values -/

/-- Arrays and inline tables may be nested this deep. -/
def maxDepth : Nat := 80

mutual
/-- Reads one value in front of which no blank stands. -/
def readValue (depth : Nat) : Nat → List Char → Option (Toml × List Char)
  | 0, _ => none
  | _, [] => none
  | fuel + 1, c :: cs =>
    if c = '\x22' ∨ c = '\x27' then (readText c cs).map fun (s, rest) => (.text s, rest)
    else if c = '[' then
      match depth with
      | 0 => none
      | depth + 1 =>
        (readItems depth [] fuel cs).map fun (items, rest) => (.array items, rest)
    else if c = '\x7b' then
      match depth with
      | 0 => none
      | depth + 1 =>
        (readPairs depth [] fuel cs).map fun (entries, rest) => (.inline entries, rest)
    else
      let (word, rest) := takeWord [] (c :: cs)
      (ofWord? word).map fun value => (value, rest)

/-- Reads the items of an array and its closing bracket; a comma may stand behind the last. -/
def readItems (depth : Nat) (before : List Toml) : Nat → List Char → Option (List Toml × List Char)
  | 0, _ => none
  | fuel + 1, cs =>
    match skipFiller false cs with
    | none => none
    | some (']' :: rest) => some (before.reverse, rest)
    | some cs =>
      match readValue depth fuel cs with
      | none => none
      | some (item, rest) =>
        match skipFiller false rest with
        | some (',' :: rest) => readItems depth (item :: before) fuel rest
        | some (']' :: rest) => some ((item :: before).reverse, rest)
        | _ => none

/--
Reads the pairs of an inline table and its closing brace; a comma may stand behind the last. Lines
may end wherever blanks may stand, except within a key.
-/
def readPairs (depth : Nat) (before : Entries) : Nat → List Char → Option (Entries × List Char)
  | 0, _ => none
  | fuel + 1, cs =>
    match skipFiller false cs with
    | none => none
    | some ('\x7d' :: rest) => some (before, rest)
    | some cs =>
      match readKey cs with
      | none => none
      | some (key, rest) =>
        match ((skipFiller false rest).bind (dropChar? '=')).bind (skipFiller false) with
        | none => none
        | some rest =>
          match readValue depth fuel rest with
          | none => none
          | some (value, rest) =>
            match addValue value key before, skipFiller false rest with
            | some entries, some (',' :: rest) => readPairs depth entries fuel rest
            | some entries, some ('\x7d' :: rest) => some (entries, rest)
            | _, _ => none
end

/-! ### Documents -/

/-- Reads a header whose first bracket has been read, and opens its table. -/
def readHeader (entries : Entries) (cs : List Char) :
    Option ((List String × Entries) × List Char) :=
  match cs with
  | '[' :: cs => do
    let (path, rest) ← readKey cs
    let rest ← (dropChar? ']' rest).bind (dropChar? ']')
    let entries ← alterAt (openElement (path.getLastD "")) path.dropLast entries
    return ((path, entries), rest)
  | cs => do
    let (path, rest) ← readKey cs
    let rest ← dropChar? ']' rest
    let entries ← alterAt (openTable (path.getLastD "")) path.dropLast entries
    return ((path, entries), rest)

/-- Reads a key and its value into the table at `path`. -/
def readEntry (path : List String) (entries : Entries) (cs : List Char) :
    Option (Entries × List Char) := do
  let (key, rest) ← readKey cs
  let rest ← dropChar? '=' rest
  let (value, rest) ← readValue maxDepth (2 * rest.length + 2) (skipSpaces rest)
  let entries ← alterAt (addValue value key) path entries
  return (entries, rest)

/-- Reads line after line; `path` leads to the table of the last header. -/
def readDocument (path : List String) (entries : Entries) : Nat → List Char → Option Entries
  | 0, _ => none
  | fuel + 1, cs =>
    match skipFiller false cs with
    | none => none
    | some [] => some entries
    | some ('[' :: cs) =>
      match readHeader entries cs with
      | none => none
      | some ((path, entries), rest) => (endLine? rest).bind (readDocument path entries fuel)
    | some cs =>
      match readEntry path entries cs with
      | none => none
      | some (entries, rest) => (endLine? rest).bind (readDocument path entries fuel)

/-- The entries of the document that the whole text holds. -/
def read? (s : String) : Option Entries :=
  let cs := match s.toList with
    | '\ufeff' :: cs => cs
    | cs => cs
  readDocument [] [] (cs.length + 1) cs

end SqlForge.Toml
