/-!
Finding one text inside another.
-/

namespace SqlForge.Text

/-- What follows the word at the front of a text. -/
def dropWord? : List Char → List Char → Option (List Char)
  | [], cs => some cs
  | _ :: _, [] => none
  | w :: ws, c :: cs => if w = c then dropWord? ws cs else none

/-- What follows the first place where the word stands. -/
def afterFirst? (word : List Char) : List Char → Option (List Char)
  | [] => dropWord? word []
  | c :: cs => (dropWord? word (c :: cs)).or (afterFirst? word cs)

def contains (s word : String) : Bool :=
  (afterFirst? word.toList s.toList).isSome

end SqlForge.Text
