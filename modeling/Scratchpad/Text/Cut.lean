/-!
# Cutting texts

Taking a text apart at its start, at a character, at its line ends, and around the places where
a word occurs.
-/

namespace Scratchpad.Text

/-- What follows `lead`, if the text starts with it. -/
def dropLead? (lead s : String) : Option String :=
  (lead.toList.isPrefixOf? s.toList).map String.ofList

def startsWith (lead s : String) : Bool :=
  lead.toList.isPrefixOf s.toList

def endsWithChar (c : Char) (s : String) : Bool :=
  s.toList.getLast? == some c

/-- The parts before and after the first occurrence of the character `c`, if there is one. -/
def splitFirst? (c : Char) (s : String) : Option (String × String) :=
  match s.toList.dropWhile (· != c) with
  | [] => none
  | _ :: after => some (String.ofList (s.toList.takeWhile (· != c)), String.ofList after)

/-- Whether `word` occurs somewhere in the list. -/
def occursIn (word : List Char) : List Char → Bool
  | [] => word.isEmpty
  | c :: cs => word.isPrefixOf (c :: cs) || occursIn word cs

def contains (word s : String) : Bool :=
  occursIn word.toList s.toList

/-- Deletes the leftmost non-overlapping occurrences of a non-empty `word`. The number says how
many characters of an occurrence are still to be dropped. -/
def deleteFrom (word : List Char) : Nat → List Char → List Char
  | _, [] => []
  | k + 1, _ :: cs => deleteFrom word k cs
  | 0, c :: cs =>
    if word.isPrefixOf (c :: cs) then deleteFrom word (word.length - 1) cs
    else c :: deleteFrom word 0 cs

/-- The text without the leftmost non-overlapping occurrences of the non-empty text `word`. -/
def delete (word s : String) : String :=
  String.ofList (deleteFrom word.toList 0 s.toList)

def consLine (c : Char) : List (List Char) → List (List Char)
  | [] => [[c]]
  | l :: ls => (c :: l) :: ls

/-- The lines of a list of characters. A line ends at a line feed, together with one carriage
return directly before it, or at the end of the list; nothing after the last line feed is no
line. -/
def cutLines : List Char → List (List Char)
  | [] => []
  | '\r' :: '\n' :: cs => [] :: cutLines cs
  | '\n' :: cs => [] :: cutLines cs
  | c :: cs => consLine c (cutLines cs)

/-- The lines of a text, without their line ends. -/
def lines (s : String) : List String :=
  (cutLines s.toList).map String.ofList

/-- The first line of a text, empty for the empty text. -/
def firstLine (s : String) : String :=
  (lines s).headD ""

/-- The texts one after the other, each followed by a line feed. -/
def unlines (ls : List String) : String :=
  String.join (ls.map (· ++ "\n"))

end Scratchpad.Text
