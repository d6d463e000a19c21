/-!
# Blank characters

The characters that count as white space, and texts cut free of them at either end. White space
is the Unicode property White_Space, so the ideographic space and the no-break space count, and
the zero-width space does not.
-/

namespace Scratchpad.Text

/-- The characters with the Unicode property White_Space. -/
def isBlank (c : Char) : Bool :=
  (9 ≤ c.toNat && c.toNat ≤ 13) || c.toNat == 0x20 || c.toNat == 0x85 || c.toNat == 0xA0 ||
    c.toNat == 0x1680 || (0x2000 ≤ c.toNat && c.toNat ≤ 0x200A) || c.toNat == 0x2028 ||
    c.toNat == 0x2029 || c.toNat == 0x202F || c.toNat == 0x205F || c.toNat == 0x3000

/-- The list without the longest run of characters satisfying `p` at its end. -/
def dropEndWhile (p : Char → Bool) (cs : List Char) : List Char :=
  (cs.reverse.dropWhile p).reverse

def trimStart (s : String) : String :=
  String.ofList (s.toList.dropWhile isBlank)

def trimEnd (s : String) : String :=
  String.ofList (dropEndWhile isBlank s.toList)

/-- The text without the blanks at either end. -/
def trim (s : String) : String :=
  trimEnd (trimStart s)

/-- A text is blank if it holds no character other than blanks. -/
def isBlankText (s : String) : Bool :=
  s.toList.all isBlank

/-- The text without the copies of the character `c` at either end. -/
def trimChar (c : Char) (s : String) : String :=
  String.ofList (dropEndWhile (· == c) (s.toList.dropWhile (· == c)))

@[simp] theorem toList_trimStart (s : String) :
    (trimStart s).toList = s.toList.dropWhile isBlank := by
  simp [trimStart]

@[simp] theorem toList_trimEnd (s : String) :
    (trimEnd s).toList = dropEndWhile isBlank s.toList := by
  simp [trimEnd]

@[simp] theorem toList_trim (s : String) :
    (trim s).toList = dropEndWhile isBlank (s.toList.dropWhile isBlank) := by
  simp [trim]

end Scratchpad.Text
