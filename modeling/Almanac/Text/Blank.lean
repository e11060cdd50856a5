import Almanac.Text.Ranges

/-!
# Blanks and words

An expression is read word by word. Words are what blanks leave: nonempty runs of other characters.
Blanks are the white space of every script, not only the ASCII ones.
-/

namespace Almanac.Text

/-- Every white space character. -/
def blankRanges : Ranges := [
  (0x9, 0xD), (0x20, 0x20), (0x85, 0x85), (0xA0, 0xA0), (0x1680, 0x1680), (0x2000, 0x200A),
  (0x2028, 0x2029), (0x202F, 0x202F), (0x205F, 0x205F), (0x3000, 0x3000)]

/-- Whether `c` is white space. -/
def isBlank (c : Char) : Bool := blankRanges.has c

/-- The word read so far, given last character first, unless it is empty. -/
def finishWord (word : List Char) : List (List Char) :=
  if word.isEmpty then [] else [word.reverse]

/-- The words of `text`, when `word` is the part of the first one already read, last character
first. -/
def wordsFrom (word : List Char) : List Char → List (List Char)
  | [] => finishWord word
  | c :: rest =>
    if isBlank c then finishWord word ++ wordsFrom [] rest else wordsFrom (c :: word) rest

/-- The words of `text`, in order. -/
def words (text : String) : List String := (wordsFrom [] text.toList).map String.ofList

end Almanac.Text
