import Almanac.Configuration.Basic

/-!
# Locales

A locale is a language and a region, written `sv-SE`. The language is kept in lower case and the
region in upper case, so that all spellings of a locale are one and the same value and can be used
to look things up.
-/

namespace Almanac

/-- A language and a region. -/
structure Locale where
  language : String
  region : String
  deriving DecidableEq, Repr

namespace Locale

/-- The locale of codes in any ASCII case. -/
def ofCodes (language region : String) : Locale :=
  ⟨Text.asciiLower language, Text.asciiUpper region⟩

/-- Whether `c` stands between language and region. -/
def isSeparator (c : Char) : Bool := c == '-' || c == '_'

/-- Whether the text can be the code of a language or a region in a tag. -/
def isCode (code : List Char) : Bool := !code.isEmpty && code.all Char.isAlphanum

/-- The locale of a tag: two codes around the first hyphen or underscore. -/
def ofTag (tag : String) : Except ConfigurationError Locale :=
  let language := tag.toList.takeWhile fun c => !isSeparator c
  match tag.toList.dropWhile fun c => !isSeparator c with
  | _ :: region =>
    if isCode language && isCode region then
      .ok (ofCodes (String.ofList language) (String.ofList region))
    else .error (.invalidLocale tag)
  | [] => .error (.invalidLocale tag)

/-- The tag of a locale. -/
def toTag (locale : Locale) : String := locale.language ++ "-" ++ locale.region

instance : ToString Locale := ⟨toTag⟩

end Locale

end Almanac
