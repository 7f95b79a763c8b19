/-
**Names of characters.**

An expression may write a character by its name. Which names there are is a matter of the host, so
they are a parameter of reading.

* `CharacterNames`: the names that reading knows.
-/

import GrokEvents.Text.Basic

namespace GrokEvents.Expr

/-- The names that characters are known by. -/
class CharacterNames where
  /-- The character of a name, if there is one. -/
  named? : Text → Option Char

namespace CharacterNames

/-- The names of the printable characters of ASCII that are no letters, from the blank on. -/
def asciiNames : List (Char × String) :=
  [(' ', "SPACE"), ('!', "EXCLAMATION MARK"), ('"', "QUOTATION MARK"), ('#', "NUMBER SIGN"),
   ('$', "DOLLAR SIGN"), ('%', "PERCENT SIGN"), ('&', "AMPERSAND"), ('\x27', "APOSTROPHE"),
   ('(', "LEFT PARENTHESIS"), (')', "RIGHT PARENTHESIS"), ('*', "ASTERISK"), ('+', "PLUS SIGN"),
   (',', "COMMA"), ('-', "HYPHEN-MINUS"), ('.', "FULL STOP"), ('/', "SOLIDUS"),
   ('0', "DIGIT ZERO"), ('1', "DIGIT ONE"), ('2', "DIGIT TWO"), ('3', "DIGIT THREE"),
   ('4', "DIGIT FOUR"), ('5', "DIGIT FIVE"), ('6', "DIGIT SIX"), ('7', "DIGIT SEVEN"),
   ('8', "DIGIT EIGHT"), ('9', "DIGIT NINE"), (':', "COLON"), (';', "SEMICOLON"),
   ('<', "LESS-THAN SIGN"), ('=', "EQUALS SIGN"), ('>', "GREATER-THAN SIGN"),
   ('?', "QUESTION MARK"), ('@', "COMMERCIAL AT"), ('[', "LEFT SQUARE BRACKET"),
   ('\\', "REVERSE SOLIDUS"), (']', "RIGHT SQUARE BRACKET"), ('^', "CIRCUMFLEX ACCENT"),
   ('_', "LOW LINE"), ('\x60', "GRAVE ACCENT"), ('\x7b', "LEFT CURLY BRACKET"),
   ('|', "VERTICAL LINE"), ('\x7d', "RIGHT CURLY BRACKET"), ('~', "TILDE")]

/-- The character of a name that reads `start`, then one letter. -/
def letter? (start : String) (ofLetter : Char → Char) (name : Text) : Option Char :=
  match name.drop start.length with
  | [char] =>
    if name.take start.length = start.toList && char.isUpper then some (ofLetter char) else none
  | _ => none

/-- The names of the printable characters of ASCII, in capital or small letters. -/
instance (priority := low) ofAscii : CharacterNames where
  named? name :=
    let name := name.map Char.toUpper
    (letter? "LATIN CAPITAL LETTER " id name).or <|
      (letter? "LATIN SMALL LETTER " Char.toLower name).or <|
        (asciiNames.find? fun entry => entry.2.toList = name).map Prod.fst

end CharacterNames

end GrokEvents.Expr
