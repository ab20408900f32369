/-!
# `SocketGate.Text.Blank`: white space, trimming and splitting

White space is the property White_Space of the Unicode character database:
twenty-five characters, of which the ASCII ones are the space and the five
control characters from tab to carriage return. Texts are trimmed and split into
words by that property.
-/

set_option autoImplicit false

namespace SocketGate.Text

/-- Whether a character has the property White_Space. -/
def isBlank (c : Char) : Bool :=
  let n := c.toNat
  (9 ≤ n && n ≤ 13) || n == 0x20 || n == 0x85 || n == 0xA0 || n == 0x1680 ||
    (0x2000 ≤ n && n ≤ 0x200A) || n == 0x2028 || n == 0x2029 || n == 0x202F || n == 0x205F ||
    n == 0x3000

/-- Without the longest run of characters at the end that satisfy `p`. -/
def dropEndWhile (p : Char → Bool) (chars : List Char) : List Char :=
  (chars.reverse.dropWhile p).reverse

/-- Without the white space at both ends. -/
def trimChars (chars : List Char) : List Char :=
  dropEndWhile isBlank (chars.dropWhile isBlank)

/-- Without the white space at both ends. -/
def trim (text : String) : String :=
  String.ofList (trimChars text.toList)

/-- The pieces between the characters that satisfy `p`: one piece more than
there are such characters. -/
def splitChars (p : Char → Bool) : List Char → List (List Char)
  | [] => [[]]
  | c :: rest =>
    if p c then [] :: splitChars p rest
    else match splitChars p rest with
      | [] => [[c]]
      | piece :: pieces => (c :: piece) :: pieces

/-- The elements of a comma-separated list, trimmed. -/
def commaList (text : String) : List String :=
  (splitChars (· == ',') text.toList).map fun piece => String.ofList (trimChars piece)

/-- The non-empty runs of characters that are not white space. -/
def words (text : String) : List String :=
  ((splitChars isBlank text.toList).filter (!·.isEmpty)).map String.ofList

/-- What stands before and after the first `sep`, or `none` if there is none. -/
def splitOnce? (sep : Char) (text : String) : Option (String × String) :=
  match text.toList.span (· ≠ sep) with
  | (_, []) => none
  | (before, _ :: after) => some (String.ofList before, String.ofList after)

/-- The text before the first `sep`, or all of it. -/
def before (sep : Char) (text : String) : String :=
  String.ofList (text.toList.takeWhile (· ≠ sep))

/-- Equal but for the case of ASCII letters. -/
def eqIgnoringCase (a b : String) : Bool :=
  a.toList.map Char.toLower == b.toList.map Char.toLower

end SocketGate.Text
