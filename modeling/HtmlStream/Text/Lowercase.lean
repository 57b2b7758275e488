/-!
Lower-casing, as far as it decides whether a name is an ASCII keyword.

Tag names are compared with keywords regardless of case. Outside ASCII exactly one character has
an ASCII letter as its lower-case form, the Kelvin sign; every other character keeps the name from
being a keyword whatever its own lower-case form is, so it may stay as it is.
-/
namespace HtmlStream.Text

def lowercaseCharacter (character : Char) : Char :=
  if character = '\u212a' then 'k' else character.toLower

/-- The name with each character in lower case that has an ASCII lower-case form. -/
def lowercase (name : String) : String :=
  String.ofList (name.toList.map lowercaseCharacter)

end HtmlStream.Text
