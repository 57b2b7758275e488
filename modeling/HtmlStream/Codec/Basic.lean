/-!
Text codecs: the supported ones and the names they go by.
-/
namespace HtmlStream

inductive ByteOrder where
  | little
  | big
  deriving DecidableEq, Repr

/-- The codecs that turn text into bytes. Without a fixed byte order, UTF-16 and UTF-32 write a
byte order mark and then little-endian units; `utf8Marked` writes the mark in UTF-8. -/
inductive Codec where
  | ascii
  | latin1
  | utf8
  | utf8Marked
  | utf16 (order : Option ByteOrder)
  | utf32 (order : Option ByteOrder)
  deriving DecidableEq, Repr

namespace Codec

/-- The normal form of a codec's name: letters in lower case, each run of other characters between
letters, digits and periods as one underscore. -/
def normalizeFrom (gap started : Bool) : List Char → List Char
  | [] => []
  | character :: rest =>
      if character.isAlphanum || character = '.' then
        let read := character.toLower :: normalizeFrom false true rest
        if gap && started then '_' :: read else read
      else normalizeFrom true started rest

def normalizeName (name : String) : String :=
  String.ofList (normalizeFrom false false name.toList)

/-- The name of each codec and the other names that it goes by, in normal form. -/
def names : List (Codec × String × List String) :=
  [(.ascii, "ascii", ["646", "ansi_x3.4_1968", "ansi_x3_4_1968", "ansi_x3.4_1986", "cp367",
      "csascii", "ibm367", "iso646_us", "iso_646.irv_1991", "iso_ir_6", "us", "us_ascii"]),
    (.latin1, "latin_1", ["8859", "cp819", "csisolatin1", "ibm819", "iso8859", "iso8859_1",
      "iso_8859_1", "iso_8859_1_1987", "iso_ir_100", "l1", "latin", "latin1"]),
    (.utf8, "utf_8", ["u8", "utf", "utf8", "utf8_ucs2", "utf8_ucs4", "cp65001"]),
    (.utf8Marked, "utf_8_sig", []),
    (.utf16 none, "utf_16", ["u16", "utf16"]),
    (.utf16 (some .little), "utf_16_le", ["unicodelittleunmarked", "utf_16le"]),
    (.utf16 (some .big), "utf_16_be", ["unicodebigunmarked", "utf_16be"]),
    (.utf32 none, "utf_32", ["u32", "utf32"]),
    (.utf32 (some .little), "utf_32_le", ["utf_32le"]),
    (.utf32 (some .big), "utf_32_be", ["utf_32be"])]

/-- Whether `name`, in normal form, is the main name of a codec or one of its others; a period in
it also stands for an underscore of one of the others. -/
def goesBy (main : String) (others : List String) (name : String) : Bool :=
  let underscored := String.ofList (name.toList.map fun character =>
    if character = '.' then '_' else character)
  name == main || others.contains name || others.contains underscored

/-- The codec that goes by `name`, whatever its case and punctuation. -/
def find? (name : String) : Option Codec :=
  (names.find? fun (_, main, others) => goesBy main others (normalizeName name)).map Prod.fst

end Codec
end HtmlStream
