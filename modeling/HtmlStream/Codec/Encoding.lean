import HtmlStream.Codec.Basic
import HtmlStream.Text.Quoted

/-!
Encoding text to bytes and decoding it again.

The marks of UTF-8 with signature, UTF-16 and UTF-32 belong to an encoded text as a whole: encoding
a text writes one mark, so encoding it in parts writes one mark for each part. Decoding removes one
mark at the start and keeps any other as a character.
-/
namespace HtmlStream

/-- A run of characters that a codec has no bytes for: where it starts and what it holds. -/
structure EncodeFault where
  codec : Codec
  position : Nat
  run : List Char
  deriving DecidableEq

namespace Codec

/-- The number of characters of a codec that covers only an initial part of Unicode, and the
codec's own name. -/
def repertoire : Codec → Option (Nat × String)
  | .ascii => some (128, "ascii")
  | .latin1 => some (256, "latin-1")
  | _ => none

def byteOrderMark : Char := '\ufeff'

/-- The bytes of `value` as `width` base-256 digits. -/
def bytesOf (order : ByteOrder) (width value : Nat) : List UInt8 :=
  let little := (List.range width).map fun place => UInt8.ofNat (value >>> (8 * place))
  match order with
  | .little => little
  | .big => little.reverse

/-- The 16-bit units of a character: itself, or a surrogate pair beyond the basic plane. -/
def utf16Units (character : Char) : List Nat :=
  let code := character.toNat
  if code < 0x10000 then [code]
  else [0xd800 + (code - 0x10000) / 0x400, 0xdc00 + (code - 0x10000) % 0x400]

def utf16Bytes (order : ByteOrder) (text : List Char) : List UInt8 :=
  text.flatMap fun character => (utf16Units character).flatMap (bytesOf order 2)

def utf32Bytes (order : ByteOrder) (text : List Char) : List UInt8 :=
  text.flatMap fun character => bytesOf order 4 character.toNat

def utf8Bytes (text : List Char) : List UInt8 :=
  text.flatMap String.utf8EncodeChar

/-- Encode with one byte a character, or report the first run of characters beyond `limit`. -/
def narrowBytes (codec : Codec) (limit : Nat) (text : List Char) :
    Except EncodeFault (List UInt8) :=
  let fits (character : Char) : Bool := character.toNat < limit
  let covered := text.takeWhile fits
  match text.dropWhile fits with
  | [] => .ok (covered.map fun character => UInt8.ofNat character.toNat)
  | rest => .error ⟨codec, covered.length, rest.takeWhile fun character => !fits character⟩

def encode (codec : Codec) (text : List Char) : Except EncodeFault (List UInt8) :=
  match codec with
  | .ascii => narrowBytes .ascii 128 text
  | .latin1 => narrowBytes .latin1 256 text
  | .utf8 => .ok (utf8Bytes text)
  | .utf8Marked => .ok (utf8Bytes (byteOrderMark :: text))
  | .utf16 none => .ok (utf16Bytes .little (byteOrderMark :: text))
  | .utf16 (some order) => .ok (utf16Bytes order text)
  | .utf32 none => .ok (utf32Bytes .little (byteOrderMark :: text))
  | .utf32 (some order) => .ok (utf32Bytes order text)

/-! ## Decoding -/

/-- What stands for bytes that are no character. -/
def replacement : Char := '\ufffd'

def valueOf (order : ByteOrder) (bytes : List UInt8) : Nat :=
  let digits := match order with
    | .little => bytes.reverse
    | .big => bytes
  digits.foldl (fun value byte => 256 * value + byte.toNat) 0

def utf16Characters (order : ByteOrder) : List UInt8 → List Char
  | first :: second :: third :: fourth :: rest =>
      let unit := valueOf order [first, second]
      if 0xd800 ≤ unit && unit < 0xdc00 then
        let low := valueOf order [third, fourth]
        Char.ofNat (0x10000 + (unit - 0xd800) * 0x400 + (low - 0xdc00))
          :: utf16Characters order rest
      else Char.ofNat unit :: utf16Characters order (third :: fourth :: rest)
  | [first, second] => [Char.ofNat (valueOf order [first, second])]
  | [] => []
  | _ => [replacement]

def utf32Characters (order : ByteOrder) : List UInt8 → List Char
  | first :: second :: third :: fourth :: rest =>
      Char.ofNat (valueOf order [first, second, third, fourth]) :: utf32Characters order rest
  | [] => []
  | _ => [replacement]

/-- The payload of a byte that continues a character. -/
def continuation (byte : UInt8) : Nat := byte.toNat % 0x40

def utf8Characters : List UInt8 → List Char
  | [] => []
  | first :: rest =>
      let lead := first.toNat
      if lead < 0x80 then Char.ofNat lead :: utf8Characters rest
      else if lead < 0xe0 then
        match rest with
        | second :: rest =>
            Char.ofNat (lead % 0x20 * 0x40 + continuation second) :: utf8Characters rest
        | [] => [replacement]
      else if lead < 0xf0 then
        match rest with
        | second :: third :: rest =>
            Char.ofNat (lead % 0x10 * 0x1000 + continuation second * 0x40 + continuation third)
              :: utf8Characters rest
        | _ => [replacement]
      else
        match rest with
        | second :: third :: fourth :: rest =>
            Char.ofNat (lead % 0x8 * 0x40000 + continuation second * 0x1000
              + continuation third * 0x40 + continuation fourth) :: utf8Characters rest
        | _ => [replacement]

def dropMark : List Char → List Char
  | [] => []
  | first :: rest => if first = byteOrderMark then rest else first :: rest

def decode (codec : Codec) (bytes : List UInt8) : List Char :=
  match codec with
  | .ascii | .latin1 => bytes.map fun byte => Char.ofNat byte.toNat
  | .utf8 => utf8Characters bytes
  | .utf8Marked => dropMark (utf8Characters bytes)
  | .utf16 none => dropMark (utf16Characters .little bytes)
  | .utf16 (some order) => utf16Characters order bytes
  | .utf32 none => dropMark (utf32Characters .little bytes)
  | .utf32 (some order) => utf32Characters order bytes

end Codec

namespace EncodeFault

def message (fault : EncodeFault) : String :=
  let (limit, name) := fault.codec.repertoire.getD (0x110000, "")
  let subject := match fault.run with
    | [character] =>
        "character '" ++ String.ofList (Text.numericEscape character) ++ "' in position "
          ++ toString fault.position
    | run =>
        "characters in position " ++ toString fault.position ++ "-"
          ++ toString (fault.position + run.length - 1)
  "'" ++ name ++ "' codec can't encode " ++ subject ++ ": ordinal not in range("
    ++ toString limit ++ ")"

end EncodeFault
end HtmlStream
