import HtmlStream.Codec.Basic
import HtmlStream.Text.Quoted

/-!
The settings of a route: checked once, and then shared by everything that takes part in a render.
-/
namespace HtmlStream

/-- A setting as a caller states it, which need not be of the kind that its name asks for. -/
inductive Setting where
  | null
  | flag (value : Bool)
  | number (value : Int)
  | text (content : String)
  deriving DecidableEq

namespace Setting

def typeName : Setting → String
  | .null => "NoneType"
  | .flag _ => "bool"
  | .number _ => "int"
  | .text _ => "str"

/-- Whether the setting counts as switched on. -/
def truth : Setting → Bool
  | .null => false
  | .flag value => value
  | .number value => value != 0
  | .text content => !content.isEmpty

/-- A flag counts as the number zero or one. -/
def number? : Setting → Option Int
  | .flag value => some (if value then 1 else 0)
  | .number value => some value
  | _ => none

/-- Two settings are equal if they are the same number, or else the same setting. -/
def equals (left right : Setting) : Bool :=
  match left.number?, right.number? with
  | some left, some right => left == right
  | _, _ => left == right

def inspect : Setting → String
  | .null => "None"
  | .flag value => if value then "True" else "False"
  | .number value => toString value
  | .text content => Text.quoted content

end Setting

/-- What a caller may ask for; what is left out has its default. -/
structure SettingsRequest where
  autoescape : Setting := .flag false
  encoding : Setting := .text "utf-8"
  maxDepth : Setting := .number 500
  bufferSize : Setting := .number 0
  /-- The first name under which something was asked for that is no setting. -/
  unknownName : Option String := none

/-- Settings that passed the checks. -/
structure Settings where
  /-- The settings as they were given. -/
  given : SettingsRequest
  /-- Escape text and attribute values. -/
  autoescape : Bool
  /-- The name of the codec. -/
  encoding : String
  codec : Codec
  codec_eq : Codec.find? encoding = some codec
  /-- The largest number of live frames. -/
  maxDepth : Nat
  maxDepth_pos : 0 < maxDepth
  /-- Chunks are held back until this many characters are pending; zero holds back none. -/
  bufferSize : Nat

inductive SettingsFault where
  | unknownName (name : String)
  | notANumber (typeName : String)
  | maxDepthNotPositive (given : Setting)
  | bufferSizeNegative (given : Setting)
  | encodingNotText (typeName : String)
  | encodingWithNull
  | unknownEncoding (name : String)
  deriving DecidableEq

namespace SettingsFault

def message : SettingsFault → String
  | .unknownName name =>
      "RenderConfig.__init__() got an unexpected keyword argument '" ++ name ++ "'"
  | .notANumber typeName =>
      "'<' not supported between instances of '" ++ typeName ++ "' and 'int'"
  | .maxDepthNotPositive given => "max_depth must be positive, got " ++ given.inspect
  | .bufferSizeNegative given => "buffer_size must be >= 0, got " ++ given.inspect
  | .encodingNotText typeName =>
      "lookup() argument must be str, not " ++ (if typeName = "NoneType" then "None" else typeName)
  | .encodingWithNull => "embedded null character"
  | .unknownEncoding name => "unknown encoding: " ++ name

end SettingsFault

namespace Settings

/-- The number that a setting is given as. -/
def numberOf (setting : Setting) : Except SettingsFault Int :=
  match setting.number? with
  | some number => .ok number
  | none => .error (.notANumber setting.typeName)

/-- The codec of a setting, with its name. -/
def codecOf (setting : Setting) :
    Except SettingsFault { named : String × Codec // Codec.find? named.1 = some named.2 } :=
  match setting with
  | .text name =>
      if name.toList.contains '\x00' then .error .encodingWithNull
      else match found : Codec.find? name with
        | some codec => .ok ⟨(name, codec), found⟩
        | none => .error (.unknownEncoding name)
  | other => .error (.encodingNotText other.typeName)

/-- Check the names, then the depth, then the buffer size, then the encoding; the first fault is
reported. -/
def check (request : SettingsRequest) : Except SettingsFault Settings := do
  if let some name := request.unknownName then throw (.unknownName name)
  match ← numberOf request.maxDepth with
  | .ofNat (depth + 1) =>
      match ← numberOf request.bufferSize with
      | .ofNat size =>
          let ⟨(encoding, codec), found⟩ ← codecOf request.encoding
          return {
            given := request
            autoescape := request.autoescape.truth
            encoding
            codec
            codec_eq := found
            maxDepth := depth + 1
            maxDepth_pos := Nat.succ_pos depth
            bufferSize := size }
      | .negSucc _ => throw (.bufferSizeNegative request.bufferSize)
  | _ => throw (.maxDepthNotPositive request.maxDepth)

/-- Settings are compared as they were given, so two names of one codec differ. -/
def equals (left right : Settings) : Bool :=
  left.given.autoescape.equals right.given.autoescape && left.encoding == right.encoding
    && left.maxDepth == right.maxDepth && left.bufferSize == right.bufferSize

def inspect (settings : Settings) : String :=
  "RenderConfig(autoescape=" ++ settings.given.autoescape.inspect
    ++ ", encoding=" ++ settings.given.encoding.inspect
    ++ ", max_depth=" ++ settings.given.maxDepth.inspect
    ++ ", buffer_size=" ++ settings.given.bufferSize.inspect ++ ")"

/-- The settings of a route that asks for nothing. -/
def standard : Settings where
  given := {}
  autoescape := false
  encoding := "utf-8"
  codec := .utf8
  codec_eq := by decide +kernel
  maxDepth := 500
  maxDepth_pos := by decide
  bufferSize := 0

end Settings
end HtmlStream
