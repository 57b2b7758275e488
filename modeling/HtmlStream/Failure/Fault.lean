import HtmlStream.Codec.Encoding
import HtmlStream.Failure.Kind
import HtmlStream.Format.Specification
import HtmlStream.Value.Inspection

/-!
Faults: uses of values, components and bodies that their rules do not allow. Each is its cause;
the wording is in one place.
-/
namespace HtmlStream

inductive Fault where
  | settings (fault : SettingsFault)
  | format (fault : Format.FormatFault)
  | encode (fault : EncodeFault)
  | numeral (fault : Decimal.NumeralFault)
  | integerTooLong
  | specificationNotText (typeName : String)
  | notATemplate (tag typeName : String)
  | templateCounts (tag : String) (strings interpolations : Nat)
  | elementType (given : Value)
  | spreadNotMapping (typeName : String)
  | tokenExpected (typeName : String)
  /-- An async generator returns no value, so it provides none. -/
  | asyncGeneratorProvider (name : String)
  | notRenderable (typeName : String)
  | missingPositional (component : String) (names : List String)
  | missingKeywordOnly (component : String) (names : List String)
  | positionalOnlyByName (component : String) (names : List String)
  | unexpectedArgument (component name : String)
  /-- An argument for a parameter that has its value already. -/
  | repeatedArgument (component name : String)
  /-- A name that is given twice among the arguments that are handed on. -/
  | repeatedKeyword (callee name : String)
  /-- More arguments by position than the most that there may be, beside keyword-only ones. -/
  | tooManyPositional (callee : String) (least most given keywords : Nat)
  | noKeywords (callee : String)
  | keywordNotText
  | notCallable (typeName : String)
  | unhashable (typeName : String)
  | notIterable (typeName : String)
  | textExpected (typeName : String)
  /-- Something whose items are spread out has none. -/
  | spreadNotIterable (typeName : String)
  /-- An item of what is put together as one text, counted from zero, is no text. -/
  | joinedNotText (position : Nat) (typeName : String)
  /-- A generator cannot hand over to a coroutine. -/
  | coroutineInGenerator
  | cannotAwait (typeName : String)
  /-- An item of a collection was answered, but a collection takes no answers. -/
  | takesNoAnswer (iteratorName : String)
  | alreadyRunning (kind : RoutineKind)
  | answerBeforeStart (kind : RoutineKind)
  | exitIgnored
  | endOfIterationEscaped
  | coroutineReused
  | coroutineAwaitedTwice
  | unknownWait (pending : Value)
  /-- A body went on while what it waits for was not over. -/
  | waitNotOver
  | callsTooDeep
  | noRenderContext
  | undefinedName (name : String)
  | missingKey (key : Value)
  | indexOutOfRange (typeName : String)
  | indexTooLarge (typeName : String)
  | indexNotInteger (container index : String)
  | notSubscriptable (typeName : String)
  /-- The attributes of a marker are no mapping. -/
  | attributesNotMapping (typeName : String)
  | noLength (typeName : String)
  /-- Something that is no style has no content. -/
  | noContent (typeName : String)
  | unsupportedSubtraction (left right : String)
  | notAnInteger (typeName : String)
  | integerTooLarge
  /-- An entry of a mapping, counted from zero, that is no collection. -/
  | entryNotCollection (position : Nat)
  /-- An entry of a mapping, counted from zero, that does not hold a key and a value. -/
  | entryLength (position length : Nat)
  /-- A number of repetitions or items beyond all positions. -/
  | countTooLarge
  | rangeTooLarge
  | repeatedTextTooLong
  | outOfMemory

namespace Fault

def kind : Fault → FailureKind
  | .settings (.unknownEncoding _) => .lookup
  | .settings (.unknownName _) | .settings (.notANumber _) | .settings (.encodingNotText _) => .type
  | .settings _ | .numeral _ | .integerTooLong | .entryLength .. => .value
  | .format (.unsupportedType _) => .type
  | .format .characterOutOfRange | .format .characterTooLarge | .format .integerTooLarge
  | .integerTooLarge | .countTooLarge | .rangeTooLarge | .repeatedTextTooLong => .overflow
  | .format .textTooLong | .outOfMemory => .memory
  | .format _ => .value
  | .encode _ => .unicodeEncode
  | .missingKey _ => .key
  | .takesNoAnswer _ | .attributesNotMapping _ | .noContent _ => .attribute
  | .alreadyRunning .asyncGenerator => .runtime
  | .alreadyRunning _ => .value
  | .exitIgnored | .endOfIterationEscaped | .coroutineReused | .coroutineAwaitedTwice
  | .unknownWait _ | .waitNotOver | .noRenderContext => .runtime
  | .callsTooDeep => .recursion
  | .undefinedName _ => .undefinedName
  | .indexOutOfRange _ | .indexTooLarge _ => .index
  | _ => .type

/-- Quoted names in an enumeration: two are joined by `and`, more by commas with `and` before the
last. -/
def enumerateNames (names : List String) : String :=
  let shown := names.map fun name => "'" ++ name ++ "'"
  match shown with
  | [] => ""
  | [only] => only
  | [first, second] => first ++ " and " ++ second
  | many =>
      String.intercalate ", " many.dropLast ++ ", and " ++ many.getLastD ""

/-- The ending of a noun that is counted. -/
def plural (count : Nat) : String :=
  if count = 1 then "" else "s"

def missingArguments (component : String) (manner : String) (names : List String) : String :=
  component ++ "() missing " ++ toString names.length ++ " required " ++ manner ++ " argument"
    ++ plural names.length ++ ": " ++ enumerateNames names

def tooManyArguments (callee : String) (least most given keywords : Nat) : String :=
  let allowed :=
    if least < most then "from " ++ toString least ++ " to " ++ toString most
        ++ " positional arguments"
    else toString most ++ " positional argument" ++ plural most
  let beside :=
    if keywords = 0 then ""
    else " positional argument" ++ plural given ++ " (and " ++ toString keywords
      ++ " keyword-only argument" ++ plural keywords ++ ")"
  callee ++ "() takes " ++ allowed ++ " but " ++ toString given ++ beside ++ " "
    ++ (if given = 1 && keywords = 0 then "was" else "were") ++ " given"

/-- What a running body is called in messages. -/
def bodyName : RoutineKind → String
  | .generator => "generator"
  | .asyncGenerator => "async generator"
  | .coroutine => "coroutine"

/-- A text as it is quoted in a message about integers, which shows only its beginning. -/
def quotedStart (text : String) : String :=
  String.ofList ((Text.quoted text).toList.take 200)

def numeralMessage : Decimal.NumeralFault → String
  | .notInteger text => "invalid literal for int() with base 10: " ++ quotedStart text
  | .notFloat text => "could not convert string to float: " ++ Text.quoted text
  | .tooManyDigits count =>
      "Exceeds the limit (4300 digits) for integer string conversion: value has "
        ++ toString count ++ " digits; use sys.set_int_max_str_digits() to increase the limit"

def message : Fault → String
  | .settings fault => fault.message
  | .format fault => fault.message
  | .encode fault => fault.message
  | .numeral fault => numeralMessage fault
  | .integerTooLong => Format.tooLongMessage
  | .specificationNotText typeName => "format() argument 2 must be str, not " ++ typeName
  | .notATemplate tag typeName =>
      tag ++ "() expects a string.templatelib.Template or compatible object, got " ++ typeName
  | .templateCounts tag strings interpolations =>
      tag ++ "() template has " ++ toString strings ++ " strings for " ++ toString interpolations
        ++ " interpolations"
  | .elementType given =>
      "Element type must be a tag name or a callable, got " ++ given.inspect
  | .spreadNotMapping typeName => "Attribute spread expects a mapping, got " ++ typeName
  | .tokenExpected typeName => "Expected a Context token, got " ++ typeName
  | .asyncGeneratorProvider name =>
      "Async generator " ++ Text.quoted name ++ " cannot be a context provider because it cannot "
        ++ "return a value; use an 'async def' function instead"
  | .notRenderable typeName =>
      "Route app must be a component or an Element, got " ++ typeName
  | .missingPositional component names => missingArguments component "positional" names
  | .missingKeywordOnly component names => missingArguments component "keyword-only" names
  | .positionalOnlyByName component names =>
      component ++ "() got some positional-only arguments passed as keyword arguments: '"
        ++ String.intercalate ", " names ++ "'"
  | .unexpectedArgument component name =>
      component ++ "() got an unexpected keyword argument '" ++ name ++ "'"
  | .repeatedArgument component name =>
      component ++ "() got multiple values for argument '" ++ name ++ "'"
  | .repeatedKeyword callee name =>
      callee ++ "() got multiple values for keyword argument '" ++ name ++ "'"
  | .tooManyPositional callee least most given keywords =>
      tooManyArguments callee least most given keywords
  | .noKeywords callee => callee ++ "() takes no keyword arguments"
  | .keywordNotText => "keywords must be strings"
  | .notCallable typeName => "'" ++ typeName ++ "' object is not callable"
  | .unhashable typeName => "unhashable type: '" ++ typeName ++ "'"
  | .notIterable typeName => "'" ++ typeName ++ "' object is not iterable"
  | .textExpected typeName =>
      "expected string or bytes-like object, got '" ++ typeName ++ "'"
  | .spreadNotIterable typeName => "Value after * must be an iterable, not " ++ typeName
  | .joinedNotText position typeName =>
      "sequence item " ++ toString position ++ ": expected str instance, " ++ typeName ++ " found"
  | .coroutineInGenerator =>
      "cannot 'yield from' a coroutine object in a non-coroutine generator"
  | .cannotAwait typeName => "object " ++ typeName ++ " can't be used in 'await' expression"
  | .takesNoAnswer iteratorName => "'" ++ iteratorName ++ "' object has no attribute 'send'"
  | .alreadyRunning .asyncGenerator => "anext(): asynchronous generator is already running"
  | .alreadyRunning kind => bodyName kind ++ " already executing"
  | .answerBeforeStart kind => "can't send non-None value to a just-started " ++ bodyName kind
  | .exitIgnored => "generator ignored GeneratorExit"
  | .endOfIterationEscaped => "async generator raised StopAsyncIteration"
  | .coroutineReused => "cannot reuse already awaited coroutine"
  | .coroutineAwaitedTwice => "coroutine is being awaited already"
  | .unknownWait pending => "Task got bad yield: " ++ pending.inspect
  | .waitNotOver => "await wasn't used with future"
  | .callsTooDeep => "maximum recursion depth exceeded"
  | .noRenderContext => "Not in a render context"
  | .undefinedName name => "name '" ++ name ++ "' is not defined"
  | .missingKey key => key.inspect
  | .indexOutOfRange typeName =>
      (if typeName = "str" then "string" else typeName) ++ " index out of range"
  | .indexTooLarge typeName =>
      "cannot fit '" ++ typeName ++ "' into an index-sized integer"
  | .indexNotInteger "str" index => "string indices must be integers, not '" ++ index ++ "'"
  | .indexNotInteger container index =>
      container ++ " indices must be integers or slices, not " ++ index
  | .notSubscriptable typeName => "'" ++ typeName ++ "' object is not subscriptable"
  | .attributesNotMapping typeName => "'" ++ typeName ++ "' object has no attribute 'items'"
  | .noContent typeName => "'" ++ typeName ++ "' object has no attribute 'content'"
  | .noLength typeName => "object of type '" ++ typeName ++ "' has no len()"
  | .unsupportedSubtraction left right =>
      "unsupported operand type(s) for -: '" ++ left ++ "' and '" ++ right ++ "'"
  | .notAnInteger typeName =>
      "'" ++ typeName ++ "' object cannot be interpreted as an integer"
  | .integerTooLarge => "int too large to convert to float"
  | .entryNotCollection position =>
      "cannot convert dictionary update sequence element #" ++ toString position
        ++ " to a sequence"
  | .entryLength position length =>
      "dictionary update sequence element #" ++ toString position ++ " has length "
        ++ toString length ++ "; 2 is required"
  | .countTooLarge => "cannot fit 'int' into an index-sized integer"
  | .rangeTooLarge => "Python int too large to convert to C ssize_t"
  | .repeatedTextTooLong => "repeated string is too long"
  | .outOfMemory => ""

end Fault

namespace Value

/-- The plain text, provided that it can be written. -/
def written (value : Value) : Except Fault String :=
  if value.isWritable then .ok value.toText else .error .integerTooLong

/-- The inspected form, provided that it can be written. -/
def inspected (value : Value) : Except Fault String :=
  if value.isWritable then .ok value.inspect else .error .integerTooLong

mutual
/-- What keeps a value from being recorded: an integer that cannot be written, or a marker whose
attributes have no entries or whose children cannot be counted. -/
def recordFault? : Value → Option Fault
  | .integer value => if Decimal.isShortInteger value then none else some .integerTooLong
  | .list items | .tuple items => recordFaultAmong? items
  | .mapping entries => recordFaultWithin? entries
  | .element _ type attributes children =>
      recordFault? type <|> recordFaultWithin? attributes <|> recordFaultAmong? children
  | .marker _ type attributes children =>
      let shape :=
        if attributes.asMapping?.isNone then some (.attributesNotMapping attributes.typeName)
        else none
      let count := if children.length?.isNone then some (.noLength children.typeName) else none
      recordFault? type <|> shape <|> recordFault? attributes <|> count
  | .provider _ source => recordFault? source
  | _ => none

def recordFaultAmong? : List Value → Option Fault
  | [] => none
  | head :: tail => recordFault? head <|> recordFaultAmong? tail

def recordFaultWithin? : List (Value × Value) → Option Fault
  | [] => none
  | (key, value) :: rest => recordFault? key <|> recordFault? value <|> recordFaultWithin? rest
end

end Value
end HtmlStream
