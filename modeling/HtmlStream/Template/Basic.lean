import HtmlStream.Failure.Fault
import HtmlStream.Format.Layout

/-!
Templates: static strings with interpolated values between them.
-/
namespace HtmlStream

/-- A value in a template, with the conversion and the format specification given for it. A value
that counts as false gives none. -/
structure Interpolation where
  value : Value
  conversion : Value
  specification : Value

structure Template where
  strings : List String
  interpolations : List Interpolation

/-- What stands where a template is expected. -/
inductive TemplateOperand where
  | template (template : Template)
  | other (value : Value)

namespace Value

/-- The value laid out by a format specification. -/
def format (value : Value) (specification : String) : Except Format.FormatFault String :=
  match value with
  | .text content | .markup content =>
      Format.formatText content value.typeName specification
  | .boolean content =>
      Format.formatInteger (if content then 1 else 0) value.typeName specification
  | .integer content => Format.formatInteger content value.typeName specification
  | other =>
      match other.float? with
      | some number => Format.formatFloat number other.typeName specification
      | none => .error (.unsupportedType other.typeName)

/-- The value after a conversion: inspected, as plain text, or inspected in ASCII. -/
def convert (value conversion : Value) : Except Fault Value :=
  match conversion with
  | .text "r" => value.inspected.map .text
  | .text "s" => value.written.map .text
  | .text "a" => value.inspected.map fun shown => .text (Text.asciiOnly shown)
  | other => .error (.missingKey other)

/-- The value laid out by a specification, which has to be a text. -/
def formatBy (value specification : Value) : Except Fault Value :=
  match specification with
  | .text content => ((value.format content).mapError .format).map .text
  | other => .error (.specificationNotText other.typeName)

end Value

namespace Interpolation

/-- The interpolated value after its conversion and its format specification. Where neither is
given the value stays what it is, so components, lists and elements pass through. -/
def evaluate (interpolation : Interpolation) : Except Fault Value := do
  let converted ←
    if interpolation.conversion.truth then interpolation.value.convert interpolation.conversion
    else .ok interpolation.value
  if interpolation.specification.truth then converted.formatBy interpolation.specification
  else return converted

end Interpolation

namespace Template

/-- How an interpolation is shown where only the static text of a template is known. -/
def placeholder : String := "\x7b…\x7d"

/-- The static text of a template with its interpolations shown as placeholders. -/
def placeholderSource (strings : List String) : String :=
  String.intercalate placeholder strings

/-- The template at hand, if it is one and has one string more than it has interpolations. -/
def check (operand : TemplateOperand) (tag : String) : Except Fault Template :=
  match operand with
  | .other value => .error (.notATemplate tag value.typeName)
  | .template template =>
      let strings := template.strings.length
      let interpolations := template.interpolations.length
      if strings = interpolations + 1 then .ok template
      else .error (.templateCounts tag strings interpolations)

/-- The values of all interpolations, in order. -/
def values (template : Template) : Except Fault (List Value) :=
  template.interpolations.mapM Interpolation.evaluate

end Template
end HtmlStream
