import HtmlStream.Element.Page

/-!
The tags and texts of the serializer are those of the page.
-/
namespace HtmlStream

namespace Value

variable (autoescape : Bool)

theorem text_eq_attributeValue : Serializer.text autoescape = attributeValue autoescape := by
  funext value
  unfold Serializer.text Serializer.shown attributeValue pageText
  cases value with
  | markup | safe => rfl
  | _ =>
      dsimp only
      cases written _ <;> rfl

theorem attributeText_eq_pageAttribute (key value : Value) :
    Serializer.attributeText autoescape key value = pageAttribute autoescape key value := by
  have children : Serializer.isChildrenKey key = key.isChildrenName := by cases key <;> rfl
  cases named : key.isChildrenName with
  | true => simp [Serializer.attributeText, pageAttribute, children, named]
  | false =>
      cases value with
      | boolean value =>
          cases value <;> simp [Serializer.attributeText, pageAttribute, children, named]
      | _ =>
          simp [Serializer.attributeText, pageAttribute, children, named, text_eq_attributeValue]

theorem attributesText_eq_pageAttributes (entries : Entries) :
    Serializer.attributesText autoescape (.mapping entries) = pageAttributes autoescape entries := by
  unfold Serializer.attributesText
  dsimp only [asMapping?]
  induction entries with
  | nil => rfl
  | cons entry rest induction =>
      rw [pageAttributes, ← induction, ← attributeText_eq_pageAttribute, List.mapM_cons]
      cases Serializer.attributeText autoescape entry.1 entry.2 with
      | error fault => rfl
      | ok first =>
          cases rest.mapM fun entry => Serializer.attributeText autoescape entry.1 entry.2 with
          | error fault => rfl
          | ok others => exact congrArg Except.ok String.join_cons

theorem openingTag_eq_pageAttributes (name : String) (type : Value) (named : type.written = .ok name)
    (entries : Entries) :
    Serializer.openingTag autoescape ⟨type, .mapping entries⟩
      = (pageAttributes autoescape entries).map fun attributes => "<" ++ name ++ attributes ++ ">" := by
  unfold Serializer.openingTag
  rw [attributesText_eq_pageAttributes, named]
  cases pageAttributes autoescape entries <;> rfl

theorem closingTag_eq (name : String) (type attributes : Value) (named : type.written = .ok name) :
    Serializer.closingTag ⟨type, attributes⟩ = .ok ("</" ++ name ++ ">") := by
  unfold Serializer.closingTag
  rw [named]
  rfl

end Value
end HtmlStream
