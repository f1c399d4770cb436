/-!
Why a text is no document.
-/

namespace ApiStubs.Xml

inductive Error
  | reference
  | comment
  | instruction
  | declaration
  | dataSection
  | documentType
  | startTag
  | endTag
  | attributeValue
  | sectionEndInText
  | duplicateAttribute
  | duplicateLabel
  | emptyNamespace
  | undeclaredLabel (label : String)
  | mismatchedEndTag
  | unclosedElement
  | missingRoot
  | misplaced
  deriving DecidableEq, Repr, Inhabited

def Error.message : Error → String
  | reference => "a reference is neither a known name nor a character"
  | comment => "a comment is not closed or holds a double hyphen"
  | instruction => "a processing instruction is not well-formed"
  | declaration => "the declaration is not well-formed"
  | dataSection => "a CDATA section is not closed"
  | documentType => "a document type is not well-formed"
  | startTag => "a start tag is not well-formed"
  | endTag => "an end tag is not well-formed"
  | attributeValue => "an attribute value is not well-formed"
  | sectionEndInText => "text holds the end of a CDATA section"
  | duplicateAttribute => "an attribute occurs twice"
  | duplicateLabel => "a namespace is declared twice"
  | emptyNamespace => "a label is declared for no namespace"
  | undeclaredLabel label => s!"the label '{label}' is not declared"
  | mismatchedEndTag => "an end tag does not match its start tag"
  | unclosedElement => "an element is not closed"
  | missingRoot => "there is no root element"
  | misplaced => "something stands outside the root element"

end ApiStubs.Xml
