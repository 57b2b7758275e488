import HtmlStream.Template.Forest

/-!
The reading of a template as a machine of plain fields: a mode, the nodes made so far, the stack of
those that are open, the node whose attributes are being read, and bits of names, texts and values.
The types do not say which fields are in use in which mode. Where the machine would look for something
that is not there, it stops by an accident, which is not the same as a fault of the template.
-/
namespace HtmlStream.Template

inductive Mode where
  | text
  | tagOpen
  | attributes
  | attributeName
  | attributeEquals
  | quotedValue
  | unquotedValue
  | selfClose
  | closeTag
  | comment
  | declaration
  deriving DecidableEq

namespace Mode

/-- What is wrong with a template that ends in a mode. -/
def unterminated? : Mode → Option SyntaxCause
  | .text => none
  | .tagOpen | .attributes | .attributeName | .unquotedValue | .selfClose => some .unterminatedTag
  | .attributeEquals => some .valueNotGiven
  | .quotedValue => some .unterminatedAttributeValue
  | .closeTag => some .unterminatedClosingTag
  | .comment => some .unterminatedComment
  | .declaration => some .unterminatedDeclaration

/-- The modes between the name of a tag and its closing bracket. -/
def isInTag : Mode → Bool
  | .attributes | .attributeName | .attributeEquals | .quotedValue | .unquotedValue
  | .selfClose => true
  | .text | .tagOpen | .closeTag | .comment | .declaration => false

end Mode

inductive Accident where
  | emptyStack
  | noCurrentNode
  | missingNode
  | missingMessage
  | rootInside
  | missingPiece

inductive Stop where
  | fault (cause : SyntaxCause)
  | accident (accident : Accident)

inductive Child where
  | text (content : String)
  | markup (content : String)
  | hole (index : Nat)
  /-- The node with a number. -/
  | node (number : Nat)

inductive DraftType where
  /-- The type of the root. -/
  | fragment
  | tag (name : TagName)

/-- A node that may still get attributes and children. -/
structure Draft where
  type : DraftType
  attributes : List Attribute
  children : List Child

namespace Draft

def addChild (child : Child) (draft : Draft) : Draft :=
  { draft with children := draft.children ++ [child] }

def addAttribute (added : Attribute) (draft : Draft) : Draft :=
  { draft with attributes := draft.attributes ++ [added] }

/-- Whether the node has no content, so that its opening tag also ends it. -/
def isVoid (draft : Draft) : Bool :=
  match draft.type with
  | .tag (.literal name) => Template.isVoid name
  | _ => false

end Draft

/-- Nodes are numbered as they are made, the root first; the stack holds the numbers of the open ones,
innermost first. Texts, names and values are in reading order. -/
structure Machine where
  mode : Mode
  nodes : List Draft
  stack : List Nat
  text : List Char
  name : List Char
  slot? : Option Nat
  current? : Option Nat
  value : List Piece
  quote? : Option Char
  tail : List Char

namespace Machine

def start : Machine where
  mode := .text
  nodes := [⟨.fragment, [], []⟩]
  stack := [0]
  text := []
  name := []
  slot? := none
  current? := none
  value := []
  quote? := none
  tail := []

abbrev Result := Except Stop Machine

def failing (cause : SyntaxCause) : Result := .error (.fault cause)

def into (machine : Machine) (mode : Mode) : Machine := { machine with mode }

/-! ## Building the tree -/

def modifyNode (machine : Machine) (number : Nat) (change : Draft → Draft) : Result :=
  if number < machine.nodes.length then
    .ok { machine with nodes := machine.nodes.modify number change }
  else .error (.accident .missingNode)

/-- Add a child to the innermost open node. -/
def addChild (machine : Machine) (child : Child) : Result :=
  match machine.stack with
  | [] => .error (.accident .emptyStack)
  | innermost :: _ => machine.modifyNode innermost (Draft.addChild child)

def flushText (machine : Machine) : Result :=
  if machine.text.isEmpty then .ok machine
  else
    let trimmed := Text.trimBreaks machine.text
    let machine := { machine with text := [] }
    if trimmed.isEmpty then .ok machine else machine.addChild (.text (String.ofList trimmed))

def beginNode (machine : Machine) (name : TagName) : Result :=
  let number := machine.nodes.length
  let draft : Draft := ⟨.tag name, [], []⟩
  { machine with nodes := machine.nodes ++ [draft], current? := some number }.addChild
    (.node number)

def beginElement (machine : Machine) : Result :=
  match machine.slot? with
  | some index => machine.beginNode (.hole index)
  | none =>
      if machine.name.isEmpty then failing .missingTagName
      else machine.beginNode (.literal (String.ofList machine.name))

def openElement (machine : Machine) : Result :=
  match machine.current? with
  | none => .error (.accident .noCurrentNode)
  | some number =>
      match machine.nodes[number]? with
      | none => .error (.accident .missingNode)
      | some draft =>
          .ok { machine with
            stack := if draft.isVoid then machine.stack else number :: machine.stack
            current? := none
            mode := .text }

def closeSelf (machine : Machine) : Machine :=
  { machine with current? := none, mode := .text }

def closeElement (machine : Machine) : Result :=
  let name := String.ofList machine.name
  if machine.stack.length = 1 then failing (.unexpectedClosing name)
  else
    match machine.stack with
    | [] => .error (.accident .emptyStack)
    | innermost :: outer =>
        match machine.nodes[innermost]? with
        | none => .error (.accident .missingNode)
        | some draft =>
            let closed := { machine with stack := outer, mode := .text }
            match draft.type with
            | .tag (.literal expected) =>
                if name ≠ "" && name ≠ expected then failing (.mismatchedClosing expected name)
                else .ok closed
            | _ => .ok closed

/-- Add a character to a value. The last piece takes it, if it is a text. -/
def appendValue (machine : Machine) (character : Char) : Result :=
  if machine.value.isEmpty then .ok { machine with value := [.text (String.singleton character)] }
  else
    match machine.value.getLast? with
    | none => .error (.accident .missingPiece)
    | some (.text content) =>
        .ok { machine with
          value := machine.value.dropLast ++ [.text (content.push character)] }
    | some (.hole _) =>
        .ok { machine with value := machine.value ++ [.text (String.singleton character)] }

def addAttribute (machine : Machine) (added : Attribute) : Result :=
  match machine.current? with
  | none => .error (.accident .noCurrentNode)
  | some number => machine.modifyNode number (Draft.addAttribute added)

def commit (machine : Machine) (value : AttributeValue) : Result := do
  let machine ← machine.addAttribute (.named (String.ofList machine.name) value)
  return { machine with name := [] }

def commitBare (machine : Machine) : Result := machine.commit .bare

def commitValue (machine : Machine) : Result :=
  { machine with value := [] }.commit (.ofPieces machine.value)

/-! ## Characters -/

def inText (machine : Machine) (character : Char) : Result :=
  if character = '<' then do
    let machine ← machine.flushText
    return { machine with name := [], slot? := none, mode := .tagOpen }
  else .ok { machine with text := machine.text ++ [character] }

def inComment (machine : Machine) (character : Char) : Result :=
  let seen := machine.tail ++ [character]
  let tail := seen.drop (seen.length - 3)
  if tail = ['-', '-', '>'] then .ok { machine with tail, mode := .text }
  else .ok { machine with tail }

def inDeclaration (machine : Machine) (character : Char) : Result :=
  if character = '>' then do
    let machine ← machine.addChild (.markup ("<" ++ String.ofList machine.name ++ ">"))
    return machine.into .text
  else .ok { machine with name := machine.name ++ [character] }

/-- After one more character of a tag name: some names begin a comment or a declaration. -/
def extendTagName (machine : Machine) (character : Char) : Machine :=
  let name := machine.name ++ [character]
  let machine := { machine with name }
  if String.ofList name = "!--" then { machine with tail := [], mode := .comment }
  else if Text.lowercase (String.ofList name) = "!doctype" then machine.into .declaration
  else machine

def inTagOpen (machine : Machine) (character : Char) : Result :=
  if character = '/' && machine.name.isEmpty && machine.slot?.isNone then
    .ok { machine with name := [], mode := .closeTag }
  else if Text.isBlank character then do return (← machine.beginElement).into .attributes
  else if character = '>' then do (← machine.beginElement).openElement
  else if character = '/' then do return (← machine.beginElement).into .selfClose
  else .ok (machine.extendTagName character)

def inAttributes (machine : Machine) (character : Char) : Result :=
  if Text.isBlank character then .ok machine
  else if character = '>' then machine.openElement
  else if character = '/' then .ok (machine.into .selfClose)
  else if character = '"' || character = '\'' || character = '=' then
    failing (.unexpectedInTag character)
  else .ok { machine with name := [character], mode := .attributeName }

def inAttributeName (machine : Machine) (character : Char) : Result :=
  if character = '=' then .ok { machine with value := [], mode := .attributeEquals }
  else if Text.isBlank character then do return (← machine.commitBare).into .attributes
  else if character = '>' then do (← machine.commitBare).openElement
  else if character = '/' then do return (← machine.commitBare).into .selfClose
  else .ok { machine with name := machine.name ++ [character] }

def inAttributeEquals (machine : Machine) (character : Char) : Result :=
  if character = '"' || character = '\'' then
    .ok { machine with quote? := some character, mode := .quotedValue }
  else if Text.isBlank character then .ok machine
  else if character = '>' then failing (.missingAttributeValue (String.ofList machine.name))
  else do return (← machine.appendValue character).into .unquotedValue

def inQuotedValue (machine : Machine) (character : Char) : Result :=
  if machine.quote? = some character then do return (← machine.commitValue).into .attributes
  else machine.appendValue character

/-- A slash ends an unquoted value only where it closes the tag. -/
def inUnquotedValue (machine : Machine) (character : Char) (next : Option Char) : Result :=
  if Text.isBlank character then do return (← machine.commitValue).into .attributes
  else if character = '>' then do (← machine.commitValue).openElement
  else if character = '/' && next = some '>' then do
    return (← machine.commitValue).into .selfClose
  else machine.appendValue character

def inSelfClose (machine : Machine) (character : Char) : Result :=
  if character = '>' then .ok machine.closeSelf
  else if Text.isBlank character then .ok machine
  else failing .unexpectedAfterSlash

def inCloseTag (machine : Machine) (character : Char) : Result :=
  if character = '>' then machine.closeElement
  else if Text.isBlank character || character = '/' then .ok machine
  else .ok { machine with name := machine.name ++ [character] }

def readCharacter (machine : Machine) (character : Char) (next : Option Char) : Result :=
  match machine.mode with
  | .text => machine.inText character
  | .tagOpen => machine.inTagOpen character
  | .attributes => machine.inAttributes character
  | .attributeName => machine.inAttributeName character
  | .attributeEquals => machine.inAttributeEquals character
  | .quotedValue => machine.inQuotedValue character
  | .unquotedValue => machine.inUnquotedValue character next
  | .selfClose => machine.inSelfClose character
  | .closeTag => machine.inCloseTag character
  | .comment => machine.inComment character
  | .declaration => machine.inDeclaration character

/-! ## Interpolations -/

def readHole (machine : Machine) (index : Nat) : Result :=
  match machine.mode with
  | .text => do (← machine.flushText).addChild (.hole index)
  | .tagOpen =>
      if !machine.name.isEmpty || machine.slot?.isSome then failing .holeInTagName
      else .ok { machine with slot? := some index }
  | .attributeName =>
      if String.ofList machine.name ≠ "..." then failing .holeInAttributeName
      else do return (← machine.addAttribute (.spread index)).into .attributes
  | .attributeEquals => .ok { machine with value := [.hole index], mode := .unquotedValue }
  | .quotedValue | .unquotedValue =>
      .ok { machine with value := machine.value ++ [.hole index] }
  | .closeTag | .comment => .ok machine
  | .attributes | .selfClose | .declaration => failing .holeOutOfPlace

/-- Read one symbol; `next` is the static character right after it. -/
def step (machine : Machine) (symbol : Symbol) (next : Option Char) : Result :=
  match symbol with
  | .character character => machine.readCharacter character next
  | .hole index => machine.readHole index

/-! ## The end -/

namespace Child

/-- The child as a node, where `made` are the nodes numbered from `offset` on. -/
def toNode? (offset : Nat) (made : List Node) : Child → Option Node
  | .text content => some (.text content)
  | .markup content => some (.markup content)
  | .hole index => some (.hole index)
  | .node number => if number < offset then none else made[number - offset]?

end Child

/-- The trees of drafts that are numbered from `offset` on. A node is made before its children. -/
def treesFrom? (offset : Nat) : List Draft → Option (List Node)
  | [] => some []
  | draft :: rest => do
      let made ← treesFrom? (offset + 1) rest
      let children ← draft.children.mapM (Child.toNode? (offset + 1) made)
      match draft.type with
      | .tag name => return .element ⟨name, draft.attributes⟩ children :: made
      | .fragment => none

/-- The children of the root. -/
def forest? (machine : Machine) : Option (List Node) :=
  match machine.nodes with
  | [] => none
  | root :: rest => do
      let made ← treesFrom? 1 rest
      root.children.mapM (Child.toNode? 1 made)

def unclosed (machine : Machine) (innermost : Nat) : Stop :=
  match machine.nodes[innermost]? with
  | none => .accident .missingNode
  | some draft =>
      match draft.type with
      | .fragment => .accident .rootInside
      | .tag name => .fault (.unclosed name)

def finish (machine : Machine) : Except Stop (List Node) :=
  if machine.mode = .text then do
    let machine ← machine.flushText
    match machine.stack with
    | innermost :: _ :: _ => .error (machine.unclosed innermost)
    | _ =>
        match machine.forest? with
        | some nodes => .ok nodes
        | none => .error (.accident .missingNode)
  else
    match machine.mode.unterminated? with
    | some cause => .error (.fault cause)
    | none => .error (.accident .missingMessage)

end Machine

inductive Halt where
  | fault (fault : SyntaxFault)
  | accident (accident : Accident)

namespace Stop

/-- A fault is reported where it is noticed. -/
def reportedAt (position : Nat) : Stop → Halt
  | .fault cause => .fault ⟨cause, position⟩
  | .accident met => .accident met

end Stop

namespace Machine

def readFrom (machine : Machine) (position : Nat) : List Symbol → Except Halt (List Node)
  | [] => machine.finish.mapError (Stop.reportedAt position)
  | symbol :: rest =>
      match machine.step symbol (Symbol.firstCharacter? rest) with
      | .ok after => after.readFrom (position + symbol.width) rest
      | .error stop => .error (stop.reportedAt position)

def readStrings (strings : List String) : Except Halt (List Node) :=
  start.readFrom 0 (Symbol.ofStrings strings)

/-- How the machine comes from one symbol to the next; `rest` is what it has not read. -/
inductive Reaches (symbols : List Symbol) : Machine → List Symbol → Prop
  | start : Reaches symbols .start symbols
  | steps {machine after : Machine} {symbol : Symbol} {rest : List Symbol}
      (reached : Reaches symbols machine (symbol :: rest))
      (stepped : machine.step symbol (Symbol.firstCharacter? rest) = .ok after) :
      Reaches symbols after rest

/-- What holds between any two symbols. -/
structure IsSound (machine : Machine) : Prop where
  rooted : machine.stack.getLast? = some 0
  root : machine.nodes[0]?.map Draft.type = some .fragment
  stacked : ∀ number ∈ machine.stack, number < machine.nodes.length
  current_isSome : machine.current?.isSome = machine.mode.isInTag
  current : ∀ number ∈ machine.current?, number < machine.nodes.length
  valued : machine.mode = .unquotedValue → machine.value ≠ []

end Machine
end HtmlStream.Template
