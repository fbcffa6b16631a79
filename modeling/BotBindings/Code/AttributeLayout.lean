import BotBindings.Code.Layout
import BotBindings.Code.Literal
import BotBindings.Text.Quoted
import BotBindings.Text.Split

/-!
# Layout of attributes

Attributes stand before what they are about, or at the start of its content. Documentation is an
attribute that is written as a comment where a comment can hold it.
-/

namespace BotBindings.Code

open Doc

/-- Where an attribute stands. -/
inductive AttributePlace
  /-- Before what it is about. -/
  | outside
  /-- At the start of the content of what it is about. -/
  | inside
  deriving DecidableEq

/-- An attribute with its content in brackets. -/
def attributeDoc (place : AttributePlace) (content : List Doc) : List Doc :=
  [.word (if place = .inside then "#![" else "#[")] ++ content ++ [.word "]", space]

/-- An attribute with arguments. -/
def attributeList (name : String) (arguments : List String) : List Doc :=
  let separated := ((arguments.map fun a => [Doc.word a]).intersperse [.word ",", space]).flatten
  attributeDoc .outside
    [.word (name ++ "("), block (cutPoint :: separated ++ [cutPointBack]), .word ")"]

/-! ## Comments -/

/-- The text without the spaces at its end. -/
def withoutTrailingSpaces (s : List Char) : List Char :=
  (s.reverse.dropWhile (· = ' ')).reverse

/-- Whether comment brackets match up in a text, where `depth` are open before it. -/
def commentsMatch : Nat → List Char → Bool
  | depth, [] => depth == 0
  | depth, '/' :: '*' :: rest => commentsMatch (depth + 1) rest
  | depth, '*' :: '/' :: rest => depth != 0 && commentsMatch (depth - 1) rest
  | depth, _ :: rest => commentsMatch depth rest

/-- Whether a text can stand in comment brackets. A slash at its end would not be part of it. -/
def fitsBrackets (s : List Char) : Bool :=
  commentsMatch 0 s && s.getLast? != some '/'

/-- The text with no spaces at the end of a line, the last line apart. -/
def withoutInnerTrailingSpaces (s : List Char) : List Char :=
  let pieces := Text.split ['\n'] s
  let inner := pieces.dropLast.map fun line => withoutTrailingSpaces line ++ ['\n']
  inner.flatten ++ pieces.getLastD []

/-- A comment to the end of the line. -/
def lineComment (mark : String) (text : List Char) : List Doc :=
  [.word (mark ++ String.ofList (withoutTrailingSpaces text)), newline]

/-- A comment in brackets. -/
def blockComment (mark : String) (text : List Char) : List Doc :=
  [.word (mark ++ String.ofList (withoutInnerTrailingSpaces text) ++ "*/"), newline]

/-- Documentation as a comment: a line comment if the text is one line, and otherwise a bracketed
one. There is none if the comment would not be read as documentation with that text. -/
def documentationComment (place : AttributePlace) (text : List Char) : Option (List Doc) :=
  let isInside := place = .inside
  if !text.contains '\n' && (isInside || text.head? != some '/') then
    some (lineComment (if isInside then "//!" else "///") text)
  else if fitsBrackets text
      && (isInside || (text.head? != some '*' && text.head? != some '/')) then
    some (blockComment (if isInside then "/*!" else "/**") text)
  else none

/-- A remark as a comment that is no documentation, if it can be one. -/
def remarkComment (text : List Char) : Option (List Doc) :=
  if !text.contains '\n' then some (lineComment "//" text)
  else if fitsBrackets text && text.head? != some '*' && text.head? != some '!' then
    some (blockComment "/*" text)
  else none

/-- The comment that an attribute with a literal for its value stands for, if it is one. -/
def commentOf (place : AttributePlace) (path literal : String) : Option (List Doc) :=
  match Literal.value? literal with
  | none => none
  | some text =>
    if path = "doc" then documentationComment place text.toList
    else if path = "comment" then remarkComment text.toList
    else none

/-- The layout of documentation. -/
def documentationDoc (text : String) : List Doc :=
  match documentationComment .outside text.toList with
  | some comment => comment
  | none => attributeDoc .outside [.word ("doc = " ++ Text.literal text)]

end BotBindings.Code
