import BotBindings.Html.Builder

/-!
# The rules before the body

How a page starts: the outermost element and the head are there whether or not they are spelled out.
-/

namespace BotBindings.Html

/-- Closes the innermost template with everything in it. -/
def closeTemplate : Build Unit := do
  popThroughTag "template"
  clearFormatting
  modify fun b =>
    let b := { b with templateModes := b.templateModes.drop 1 }
    { b with mode := b.resumedMode }

/-- The rules at the start of a page. -/
def initialRules : Piece → Build Outcome
  | .blank _ => pure .done
  | piece => do
    modify fun b => { b with legacy := true }
    pure (.again .beforeHtml piece)

/-- Starts the outermost element and goes on with the rules before the head. -/
def beforeHtmlRules : Piece → Build Outcome
  | .blank _ => pure .done
  | .startTag tag =>
    if tag.name = "html" then do
      insertRoot tag.attributes
      setMode .beforeHead
      pure .done
    else do
      insertRoot []
      pure (.again .beforeHead (.startTag tag))
  | .endTag name =>
    if ["head", "body", "html", "br"].contains name then do
      insertRoot []
      pure (.again .beforeHead (.endTag name))
    else pure .done
  | piece => do
    insertRoot []
    pure (.again .beforeHead piece)

/-- Opens the head of the page. -/
def insertHead (attributes : List Attribute) : Build Unit := do
  let e ← insertOpen ⟨.html, "head"⟩ attributes
  modify fun b => { b with head? := some e.id, mode := .inHead }

/-- The rules between the start of the page and its head. -/
def beforeHeadRules : Piece → Build Outcome
  | .blank _ => pure .done
  | .startTag tag =>
    if tag.name = "html" then do
      mergeRootAttributes tag
      pure .done
    else if tag.name = "head" then do
      insertHead tag.attributes
      pure .done
    else do
      insertHead []
      pure (.again .inHead (.startTag tag))
  | .endTag name =>
    if ["head", "body", "html", "br"].contains name then do
      insertHead []
      pure (.again .inHead (.endTag name))
    else pure .done
  | piece => do
    insertHead []
    pure (.again .inHead piece)

/-- Tags of the head whose elements have no content. -/
def headVoidTags : List String := ["base", "basefont", "bgsound", "link", "meta"]

/-- All tags that the rules of the head apply to wherever they stand. -/
def headTags : List String :=
  headVoidTags ++ ["noframes", "script", "style", "template", "title"]

/-- Whether the content of a `meta` element names an encoding: by the word `charset`, an equals sign
and a value whose quotes, if it has any, are closed. -/
def namesEncoding : List Char → Bool
  | [] => false
  | c :: rest =>
    match (Token.stripIgnoringCase "charset" (c :: rest)).map (·.dropWhile Token.isSeparator) with
    | some ('=' :: value) =>
      match value.dropWhile Token.isSeparator with
      | [] => false
      | quote :: value => !(quote == '"' || quote == '\'') || value.contains quote
    | _ => namesEncoding rest

/-- Whether a `meta` element declares the encoding of the page. -/
def StartTag.declaresEncoding (tag : StartTag) : Bool :=
  let value? (name : String) : Option String :=
    (tag.attributes.find? (·.name == name)).map Attribute.value
  (value? "charset").isSome
    || ((value? "http-equiv").any (fun value => value.map Char.toLower == "content-type")
      && (value? "content").any fun value => namesEncoding value.toList)

/-- Leaves the head for a piece that does not belong there. -/
def leaveHead (piece : Piece) : Build Outcome := do
  pop
  pure (.again .afterHead piece)

/-- The rules of the head. -/
def headRules : Piece → Build Outcome
  | .blank chars => do
    insertText chars
    pure .done
  | .startTag tag =>
    if tag.name = "html" then do
      mergeRootAttributes tag
      pure .done
    else if headVoidTags.contains tag.name then do
      insertVoid tag
      if tag.name = "meta" && tag.declaresEncoding then
        modify fun b => { b with dropMark := true }
      pure .done
    else if tag.name = "title" then do
      insertTextElement tag (.escapable tag.name)
      pure .done
    else if ["noframes", "style", "noscript"].contains tag.name then do
      insertTextElement tag (.raw tag.name)
      pure .done
    else if tag.name = "script" then do
      insertTextElement tag .script
      pure .done
    else if tag.name = "template" then do
      insertTag tag
      pushMarker
      forbidFrameset
      modify fun b =>
        { b with mode := .inTemplate, templateModes := .inTemplate :: b.templateModes }
      pure .done
    else if tag.name = "head" then pure .done
    else leaveHead (.startTag tag)
  | .endTag name =>
    if name = "head" then do
      pop
      setMode .afterHead
      pure .done
    else if name = "template" then do
      if (← get).inTemplate then
        popWhile .impliedTemplateEnd
        closeTemplate
      pure .done
    else if ["body", "html", "br"].contains name then leaveHead (.endTag name)
    else pure .done
  | piece => leaveHead piece

/-- Opens the body and leaves the piece to its rules. -/
def enterBody (piece : Piece) : Build Outcome := do
  discard <| insertImplied "body"
  pure (.again .inBody piece)

/-- The rules between head and body. -/
def afterHeadRules : Piece → Build Outcome
  | .blank chars => do
    insertText chars
    pure .done
  | .startTag tag =>
    if tag.name = "html" then do
      mergeRootAttributes tag
      pure .done
    else if tag.name = "body" then do
      insertTag tag
      forbidFrameset
      setMode .inBody
      pure .done
    else if tag.name = "frameset" then do
      insertTag tag
      setMode .inFrameset
      pure .done
    else if headTags.contains tag.name then do
      match (← get).head? with
      | none => pure .done
      | some head =>
        push ⟨head, ⟨.html, "head"⟩⟩
        let outcome ← headRules (.startTag tag)
        removeOpen head
        pure outcome
    else if tag.name = "head" then pure .done
    else enterBody (.startTag tag)
  | .endTag name =>
    if name = "template" then headRules (.endTag name)
    else if ["body", "html", "br"].contains name then enterBody (.endTag name)
    else pure .done
  | piece => enterBody piece

end BotBindings.Html
