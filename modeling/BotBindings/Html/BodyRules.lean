import BotBindings.Html.HeadRules

/-!
# The rules of the body

Most elements of a page stand in its body. Blocks end an open paragraph, list items end one another,
and formatting that is closed out of order is split so that elements stay properly nested.
-/

namespace BotBindings.Html

/-- Closes the innermost element with the given tag, and everything in it, unless an element with a
role of its own lies between. -/
def closeOrdinary (name : String) : Build Unit := do
  let rec reaches : List OpenElement → Bool
    | [] => false
    | e :: rest => TagSet.of [name] e.name || (!TagSet.special e.name && reaches rest)
  if reaches (← get).opened then
    let depth := (← get).opened.dropWhile (fun e => !TagSet.of [name] e.name) |>.length
    popImpliedExcept name
    modify fun b => { b with opened := b.opened.drop (b.opened.length + 1 - depth) }

/-! ## Formatting closed out of order -/

/-- Where the entry of a formatting element goes once the element was split. -/
inductive Bookmark
  | replace (id : Nat)
  /-- After the entry of another element, towards the latest. -/
  | after (id : Nat)

/-- The list of formatting entries with the entry of `id` replaced. -/
def replaceFormatting (id : Nat) (entry : Formatting) (entries : List Formatting) :
    List Formatting :=
  entries.map fun other => if other.isFor id then entry else other

/-- Continues the elements between a formatting element and a block inside the block's new place.
`between` holds those elements from the innermost outwards, `count` how many were visited, and
`last` what goes into the next of them. -/
def splitBetween (block : Nat) : Nat → List OpenElement → OpenElement → Bookmark →
    Build (OpenElement × Bookmark)
  | _, [], last, bookmark => pure (last, bookmark)
  | count, e :: outer, last, bookmark => do
    let entry := (← get).formatting.find? (Formatting.isFor e.id)
    match entry with
    | some (.element _ tag) =>
      if count ≥ 3 then
        removeFormatting e.id
        removeOpen e.id
        splitBetween block (count + 1) outer last bookmark
      else
        let copy ← createElement ⟨.html, tag.name⟩ tag.attributes
        modify fun b => { b with
          opened := b.opened.map fun other => if other.id = e.id then copy else other
          formatting := replaceFormatting e.id (.element copy.id tag) b.formatting }
        let bookmark := if last.id = block then .after copy.id else bookmark
        modify fun b => { b with draft := b.draft.append copy.id last.id }
        splitBetween block (count + 1) outer copy bookmark
    | _ =>
      removeOpen e.id
      splitBetween block (count + 1) outer last bookmark

/-- One round of closing the formatting element `e`. Its tag is `tag`, `inner` holds the elements
open inside it, innermost first, and `ancestor` is the element around it. -/
def splitFormatting (e : OpenElement) (tag : StartTag) (inner : List OpenElement)
    (ancestor : OpenElement) (block : OpenElement) : Build Unit := do
  let between := (inner.dropWhile (·.id ≠ block.id)).drop 1
  let (last, bookmark) ← splitBetween block.id 0 between block (.replace e.id)
  modify fun b =>
    let b := { b with draft := b.draft.detach last.id }
    b.put (b.placeIn ancestor) last.id
  let copy ← createElement ⟨.html, tag.name⟩ tag.attributes
  let entry := Formatting.element copy.id tag
  modify fun b => { b with
    draft := (b.draft.moveChildren block.id copy.id).append block.id copy.id
    formatting := match bookmark with
      | .replace id => replaceFormatting id entry b.formatting
      | .after id =>
        (b.formatting.flatMap fun other =>
          if other.isFor id then [entry, other] else [other]).filter (!Formatting.isFor e.id ·) }
  removeOpen e.id
  modify fun b => { b with
    opened := b.opened.flatMap fun other => if other.id = block.id then [copy, other] else [other] }

/-- Rounds of closing formatting elements with the given tag, at most `rounds` of them. -/
def closeFormattingRounds (name : String) : Nat → Build Unit
  | 0 => pure ()
  | rounds + 1 => do
    let b ← get
    let entry := b.recentFormatting.find? fun
      | .marker => false
      | .element _ tag => tag.name = name
    match entry with
    | some (.element id tag) =>
      match b.opened.dropWhile (·.id ≠ id) with
      | [] => removeFormatting id
      | e :: outer =>
        if !Builder.inScopeOf .barrier (·.id = id) b.opened then pure ()
        else
          let inner := b.opened.takeWhile (·.id ≠ id)
          match inner.reverse.find? (fun other => TagSet.special other.name), outer with
          | some block, ancestor :: _ => do
            splitFormatting e tag inner ancestor block
            closeFormattingRounds name rounds
          | _, _ =>
            modify fun b => { b with opened := outer }
            removeFormatting id
    | _ => closeOrdinary name

/-- Closes the innermost formatting element with the given tag, wherever blocks cross it. -/
def closeFormatting (name : String) : Build Unit := do
  let b ← get
  match b.current? with
  | some e =>
    if TagSet.of [name] e.name && !b.formatting.any (Formatting.isFor e.id) then pop
    else closeFormattingRounds name 8
  | none => pure ()

/-! ## Start tags -/

/-- Blocks that end a paragraph and have no further rule. -/
def blockTags : List String :=
  ["address", "article", "aside", "blockquote", "center", "details", "dialog", "dir", "div", "dl",
   "fieldset", "figcaption", "figure", "footer", "header", "hgroup", "main", "menu", "nav", "ol",
   "p", "search", "section", "summary", "ul"]

/-- Blocks whose end tag closes everything in them. -/
def closableBlockTags : List String :=
  ["address", "article", "aside", "blockquote", "button", "center", "details", "dialog", "dir",
   "div", "dl", "fieldset", "figcaption", "figure", "footer", "header", "hgroup", "listing", "main",
   "menu", "nav", "ol", "pre", "search", "section", "summary", "ul"]

/-- The tags of formatting elements. -/
def formattingTags : List String :=
  ["b", "big", "code", "em", "font", "i", "s", "small", "strike", "strong", "tt", "u"]

/-- The tags of headings. -/
def headingTags : List String := ["h1", "h2", "h3", "h4", "h5", "h6"]

/-- Whether an input element is not shown. -/
def StartTag.isHidden (tag : StartTag) : Bool :=
  tag.attributes.any fun a => a.name == "type" && a.value.map Char.toLower == "hidden"

/-- Closes the open list item that a further item with one of the given tags ends. -/
def closeListItem (tags : List String) : Build Unit := do
  let rec find : List OpenElement → Option String
    | [] => none
    | e :: rest =>
      if TagSet.of tags e.name then some e.name.tag
      else if TagSet.special e.name && !TagSet.of ["address", "div", "p"] e.name then none
      else find rest
  match find (← get).opened with
  | some tag => do
    popImpliedExcept tag
    popThroughTag tag
  | none => pure ()

/-- Adds the outermost element of a drawing or a formula. -/
def insertForeign (space : Space) (name : String) (tag : StartTag) : Build Unit := do
  let tag := tag.adjusted space
  if tag.selfClosing then discard <| insertClosed ⟨space, name⟩ tag.attributes
  else discard <| insertOpen ⟨space, name⟩ tag.attributes

/-- Whether the rules of a table hold. -/
def Mode.isTableMode (mode : Mode) : Bool :=
  [Mode.inTable, .inCaption, .inTableBody, .inRow, .inCell].contains mode

/-- The rules of the body for start tags that always insert an element. -/
def bodyInsertRules (tag : StartTag) : Build Unit := do
  let name := tag.name
  if blockTags.contains name then
    closeOpenParagraph
    insertTag tag
  else if headingTags.contains name then
    closeOpenParagraph
    if (← get).currentIn .heading then pop
    insertTag tag
  else if name = "pre" ∨ name = "listing" then
    closeOpenParagraph
    insertTag tag
    modify fun b => { b with dropNewline := true, framesetAllowed := false }
  else if name = "li" then
    forbidFrameset
    closeListItem ["li"]
    closeOpenParagraph
    insertTag tag
  else if name = "dd" ∨ name = "dt" then
    forbidFrameset
    closeListItem ["dd", "dt"]
    closeOpenParagraph
    insertTag tag
  else if name = "plaintext" then
    closeOpenParagraph
    insertTag tag
    modify fun b => { b with lexing := .plain }
  else if name = "button" then
    if (← get).hasOpen .barrier "button" then
      popWhile .impliedEnd
      popThroughTag "button"
    continueFormatting
    insertTag tag
    forbidFrameset
  else if name = "a" then
    let open? := (← get).recentFormatting.findSome? fun
      | .marker => none
      | .element id tag => if tag.name = "a" then some id else none
    match open? with
    | some id =>
      closeFormatting "a"
      removeFormatting id
      removeOpen id
    | none => pure ()
    continueFormatting
    insertFormatting tag
  else if formattingTags.contains name then
    continueFormatting
    insertFormatting tag
  else if name = "nobr" then
    continueFormatting
    if (← get).hasOpen .barrier "nobr" then
      closeFormatting "nobr"
      continueFormatting
    insertFormatting tag
  else if ["applet", "marquee", "object"].contains name then
    continueFormatting
    insertTag tag
    pushMarker
    forbidFrameset
  else if name = "table" then
    if !(← get).legacy then closeOpenParagraph
    insertTag tag
    forbidFrameset
    setMode .inTable
  else if ["area", "br", "embed", "img", "keygen", "wbr", "input"].contains name then
    continueFormatting
    insertVoid tag
    if !(name = "input" && tag.isHidden) then forbidFrameset
  else if ["param", "source", "track"].contains name then
    insertVoid tag
  else if name = "hr" then
    closeOpenParagraph
    insertVoid tag
    forbidFrameset
  else if name = "textarea" then
    modify fun b => { b with dropNewline := true, framesetAllowed := false }
    insertTextElement tag (.escapable name)
  else if name = "xmp" then
    closeOpenParagraph
    continueFormatting
    forbidFrameset
    insertTextElement tag (.raw name)
  else if name = "iframe" then
    forbidFrameset
    insertTextElement tag (.raw name)
  else if name = "noembed" ∨ name = "noscript" then
    insertTextElement tag (.raw name)
  else if name = "select" then
    continueFormatting
    insertTag tag
    forbidFrameset
    setMode (if (← get).mode.isTableMode then .inSelectInTable else .inSelect)
  else if name = "optgroup" ∨ name = "option" then
    if (← get).currentIs "option" then pop
    continueFormatting
    insertTag tag
  else if name = "rb" ∨ name = "rtc" then
    if (← get).hasOpen .barrier "ruby" then popWhile .impliedEnd
    insertTag tag
  else if name = "rp" ∨ name = "rt" then
    if (← get).hasOpen .barrier "ruby" then popImpliedExcept "rtc"
    insertTag tag
  else if name = "math" then insertForeign .math "math" tag
  else if name = "svg" then insertForeign .svg "svg" tag
  else
    continueFormatting
    insertTag tag

/-- Tags that have no meaning outside a table or the frame of a page. -/
def misplacedTags : List String :=
  ["caption", "col", "colgroup", "frame", "head", "tbody", "td", "tfoot", "th", "thead", "tr"]

/-- The rules of the body for start tags. -/
def bodyStartRules (tag : StartTag) : Build Outcome := do
  let name := tag.name
  if name = "html" then
    mergeRootAttributes tag
    pure .done
  else if headTags.contains name then headRules (.startTag tag)
  else if name = "body" then
    modify fun b =>
      match if b.inTemplate then none else b.body? with
      | some body =>
        { b with framesetAllowed := false, draft := b.draft.addAttributes body.id tag.attributes }
      | none => b
    pure .done
  else if name = "frameset" then
    let b ← get
    match if b.framesetAllowed then b.body? else none with
    | some body =>
      set { b with draft := b.draft.detach body.id, opened := b.opened.drop (b.opened.length - 1) }
      insertTag tag
      setMode .inFrameset
    | none => pure ()
    pure .done
  else if name = "form" then
    let b ← get
    if b.form?.isNone || b.inTemplate then
      closeOpenParagraph
      let e ← insertOpen ⟨.html, "form"⟩ tag.attributes
      if !b.inTemplate then modify fun b => { b with form? := some e.id }
    pure .done
  else if misplacedTags.contains name then pure .done
  else
    bodyInsertRules (if name = "image" then { tag with name := "img" } else tag)
    pure .done

/-! ## End tags -/

/-- Closes an element with everything in it, if it is open within the barrier. -/
def closeWithin (barrier : TagSet) (name : String) : Build Unit := do
  if (← get).hasOpen barrier name then
    popWhile .impliedEnd
    popThroughTag name

/-- Closes the form that is open. -/
def closeForm : Build Unit := do
  let b ← get
  if b.inTemplate then closeWithin .barrier "form"
  else
    modify fun b => { b with form? := none }
    match b.form? with
    | some id =>
      if Builder.inScopeOf .barrier (·.id = id) b.opened then
        popWhile .impliedEnd
        removeOpen id
    | none => pure ()

/-- The rules of the body for end tags. -/
def bodyEndRules (name : String) : Build Outcome := do
  if name = "template" then headRules (.endTag name)
  else if name = "body" then
    if (← get).hasOpen .barrier "body" then setMode .afterBody
    pure .done
  else if name = "html" then
    if (← get).hasOpen .barrier "body" then pure (.again .afterBody (.endTag name))
    else pure .done
  else
    if closableBlockTags.contains name then closeWithin .barrier name
    else if name = "form" then closeForm
    else if name = "p" then
      if !(← get).hasOpen .buttonBarrier "p" then discard <| insertImplied "p"
      closeParagraph
    else if name = "li" then
      if (← get).hasOpen .listBarrier "li" then
        popImpliedExcept "li"
        popThroughTag "li"
    else if name = "dd" ∨ name = "dt" then
      if (← get).hasOpen .barrier name then
        popImpliedExcept name
        popThroughTag name
    else if headingTags.contains name then
      if (← get).inScope .barrier .heading then
        popWhile .impliedEnd
        popThrough .heading
    else if name = "a" ∨ name = "nobr" ∨ formattingTags.contains name then closeFormatting name
    else if ["applet", "marquee", "object"].contains name then
      if (← get).hasOpen .barrier name then
        popWhile .impliedEnd
        popThroughTag name
        clearFormatting
    else if name = "br" then bodyInsertRules { name := "br" }
    else closeOrdinary name
    pure .done

/-- What the end of the page does in an open template. -/
def finishTemplate : Build Outcome := do
  if (← get).inTemplate then
    closeTemplate
    pure (.again (← get).mode .finish)
  else pure .done

/-- The rules of the body. -/
def bodyRules : Piece → Build Outcome
  | .null => pure .done
  | .blank chars => do
    continueFormatting
    insertText chars
    pure .done
  | .chars chars => do
    continueFormatting
    forbidFrameset
    insertText chars
    pure .done
  | .startTag tag => bodyStartRules tag
  | .endTag name => bodyEndRules name
  | .finish => do
    if (← get).templateModes.isEmpty then pure .done else finishTemplate

end BotBindings.Html
