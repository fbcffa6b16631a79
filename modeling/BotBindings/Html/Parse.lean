import BotBindings.Html.TableRules

/-!
# Reading pages

A page is read token by token, each under the rules of the mode that the builder is in. Every text
is a page: the rules say for any markup, however malformed, which tree it stands for.
-/

namespace BotBindings.Html

/-- The rules for the content of an element that holds text only. -/
def textRules : Piece → Build Outcome
  | .null => pure .done
  | .blank chars => do
    insertText chars
    pure .done
  | .chars chars => do
    insertText chars
    pure .done
  | .finish => do
    pop
    pure (.again (← get).returnMode .finish)
  | .startTag _ => pure .done
  | .endTag name => do
    pop
    modify fun b =>
      { b with mode := b.returnMode, lexing := .markup, dropMark := name == "script" }
    pure .done

/-- The rules of a template: its content is read as what its first element calls for. -/
def templateRules (piece : Piece) : Build Outcome := do
  let readAs (mode : Mode) : Build Outcome := do
    modify fun b => { b with templateModes := mode :: b.templateModes.drop 1 }
    pure (.again mode piece)
  match piece with
  | .startTag tag =>
    let name := tag.name
    if headTags.contains name then headRules piece
    else if ["caption", "colgroup", "tbody", "tfoot", "thead"].contains name then readAs .inTable
    else if name = "col" then readAs .inColumnGroup
    else if name = "tr" then readAs .inTableBody
    else if name = "td" ∨ name = "th" then readAs .inRow
    else readAs .inBody
  | .endTag name => if name = "template" then headRules piece else pure .done
  | .finish => finishTemplate
  | piece => bodyRules piece

/-- The rules after the body, for pieces that have no rule of their own there. -/
def returnToBody : Piece → Build Outcome
  | .blank chars => bodyRules (.blank chars)
  | .startTag tag =>
    if tag.name = "html" then bodyRules (.startTag tag)
    else pure (.again .inBody (.startTag tag))
  | .finish => pure .done
  | piece => pure (.again .inBody piece)

/-- The rules after the body. -/
def afterBodyRules (piece : Piece) : Build Outcome := do
  match piece with
  | .endTag "html" =>
    if !(← get).isFragment then setMode .afterAfterBody
    pure .done
  | piece => returnToBody piece

/-- The rules of a set of frames. -/
def framesetRules : Piece → Build Outcome
  | .blank chars => do
    insertText chars
    pure .done
  | .startTag tag => do
    if tag.name = "html" then mergeRootAttributes tag
    else if tag.name = "frameset" then insertTag tag
    else if tag.name = "frame" then insertVoid tag
    if tag.name = "noframes" then headRules (.startTag tag) else pure .done
  | .endTag "frameset" => do
    if (← get).opened.length ≠ 1 then
      pop
      let b ← get
      if !b.isFragment && !b.currentIs "frameset" then setMode .afterFrameset
    pure .done
  | _ => pure .done

/-- The rules after a set of frames. -/
def afterFramesetRules : Piece → Build Outcome
  | .blank chars => do
    insertText chars
    pure .done
  | .startTag tag => do
    if tag.name = "html" then mergeRootAttributes tag
    if tag.name = "noframes" then headRules (.startTag tag) else pure .done
  | .endTag "html" => do
    setMode .afterAfterFrameset
    pure .done
  | _ => pure .done

/-- The rules after the end of a page that consists of frames. -/
def afterAfterFramesetRules : Piece → Build Outcome
  | .blank chars => bodyRules (.blank chars)
  | .startTag tag => do
    if tag.name = "html" then mergeRootAttributes tag
    if tag.name = "noframes" then headRules (.startTag tag) else pure .done
  | _ => pure .done

/-- The rules of a mode. -/
def rules (mode : Mode) (piece : Piece) : Build Outcome :=
  match mode with
  | .initial => initialRules piece
  | .beforeHtml => beforeHtmlRules piece
  | .beforeHead => beforeHeadRules piece
  | .inHead => headRules piece
  | .afterHead => afterHeadRules piece
  | .inBody => bodyRules piece
  | .inText => textRules piece
  | .inTable => tableRules piece
  | .inTableText => tableTextRules piece
  | .inCaption => captionRules piece
  | .inColumnGroup => columnGroupRules piece
  | .inTableBody => tableBodyRules piece
  | .inRow => rowRules piece
  | .inCell => cellRules piece
  | .inSelect => selectRules piece
  | .inSelectInTable => selectInTableRules piece
  | .inTemplate => templateRules piece
  | .afterBody => afterBodyRules piece
  | .inFrameset => framesetRules piece
  | .afterFrameset => afterFramesetRules piece
  | .afterAfterBody => returnToBody piece
  | .afterAfterFrameset => afterAfterFramesetRules piece

/-! ## Drawings and formulas -/

/-- Whether a piece is content of the drawing or formula that is open. -/
def Builder.isForeign (b : Builder) (piece : Piece) : Bool :=
  match b.current?, piece with
  | none, _ => false
  | some _, .finish => false
  | some e, piece =>
    let textIn (set : TagSet) : Bool := set e.name
    if e.name.space = .html then false
    else match piece with
      | .startTag tag =>
        !((textIn .formulaText && tag.name != "mglyph" && tag.name != "malignmark")
          || textIn .drawingContent
          || (e.name = ⟨.math, "annotation-xml"⟩ && tag.name == "svg"))
      | .endTag _ => true
      | _ => !(textIn .formulaText || textIn .drawingContent)

/-- Where page content may stand: outside of drawings and formulas, or in their texts. -/
def pageContent : TagSet :=
  .union (fun name => name.space = .html) (.union .formulaText .drawingContent)

/-- Closes the element of a drawing or formula that an end tag names. An element of the page that
lies further out has its end tag read under its own rules. -/
def closeForeign (name : String) : Build Outcome := do
  let b ← get
  let rec search (first : Bool) : List OpenElement → Option (Option (List OpenElement))
    | [] => none
    | [_] => none
    | e :: outer =>
      if !first && e.name.space = .html then some none
      else if e.name.tag.map Char.toLower == name then some (some outer)
      else search false outer
  match search true b.opened with
  | none => pure .done
  | some (some outer) => do
    modify fun b => { b with opened := outer }
    pure .done
  | some none => rules b.mode (.endTag name)

/-- The rules within drawings and formulas. -/
def foreignRules (piece : Piece) : Build Outcome := do
  let leave : Build Outcome := do
    popUntilCurrent pageContent
    rules (← get).mode piece
  match piece with
  | .null => do
    insertText ['\uFFFD']
    pure .done
  | .blank chars => do
    insertText chars
    pure .done
  | .chars chars => do
    forbidFrameset
    insertText chars
    pure .done
  | .startTag tag =>
    if tag.endsForeign then leave
    else
      let space := match (← get).current? with
        | some e => e.name.space
        | none => .html
      insertForeign space (tag.adjusted space).name tag
      pure .done
  | .endTag name => if name = "br" ∨ name = "p" then leave else closeForeign name
  | .finish => pure .done

/-! ## The whole page -/

/-- Gives a piece to the rules that hold, at most `limit` times over. -/
def feed : Nat → Piece → Build Unit
  | 0, _ => pure ()
  | limit + 1, piece => do
    let b ← get
    match ← if b.isForeign piece then foreignRules piece else rules b.mode piece with
    | .done => pure ()
    | .again mode piece => do
      setMode mode
      feed limit piece

/-- How often one piece can be passed from mode to mode: each open template and table passes it on a
few times at most. -/
def Builder.passLimit (b : Builder) : Nat :=
  8 * b.opened.length + 64

/-- Feeds the pieces of a token. -/
def feedAll : List Piece → Build Unit
  | [] => pure ()
  | piece :: rest => do
    feed (← get).passLimit piece
    feedAll rest

/-- The text without a newline at its start. -/
def dropFirstNewline : List Char → List Char
  | '\n' :: rest => rest
  | s => s

/-- Feeds a token. A newline is dropped only where it directly follows the tag that asks for it. -/
def feedToken (token : Token) : Build Unit := do
  let dropNewline := (← get).dropNewline
  modify fun b => { b with dropNewline := false, dropMark := false }
  match token with
  | .text chars flawed =>
    feedAll (Piece.ofChars (if dropNewline && !flawed then dropFirstNewline chars else chars))
  | .startTag tag => feedAll [.startTag tag]
  | .endTag name => feedAll [.endTag name]
  | .comment => endTableText
  | .doctype legacy =>
    modify fun b =>
      if b.mode = .initial then { b with mode := .beforeHtml, legacy := legacy } else b
  | .flaw => pure ()
  | .finish => feedAll [.finish]

/-- Whether the innermost open element is part of a drawing or a formula. -/
def Builder.inForeign (b : Builder) : Bool :=
  b.current?.any fun e => e.name.space ≠ .html

/-- The text without a mark of the byte order at its start. -/
def withoutMark : List Char → List Char
  | '\uFEFF' :: rest => rest
  | s => s

/-- Reads a text to its end. Every token takes at least one character. -/
def readFrom : Nat → Builder → List Char → Builder
  | 0, b, _ => b
  | limit + 1, b, s =>
    match Token.next b.lexing b.inForeign (if b.dropMark then withoutMark s else s) with
    | (.finish, _) => ((feedToken .finish).run b).2
    | (token, rest) => readFrom limit ((feedToken token).run b).2 rest

/-- Reads a text. Where reading starts, and again after every script and every declaration of the
encoding, a mark of the byte order is dropped. -/
def read (b : Builder) (page : String) : Draft :=
  let s := Token.unifyLines page.toList
  (readFrom (s.length + 2) { b with dropMark := true } s).draft

/-- An element without content. -/
def emptyRoot : Node := .element "html" [] []

/-- The outermost element of a whole page. -/
def parseDocument (page : String) : Node :=
  (read {} page).root?.getD emptyRoot

/-- The outermost element around the content of a body. -/
def parseFragment (content : String) : Node :=
  let start : Builder := { isFragment := true, mode := .inBody }
  let start := ((insertRoot []).run start).2
  (read start content).root?.getD emptyRoot

end BotBindings.Html
