import BotBindings.Html.BodyRules

/-!
# The rules of tables and selections

The parts of a table imply one another: a cell implies its row and a row its group. Content that has
no place in a table is put before it.
-/

namespace BotBindings.Html

/-- The rules of the body for a piece that has no place in a table. -/
def fosterRules (piece : Piece) : Build Outcome := do
  modify fun b => { b with fostering := true }
  let outcome ← bodyRules piece
  modify fun b => { b with fostering := false }
  pure outcome

/-- Starts to collect text in a table, or puts it before the table. -/
def tableCharsRules (piece : Piece) : Build Outcome := do
  if (← get).currentIn .tablePart then
    modify fun b => { b with returnMode := b.mode }
    pure (.again .inTableText piece)
  else fosterRules piece

/-- The rules of a table for start tags. -/
def tableStartRules (tag : StartTag) : Build Outcome := do
  let name := tag.name
  if name = "caption" then
    popUntilCurrent .tableBarrier
    pushMarker
    insertTag tag
    setMode .inCaption
    pure .done
  else if name = "colgroup" then
    popUntilCurrent .tableBarrier
    insertTag tag
    setMode .inColumnGroup
    pure .done
  else if name = "col" then
    popUntilCurrent .tableBarrier
    discard <| insertImplied "colgroup"
    pure (.again .inColumnGroup (.startTag tag))
  else if ["tbody", "tfoot", "thead"].contains name then
    popUntilCurrent .tableBarrier
    insertTag tag
    setMode .inTableBody
    pure .done
  else if ["td", "th", "tr"].contains name then
    popUntilCurrent .tableBarrier
    discard <| insertImplied "tbody"
    pure (.again .inTableBody (.startTag tag))
  else if name = "table" then
    if (← get).hasOpen .tableBarrier "table" then
      popThroughTag "table"
      pure (.again (← get).resumedMode (.startTag tag))
    else pure .done
  else if ["style", "script", "template"].contains name then headRules (.startTag tag)
  else if name = "input" && tag.isHidden then
    insertVoid tag
    pure .done
  else if name = "form" then
    let b ← get
    if !b.inTemplate && b.form?.isNone then
      let e ← insertClosed ⟨.html, "form"⟩ tag.attributes
      modify fun b => { b with form? := some e.id }
    pure .done
  else fosterRules (.startTag tag)

/-- The rules of a table. -/
def tableRules : Piece → Build Outcome
  | .null => tableCharsRules .null
  | .blank chars => tableCharsRules (.blank chars)
  | .chars chars => tableCharsRules (.chars chars)
  | .startTag tag => tableStartRules tag
  | .endTag name => do
    if name = "table" then
      if (← get).hasOpen .tableBarrier "table" then
        popThroughTag "table"
        setMode (← get).resumedMode
      pure .done
    else if ["body", "caption", "col", "colgroup", "html", "tbody", "td", "tfoot", "th", "thead",
        "tr"].contains name then pure .done
    else if name = "template" then headRules (.endTag name)
    else fosterRules (.endTag name)
  | .finish => bodyRules .finish

/-- Whether a run of characters is blank. -/
def Piece.isBlank : Piece → Bool
  | .blank _ => true
  | _ => false

/-- Adds runs of table text where they stand. -/
def insertBlanks : List Piece → Build Unit
  | [] => pure ()
  | .blank chars :: rest => do
    insertText chars
    insertBlanks rest
  | _ :: rest => insertBlanks rest

/-- Puts runs of table text before the table. -/
def fosterAll : List Piece → Build Unit
  | [] => pure ()
  | piece :: rest => do
    discard <| fosterRules piece
    fosterAll rest

/-- Decides the place of the text that was collected. Text that is blank throughout stays in the
table. -/
def placeTableText : Build Unit := do
  let collected := (← get).tableText.reverse
  modify fun b => { b with tableText := [] }
  if collected.all Piece.isBlank then insertBlanks collected else fosterAll collected

/-- Ends the text of a table where a comment interrupts it. -/
def endTableText : Build Unit := do
  if (← get).mode = .inTableText then
    placeTableText
    modify fun b => { b with mode := b.returnMode }

/-- The rules while the text of a table is collected. -/
def tableTextRules : Piece → Build Outcome
  | .null => pure .done
  | .blank chars => do
    modify fun b => { b with tableText := .blank chars :: b.tableText }
    pure .done
  | .chars chars => do
    modify fun b => { b with tableText := .chars chars :: b.tableText }
    pure .done
  | piece => do
    placeTableText
    pure (.again (← get).returnMode piece)

/-- Tags that end a caption or a cell that is open. -/
def tableTags : List String :=
  ["caption", "col", "colgroup", "tbody", "td", "tfoot", "th", "thead", "tr"]

/-- The rules of a caption. -/
def captionRules (piece : Piece) : Build Outcome := do
  let close : Build Bool := do
    if (← get).hasOpen .tableBarrier "caption" then
      popWhile .impliedEnd
      popThroughTag "caption"
      clearFormatting
      pure true
    else pure false
  match piece with
  | .startTag tag =>
    if tableTags.contains tag.name then
      if ← close then pure (.again .inTable piece) else pure .done
    else bodyRules piece
  | .endTag name =>
    if name = "table" then
      if ← close then pure (.again .inTable piece) else pure .done
    else if name = "caption" then
      if ← close then setMode .inTable
      pure .done
    else if ["body", "col", "colgroup", "html", "tbody", "td", "tfoot", "th", "thead",
        "tr"].contains name then pure .done
    else bodyRules piece
  | piece => bodyRules piece

/-- Closes a column group for a piece that does not belong there. -/
def leaveColumnGroup (piece : Piece) : Build Outcome := do
  if (← get).currentIs "colgroup" then
    pop
    pure (.again .inTable piece)
  else pure .done

/-- The rules of a column group. -/
def columnGroupRules : Piece → Build Outcome
  | .blank chars => do
    insertText chars
    pure .done
  | .startTag tag => do
    if tag.name = "html" then
      mergeRootAttributes tag
      pure .done
    else if tag.name = "col" then
      insertVoid tag
      pure .done
    else if tag.name = "template" then headRules (.startTag tag)
    else leaveColumnGroup (.startTag tag)
  | .endTag name => do
    if name = "colgroup" then
      if (← get).currentIs "colgroup" then
        pop
        setMode .inTable
      pure .done
    else if name = "col" then pure .done
    else if name = "template" then headRules (.endTag name)
    else leaveColumnGroup (.endTag name)
  | .finish => bodyRules .finish
  | piece => leaveColumnGroup piece

/-- Closes a row group for a piece that ends it. -/
def leaveTableBody (piece : Piece) : Build Outcome := do
  if (← get).inScope .tableBarrier (.of ["table", "tbody", "tfoot"]) then
    popUntilCurrent .bodyContext
    pop
    pure (.again .inTable piece)
  else pure .done

/-- The rules of a row group. -/
def tableBodyRules (piece : Piece) : Build Outcome := do
  match piece with
  | .startTag tag =>
    let name := tag.name
    if name = "tr" then
      popUntilCurrent .bodyContext
      insertTag tag
      setMode .inRow
      pure .done
    else if name = "th" ∨ name = "td" then
      popUntilCurrent .bodyContext
      discard <| insertImplied "tr"
      pure (.again .inRow piece)
    else if ["caption", "col", "colgroup", "tbody", "tfoot", "thead"].contains name then
      leaveTableBody piece
    else tableRules piece
  | .endTag name =>
    if ["tbody", "tfoot", "thead"].contains name then
      if (← get).hasOpen .tableBarrier name then
        popUntilCurrent .bodyContext
        pop
        setMode .inTable
      pure .done
    else if name = "table" then leaveTableBody piece
    else if ["body", "caption", "col", "colgroup", "html", "td", "th", "tr"].contains name then
      pure .done
    else tableRules piece
  | piece => tableRules piece

/-- Closes the open row, if there is one. -/
def closeRow : Build Bool := do
  if (← get).hasOpen .tableBarrier "tr" then
    popUntilCurrent .rowContext
    pop
    pure true
  else pure false

/-- Closes a row for a piece that ends it. -/
def leaveRow (piece : Piece) : Build Outcome := do
  if ← closeRow then pure (.again .inTableBody piece) else pure .done

/-- The rules of a row. -/
def rowRules (piece : Piece) : Build Outcome := do
  match piece with
  | .startTag tag =>
    let name := tag.name
    if name = "th" ∨ name = "td" then
      popUntilCurrent .rowContext
      insertTag tag
      setMode .inCell
      pushMarker
      pure .done
    else if ["caption", "col", "colgroup", "tbody", "tfoot", "thead", "tr"].contains name then
      leaveRow piece
    else tableRules piece
  | .endTag name =>
    if name = "tr" then
      if ← closeRow then setMode .inTableBody
      pure .done
    else if name = "table" then leaveRow piece
    else if ["tbody", "tfoot", "thead"].contains name then
      if (← get).hasOpen .tableBarrier name then leaveRow piece else pure .done
    else if ["body", "caption", "col", "colgroup", "html", "td", "th"].contains name then
      pure .done
    else tableRules piece
  | piece => tableRules piece

/-- Closes the open cell for a piece that ends it. -/
def leaveCell (piece : Piece) : Build Outcome := do
  popWhile .impliedEnd
  popThrough .cell
  clearFormatting
  pure (.again .inRow piece)

/-- The rules of a cell. -/
def cellRules (piece : Piece) : Build Outcome := do
  match piece with
  | .startTag tag =>
    if tableTags.contains tag.name then
      if (← get).inScope .tableBarrier .cell then leaveCell piece else pure .done
    else bodyRules piece
  | .endTag name =>
    if name = "td" ∨ name = "th" then
      if (← get).hasOpen .tableBarrier name then
        popWhile .impliedEnd
        popThroughTag name
        clearFormatting
        setMode .inRow
      pure .done
    else if ["body", "caption", "col", "colgroup", "html"].contains name then pure .done
    else if ["table", "tbody", "tfoot", "thead", "tr"].contains name then
      if (← get).hasOpen .tableBarrier name then leaveCell piece else pure .done
    else bodyRules piece
  | piece => bodyRules piece

/-! ## Selections -/

/-- Closes the open selection and goes on with the rules around it. -/
def closeSelect : Build Unit := do
  popThroughTag "select"
  setMode (← get).resumedMode

/-- The rules of a selection for start tags. -/
def selectStartRules (tag : StartTag) : Build Outcome := do
  let name := tag.name
  if name = "html" then
    mergeRootAttributes tag
    pure .done
  else if name = "option" then
    if (← get).currentIs "option" then pop
    insertTag tag
    pure .done
  else if name = "optgroup" ∨ name = "hr" then
    if (← get).currentIs "option" then pop
    if (← get).currentIs "optgroup" then pop
    if name = "hr" then insertVoid tag else insertTag tag
    pure .done
  else if name = "select" then
    if (← get).hasOpen .selectBarrier "select" then closeSelect
    pure .done
  else if ["input", "keygen", "textarea"].contains name then
    if (← get).hasOpen .selectBarrier "select" then
      popThroughTag "select"
      pure (.again (← get).resumedMode (.startTag tag))
    else pure .done
  else if name = "script" ∨ name = "template" then headRules (.startTag tag)
  else pure .done

/-- The rules of a selection for end tags. -/
def selectEndRules (name : String) : Build Outcome := do
  if name = "optgroup" then
    let b ← get
    let nested := match b.opened with
      | option :: group :: _ =>
        TagSet.of ["option"] option.name && TagSet.of ["optgroup"] group.name
      | _ => false
    if nested then pop
    if (← get).currentIs "optgroup" then pop
    pure .done
  else if name = "option" then
    if (← get).currentIs "option" then pop
    pure .done
  else if name = "select" then
    if (← get).hasOpen .selectBarrier "select" then closeSelect
    pure .done
  else if name = "template" then headRules (.endTag name)
  else pure .done

/-- The rules of a selection. -/
def selectRules : Piece → Build Outcome
  | .null => pure .done
  | .blank chars => do
    insertText chars
    pure .done
  | .chars chars => do
    insertText chars
    pure .done
  | .startTag tag => selectStartRules tag
  | .endTag name => selectEndRules name
  | .finish => bodyRules .finish

/-- The rules of a selection in a table: parts of the table end the selection. -/
def selectInTableRules (piece : Piece) : Build Outcome := do
  let tags := ["caption", "table", "tbody", "tfoot", "thead", "tr", "td", "th"]
  match piece with
  | .startTag tag =>
    if tags.contains tag.name then
      popThroughTag "select"
      pure (.again (← get).resumedMode piece)
    else selectRules piece
  | .endTag name =>
    if tags.contains name then
      if (← get).hasOpen .tableBarrier name then
        popThroughTag "select"
        pure (.again (← get).resumedMode piece)
      else pure .done
    else selectRules piece
  | piece => selectRules piece

end BotBindings.Html
