import BotBindings.Code.StatementReader

/-!
# Reading any part of code

Ties the readers together: each part is read with a reader for all parts, but not as deep.
-/

namespace BotBindings.Code

namespace Reader

/-- A reader for every part of code in which parts are at most `depth` deep. -/
def readPart : Nat → PartReader
  | 0 => fun _ => throw "unexpected token"
  | depth + 1 =>
    let read := readPart depth
    fun
    | .type plus => typeForm read plus
    | .path inExpression => path read inExpression
    | .bound captures constants => bound read captures constants
    | .expression records => expression read records
    | .operand records front => operand read records front
    | .operation left records least => operation read left records least
    | .closing front => closing read front
    | .pattern => singlePattern read
    | .statements => statements read
    | .declaration => declaration read
    | .imports fromRoot => imports read fromRoot

end Reader

/-- The type that a text denotes. -/
def TypeForm.parse (text : String) : Except String TypeForm :=
  Reader.run (Reader.readPart (Reader.depthLimit text) (.type true)) text

/-- The path that a text denotes. -/
def PathForm.parse (text : String) : Except String PathForm :=
  Reader.run (Reader.readPart (Reader.depthLimit text) (.path false)) text

end BotBindings.Code
