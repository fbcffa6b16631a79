import BotBindings.Code.AttributeLayout
import BotBindings.Code.Helper
import BotBindings.Code.Item
import BotBindings.Text.Quoted

/-!
# The text of generated files

How items are laid out. Every item ends its last line, so the text of a file is the texts of its
items one after the other.
-/

namespace BotBindings.Code

open Doc

/-- The first lines of every generated file. -/
def fileHead : String :=
  "//! Generated by dt-botdoc-generator 0.1.0\n"
    ++ "#![allow(dead_code, unused_imports, unused_variables)]\n"

/-- The text of an item that stands at the start of a line. -/
def itemText (item : List Doc) : String :=
  render (.box 0 true item)

/-- Lines of a bracketed item; the last one leads back to the indentation of the bracket. -/
def lines : List (List Doc) → List Doc
  | [] => []
  | [line] => line ++ [newlineBack]
  | line :: rest => line ++ [newline] ++ lines rest

/-- An item in braces. Without any lines the braces close at once. -/
def braced (head : List Doc) (content : List (List Doc)) : List Doc :=
  [block (head ++ [.word "\x7b", newlineBetween] ++ lines content), .word "\x7d"]

/-- A literal. -/
def literalDoc (s : String) : Doc := .word (Text.literal s)

/-! ## Attributes -/

/-- What is said about an item. A space sets it off from the comment mark. -/
def descriptionDoc (description : String) : List Doc :=
  if description.isEmpty then [] else documentationDoc (" " ++ description)

/-- The attributes of a field. -/
def StructField.attributes (f : StructField) : List (List String) :=
  (match f.rename? with
    | some key => [["rename = " ++ Text.literal key]]
    | none => [])
  ++ match f.presence with
    | .required => []
    | .optional => [["skip_serializing_if = \"Option::is_none\""]]
    | .nullable => [["default", "skip_serializing_if = \"serde_json::Value::is_null\""]]

/-! ## Structs and enums -/

/-- The layout of a field. -/
def StructField.doc (f : StructField) : List Doc :=
  f.attributes.flatMap (attributeList "serde")
    ++ [.word ("pub " ++ f.name.source ++ ": ")] ++ f.type.doc ++ [.word ","]

/-- The layout of a struct. -/
def StructItem.doc (item : StructItem) : List Doc :=
  descriptionDoc item.description ++ attributeList "derive" item.derives
    ++ braced [.word ("pub struct " ++ item.name.source ++ " ")] (item.fields.map StructField.doc)
    ++ [newline]

/-- The layout of a variant. -/
def EnumVariant.doc (v : EnumVariant) : List Doc :=
  [.word (v.name.source ++ "(")] ++ commaList [v.type.doc] ++ [.word ")", .word ","]

/-- The layout of an enum. -/
def EnumItem.doc (item : EnumItem) : List Doc :=
  attributeList "derive" item.derives ++ attributeList "serde" ["untagged"]
    ++ braced [.word ("pub enum " ++ item.name.source ++ " ")] (item.variants.map EnumVariant.doc)
    ++ [newline]

/-! ## Statements -/

/-- An expression, and whether a condition that it is may be followed by a new line. -/
structure Operand where
  /-- Its layout. -/
  doc : List Doc
  /-- Whether the line may break after it. -/
  breaks : Bool

/-- A field of the request. -/
def selfField (name : Identifier) (member : List Doc) : Doc :=
  block ([.box (-indentStep) true [.word "self"], cutPoint, .word ("." ++ name.source)] ++ member)

/-- A reference to a field of the request. -/
def fieldReference (name : Identifier) : Operand :=
  ⟨[.word "&", selfField name []], true⟩

/-- The value of an optional field. -/
def boundValue : Operand := ⟨[.word "value"], false⟩

/-- The layout of a call. -/
def EncoderCall.doc (call : EncoderCall) (value : List Doc) : List Doc :=
  [.word (call.encoder.functionName ++ "(")]
    ++ commaList [[.word "params"], [literalDoc call.key], value]
    ++ [.word (if call.encoder = .json then ")?" else ")")]

/-- The layout of the condition of a statement. -/
def conditionDoc (content : List Doc) (breaks : Bool) : Doc :=
  .box 0 true (content ++ [if breaks then space else .word " "])

/-- What an arm matches. -/
def Arm.pattern : Arm → List Doc
  | .variant enumName name _ =>
    [.word (enumName.source ++ "::" ++ name.source ++ "(")] ++ commaList [[.word "value"]]
      ++ [.word ")"]
  | .other _ => [.word "other"]

/-- The call that an arm makes. -/
def Arm.body : Arm → List Doc
  | .variant _ _ call => call.doc [.word "value"]
  | .other call => call.doc [.word "other"]

/-- The layout of an arm. The call is put in braces if it needs a line of its own. -/
def Arm.doc (arm : Arm) : List Doc :=
  let body : Doc := block ([.gap { before := "\x7b" }] ++ arm.body
    ++ [.gap { shift := -indentStep, after := "\x7d", otherwise := "," }])
  [.box 0 false (arm.pattern ++ [.word " =>", .word " ", joint, body])]

/-- The layout of an encoding of a value. -/
def Encoding.doc (encoding : Encoding) (value : Operand) : List Doc :=
  match encoding with
  | .value call => call.doc value.doc
  | .cases arms =>
    [.box 0 false
      [.word "match ", conditionDoc value.doc value.breaks, .word "\x7b", joint,
        block (newlineBetween :: lines (arms.map Arm.doc)), .word "\x7d"]]

/-- A statement that ends in a semicolon. -/
def statementDoc (expression : List Doc) : List Doc :=
  [.box 0 false (expression ++ [.word ";"])]

/-- A statement under a condition. -/
def guardDoc (condition : Doc) (statement : List Doc) : List Doc :=
  [.box 0 false
    [block ([.word "if ", .box (-indentStep) true [condition], .word "\x7b", newline]
      ++ lines [statement] ++ [.word "\x7d"])]]

/-- The layout of a statement that writes a field. -/
def WriteStatement.doc (w : WriteStatement) : List Doc :=
  let reference := fieldReference w.field
  match w.presence with
  | .required => statementDoc (w.encoding.doc reference)
  | .optional =>
    let binding := Doc.box 0 false
      [.word "let ", .box 0 false ([.word "Some("] ++ commaList [[.word "value"]] ++ [.word ")"]),
        .word " = ", joint, .box 0 false reference.doc]
    guardDoc (conditionDoc [binding] true) (statementDoc (w.encoding.doc boundValue))
  | .nullable =>
    let isPresent := [.word "!", selfField w.field [cutPoint, .word ".is_null", .word "()"]]
    guardDoc (conditionDoc isPresent true) (statementDoc (w.encoding.doc reference))

/-! ## Files -/

/-- The layout of a nested field that may carry an upload. -/
def MediaEntry.doc (entry : MediaEntry) : List Doc :=
  let fields :=
    [[Doc.word "field: ", literalDoc entry.parameter, .word ","],
     [.word "name: ", literalDoc entry.name, .word ","],
     [.word ("required: " ++ (if entry.required then "true" else "false") ++ ",")]]
  [block ([.word "types::MediaField \x7b", newline] ++ lines fields), .word "\x7d"]

/-- The constant that lists the nested fields that may carry uploads, if there are any. -/
def mediaDocs (media : List MediaEntry) : List (List Doc) :=
  if media.isEmpty then []
  else
    [[.box 0 true
      ([.word "const MEDIA: &'static [types::MediaField] = ", joint, .word "&["]
        ++ commaList (media.map MediaEntry.doc) ++ [.word "];"])]]

/-- The function that writes the parameters. -/
def writeParamsDoc (writes : List WriteStatement) : List Doc :=
  let parameters : Doc := .box 0 true
    [cutPoint, .word "&self,", space, .word "params: &mut types::RequestParams", trailingComma]
  let output : Doc := .box (-indentStep) true
    ([.word " -> ", .word "Result<"] ++ commaList [[.word "()"], [.word "serde_json::Error"]]
      ++ [.word ">"])
  let done : List Doc := [.box 0 false [.word "Ok(())"]]
  braced [.word "fn write_params(", joint, parameters, .word ")", output, .word " "]
    (writes.map WriteStatement.doc ++ [done])

/-- What makes the struct a request. -/
def RequestFile.implementation (f : RequestFile) : List Doc :=
  let name : List Doc := [.box (-indentStep) false
    [.word "impl types::Request", space, .word ("for " ++ f.item.name.source)], .word " "]
  let method : List Doc := [.word "const METHOD: &'static str = ", literalDoc f.key, .word ";"]
  let response : List Doc :=
    [block [.word "type Response = ", joint, .box (-indentStep) false f.response.doc, .word ";"]]
  braced name ([method, response] ++ mediaDocs f.media ++ [writeParamsDoc f.writes]) ++ [newline]

/-- The path as it is written. -/
def ModulePath.source (p : ModulePath) : String :=
  (if p.rooted then "::" else "") ++ String.intercalate "::" p.names

/-- The import of the encoders. A single one needs no braces. -/
def importText (encoders : List Encoder) : String :=
  match encoders.map Encoder.functionName with
  | [] => ""
  | [name] => "use self::types::params::" ++ name ++ ";\n"
  | names =>
    "use self::types::params::\x7b" ++ String.intercalate ", " names ++ "\x7d;\n"

/-- The layouts of the items of the file of a request. -/
def RequestFile.layouts (f : RequestFile) : List (List Doc) :=
  [f.item.doc] ++ f.enums.map EnumItem.doc ++ [f.implementation]

/-- The text of the file of a request. -/
def RequestFile.source (f : RequestFile) : String :=
  fileHead ++ serdeImport.source ++ "use " ++ f.typesModule.source ++ " as types;\n"
    ++ importText f.imports ++ String.join (f.layouts.map itemText)

/-- The text of the file of all types. -/
def TypesFile.source (f : TypesFile) : String :=
  fileHead ++ String.join (helpers.map Helper.source)
    ++ String.join (f.items.map fun item => itemText item.doc)

/-- The text of the file that declares all request files. -/
def modulesSource (modules : List Identifier) : String :=
  fileHead ++ String.join (modules.map fun name => "pub mod " ++ name.source ++ ";\n")

end BotBindings.Code
