import BotBindings.Html.Node
import BotBindings.Html.Reference

/-!
# Page tokens

The text of a page is a sequence of tags, texts, comments and doctypes. `Token.next` reads one of
them. Malformed markup is never refused: whatever is not a tag is text or a comment, and a tag that
the end of the page cuts off is dropped.

What counts as a tag depends on where the reader is. In the content of a `title`, a `style` or a
`script` only the end tag of that element is one; `Lexing` says which rule holds.
-/

namespace BotBindings.Html

open Text

/-- A start tag. -/
structure StartTag where
  /-- The name in lowercase. -/
  name : String
  /-- The attributes, none of them twice. -/
  attributes : List Attribute := []
  /-- Whether the tag ends in a slash. -/
  selfClosing : Bool := false

/-- A piece of a page. The text of a comment has no effect on the tree and is not represented. -/
inductive Token
  /-- A text, and whether its first character is written by a flawed reference. -/
  | text (chars : List Char) (flawed : Bool := false)
  | startTag (tag : StartTag)
  | endTag (name : String)
  | comment
  /-- A doctype, and whether it asks for the layout of older pages. -/
  | doctype (legacy : Bool)
  /-- Malformed markup that stands for nothing. -/
  | flaw
  /-- The end of the page. -/
  | finish

/-- How text is to be read. -/
inductive Lexing
  /-- Tags, comments and references are recognised. -/
  | markup
  /-- Only the end tag of the named element and references are recognised. -/
  | escapable (name : String)
  /-- Only the end tag of the named element is recognised. -/
  | raw (name : String)
  /-- Script text: an end tag within a commented script does not end it. -/
  | script
  /-- Nothing is recognised. -/
  | plain

namespace Token

/-- The blanks that separate the parts of a tag. -/
def isSeparator (c : Char) : Bool :=
  c == ' ' || c == '\t' || c == '\n' || c == '\x0c'

/-- Whether `c` ends the name of a tag. -/
def endsName (c : Char) : Bool :=
  isSeparator c || c == '/' || c == '>'

/-- The text with the null character replaced. -/
def replaceNull (s : List Char) : List Char :=
  s.map fun c => if c = '\x00' then '\uFFFD' else c

/-- A name as it counts: in lowercase and without null characters. -/
def nameOf (s : List Char) : String :=
  String.ofList (replaceNull (s.map Char.toLower))

/-- What follows `front` in `s`, where the case of ASCII letters does not count. -/
def stripIgnoringCase (front : String) (s : List Char) : Option (List Char) :=
  if (s.take front.length).map Char.toLower = front.toList then some (s.drop front.length)
  else none

/-- What follows the first `>`. -/
def afterBracket (s : List Char) : List Char :=
  (s.dropWhile (· ≠ '>')).drop 1

/-! ## Tags -/

/-- The value of an attribute, with what follows it. -/
def attributeValue (s : List Char) : Option (List Char × List Char) :=
  match s.dropWhile isSeparator with
  | [] => none
  | c :: rest =>
    if c = '"' ∨ c = '\'' then
      match rest.dropWhile (· ≠ c) with
      | [] => none
      | _ :: after => some (rest.takeWhile (· ≠ c), after)
    else if c = '>' then some ([], c :: rest)
    else
      let ends (c : Char) : Bool := isSeparator c || c == '>'
      some ((c :: rest).takeWhile (!ends ·), (c :: rest).dropWhile (!ends ·))

/-- The attributes of a tag, whether it ends in a slash, and what follows the tag. A tag that does
not end before the page does is none. Each attribute takes at least one of the first `limit`
characters. -/
def attributesFrom (limit : Nat) (attributes : List Attribute) (s : List Char) :
    Option (List Attribute × Bool × List Char) :=
  match limit with
  | 0 => none
  | limit + 1 =>
    match s.dropWhile isSeparator with
    | [] => none
    | '>' :: rest => some (attributes, false, rest)
    | '/' :: '>' :: rest => some (attributes, true, rest)
    | '/' :: rest => attributesFrom limit attributes rest
    | c :: rest =>
      let continues (c : Char) : Bool := !(endsName c || c == '=')
      let name := nameOf (c :: rest.takeWhile continues)
      let add (value : List Char) : List Attribute :=
        if attributes.any (·.name == name) then attributes
        else
          let text := decodeReferences true (replaceNull value)
          attributes ++ [{ name := name, value := String.ofList text }]
      let afterName := (rest.dropWhile continues).dropWhile isSeparator
      match afterName with
      | '=' :: rest =>
        match attributeValue rest with
        | none => none
        | some (value, rest) => attributesFrom limit (add value) rest
      | _ => attributesFrom limit (add []) afterName

/-- The tag whose name starts here, and what follows it. -/
def tagFrom (s : List Char) : Option (StartTag × List Char) :=
  let name := nameOf (s.takeWhile (!endsName ·))
  let rest := s.dropWhile (!endsName ·)
  (attributesFrom (rest.length + 1) [] rest).map fun (attributes, selfClosing, rest) =>
    ({ name := name, attributes := attributes, selfClosing := selfClosing }, rest)

/-! ## Comments -/

/-- How much of the end of a comment was read. -/
inductive CommentState
  /-- Nothing of the comment was read. -/
  | start
  /-- One dash at the start. -/
  | startDash
  | inside
  /-- One dash. -/
  | dash
  /-- Two dashes. -/
  | dashes
  /-- Two dashes and an exclamation mark. -/
  | bang

/-- What follows a comment. -/
def afterComment : CommentState → List Char → List Char
  | _, [] => []
  | .start, c :: rest =>
    if c = '>' then rest
    else afterComment (if c = '-' then .startDash else .inside) rest
  | .startDash, c :: rest =>
    if c = '>' then rest
    else afterComment (if c = '-' then .dashes else .inside) rest
  | .inside, c :: rest => afterComment (if c = '-' then .dash else .inside) rest
  | .dash, c :: rest => afterComment (if c = '-' then .dashes else .inside) rest
  | .dashes, c :: rest =>
    if c = '>' then rest
    else afterComment (if c = '!' then .bang else if c = '-' then .dashes else .inside) rest
  | .bang, c :: rest =>
    if c = '>' then rest
    else afterComment (if c = '-' then .dash else .inside) rest

/-! ## Doctypes -/

/-- The parts of a doctype. -/
structure Doctype where
  /-- The name in lowercase. -/
  name : String
  /-- The public identifier. -/
  publicId : Option String := none
  /-- The system identifier. -/
  systemId : Option String := none
  /-- Whether the doctype is malformed. -/
  malformed : Bool := false

/-- A quoted identifier, if it is closed before the doctype ends, and what follows. -/
def identifierFrom (quote : Char) (s : List Char) : Option (String × List Char) :=
  let inside (c : Char) : Bool := c != quote && c != '>'
  match s.dropWhile inside with
  | c :: rest =>
    if c = quote then some (String.ofList (replaceNull (s.takeWhile inside)), rest) else none
  | [] => none

/-- The identifier after its keyword: it must be quoted and closed. -/
def quotedIdentifier (s : List Char) : Option (String × List Char) :=
  match s.dropWhile isSeparator with
  | c :: rest => if c = '"' ∨ c = '\'' then identifierFrom c rest else none
  | [] => none

/-- The doctype without what may follow its system identifier. -/
def withSystemId (d : Doctype) (s : List Char) : Doctype :=
  match quotedIdentifier s with
  | some (id, rest) =>
    let cutOff := (rest.dropWhile isSeparator).isEmpty
    { d with systemId := some id, malformed := cutOff }
  | none => { d with malformed := true }

/-- The parts of a doctype whose text, after the keyword, runs to the end of the page. -/
def doctypeFrom (s : List Char) : Doctype :=
  let s := s.dropWhile isSeparator
  let ends (c : Char) : Bool := isSeparator c || c == '>'
  let d : Doctype := { name := nameOf (s.takeWhile (!ends ·)) }
  let rest := (s.dropWhile (!ends ·)).dropWhile isSeparator
  match rest with
  | [] => { d with malformed := true }
  | '>' :: _ => { d with malformed := d.name.isEmpty }
  | _ =>
    match stripIgnoringCase "public" rest with
    | some afterKeyword =>
      match quotedIdentifier afterKeyword with
      | none => { d with malformed := true }
      | some (id, rest) =>
        let d := { d with publicId := some id }
        match rest.dropWhile isSeparator with
        | '>' :: _ => d
        | rest => withSystemId d rest
    | none =>
      match stripIgnoringCase "system" rest with
      | some afterKeyword => withSystemId d afterKeyword
      | none => { d with malformed := true }

/-- Public identifiers of pages with the layout of older pages. -/
def legacyPublicIds : List String :=
  ["-//w3o//dtd w3 html strict 3.0//en//", "-/w3c/dtd html 4.0 transitional/en", "html"]

/-- Starts of public identifiers of pages with the layout of older pages. -/
def legacyPublicStarts : List String :=
  ["-//advasoft ltd//dtd html 3.0 aswedit + extensions//",
   "-//as//dtd html 3.0 aswedit + extensions//",
   "-//ietf//dtd html 2.0 level 1//", "-//ietf//dtd html 2.0 level 2//",
   "-//ietf//dtd html 2.0 strict level 1//", "-//ietf//dtd html 2.0 strict level 2//",
   "-//ietf//dtd html 2.0 strict//", "-//ietf//dtd html 2.0//", "-//ietf//dtd html 2.1e//",
   "-//ietf//dtd html 3.0//", "-//ietf//dtd html 3.2 final//", "-//ietf//dtd html 3.2//",
   "-//ietf//dtd html 3//", "-//ietf//dtd html level 0//", "-//ietf//dtd html level 1//",
   "-//ietf//dtd html level 2//", "-//ietf//dtd html level 3//",
   "-//ietf//dtd html strict level 0//",
   "-//ietf//dtd html strict level 1//", "-//ietf//dtd html strict level 2//",
   "-//ietf//dtd html strict level 3//", "-//ietf//dtd html strict//", "-//ietf//dtd html//",
   "-//metrius//dtd metrius presentational//",
   "-//microsoft//dtd internet explorer 2.0 html strict//",
   "-//microsoft//dtd internet explorer 2.0 html//",
   "-//microsoft//dtd internet explorer 2.0 tables//",
   "-//microsoft//dtd internet explorer 3.0 html strict//",
   "-//microsoft//dtd internet explorer 3.0 html//",
   "-//microsoft//dtd internet explorer 3.0 tables//", "-//netscape comm. corp.//dtd html//",
   "-//netscape comm. corp.//dtd strict html//", "-//o'reilly and associates//dtd html 2.0//",
   "-//o'reilly and associates//dtd html extended 1.0//",
   "-//o'reilly and associates//dtd html extended relaxed 1.0//",
   "-//softquad software//dtd hotmetal pro 6.0::19990601::extensions to html 4.0//",
   "-//softquad//dtd hotmetal pro 4.0::19971010::extensions to html 4.0//",
   "-//spyglass//dtd html 2.0 extended//", "-//sq//dtd html 2.0 hotmetal + extensions//",
   "-//sun microsystems corp.//dtd hotjava html//",
   "-//sun microsystems corp.//dtd hotjava strict html//", "-//w3c//dtd html 3 1995-03-24//",
   "-//w3c//dtd html 3.2 draft//", "-//w3c//dtd html 3.2 final//", "-//w3c//dtd html 3.2//",
   "-//w3c//dtd html 3.2s draft//", "-//w3c//dtd html 4.0 frameset//",
   "-//w3c//dtd html 4.0 transitional//", "-//w3c//dtd html experimental 19960712//",
   "-//w3c//dtd html experimental 970421//", "-//w3c//dtd w3 html//", "-//w3o//dtd w3 html 3.0//",
   "-//webtechs//dtd mozilla html 2.0//", "-//webtechs//dtd mozilla html//"]

/-- Starts of public identifiers that need a system identifier beside them. -/
def frameworkPublicStarts : List String :=
  ["-//w3c//dtd html 4.01 frameset//", "-//w3c//dtd html 4.01 transitional//"]

/-- Whether a doctype asks for the layout of older pages. -/
def Doctype.isLegacy (d : Doctype) : Bool :=
  let publicId := (d.publicId.getD "").map Char.toLower
  let systemId := d.systemId.map fun id => id.map Char.toLower
  let startsWithAny (starts : List String) : Bool :=
    starts.any fun start => (stripFront start.toList publicId.toList).isSome
  d.malformed || d.name != "html" || legacyPublicIds.contains publicId
    || systemId == some "http://www.ibm.com/data/dtd/v11/ibmxhtml1-transitional.dtd"
    || startsWithAny legacyPublicStarts
    || (startsWithAny frameworkPublicStarts && systemId.isNone)

/-! ## Text -/

/-- What follows `</` here if it is the end tag of the named element. -/
def endTagNamed (name : String) (s : List Char) : Option (List Char) :=
  match s with
  | '<' :: '/' :: rest =>
    match stripIgnoringCase name rest with
    | some (c :: _) => if endsName c then some rest else none
    | _ => none
  | _ => none

/-- The text before the end tag of the named element, and the rest. -/
def textBefore (name : String) : List Char → List Char × List Char
  | [] => ([], [])
  | c :: rest =>
    if (endTagNamed name (c :: rest)).isSome then ([], c :: rest)
    else
      let (before, after) := textBefore name rest
      (c :: before, after)

/-- How deep a reader is in a script. -/
inductive ScriptState
  | code
  /-- Within a comment, after some dashes. -/
  | comment (dashes : Nat)
  /-- Within a script element that is commented out, after some dashes. -/
  | nested (dashes : Nat)

/-- Whether `s` starts with the word `script` and the end of a tag's name. -/
def startsScript (s : List Char) : Bool :=
  match stripIgnoringCase "script" s with
  | some (c :: _) => endsName c
  | _ => false

/-- The state after the character `c`, which `rest` follows. -/
def ScriptState.after (state : ScriptState) (c : Char) (rest : List Char) : ScriptState :=
  match state with
  | .code =>
    match stripFront "!--".toList rest with
    | some _ => if c = '<' then .comment 0 else .code
    | none => .code
  | .comment dashes =>
    if c = '-' then .comment (dashes + 1)
    else if c = '>' ∧ dashes ≥ 2 then .code
    else if c = '<' ∧ startsScript rest then .nested 0
    else .comment 0
  | .nested dashes =>
    if c = '-' then .nested (dashes + 1)
    else if c = '>' ∧ dashes ≥ 2 then .code
    else if c = '<' ∧ rest.head? = some '/' ∧ startsScript (rest.drop 1) then .comment 0
    else .nested 0

/-- The text of a script, and the rest. -/
def scriptBefore : ScriptState → List Char → List Char × List Char
  | _, [] => ([], [])
  | state, c :: rest =>
    let ends := match state with
      | .nested _ => false
      | _ => (endTagNamed "script" (c :: rest)).isSome
    if ends then ([], c :: rest)
    else
      let (before, after) := scriptBefore (state.after c rest) rest
      (c :: before, after)

/-! ## The next token -/

/-- The end tag that is next in the content of an element, or the end of the page. -/
def endTagFrom (rest : List Char) : Token × List Char :=
  match tagFrom (rest.drop 2) with
  | some (tag, rest) => (.endTag tag.name, rest)
  | none => (.finish, [])

/-- What follows `<!`. -/
def declarationFrom (foreign : Bool) (s : List Char) : Token × List Char :=
  match stripFront "--".toList s with
  | some rest => (.comment, afterComment .start rest)
  | none =>
    match stripIgnoringCase "doctype" s with
    | some rest => (.doctype (doctypeFrom rest).isLegacy, afterBracket rest)
    | none =>
      match if foreign then stripFront "[CDATA[".toList s else none with
      | some rest =>
        match cut "]]>".toList rest with
        | some (inside, rest) => (.text inside, rest)
        | none => (.text rest, [])
      | none => (.comment, afterBracket s)

/-- The text with its references decoded. -/
def decoded (s : List Char) : Token :=
  .text (decodeReferences false s) (startsUnterminated s)

/-- The next piece of markup. -/
def markupFrom (foreign : Bool) (s : List Char) : Token × List Char :=
  match s with
  | [] => (.finish, [])
  | '<' :: rest =>
    match rest with
    | '!' :: rest => declarationFrom foreign rest
    | '?' :: rest => (.comment, afterBracket rest)
    | '/' :: '>' :: rest => (.flaw, rest)
    | '/' :: c :: rest =>
      if c.isAlpha then
        match tagFrom (c :: rest) with
        | some (tag, rest) => (.endTag tag.name, rest)
        | none => (.finish, [])
      else (.comment, afterBracket (c :: rest))
    | ['/'] => (.text ['<', '/'], [])
    | c :: rest =>
      if c.isAlpha then
        match tagFrom (c :: rest) with
        | some (tag, rest) => (.startTag tag, rest)
        | none => (.finish, [])
      else (.text ['<'], c :: rest)
    | [] => (.text ['<'], [])
  | s => (decoded (s.takeWhile (· ≠ '<')), s.dropWhile (· ≠ '<'))

/-- The next token of the page, and what follows it. `foreign` says whether the reader is within a
drawing or a formula, where character data may be marked as such. -/
def next (lexing : Lexing) (foreign : Bool) (s : List Char) : Token × List Char :=
  let content (text : List Char → Token) (chars rest : List Char) : Token × List Char :=
    if chars.isEmpty then if rest.isEmpty then (.finish, []) else endTagFrom rest
    else (text (replaceNull chars), rest)
  match lexing with
  | .markup => markupFrom foreign s
  | .escapable name =>
    let (before, rest) := textBefore name s
    content decoded before rest
  | .raw name =>
    let (before, rest) := textBefore name s
    content .text before rest
  | .script =>
    let (before, rest) := scriptBefore .code s
    content .text before rest
  | .plain => if s.isEmpty then (.finish, []) else (.text (replaceNull s), [])

/-- The page with its line ends written as single newlines. -/
def unifyLines : List Char → List Char
  | [] => []
  | '\r' :: '\n' :: rest => '\n' :: unifyLines rest
  | '\r' :: rest => '\n' :: unifyLines rest
  | c :: rest => c :: unifyLines rest

end Token

end BotBindings.Html
