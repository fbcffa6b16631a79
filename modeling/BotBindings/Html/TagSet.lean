import BotBindings.Html.Draft

/-!
# Sets of element names

The rules of page structure speak of elements by class: those that end a paragraph, those whose end
tag may be left out, those that an end tag cannot reach across.
-/

namespace BotBindings.Html

/-- A set of element names. -/
abbrev TagSet := Name → Bool

namespace TagSet

/-- The elements of pages proper with one of the given tags. -/
def of (tags : List String) : TagSet := fun name =>
  name.space = .html && tags.contains name.tag

/-- The elements in one of two sets. -/
def union (a b : TagSet) : TagSet := fun name => a name || b name

/-- Elements with a role of their own in the rules of page structure. -/
def special : TagSet := of
  ["address", "applet", "area", "article", "aside", "base", "basefont", "bgsound", "blockquote",
   "body", "br", "button", "caption", "center", "col", "colgroup", "dd", "details", "dir", "div",
   "dl", "dt", "embed", "fieldset", "figcaption", "figure", "footer", "form", "frame", "frameset",
   "h1", "h2", "h3", "h4", "h5", "h6", "head", "header", "hgroup", "hr", "html", "iframe", "img",
   "input", "isindex", "li", "link", "listing", "main", "marquee", "menu", "meta", "nav", "noembed",
   "noframes", "noscript", "object", "ol", "p", "param", "plaintext", "pre", "script",
   "section", "select", "source", "style", "summary", "table", "tbody", "td", "template",
   "textarea", "tfoot", "th", "thead", "title", "tr", "track", "ul", "wbr", "xmp"]

/-- The headings. -/
def heading : TagSet := of ["h1", "h2", "h3", "h4", "h5", "h6"]

/-- The cells of a table. -/
def cell : TagSet := of ["td", "th"]

/-- Elements of formulas that hold page text. -/
def formulaText : TagSet := fun name =>
  name.space = .math && ["mi", "mo", "mn", "ms", "mtext"].contains name.tag

/-- Elements of drawings that hold page content. -/
def drawingContent : TagSet := fun name =>
  name.space = .svg && ["foreignObject", "desc", "title"].contains name.tag

/-- Elements that an end tag does not reach across. -/
def barrier : TagSet :=
  union (of ["applet", "caption", "html", "table", "td", "th", "marquee", "object", "template"])
    (union formulaText drawingContent)

/-- Elements that the end tag of a list item does not reach across. -/
def listBarrier : TagSet := union barrier (of ["ol", "ul"])

/-- Elements that the end tag of a paragraph does not reach across. -/
def buttonBarrier : TagSet := union barrier (of ["button"])

/-- Elements that the end tag of a part of a table does not reach across. -/
def tableBarrier : TagSet := of ["html", "table", "template"]

/-- Elements that the end tag of a selection does not reach across. -/
def selectBarrier : TagSet := fun name => !of ["optgroup", "option"] name

/-- Where a row group may stand. -/
def bodyContext : TagSet := of ["tbody", "tfoot", "thead", "template", "html"]

/-- Where a cell may stand. -/
def rowContext : TagSet := of ["tr", "template", "html"]

/-- Parts of a table that may hold no text of their own. -/
def tablePart : TagSet := of ["table", "tbody", "tfoot", "thead", "tr"]

/-- Elements whose end tag may be left out. -/
def impliedEnd : TagSet := of
  ["dd", "dt", "li", "option", "optgroup", "p", "rb", "rp", "rt", "rtc"]

/-- Elements whose end tag may be left out where a template ends. -/
def impliedTemplateEnd : TagSet := union impliedEnd
  (of ["caption", "colgroup", "tbody", "td", "tfoot", "th", "thead", "tr"])

end TagSet

end BotBindings.Html
