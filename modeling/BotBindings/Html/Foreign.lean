import BotBindings.Html.TagSet
import BotBindings.Html.Token

/-!
# Drawings and formulas

Elements and attributes of drawings and formulas keep the capital letters that their vocabularies
have, although a page is read without regard to case. Some start tags cannot be part of either and
end them.
-/

namespace BotBindings.Html

/-- Tags of drawings that hold capital letters. -/
def drawingTags : List String :=
  ["altGlyph", "altGlyphDef", "altGlyphItem", "animateColor", "animateMotion", "animateTransform",
   "clipPath", "feBlend", "feColorMatrix", "feComponentTransfer", "feComposite", "feConvolveMatrix",
   "feDiffuseLighting", "feDisplacementMap", "feDistantLight", "feDropShadow", "feFlood", "feFuncA",
   "feFuncB", "feFuncG", "feFuncR", "feGaussianBlur", "feImage", "feMerge", "feMergeNode",
   "feMorphology", "feOffset", "fePointLight", "feSpecularLighting", "feSpotLight", "feTile",
   "feTurbulence", "foreignObject", "glyphRef", "linearGradient", "radialGradient", "textPath"]

/-- Attributes of drawings that hold capital letters. -/
def drawingAttributes : List String :=
  ["attributeName", "attributeType", "baseFrequency", "baseProfile", "calcMode", "clipPathUnits",
   "diffuseConstant", "edgeMode", "filterUnits", "glyphRef", "gradientTransform", "gradientUnits",
   "kernelMatrix", "kernelUnitLength", "keyPoints", "keySplines", "keyTimes", "lengthAdjust",
   "limitingConeAngle", "markerHeight", "markerUnits", "markerWidth", "maskContentUnits",
   "maskUnits", "numOctaves", "pathLength", "patternContentUnits", "patternTransform",
   "patternUnits", "pointsAtX", "pointsAtY", "pointsAtZ", "preserveAlpha", "preserveAspectRatio",
   "primitiveUnits", "refX", "refY", "repeatCount", "repeatDur", "requiredExtensions",
   "requiredFeatures", "specularConstant", "specularExponent", "spreadMethod", "startOffset",
   "stdDeviation", "stitchTiles", "surfaceScale", "systemLanguage", "tableValues", "targetX",
   "targetY", "textLength", "viewBox", "viewTarget", "xChannelSelector", "yChannelSelector",
   "zoomAndPan"]

/-- Attributes of formulas that hold capital letters. -/
def formulaAttributes : List String := ["definitionURL"]

/-- Attributes whose names belong to a namespace, with the name inside it. -/
def qualifiedAttributes : List (String × String) :=
  [("xlink:actuate", "actuate"), ("xlink:arcrole", "arcrole"), ("xlink:href", "href"),
   ("xlink:role", "role"), ("xlink:show", "show"), ("xlink:title", "title"),
   ("xlink:type", "type"), ("xml:lang", "lang"), ("xml:space", "space"), ("xmlns", "xmlns"),
   ("xmlns:xlink", "xlink")]

/-- The member of a vocabulary that a lowercase name stands for, or the name itself. -/
def withCapitals (vocabulary : List String) (name : String) : String :=
  (vocabulary.find? fun word => word.map Char.toLower == name).getD name

/-- A start tag as it counts in the given vocabulary. -/
def StartTag.adjusted (tag : StartTag) (space : Space) : StartTag :=
  let words := match space with
    | .svg => drawingAttributes
    | .math => formulaAttributes
    | .html => []
  let adjust (a : Attribute) : Attribute :=
    match qualifiedAttributes.lookup a.name with
    | some name => { a with name := name, qualified := true }
    | none => { a with name := withCapitals words a.name }
  { tag with
    name := if space = .svg then withCapitals drawingTags tag.name else tag.name
    attributes := tag.attributes.map adjust }

/-- Whether a start tag ends drawings and formulas. -/
def StartTag.endsForeign (tag : StartTag) : Bool :=
  ["b", "big", "blockquote", "body", "br", "center", "code", "dd", "div", "dl", "dt", "em", "embed",
   "h1", "h2", "h3", "h4", "h5", "h6", "head", "hr", "i", "img", "li", "listing", "menu", "meta",
   "nobr", "ol", "p", "pre", "ruby", "s", "small", "span", "strong", "strike", "sub", "sup",
   "table", "tt", "u", "ul", "var"].contains tag.name
  || (tag.name == "font" && tag.attributes.any fun a => ["color", "face", "size"].contains a.name)

end BotBindings.Html
