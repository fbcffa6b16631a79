/-!
# The helpers of generated types

Every file of generated types starts with the same helper definitions: the identifier of a chat,
uploads, and what requests are made of.
-/

namespace BotBindings.Code

/-- A definition that stands in every file of generated types. -/
structure Helper where
  /-- The name of the struct, enum or trait that it defines. -/
  name : Option String
  /-- Its text. -/
  lines : List String

/-- The text of a helper. -/
def Helper.source (h : Helper) : String :=
  String.join (h.lines.map (· ++ "\n"))

/-- The names that derived code refers to. -/
def serdeImport : Helper where
  name := none
  lines :=
    ["use serde::\x7bDeserialize, Serialize\x7d;"]

/-- Identifies a chat by number or by name. -/
def chatIdHelper : Helper where
  name := some "ChatId"
  lines :=
    ["/// Unique identifier for the target chat or username of the target channel.",
     "#[derive(Debug, Clone, PartialEq, Eq, Hash, Serialize, Deserialize)]",
     "#[serde(untagged)]",
     "pub enum ChatId \x7b",
     "    Integer(i64),",
     "    String(String),",
     "\x7d"]

/-- How a chat identifier is shown. -/
def displayHelper : Helper where
  name := none
  lines :=
    ["impl std::fmt::Display for ChatId \x7b",
     "    fn fmt(&self, f: &mut std::fmt::Formatter<'_>) -> std::fmt::Result \x7b",
     "        match self \x7b",
     "            Self::Integer(id) => write!(f, \"\x7b\x7d\", id),",
     "            Self::String(username) => f.write_str(username),",
     "        \x7d",
     "    \x7d",
     "\x7d"]

/-- The contents of an upload, or a reference to a file that is known already. -/
def inputFileHelper : Helper where
  name := some "InputFile"
  lines :=
    ["/// Contents of a file to be uploaded, or a reference to a file Telegram already knows.",
     "#[derive(Debug, Clone, PartialEq, Eq)]",
     "pub enum InputFile \x7b",
     "    Upload \x7b name: String, data: Vec<u8> \x7d,",
     "    /// A `file_id` or an HTTP URL.",
     "    Reference(String),",
     "\x7d"]

/-- How an upload is serialised. -/
def serializeHelper : Helper where
  name := none
  lines :=
    ["impl Serialize for InputFile \x7b",
     "    fn serialize<S: serde::Serializer>(&self, serializer: S) -> Result<S::Ok, S::Error> \x7b",
     "        match self \x7b",
     "            Self::Upload \x7b name, .. \x7d => \x7b",
     "                serializer.serialize_str(&format!(\"attach://\x7b\x7d\", name))",
     "            \x7d",
     "            Self::Reference(reference) => serializer.serialize_str(reference),",
     "        \x7d",
     "    \x7d",
     "\x7d"]

/-- How an upload is deserialised. -/
def deserializeHelper : Helper where
  name := none
  lines :=
    ["impl<'de> Deserialize<'de> for InputFile \x7b",
     "    fn deserialize<D: serde::Deserializer<'de>>(",
     "        deserializer: D,",
     "    ) -> Result<Self, D::Error> \x7b",
     "        String::deserialize(deserializer).map(Self::Reference)",
     "    \x7d",
     "\x7d"]

/-- The form of a request. -/
def paramsHelper : Helper where
  name := some "RequestParams"
  lines :=
    ["/// Form parameters of a request, with uploads kept apart from plain values.",
     "#[derive(Debug, Default)]",
     "pub struct RequestParams \x7b",
     "    pub fields: Vec<(String, String)>,",
     "    pub files: Vec<(String, InputFile)>,",
     "\x7d"]

/-- A nested field that may carry an upload. -/
def mediaFieldHelper : Helper where
  name := some "MediaField"
  lines :=
    ["/// A field nested in a request parameter that may carry an upload.",
     "#[derive(Debug, Clone, Copy, PartialEq, Eq)]",
     "pub struct MediaField \x7b",
     "    /// Parameter holding the nested object.",
     "    pub field: &'static str,",
     "    pub name: &'static str,",
     "    pub required: bool,",
     "\x7d"]

/-- What every request can do. -/
def requestHelper : Helper where
  name := some "Request"
  lines :=
    ["pub trait Request: Serialize \x7b",
     "    const METHOD: &'static str;",
     "    type Response: serde::de::DeserializeOwned;",
     "    const MEDIA: &'static [MediaField] = &[];",
     "    fn write_params(&self, params: &mut RequestParams) -> Result<(), serde_json::Error>;",
     "\x7d"]

/-- The encoders. -/
def encodersHelper : Helper where
  name := none
  lines :=
    ["pub mod params \x7b",
     "    use super::\x7bInputFile, RequestParams\x7d;",
     "    pub fn text(params: &mut RequestParams, key: &str, value: &str) \x7b",
     "        params.fields.push((key.to_string(), value.to_string()));",
     "    \x7d",
     "    pub fn scalar(",
     "        params: &mut RequestParams,",
     "        key: &str,",
     "        value: &impl std::fmt::Display,",
     "    ) \x7b",
     "        params.fields.push((key.to_string(), value.to_string()));",
     "    \x7d",
     "    pub fn json(",
     "        params: &mut RequestParams,",
     "        key: &str,",
     "        value: &impl serde::Serialize,",
     "    ) -> Result<(), serde_json::Error> \x7b",
     "        let value = serde_json::to_string(value)?;",
     "        params.fields.push((key.to_string(), value));",
     "        Ok(())",
     "    \x7d",
     "    pub fn file(params: &mut RequestParams, key: &str, value: &InputFile) \x7b",
     "        match value \x7b",
     "            InputFile::Upload \x7b .. \x7d => \x7b",
     "                params.files.push((key.to_string(), value.clone()))",
     "            \x7d",
     "            InputFile::Reference(reference) => \x7b",
     "                params.fields.push((key.to_string(), reference.clone()))",
     "            \x7d",
     "        \x7d",
     "    \x7d",
     "\x7d"]

/-- All helpers, in the order in which they are written. -/
def helpers : List Helper :=
  [serdeImport, chatIdHelper, displayHelper, inputFileHelper, serializeHelper,
   deserializeHelper, paramsHelper, mediaFieldHelper, requestHelper, encodersHelper]

end BotBindings.Code
