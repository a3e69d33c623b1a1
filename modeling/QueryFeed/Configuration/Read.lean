import QueryFeed.Configuration.Basic
import QueryFeed.Configuration.Environment
import QueryFeed.Json.Decode
import QueryFeed.Text.Bytes
import QueryFeed.Yaml.Resolve

/-!
**Reading configurations.**

A configuration is read from JSON, or from YAML in which the variables of the environment are put in
first.  Settings that are left out have their standard values, and settings that are not known are
ignored.

Main definitions: `Configuration.ofJson`, `Configuration.ofYaml`, `Configuration.ofFile`.
-/

set_option autoImplicit false

namespace QueryFeed.Configuration

/-- The names of the settings, in their order. -/
def fieldNames : List String :=
  ["connection_url", "query", "expect_single_result", "poll_interval_ms", "max_polls",
   "max_messages", "connect_timeout_ms", "query_timeout_ms", "application_name", "variables",
   "headers"]

/-! ### From JSON -/

/-- Reads the texts of an object. -/
def readTexts : List (String × Json) → Except DecodeError (Table String)
  | [] => .ok []
  | (name, value) :: rest => do
      let text ← value.asText
      let others ← readTexts rest
      return (name, text) :: others

/-- The configuration in which a setting is read from JSON. -/
def withJson (config : Configuration) (name : String) (value : Json) :
    Except DecodeError Configuration :=
  let natural (value : Json) : Except DecodeError Nat := (value.asInteger .u64).map Int.toNat
  match name with
  | "connection_url" =>
      (value.asOption fun value => value.asText.map Secret.mk).map fun url =>
        { config with connectionUrl := url }
  | "query" => value.asText.map fun text => { config with query := text }
  | "expect_single_result" =>
      value.asBool.map fun single => { config with expectSingleResult := single }
  | "poll_interval_ms" => (natural value).map fun ms => { config with pollIntervalMs := ms }
  | "max_polls" => (value.asOption natural).map fun limit => { config with maxPolls := limit }
  | "max_messages" => (value.asOption natural).map fun limit => { config with maxMessages := limit }
  | "connect_timeout_ms" => (natural value).map fun ms => { config with connectTimeoutMs := ms }
  | "query_timeout_ms" => (natural value).map fun ms => { config with queryTimeoutMs := ms }
  | "application_name" =>
      (value.asOption Json.asText).map fun text => { config with applicationName := text }
  | "variables" => value.asMembers.map fun members => { config with bindings := members }
  | "headers" => do
      let members ← value.asMembers
      let texts ← readTexts members
      return { config with headers := texts }
  | _ => .ok config

/-- Reads settings one after the other. -/
def withMembers (config : Configuration) : List (String × Json) → Except DecodeError Configuration
  | [] => .ok config
  | (name, value) :: rest => do
      let config ← config.withJson name value
      config.withMembers rest

/-- Reads a configuration from an object, or from the list of the first settings in their order. -/
def ofJson : Json → Except DecodeError Configuration
  | .obj members => standard.withMembers members
  | .arr items => do
      let config ← standard.withMembers (fieldNames.zip items)
      if fieldNames.length < items.length then
        throw (.invalidLength items.length "fewer elements in array")
      return config
  | other => other.refuse "struct RowpollConfig"

/-! ### From YAML -/

/-- Reads the entries of a mapping, the last one of a repeated key winning. -/
def readEntries {α : Type} (read : Yaml.Node → Option α) (node : Yaml.Node) : Option (Table α) := do
  let entries ← node.asEntries?
  let found ← entries.mapM fun entry => do
    let name ← entry.1.asText?
    let value ← read entry.2
    return (name, value)
  return Table.ofEntries found

/-- The configuration in which a setting is read from YAML. -/
def withNode (config : Configuration) (name : String) (node : Yaml.Node) : Option Configuration :=
  match name with
  | "connection_url" =>
      (node.asOption? fun node => node.asText?.map Secret.mk).map fun url =>
        { config with connectionUrl := url }
  | "query" => node.asText?.map fun text => { config with query := text }
  | "expect_single_result" =>
      node.asBool?.map fun single => { config with expectSingleResult := single }
  | "poll_interval_ms" => node.asCount?.map fun ms => { config with pollIntervalMs := ms }
  | "max_polls" =>
      (node.asOption? Yaml.Node.asCount?).map fun limit => { config with maxPolls := limit }
  | "max_messages" =>
      (node.asOption? Yaml.Node.asCount?).map fun limit => { config with maxMessages := limit }
  | "connect_timeout_ms" => node.asCount?.map fun ms => { config with connectTimeoutMs := ms }
  | "query_timeout_ms" => node.asCount?.map fun ms => { config with queryTimeoutMs := ms }
  | "application_name" =>
      (node.asOption? Yaml.Node.asText?).map fun text => { config with applicationName := text }
  | "variables" =>
      (readEntries Yaml.Node.toJson? node).map fun table =>
        { config with bindings := table }
  | "headers" =>
      (readEntries Yaml.Node.asText? node).map fun table => { config with headers := table }
  | _ => some config

/-- Reads settings one after the other. -/
def withNodes (config : Configuration) : List (String × Yaml.Node) → Option Configuration
  | [] => some config
  | (name, node) :: rest => do
      let config ← config.withNode name node
      config.withNodes rest

/-- Reads a configuration from the text of a document, without checking it.  No setting may be
repeated. -/
def parseYaml? (text : String) : Option Configuration := do
  match ← Yaml.Document.ofText? text with
  | none => return standard
  | some document =>
      let settings ← document.members? fieldNames.contains
      guard (settings.map Prod.fst).Nodup
      standard.withNodes settings

/-- Reads and checks a configuration. -/
def ofYaml (environment : Environment) (text : String) : Except FeedError Configuration := do
  match parseYaml? (environment.expand text) with
  | none => throw (.configuration .malformed)
  | some config =>
      config.check
      return config

/-- What is found under a path: bytes, or the reason why there are none. -/
abbrev FileContent := Except String (List UInt8)

/-- Reads and checks a configuration from a file. -/
def ofFile (environment : Environment) (path : String) (content : FileContent) :
    Except FeedError Configuration :=
  let unreadable (reason : String) : Except FeedError Configuration :=
    .error (.configuration (.unreadable path reason))
  match content with
  | .error reason => unreadable reason
  | .ok bytes =>
      match Text.textOfUtf8? bytes with
      | none => unreadable "stream did not contain valid UTF-8"
      | some text => ofYaml environment text

end QueryFeed.Configuration
