import CodeChunks.Json.Basic
import CodeChunks.Text.LowerCase

/-!
# Languages

The languages that files are told apart by. Each has a short name, a title for display and a key
under which records store it. The bundled languages come with a grammar.
-/

namespace CodeChunks

inductive Language where
  | python
  | javaScript
  | javaScriptReact
  | typeScript
  | typeScriptReact
  | go
  | rust
  | java
  | c
  | cpp
  | ruby
  | cSharp
  | php
  | kotlin
  | swift
  | scala
  | html
  | css
  | shell
  | markdown
  | json
  | yaml
  | toml
  | xml
  | sql
  | unknown
  deriving DecidableEq, Repr, Inhabited

namespace Language

/-- Every language, in the order that lists of languages follow. -/
def all : List Language :=
  [.python, .javaScript, .javaScriptReact, .typeScript, .typeScriptReact, .go, .rust, .java, .c,
   .cpp, .ruby, .cSharp, .php, .kotlin, .swift, .scala, .html, .css, .shell, .markdown, .json,
   .yaml, .toml, .xml, .sql, .unknown]

/-- The languages with a grammar of their own. -/
def bundled : List Language :=
  [.python, .javaScript, .javaScriptReact, .typeScript, .typeScriptReact, .go, .rust, .java, .c,
   .cpp, .ruby]

def isBundled (l : Language) : Bool := bundled.contains l

/-- The short name. -/
def name : Language → String
  | .python => "python"
  | .javaScript => "javascript"
  | .javaScriptReact => "jsx"
  | .typeScript => "typescript"
  | .typeScriptReact => "tsx"
  | .go => "go"
  | .rust => "rust"
  | .java => "java"
  | .c => "c"
  | .cpp => "cpp"
  | .ruby => "ruby"
  | .cSharp => "csharp"
  | .php => "php"
  | .kotlin => "kotlin"
  | .swift => "swift"
  | .scala => "scala"
  | .html => "html"
  | .css => "css"
  | .shell => "shell"
  | .markdown => "markdown"
  | .json => "json"
  | .yaml => "yaml"
  | .toml => "toml"
  | .xml => "xml"
  | .sql => "sql"
  | .unknown => "unknown"

/-- The name shown in chunk titles. -/
def title : Language → String
  | .python => "Python"
  | .javaScript => "JavaScript"
  | .javaScriptReact => "JSX"
  | .typeScript => "TypeScript"
  | .typeScriptReact => "TSX"
  | .go => "Go"
  | .rust => "Rust"
  | .java => "Java"
  | .c => "C"
  | .cpp => "C++"
  | .ruby => "Ruby"
  | .cSharp => "C#"
  | .php => "PHP"
  | .kotlin => "Kotlin"
  | .swift => "Swift"
  | .scala => "Scala"
  | .html => "HTML"
  | .css => "CSS"
  | .shell => "Shell"
  | .markdown => "Markdown"
  | .json => "JSON"
  | .yaml => "YAML"
  | .toml => "TOML"
  | .xml => "XML"
  | .sql => "SQL"
  | .unknown => "Unknown"

/-- The key that records store. -/
def key : Language → String
  | .javaScript => "java_script"
  | .javaScriptReact => "java_script_react"
  | .typeScript => "type_script"
  | .typeScriptReact => "type_script_react"
  | .cSharp => "c_sharp"
  | l => l.name

/-- The name of the grammar that parses the language, where there is one. -/
def grammarName? : Language → Option String
  | .javaScript | .javaScriptReact => some "javascript"
  | .cSharp => some "c_sharp"
  | .shell => some "bash"
  | .markdown | .json | .yaml | .toml | .xml | .sql | .unknown => none
  | l => some l.name

/-- Languages whose files may hold component markup. -/
def hasMarkup : Language → Bool
  | .javaScript | .javaScriptReact | .typeScript | .typeScriptReact => true
  | _ => false

/-- The position in `all`. -/
def ordinal (l : Language) : Nat := all.idxOf l

/-- The language of a lower-case name. -/
def ofLowerName : String → Language
  | "python" | "py" => .python
  | "javascript" | "js" => .javaScript
  | "jsx" => .javaScriptReact
  | "typescript" | "ts" => .typeScript
  | "tsx" => .typeScriptReact
  | "go" | "golang" => .go
  | "rust" | "rs" => .rust
  | "java" => .java
  | "c" => .c
  | "cpp" | "c++" | "cxx" => .cpp
  | "ruby" | "rb" => .ruby
  | "csharp" | "c#" | "cs" | "c_sharp" => .cSharp
  | "php" => .php
  | "kotlin" | "kt" => .kotlin
  | "swift" => .swift
  | "scala" => .scala
  | "html" | "htm" => .html
  | "css" | "scss" | "less" => .css
  | "shell" | "bash" | "sh" | "zsh" => .shell
  | "markdown" | "md" => .markdown
  | "json" => .json
  | "yaml" | "yml" => .yaml
  | "toml" => .toml
  | "xml" => .xml
  | "sql" => .sql
  | _ => .unknown

/-- The language that a name in any case stands for. -/
def ofName (name : String) : Language := ofLowerName (Text.toLower name)

/-- The language of a lower-case file extension. -/
def ofLowerExtension : String → Language
  | "py" | "pyi" | "pyw" => .python
  | "js" | "mjs" | "cjs" => .javaScript
  | "jsx" => .javaScriptReact
  | "ts" | "mts" | "cts" => .typeScript
  | "tsx" => .typeScriptReact
  | "go" => .go
  | "rs" => .rust
  | "java" => .java
  | "c" | "h" => .c
  | "cpp" | "cc" | "cxx" | "hpp" | "hxx" | "hh" => .cpp
  | "rb" | "rake" => .ruby
  | "cs" => .cSharp
  | "php" => .php
  | "kt" | "kts" => .kotlin
  | "swift" => .swift
  | "scala" | "sc" => .scala
  | "html" | "htm" => .html
  | "css" | "scss" | "less" => .css
  | "sh" | "bash" | "zsh" => .shell
  | "md" | "markdown" => .markdown
  | "json" => .json
  | "yaml" | "yml" => .yaml
  | "toml" => .toml
  | "xml" => .xml
  | "sql" => .sql
  | _ => .unknown

/-- The language of a file extension in any case, given without its dot. -/
def ofExtension (ext : String) : Language := ofLowerExtension (Text.toLower ext)

def ofKey? (k : String) : Option Language := all.find? (·.key == k)

def toJson (l : Language) : Json := .str l.key

def ofJson? (j : Json) : Option Language := j.asName?.bind ofKey?

theorem mem_all (l : Language) : l ∈ all := by cases l <;> decide

theorem ordinal_inj {a b : Language} (h : a.ordinal = b.ordinal) : a = b := by
  revert h
  cases a <;> cases b <;> decide

theorem ofKey?_key (l : Language) : ofKey? l.key = some l := by cases l <;> rfl

@[simp] theorem ofJson?_toJson (l : Language) : ofJson? l.toJson = some l := ofKey?_key l

end Language

end CodeChunks
