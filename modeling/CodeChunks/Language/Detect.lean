import CodeChunks.Language.Basic
import CodeChunks.Path
import CodeChunks.Text.Search

/-!
# Telling a file's language

A few file names have a fixed language. Otherwise the extension decides, and a file whose
extension says nothing may start with a line that names its interpreter.
-/

namespace CodeChunks.Language

/-- The first line of a text, without its line break. -/
def firstLine? (content : String) : Option (List Char) :=
  match content.toList with
  | [] => none
  | cs =>
    let line := cs.takeWhile (· != '\n')
    if line.length < cs.length && line.getLast? == some '\r' then some line.dropLast
    else some line

/-- The language of an interpreter line. -/
def ofInterpreterLine (line : List Char) : Language :=
  let lower := Text.lowerFrom [] line
  let names (word : String) : Bool := Text.containsList word.toList lower
  if names "python" then .python
  else if names "node" || names "deno" then .javaScript
  else if names "ruby" then .ruby
  else if names "php" then .php
  else .shell

/-- The language that the name of a file gives away. -/
def ofFileName (path : String) : Language :=
  match Path.fileName? path with
  | some "Rakefile" | some "Gemfile" => .ruby
  | some "Dockerfile" | some "Makefile" => .shell
  | _ => ((Path.extension? path).map ofExtension).getD .unknown

def detect (path : String) (content : Option String) : Language :=
  match ofFileName path with
  | .unknown =>
    match content.bind firstLine? with
    | some ('#' :: '!' :: rest) => ofInterpreterLine ('#' :: '!' :: rest)
    | _ => .unknown
  | l => l

end CodeChunks.Language
