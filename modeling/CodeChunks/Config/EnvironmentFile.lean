import CodeChunks.Config.Environment
import CodeChunks.Text.Blank
import CodeChunks.Text.Property

/-!
# Environment files

An environment file has one assignment `NAME=value` on each line, with an optional `export` in
front. A value may be quoted: in single quotes everything stands for itself, in double quotes a
backslash escapes and a dollar sign inserts a variable. A quoted value may run over several
lines. A number sign after a blank starts a comment. Variables that are set already keep their
values.
-/

namespace CodeChunks.EnvironmentFile

/-! ## Lines -/

/-- Where a line stands after some of its characters. -/
inductive LineState where
  | plain
  | escape
  | singleQuoted
  | singleEscape
  | doubleQuoted
  | doubleEscape
  | afterBlank
  | comment
  deriving DecidableEq, Repr

/-- The state after a character that is neither quoted nor escaped. -/
def LineState.open (c : Char) : LineState :=
  match c with
  | '\\' => .escape
  | '"' => .doubleQuoted
  | '\'' => .singleQuoted
  | _ => .plain

def LineState.step (s : LineState) (c : Char) : LineState :=
  match s with
  | .afterBlank => if c == '#' then .comment else .open c
  | .escape => .plain
  | .plain => if Text.isBlank c && c != '\n' && c != '\r' then .afterBlank else .open c
  | .doubleQuoted => if c == '\\' then .doubleEscape else if c == '"' then .plain else .doubleQuoted
  | .doubleEscape => .doubleQuoted
  | .singleQuoted =>
    if c == '\\' then .singleEscape else if c == '\'' then .plain else .singleQuoted
  | .singleEscape => .singleQuoted
  | .comment => .comment

/-- The state at the end of a line, and the part of the line before a comment. -/
def scanLine (s : LineState) : List Char → LineState × List Char
  | [] => (s, [])
  | c :: cs =>
    match s.step c with
    | .comment => (.comment, [])
    | next =>
      let (last, kept) := scanLine next cs
      (last, c :: kept)

/-- The text cut after every line break. -/
def physicalLines : List Char → List (List Char)
  | [] => []
  | '\n' :: cs => ['\n'] :: physicalLines cs
  | c :: cs =>
    match physicalLines cs with
    | [] => [[c]]
    | line :: rest => (c :: line) :: rest

def dropLineBreak (line : List Char) : List Char :=
  match line.reverse with
  | '\n' :: '\r' :: rest => rest.reverse
  | '\n' :: rest => rest.reverse
  | _ => line

/-- The logical lines: a line that ends inside quotes goes on with the next one. A text that ends
inside quotes, or right after a blank, has no last line and is refused. -/
def logicalLines (s : LineState) (buffer : List Char) :
    List (List Char) → Option (List (List Char))
  | [] => if s = .plain then some [] else none
  | line :: rest =>
    let whole := buffer ++ line
    if (Text.trimStart whole).head? == some '#' then
      (logicalLines .plain [] rest).map ([] :: ·)
    else
      let (last, kept) := scanLine s line
      match last with
      | .plain => (logicalLines .plain [] rest).map (dropLineBreak whole :: ·)
      | .comment => (logicalLines .plain [] rest).map ((buffer ++ kept) :: ·)
      | _ => logicalLines last whole rest

/-! ## Values -/

/-- The variable that is being named after a dollar sign. -/
inductive Naming where
  | none
  | bare
  | braced
  deriving DecidableEq, Repr

/-- A value that has been read in part. -/
structure Partial where
  output : List Char := []
  name : List Char := []
  naming : Naming := .none
  singleQuoted : Bool := false
  doubleQuoted : Bool := false
  escaped : Bool := false
  ending : Bool := false

/-- The text of a variable: from the environment, else from an earlier line of the file. -/
def insertion (env : Environment) (earlier : List (String × String)) (name : List Char) :
    List Char :=
  let n := String.ofList name
  ((env.get? n <|> earlier.lookup n).getD "").toList

def Partial.insert (p : Partial) (env : Environment) (earlier : List (String × String)) :
    Partial :=
  { p with output := p.output ++ insertion env earlier p.name, name := [], naming := .none }

def Partial.push (p : Partial) (c : Char) : Partial := { p with output := p.output ++ [c] }

/-- The character that an escape stands for. -/
def escapeChar? (c : Char) : Option Char :=
  if c == '\\' || c == '\'' || c == '"' || c == '$' || c == ' ' then some c
  else if c == 'n' then some '\n'
  else none

/-- A character after a dollar sign. -/
def Partial.nameStep (p : Partial) (env : Environment) (earlier : List (String × String))
    (c : Char) : Partial :=
  if Text.isAlphanumeric c then { p with name := p.name ++ [c] }
  else if p.naming = .braced then
    if c == '\x7d' then p.insert env earlier else { p with name := p.name ++ [c] }
  else if c == '\x7b' && p.name == [] then { p with naming := .braced }
  else
    let q := p.insert env earlier
    if c == '$' then { q with naming := .bare } else q.push c

/-- A character outside single quotes, escapes and names. -/
def Partial.plainStep (p : Partial) (c : Char) : Partial :=
  if c == '$' then { p with naming := .bare }
  else if p.doubleQuoted then
    if c == '"' then { p with doubleQuoted := false }
    else if c == '\\' then { p with escaped := true }
    else p.push c
  else if c == '\'' then { p with singleQuoted := true }
  else if c == '"' then { p with doubleQuoted := true }
  else if c == '\\' then { p with escaped := true }
  else if c == ' ' || c == '\t' then { p with ending := true }
  else p.push c

/-- Reads a value to its end; what follows a blank outside quotes must be a comment. -/
def readFrom (env : Environment) (earlier : List (String × String)) (p : Partial) :
    List Char → Option (List Char)
  | [] =>
    if p.naming = .braced || p.singleQuoted || p.doubleQuoted then none
    else some (p.insert env earlier).output
  | c :: cs =>
    if p.ending then
      if c == ' ' || c == '\t' then readFrom env earlier p cs
      else if c == '#' then readFrom env earlier p []
      else none
    else if p.escaped then
      match escapeChar? c with
      | some e => readFrom env earlier { p.push e with escaped := false } cs
      | none => none
    else if p.singleQuoted then
      readFrom env earlier (if c == '\'' then { p with singleQuoted := false } else p.push c) cs
    else if p.naming ≠ .none then readFrom env earlier (p.nameStep env earlier c) cs
    else readFrom env earlier (p.plainStep c) cs

/-! ## Assignments -/

def isNameStart (c : Char) : Bool := c.isAlpha || c == '_'

def isNameChar (c : Char) : Bool := c.isAlphanum || c == '_' || c == '.'

/-- A name at the start of a line. -/
def readName (cs : List Char) : Option (List Char × List Char) :=
  match cs with
  | c :: _ =>
    if isNameStart c then some (cs.takeWhile isNameChar, cs.dropWhile isNameChar) else none
  | [] => none

/-- The name that a line assigns to, and the text after the equals sign. -/
def readTarget (cs : List Char) : Option (List Char × List Char) := do
  let (name, rest) ← readName cs
  match name == "export".toList, Text.trimStart rest with
  | _, '=' :: value => some (name, Text.trimStart value)
  | true, rest =>
    let (name, rest) ← readName rest
    match Text.trimStart rest with
    | '=' :: value => some (name, Text.trimStart value)
    | _ => none
  | false, _ => none

/-- What a line does. -/
inductive Line where
  | nothing
  | assign (name value : String)

/-- One logical line, given the variables set and the values of the lines before it. -/
def readLine (env : Environment) (earlier : List (String × String)) (line : List Char) :
    Option Line :=
  match Text.trim line with
  | [] => some .nothing
  | '#' :: _ => some .nothing
  | cs => do
    let (name, rest) ← readTarget cs
    let value ← match rest with
      | [] => some []
      | '#' :: _ => some []
      | _ => readFrom env earlier {} rest
    pure (.assign (String.ofList name) (String.ofList value))

/-- The environment after the lines of a file. -/
def loadLines (env : Environment) (earlier : List (String × String)) :
    List (List Char) → Option Environment
  | [] => some env
  | line :: rest => do
    match ← readLine env earlier line with
    | .nothing => loadLines env earlier rest
    | .assign name value =>
      loadLines (env.setIfUnset name value) ((name, value) :: earlier) rest

/-- The environment after a file, which may start with a byte order mark. -/
def load (env : Environment) (text : String) : Option Environment :=
  let cs := match text.toList with
    | c :: rest => if c.toNat == 0xFEFF then rest else c :: rest
    | [] => []
  (logicalLines .plain [] (physicalLines cs)).bind (loadLines env [])

end CodeChunks.EnvironmentFile

namespace CodeChunks.Config

/-- The configuration of an environment file; `none` is a file that cannot be read. -/
def ofEnvironmentFile (env : Environment) (text : Option String) : Except Error Config :=
  match text.bind (EnvironmentFile.load env) with
  | none => .error (.invalidConfig .unreadableEnvironment)
  | some env => do
    let c := ofEnvironment env
    c.validate
    pure c

end CodeChunks.Config
