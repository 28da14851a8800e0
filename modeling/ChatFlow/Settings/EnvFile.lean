import ChatFlow.Assoc
import ChatFlow.Text.Blank

/-!
# Files of environment variables

A file holds bindings `NAME=value`, with comments after `#` and values in quotes if need be. A line
that is no binding is passed over. A value may refer to variables, those of the environment and
those bound before it, as `$` and a name in braces, perhaps with a default after `:-`.
-/

namespace ChatFlow.EnvFile

def unifyLines : List Char → List Char
  | '\r' :: '\n' :: cs => '\n' :: unifyLines cs
  | '\r' :: cs => '\n' :: unifyLines cs
  | c :: cs => c :: unifyLines cs
  | [] => []

def isInlineBlank (c : Char) : Bool := Text.isBlank c && c != '\n'

/-- What follows the end of the line, if only white space and a comment stand before it. -/
def endOfLine? (cs : List Char) : Option (List Char) :=
  let r := cs.dropWhile isInlineBlank
  let r := match r with
    | '#' :: _ => r.dropWhile (· != '\n')
    | r => r
  match r with
  | [] => some []
  | '\n' :: r => some r
  | _ => none

def nextLine (cs : List Char) : List Char := (cs.dropWhile (· != '\n')).drop 1

/-- A name at the start of a line: in single quotes, or up to white space, `=` or `#`. -/
def name? (cs : List Char) : Option (List Char × List Char) :=
  match cs with
  | '\'' :: r =>
    let (name, r) := r.span (· != '\'')
    if name.isEmpty || r.isEmpty then none else some (name, r.drop 1)
  | _ =>
    let (name, r) := cs.span fun c => !(c == '=' || c == '#' || Text.isBlank c)
    if name.isEmpty then none else some (name, r)

/-- The text up to a quote; a backslash and the character after it belong together. -/
def quoted? (q : Char) : List Char → Option (List Char × List Char)
  | [] => none
  | '\\' :: c :: r => (quoted? q r).map fun (s, r') => ('\\' :: c :: s, r')
  | c :: r => if c == q then some ([], r) else (quoted? q r).map fun (s, r') => (c :: s, r')

/-- The character that a backslash and another character stand for between quotes `q`. -/
def escape? (q c : Char) : Option Char :=
  if c == '\\' || c == '\'' then some c
  else if q == '\'' then none
  else match c with
    | '"' => some '"'
    | 'a' => some '\x07'
    | 'b' => some '\x08'
    | 'f' => some '\x0c'
    | 'n' => some '\n'
    | 'r' => some '\r'
    | 't' => some '\t'
    | 'v' => some '\x0b'
    | _ => none

def unescape (q : Char) : List Char → List Char
  | '\\' :: c :: r => match escape? q c with
    | some e => e :: unescape q r
    | none => '\\' :: unescape q (c :: r)
  | c :: r => c :: unescape q r
  | [] => []

/-- A plain value up to a comment, which has white space before it. -/
def dropComment : List Char → List Char
  | [] => []
  | c :: cs =>
    if Text.isBlank c && (match cs.dropWhile Text.isBlank with
      | '#' :: _ => true
      | _ => false) then []
    else c :: dropComment cs

/-- A value, and what follows it. -/
def value? (cs : List Char) : Option (List Char × List Char) :=
  match cs with
  | '\'' :: r => (quoted? '\'' r).map fun (s, r) => (unescape '\'' s, r)
  | '"' :: r => (quoted? '"' r).map fun (s, r) => (unescape '"' s, r)
  | _ =>
    let (line, r) := cs.span (· != '\n')
    some (((dropComment line).reverse.dropWhile Text.isBlank).reverse, r)

def dropExport (cs : List Char) : List Char :=
  match cs with
  | 'e' :: 'x' :: 'p' :: 'o' :: 'r' :: 't' :: c :: r =>
    if isInlineBlank c then r.dropWhile isInlineBlank else cs
  | _ => cs

/-- A name, perhaps with a value. -/
abbrev Binding := List Char × Option (List Char)

/-- Something that ends with its line, and what follows that line. If there is more on the line, it
counts for nothing. -/
def closed {α : Type} (a : α) (r : List Char) : Option α × List Char :=
  match endOfLine? r with
  | some rest => (some a, rest)
  | none => (none, nextLine r)

/-- The binding at the start of a line, if there is one, and what follows. -/
def binding? (cs : List Char) : Option Binding × List Char :=
  match dropExport cs with
  | '#' :: r => (none, nextLine r)
  | cs => match name? cs with
    | none => (none, nextLine cs)
    | some (name, r) => match r.dropWhile isInlineBlank with
      | '=' :: r =>
        match r.head?.any isInlineBlank, r.dropWhile isInlineBlank with
        | true, '#' :: r => closed (name, some []) ('#' :: r)
        | _, r => match value? r with
          | some (value, r) => closed (name, some value) r
          | none => (none, nextLine r)
      | r => closed (name, none) r

def bindings (cs : List Char) : List Binding :=
  match cs.dropWhile Text.isBlank with
  | [] => []
  | c :: r =>
    let (bound, rest) := binding? (c :: r)
    if rest.length < cs.length then bound.toList ++ bindings rest else bound.toList
termination_by cs.length

def expand (lookup : String → Option String) (skip : Nat) : List Char → List Char
  | [] => []
  | c :: cs => match skip with
    | n + 1 => expand lookup n cs
    | 0 => match c :: cs with
      | '$' :: '{' :: r =>
        let (inner, rest) := r.span (· != '}')
        let (name, tail) := inner.span (· != ':')
        let value (default : List Char) : List Char :=
          match lookup (String.ofList name) with
          | some v => v.toList
          | none => default
        match rest, tail with
        | '}' :: _, [] => value [] ++ expand lookup (inner.length + 2) cs
        | '}' :: _, ':' :: '-' :: d => value d ++ expand lookup (inner.length + 2) cs
        | _, _ => c :: expand lookup 0 cs
      | _ => c :: expand lookup 0 cs

/-- Bind one more name on top of those of an environment and those bound before, which count first.
A name without a value unbinds what was bound before. -/
def bind (environment : Assoc String) (vars : Assoc (Option String)) (b : Binding) :
    Assoc (Option String) :=
  let lookup (k : String) : Option String :=
    match vars.get? k with
    | some v => some (v.getD "")
    | none => environment.get? k
  vars.put (String.ofList b.1) (b.2.map fun v => String.ofList (expand lookup 0 v))

/-- The characters of a file without the byte order mark that it may start with. -/
def fileChars (file : String) : List Char :=
  match file.toList with
  | '\ufeff' :: cs => cs
  | cs => cs

/-- The variables of a file, given those of the environment. -/
def read (environment : Assoc String) (file : String) : Assoc String :=
  ((bindings (unifyLines (fileChars file))).foldl (bind environment) []).filterMap fun (name, value) =>
    value.map (name, ·)

end ChatFlow.EnvFile
