import ChatFlow.Json.Reader
import ChatFlow.Workflow.Basic
import ChatFlow.Workflow.Decode

/-!
# Workflow definitions

A definition is a JSON object: either the root node itself, or an object with the root under
`tree` and perhaps a `name`. `Workflow.ofDefinition` checks it, indexes its nodes, and warns of
jumps whose target is not in the index. `Workflow.ofFile` does the same for the bytes of a file.
-/

namespace ChatFlow.Workflow

/-- The words for a value by which a step is looked up; null looks up nothing. -/
def reference? : Json → Option String
  | .null => none
  | v => some v.words

def jumpTarget (n : Node) : Json := (n.data.get? "stepId").getD .null

/-- Whether a node is a jump to a step that is not in the index. -/
def jumpsAstray (w : Workflow) (n : Node) : Bool :=
  n.kind = .jump && (w.lookup? (reference? (jumpTarget n))).isNone

def astrayWarning (n : Node) : Log.Entry :=
  .plain .workflow .warning ("Jump step " ++ Text.quotedOption n.id ++
    " points to unknown step " ++ (jumpTarget n).display)

def jumpWarnings (w : Workflow) : List Log.Entry :=
  (w.root.nodes.filter w.jumpsAstray).map astrayWarning

/-- What is logged about a workflow once it is built. -/
def report (w : Workflow) : List Log.Entry :=
  (if w.entry?.isNone then
    [.plain .workflow .warning
      ("Workflow " ++ Text.quoted w.name ++ " has no steps under its root")]
  else []) ++ jumpWarnings w ++
    [.plain .workflow .info ("Loaded workflow " ++ Text.quoted w.name ++ " with " ++
      toString w.index.length ++ " indexed steps")]

def ofRoot (root : Node) (strict : Bool) (name : String) :
    Except Fault (Workflow × List Log.Entry) :=
  match h : index? root strict with
  | .error f => .error f
  | .ok (ix, log) =>
    let w : Workflow := ⟨root, ix, name, mem_of_get?_index? h⟩
    .ok (w, log ++ w.report)

/-- The name of a workflow: the one given, or the one that the definition has. -/
def nameOf (given : Option String) (definition : Json) : String :=
  match given with
  | some s => if s.isEmpty then own else s
  | none => own
where
  own : String := match definition.field? "name" with
    | some v => v.words
    | none => "workflow"

def ofDefinition (definition : Json) (strict : Bool) (name : Option String) :
    Except Fault (Workflow × List Log.Entry) :=
  match definition with
  | .obj fields =>
    match (Assoc.get? fields "tree").getD definition with
    | .obj tree =>
      match Node.decode (.obj tree) with
      | .ok root => ofRoot root strict (nameOf name definition)
      | .bad i is => .error (.malformed (i :: is))
    | _ => .error (.unloadable "Workflow 'tree' must be an object")
  | v => .error (.unloadable ("Workflow definition must be an object, got " ++ v.kindName))

/-- A file name without its last suffix. A point at the start or at the end begins none. -/
def stem (fileName : String) : String :=
  let cs := (fileName.toList.reverse.takeWhile (· != '/')).reverse
  let suffix := cs.reverse.takeWhile (· != '.')
  let rest := cs.take (cs.length - suffix.length - 1)
  if suffix.isEmpty || rest.isEmpty || suffix.length == cs.length then String.ofList cs
  else String.ofList rest

/-- Load the bytes of a file, or report that there are none to read. The workflow is named after
the file. -/
def ofFile (fileName : String) (content : Option (List UInt8)) (strict : Bool) :
    Except Fault (Workflow × List Log.Entry) :=
  match content with
  | none => .error (.unloadable "Cannot read workflow file")
  | some bytes => match Text.ofUtf8? bytes with
    | none => .error .notText
    | some cs => match Json.read (String.ofList cs) with
      | .ok definition => ofDefinition definition strict (some (stem fileName))
      | .error .notJson => .error (.unloadable "not valid JSON")
      | .error f => .error f

end ChatFlow.Workflow
