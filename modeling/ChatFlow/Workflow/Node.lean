import ChatFlow.Json

/-!
# Workflow nodes

A workflow is a tree of steps. A node has a kind, which says what running it does, and a payload
that only that kind understands. Some kinds are no steps but tags on the branches below one:
`Node.outcome?` finds the branch of a tag. `Node.preorder` lists a tree from the root, each node
before its children; `Node.nodes` is the same list, made with a stack of the trees that are left.
-/

namespace ChatFlow

inductive NodeKind where
  | question
  | branch
  | ifCondition
  | elseCondition
  | action
  | httpRequest
  | dateTime
  | assignTo
  | jump
  /-- Tags on branches: how the step above them came out. -/
  | validAnswer
  | invalidAnswer
  | validDateTime
  | validAssignTo
  /-- A kind without a rule of its own; running it goes on to its first child. -/
  | other (name : String)
  deriving DecidableEq, Repr

namespace NodeKind

def name : NodeKind → String
  | question => "QuestionStep"
  | branch => "BranchStep"
  | ifCondition => "IfCondition"
  | elseCondition => "ElseCondition"
  | action => "ActionStep"
  | httpRequest => "HttpRequestStep"
  | dateTime => "DateTimeStep"
  | assignTo => "AssignToStep"
  | jump => "JumpStep"
  | validAnswer => "ValidAnswer"
  | invalidAnswer => "InvalidAnswer"
  | validDateTime => "ValidDateTime"
  | validAssignTo => "ValidAssignTo"
  | other s => s

def known : List NodeKind :=
  [question, branch, ifCondition, elseCondition, action, httpRequest, dateTime, assignTo, jump,
    validAnswer, invalidAnswer, validDateTime, validAssignTo]

def ofName (s : String) : NodeKind := (known.find? fun k => k.name == s).getD (other s)

theorem name_ofName (s : String) : (ofName s).name = s := by
  unfold ofName
  cases h : known.find? fun k => k.name == s with
  | none => rfl
  | some k => simpa using List.find?_some h

end NodeKind

structure Node where
  id : Option String
  kind : NodeKind
  data : Assoc Json
  children : List Node

namespace Node

def firstChild? (n : Node) : Option Node := n.children.head?

/-- The first child with a tag. -/
def outcome? (n : Node) (tag : NodeKind) : Option Node := n.children.find? (·.kind = tag)

/-- The step below the branch of a tag. -/
def after? (n : Node) (tag : NodeKind) : Option Node := (n.outcome? tag).bind firstChild?

mutual

/-- A tree, each node before its children, and these from left to right. -/
def preorder : Node → List Node
  | ⟨id, kind, data, children⟩ => ⟨id, kind, data, children⟩ :: preorderAll children

def preorderAll : List Node → List Node
  | [] => []
  | n :: ns => preorder n ++ preorderAll ns

end

mutual

/-- The number of nodes. -/
def size : Node → Nat
  | ⟨_, _, _, children⟩ => sizeAll children + 1

def sizeAll : List Node → Nat
  | [] => 0
  | n :: ns => size n + sizeAll ns

end

/-- Put the children of a node on a stack, from the last one to the first. -/
def pushChildren (n : Node) (stack : List Node) : List Node :=
  n.children.reverse.foldl (fun stack c => c :: stack) stack

theorem pushChildren_eq (n : Node) (stack : List Node) :
    n.pushChildren stack = n.children ++ stack := by
  simp [pushChildren]

theorem sizeAll_append (ns ms : List Node) : sizeAll (ns ++ ms) = sizeAll ns + sizeAll ms := by
  induction ns with
  | nil => simp [sizeAll]
  | cons n ns ih => rw [List.cons_append, sizeAll, sizeAll, ih, Nat.add_assoc]

/-- Walk through the trees on a stack: the root of the upper one comes next, and its children take
its place, the first one on top. -/
@[semireducible]
def walk : List Node → List Node
  | [] => []
  | n :: stack => n :: walk (n.pushChildren stack)
termination_by stack => sizeAll stack
decreasing_by
  rw [pushChildren_eq, sizeAll_append]
  cases n; simp [sizeAll, size]

/-- The nodes of a tree, in the order of a walk. -/
def nodes (n : Node) : List Node := walk [n]

mutual

/-- The number of nodes on the longest way down. -/
def height : Node → Nat
  | ⟨_, _, _, children⟩ => heightAll children + 1

def heightAll : List Node → Nat
  | [] => 0
  | n :: ns => max (height n) (heightAll ns)

end

/-- The id of a node in a message. -/
def label (n : Node) : String := n.id.getD "None"

theorem preorder_eq (n : Node) : n.preorder = n :: preorderAll n.children := by
  cases n; rw [preorder]

theorem preorderAll_eq_flatMap (ns : List Node) : preorderAll ns = ns.flatMap preorder := by
  induction ns with
  | nil => rfl
  | cons n ns ih => rw [preorderAll, ih, List.flatMap_cons]

/-- A walk lists the trees on its stack one after the other. -/
theorem walk_eq_preorderAll (stack : List Node) : walk stack = preorderAll stack := by
  fun_induction walk stack with
  | case1 => rfl
  | case2 n stack ih =>
    rw [ih, pushChildren_eq, preorderAll, preorder_eq, preorderAll_eq_flatMap,
      preorderAll_eq_flatMap, preorderAll_eq_flatMap, List.flatMap_append, List.cons_append]

theorem nodes_eq_preorder (n : Node) : n.nodes = n.preorder := by
  rw [nodes, walk_eq_preorderAll, preorderAll, preorderAll, List.append_nil]

theorem mem_preorder_self (n : Node) : n ∈ n.preorder := by
  rw [preorder_eq]; exact List.mem_cons_self

/-- The nodes of a tree are the root and the nodes of its children's trees. -/
theorem mem_preorder {n m : Node} :
    m ∈ n.preorder ↔ m = n ∨ ∃ c ∈ n.children, m ∈ c.preorder := by
  rw [preorder_eq, preorderAll_eq_flatMap]; simp

theorem mem_preorder_of_child {n c m : Node} (hc : c ∈ n.children) (hm : m ∈ c.preorder) :
    m ∈ n.preorder :=
  mem_preorder.mpr (Or.inr ⟨c, hc, hm⟩)

theorem height_eq (n : Node) : n.height = heightAll n.children + 1 := by
  cases n; rw [height]

theorem height_le_heightAll {ns : List Node} {c : Node} (h : c ∈ ns) : c.height ≤ heightAll ns := by
  induction ns with
  | nil => cases h
  | cons n ns ih =>
    rw [heightAll]
    rcases List.mem_cons.mp h with rfl | h
    · exact Nat.le_max_left ..
    · exact Nat.le_trans (ih h) (Nat.le_max_right ..)

theorem height_lt_of_child {n c : Node} (h : c ∈ n.children) : c.height < n.height := by
  rw [height_eq n]; exact Nat.lt_succ_of_le (height_le_heightAll h)

theorem height_pos (n : Node) : 0 < n.height := by rw [height_eq]; exact Nat.succ_pos _

theorem mem_children_of_firstChild? {n c : Node} (h : n.firstChild? = some c) : c ∈ n.children :=
  List.mem_of_head? h

theorem mem_children_of_outcome? {n c : Node} {tag : NodeKind} (h : n.outcome? tag = some c) :
    c ∈ n.children :=
  List.mem_of_find?_eq_some h

/-- A node stays in the tree it is taken from. -/
theorem mem_preorder_trans {n m k : Node} (hm : m ∈ n.preorder) (hk : k ∈ m.preorder) :
    k ∈ n.preorder := by
  match n with
  | ⟨id, kind, data, children⟩ =>
    rcases mem_preorder.mp hm with rfl | ⟨c, hc, hm⟩
    · exact hk
    · have : sizeOf c < sizeOf (Node.mk id kind data children) := by
        have := List.sizeOf_lt_of_mem hc; simp at *; omega
      exact mem_preorder_of_child hc (mem_preorder_trans hm hk)
termination_by sizeOf n

theorem height_le_of_mem_preorder {n m : Node} (hm : m ∈ n.preorder) : m.height ≤ n.height := by
  match n with
  | ⟨id, kind, data, children⟩ =>
    rcases mem_preorder.mp hm with rfl | ⟨c, hc, hm⟩
    · exact Nat.le_refl _
    · have : sizeOf c < sizeOf (Node.mk id kind data children) := by
        have := List.sizeOf_lt_of_mem hc; simp at *; omega
      exact Nat.le_trans (height_le_of_mem_preorder hm) (Nat.le_of_lt (height_lt_of_child hc))
termination_by sizeOf n

end Node

end ChatFlow
