import ApiValidators.Yaml.Scalar

/-!
# YAML nodes

A node is a scalar, a collection, or an alias of a node that carries an anchor. Anchors are numbers here: `Node.tree` is
what a reader sees of a node, and `Node.anchored` are the nodes that aliases can stand for.
-/

namespace ApiValidators.Yaml

inductive Node where
  | scalar (anchor : Option Nat) (s : Scalar)
  | list (anchor : Option Nat) (tag : Option TagBytes) (items : List Node)
  | map (anchor : Option Nat) (tag : Option TagBytes) (members : List (Node × Node))
  | aliasOf (anchor : Nat)
  deriving Repr, Inhabited

namespace Node

/-- Whether a collection with a tag can stand for any value. -/
def isPlain (tag : Option TagBytes) : Bool := !tag.any Tag.isLocal

mutual

def tree : Node → Tree
  | scalar _ s => .leaf s.leaf
  | list _ tag items => .list (isPlain tag) (trees items)
  | map _ tag members => .map (isPlain tag) (treePairs members)
  | aliasOf anchor => .aliasOf anchor

def trees : List Node → List Tree
  | [] => []
  | n :: ns => tree n :: trees ns

def treePairs : List (Node × Node) → List (Tree × Tree)
  | [] => []
  | (k, v) :: rest => (tree k, tree v) :: treePairs rest

end

def underAnchor (anchor : Option Nat) (n : Node) : List (Nat × Node) := (anchor.map (·, n)).toList

mutual

/-- The nodes with an anchor, in the order in which they start. -/
def anchored : Node → List (Nat × Node)
  | scalar anchor s => underAnchor anchor (scalar anchor s)
  | list anchor tag items => underAnchor anchor (list anchor tag items) ++ anchoredItems items
  | map anchor tag members => underAnchor anchor (map anchor tag members) ++ anchoredMembers members
  | aliasOf _ => []

def anchoredItems : List Node → List (Nat × Node)
  | [] => []
  | n :: ns => anchored n ++ anchoredItems ns

def anchoredMembers : List (Node × Node) → List (Nat × Node)
  | [] => []
  | (k, v) :: rest => anchored k ++ anchored v ++ anchoredMembers rest

end

mutual

/-- How many events a node is told in: a scalar or an alias is one, a collection starts and ends. -/
def events : Node → Nat
  | scalar .. | aliasOf _ => 1
  | list _ _ items => 2 + eventsOfItems items
  | map _ _ members => 2 + eventsOfMembers members

def eventsOfItems : List Node → Nat
  | [] => 0
  | n :: ns => events n + eventsOfItems ns

def eventsOfMembers : List (Node × Node) → Nat
  | [] => 0
  | (k, v) :: rest => events k + events v + eventsOfMembers rest

end

end Node

end ApiValidators.Yaml
