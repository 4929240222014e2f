import SpanRules.Attribute.Basic
import SpanRules.Table

/-! # Tries of phrases

A trie keeps phrases as paths from its first node. Paths with a common beginning share its nodes,
and a node once made stays.
-/

namespace SpanRules

/-- A node of a trie. -/
structure TrieNode where
  /-- The nodes one text further. -/
  children : Table TextId Nat := .empty
  /-- The keys of the phrases that end here, in the order of their entry. -/
  terminals : List TextId := []

/-- The nodes of a trie, the root first. -/
structure Trie where
  nodes : Array TrieNode := #[{}]

namespace Trie

def size (t : Trie) : Nat :=
  t.nodes.size

/-- The node one text further. -/
def child? (t : Trie) (node : Nat) (id : TextId) : Option Nat :=
  t.nodes[node]?.bind fun n => n.children.find? id

/-- The keys that end at a node. -/
def terminalsAt (t : Trie) (node : Nat) : List TextId :=
  (t.nodes[node]?.map (·.terminals)).getD []

/-- Makes a new node one text further. -/
def grow (t : Trie) (node : Nat) (id : TextId) : Trie where
  nodes := (t.nodes.push {}).modify node fun n =>
    { n with children := n.children.insert id t.nodes.size }

/-- Lets a key end at a node, once. -/
def terminate (t : Trie) (node : Nat) (key : TextId) : Trie where
  nodes := t.nodes.modify node fun n =>
    if key ∈ n.terminals then n else { n with terminals := n.terminals ++ [key] }

/-- Enters a phrase below a node. -/
def insertAt (t : Trie) (key : TextId) (node : Nat) : List TextId → Trie
  | [] => t.terminate node key
  | id :: rest =>
    match t.child? node id with
    | some child => t.insertAt key child rest
    | none => (t.grow node id).insertAt key t.size rest

def insert (t : Trie) (key : TextId) (phrase : List TextId) : Trie :=
  t.insertAt key 0 phrase

def insertAll (t : Trie) (key : TextId) (phrases : List (List TextId)) : Trie :=
  phrases.foldl (·.insert key ·) t

/-- Lets a key end nowhere. -/
def forget (t : Trie) (key : TextId) : Trie where
  nodes := t.nodes.map fun n => { n with terminals := n.terminals.filter (· ≠ key) }

end Trie

end SpanRules
