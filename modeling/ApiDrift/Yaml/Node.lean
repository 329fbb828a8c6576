import ApiDrift.Yaml.Tag
import ApiDrift.Yaml.Token.Stream
import ApiDrift.Document

/-!
# Nodes of a markup text

The tree of scalars and collections with their tags and places. An alias stands for the node of its
anchor; inside that very node it only says what is around it.
-/

namespace ApiDrift.Yaml

inductive Node where
  | scalar (tag value : String) (place : Cursor)
  | seq (tag : String) (items : List Node) (place : Cursor)
  | map (tag : String) (entries : List (Node × Node)) (place : Cursor)
  /-- The collection around this place. -/
  | around (shape : Shape) (tag : String) (place : Cursor)

namespace Node

def tag : Node → String
  | scalar t _ _ => t
  | seq t _ _ => t
  | map t _ _ => t
  | around _ t _ => t

def place : Node → Cursor
  | scalar _ _ p => p
  | seq _ _ p => p
  | map _ _ p => p
  | around _ _ p => p

/-- What a node is called. -/
def kind : Node → String
  | scalar .. => "scalar"
  | seq .. => "sequence"
  | map .. => "mapping"
  | around .sequence .. => "sequence"
  | around .mapping .. => "mapping"

/-- The node of an empty place. -/
def empty (place : Cursor) : Node := scalar Tag.null "" place

end Node
end ApiDrift.Yaml
