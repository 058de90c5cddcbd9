/-!
# Header descriptions

A header is described as a tree: leaves list the ids of the columns they stand
over, groups hold further nodes.
-/

namespace RecordGrid

structure HeaderNode where
  label : String := ""
  columns : Option (List String) := none
  children : Option (List HeaderNode) := none

namespace HeaderNode

/-- The ids a node lists itself. -/
def ownIds (n : HeaderNode) : List String := n.columns.getD []

def kids (n : HeaderNode) : List HeaderNode := n.children.getD []

def hasChildren (n : HeaderNode) : Bool := !n.kids.isEmpty

end HeaderNode

end RecordGrid
