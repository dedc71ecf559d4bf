import Outreach.Graph.Basic
import Outreach.Graph.Walk

set_option autoImplicit false

namespace Outreach

structure Fallback where
  cycleEntries : List String
  unreachable : List String
  deriving DecidableEq, Repr

structure Linearization where
  order : List Node
  fallback : Fallback

namespace Fallback

def isEmpty (fallback : Fallback) : Bool :=
  fallback.cycleEntries.isEmpty && fallback.unreachable.isEmpty

end Fallback

namespace Graph

def lastNode (graph : Graph) (id : String) : Option Node := graph.nodes.reverse.find? (·.id == id)

def hasNode (graph : Graph) (id : String) : Bool := graph.nodes.any (·.id == id)

def links (graph : Graph) : Links :=
  (graph.edges.filter fun edge => graph.hasNode edge.source && graph.hasNode edge.target).map
    fun edge => (edge.source, edge.target)

-- The finished walk. Every node takes at most two steps: it is entered or enqueued once, and
-- emitted once.
def walk (graph : Graph) (entry : String) : Walk :=
  (Walk.start entry).run graph.links (2 * graph.nodes.length)

def linearize (graph : Graph) (entry : Node) : Linearization :=
  let walk := graph.walk entry.id
  let unreached := graph.nodes.filter fun node => !walk.visited.contains node.id
  { order := walk.emitted.filterMap graph.lastNode ++ unreached
    fallback := { cycleEntries := walk.cycleEntries, unreachable := unreached.map (·.id) } }

end Graph

end Outreach
