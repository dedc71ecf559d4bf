import Outreach.Text.Quoted

set_option autoImplicit false

namespace Outreach

-- How many ids of each kind have been given out. Campaigns and stored steps share one count.
structure Supply where
  nodes : Nat
  edges : Nat
  graphs : Nat
  sessions : Nat
  records : Nat
  deriving DecidableEq, Repr

namespace Supply

def initial : Supply := { nodes := 0, edges := 0, graphs := 0, sessions := 0, records := 0 }

def id (kind : String) (width n : Nat) : String := kind ++ String.ofList (Text.hex width n)

def nodeId (n : Nat) : String := id "node_" 8 n

def edgeId (n : Nat) : String := id "edge_" 8 n

def graphId (n : Nat) : String := id "wf_" 8 n

def sessionId (n : Nat) : String := id "sess_" 12 n

def campaignId (n : Nat) : String := id "camp_" 8 n

def stepId (n : Nat) : String := id "step_" 8 n

def node (supply : Supply) : String × Supply :=
  (nodeId (supply.nodes + 1), { supply with nodes := supply.nodes + 1 })

def edge (supply : Supply) : String × Supply :=
  (edgeId (supply.edges + 1), { supply with edges := supply.edges + 1 })

def graph (supply : Supply) : String × Supply :=
  (graphId (supply.graphs + 1), { supply with graphs := supply.graphs + 1 })

def session (supply : Supply) : String × Supply :=
  (sessionId (supply.sessions + 1), { supply with sessions := supply.sessions + 1 })

def campaign (supply : Supply) : String × Supply :=
  (campaignId (supply.records + 1), { supply with records := supply.records + 1 })

def step (supply : Supply) : String × Supply :=
  (stepId (supply.records + 1), { supply with records := supply.records + 1 })

end Supply

end Outreach
