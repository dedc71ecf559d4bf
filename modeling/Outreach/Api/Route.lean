import Outreach.Text.Blank

set_option autoImplicit false

namespace Outreach

inductive Endpoint where
  | health
  | definitions
  | definition (type : String)
  | templateVariables
  | conditionTypes
  | openSession
  | showSession (session : String)
  | closeSession (session : String)
  | rename (session : String)
  | addNode (session : String)
  | updateConfig (session node : String)
  | updatePosition (session node : String)
  | deleteNode (session node : String)
  | insertVariable (session node : String)
  | connect (session : String)
  | deleteEdge (session edge : String)
  | select (session : String)
  | validity (session : String)
  | compile (session : String)
  | save (session : String)
  deriving DecidableEq, Repr

inductive Destination where
  | endpoint (endpoint : Endpoint)
  | redirect
  | unknownPath
  | unknownMethod
  deriving DecidableEq, Repr

namespace Endpoint

def inSession (session : String) : List String → List (String × Endpoint)
  | [] => [("GET", .showSession session), ("DELETE", .closeSession session),
      ("PATCH", .rename session)]
  | ["nodes"] => [("POST", .addNode session)]
  | ["nodes", node] => [("DELETE", .deleteNode session node)]
  | ["nodes", node, "config"] => [("PATCH", .updateConfig session node)]
  | ["nodes", node, "position"] => [("PATCH", .updatePosition session node)]
  | ["nodes", node, "variables"] => [("POST", .insertVariable session node)]
  | ["edges"] => [("POST", .connect session)]
  | ["edges", edge] => [("DELETE", .deleteEdge session edge)]
  | ["selection"] => [("PUT", .select session)]
  | ["validity"] => [("GET", .validity session)]
  | ["compile"] => [("POST", .compile session)]
  | ["save"] => [("POST", .save session)]
  | _ => []

def atParts : List String → List (String × Endpoint)
  | ["health"] => [("GET", .health)]
  | ["api", "step-definitions"] => [("GET", .definitions)]
  | ["api", "step-definitions", type] => [("GET", .definition type)]
  | ["api", "template-variables"] => [("GET", .templateVariables)]
  | ["api", "condition-types"] => [("GET", .conditionTypes)]
  | ["api", "editor", "sessions"] => [("POST", .openSession)]
  | "api" :: "editor" :: "sessions" :: session :: rest => inSession session rest
  | _ => []

def betweenSlashes : List Char → List (List Char)
  | [] => [[]]
  | c :: rest =>
    match c == '/', betweenSlashes rest with
    | true, parts => [] :: parts
    | false, part :: parts => (c :: part) :: parts
    | false, [] => [[c]]

def pathParts (s : String) : List String := (betweenSlashes s.toList).map String.ofList

def dropLineFeed (parts : List String) : List String :=
  match parts.reverse with
  | last :: others =>
    match last.toList.reverse with
    | '\n' :: rest => (String.ofList rest.reverse :: others).reverse
    | _ => parts
  | [] => parts

-- What a path stands for, by method. No part of it may be empty. A line feed at the end does not
-- count unless it belongs to the name of something.
def atPath (path : String) : List (String × Endpoint) :=
  match pathParts path with
  | "" :: parts =>
    if parts.any String.isEmpty then []
    else
      match atParts parts with
      | [] => atParts (dropLineFeed parts)
      | endpoints => endpoints
  | _ => []

end Endpoint

def Destination.find (method path : String) : Destination :=
  match Endpoint.atPath path with
  | [] =>
    if path.endsWith "/" && !(Endpoint.atPath (Text.dropSlashes path)).isEmpty then .redirect
    else .unknownPath
  | endpoints =>
    match endpoints.lookup method with
    | some found => .endpoint found
    | none => .unknownMethod

end Outreach
