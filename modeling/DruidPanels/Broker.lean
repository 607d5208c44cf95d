import DruidPanels.Fault
import DruidPanels.Json.Value

/-! # The broker

All that is known of the broker is what it was asked and what it will reply. Every
request takes the oldest reply that waits for its path. Computations that talk to
the broker keep what they did to it also when they fail. -/

namespace DruidPanels

inductive BrokerRequest where
  | get (path : String)
  | post (path : String) (body : Json)

namespace BrokerRequest

def path : BrokerRequest → String
  | .get path => path
  | .post path _ => path

end BrokerRequest

inductive BrokerReply where
  | answer (value : Json)
  | status (code : Nat) (body : String)
  | unreachable (reason : String)

namespace BrokerReply

/-- What a caller gets out of a reply. -/
def result : BrokerReply → Except Fault Json
  | .answer value => .ok value
  | .status code body => .error (.error (.brokerStatus code body))
  | .unreachable reason => .error (.error (.transport reason))

end BrokerReply

/-- The replies that wait, oldest first, each with its path, and the requests so far. -/
structure Broker where
  waiting : List (String × BrokerReply)
  requests : List BrokerRequest

namespace Broker

/-- A broker that was not asked anything and has nothing to say. -/
def idle : Broker := ⟨[], []⟩

/-- Lets more replies wait behind the others. -/
def queue (b : Broker) (replies : List (String × BrokerReply)) : Broker :=
  { b with waiting := b.waiting ++ replies }

/-- Takes the oldest reply for a path out of those that wait. -/
def take? (path : String) :
    List (String × BrokerReply) → Option (BrokerReply × List (String × BrokerReply))
  | [] => none
  | (p, reply) :: rest =>
    if p = path then some (reply, rest)
    else (take? path rest).map fun (found, rest) => (found, (p, reply) :: rest)

/-- The reply to a request for which none waits. -/
def missing (path : String) : BrokerReply := .status 404 ("no fixture for " ++ path)

/-- The reply to a request, and the broker after it. -/
def answer (b : Broker) (request : BrokerRequest) : BrokerReply × Broker :=
  let requests := b.requests ++ [request]
  match take? request.path b.waiting with
  | some (reply, waiting) => (reply, ⟨waiting, requests⟩)
  | none => (missing request.path, ⟨b.waiting, requests⟩)

end Broker

/-- A computation that may talk to the broker. -/
abbrev Session (α : Type) := ExceptT Fault (StateM Broker) α

namespace Session

/-- A computation that does not talk to the broker. -/
def ofExcept {α : Type} (result : Except Fault α) : Session α := ExceptT.mk (pure result)

def send (request : BrokerRequest) : Session Json := do
  let (reply, broker) := (← get).answer request
  set broker
  ofExcept reply.result

end Session

end DruidPanels
