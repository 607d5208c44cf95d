import DruidPanels.Http.MediaType
import DruidPanels.Http.Path
import DruidPanels.Service

/-! # The HTTP face

Each operation of the service has a route. A request is answered in steps, each of
which can end it: the route and the method, the shape of the path or the body, the
API key, and at last the operation itself, which alone talks to the broker. -/

namespace DruidPanels

structure HttpRequest where
  method : String
  target : String
  headers : List (String × String)
  body : String
deriving DecidableEq, Repr

namespace HttpRequest

/-- The first header of a name, which may be written in any case. -/
def header? (r : HttpRequest) (name : String) : Option String :=
  (r.headers.find? fun h => Text.equalsIgnoringCase h.1 name).map (·.2)

/-- A character that a header can be read with: visible ASCII, the space and the tab. -/
def isVisible (c : Char) : Bool := c = '\t' || (0x20 ≤ c.toNat && c.toNat < 0x7F)

/-- The first header of a name, if it can be read. -/
def readableHeader? (r : HttpRequest) (name : String) : Option String :=
  (r.header? name).filter fun value => value.toList.all isVisible

/-- The body is announced as JSON. -/
def announcesJson (r : HttpRequest) : Bool :=
  match (r.readableHeader? "content-type").bind MediaType.parse? with
  | some type => type.isJson
  | none => false

end HttpRequest

/-- An answer: its status, and its text if that is JSON. -/
structure HttpAnswer where
  status : Nat
  text : Option String
deriving DecidableEq, Repr

namespace HttpAnswer

/-- An answer without a JSON text. -/
def bare (status : Nat) : HttpAnswer := ⟨status, none⟩

def ofJson (value : Json) : HttpAnswer := ⟨200, some value.text⟩

def ofError (e : ServiceError) : HttpAnswer :=
  ⟨e.status, some (Json.obj [("error", .str e.message)]).text⟩

/-- The answer to a request for the head alone: a text is left out. -/
def head (a : HttpAnswer) : HttpAnswer := { a with text := a.text.map fun _ => "" }

end HttpAnswer

inductive Route where
  | health
  | testConnection
  | listDataSources
  /-- The description of the datasource of a segment. -/
  | describe (segment : List Char)
  | query
  | filterValues
deriving DecidableEq, Repr

namespace Route

def ofPath? (path : List Char) : Option Route :=
  if path = "/healthz".toList then some .health
  else if path = "/api/test".toList then some .testConnection
  else if path = "/api/datasources".toList then some .listDataSources
  else if path = "/api/query".toList then some .query
  else if path = "/api/filter-values".toList then some .filterValues
  else
    match Text.after? "/api/datasources/".toList path with
    | some segment => if segment.isEmpty || segment.contains '/' then none else some (.describe segment)
    | none => none

/-- The route takes a body. -/
def takesBody : Route → Bool
  | .query => true
  | .filterValues => true
  | _ => false

/-- The route can be asked by a method. -/
def allows (route : Route) (method : String) : Bool :=
  if route.takesBody then method = "POST" else method = "GET" || method = "HEAD"

end Route

/-- The HTTP face of a service, perhaps behind an API key. -/
structure Server where
  apiKey : Option String
  service : Service

namespace Server

/-- The request carries the API key, if there is one. -/
def admits (s : Server) (r : HttpRequest) : Bool :=
  match s.apiKey with
  | none => true
  | some key => r.readableHeader? "x-api-key" = some key

/-- The answer that an operation leads to. -/
def settle (operation : Session Json) : Session HttpAnswer :=
  tryCatch (HttpAnswer.ofJson <$> operation) fun
    | .error e => return .ofError e
    | .abort => throw .abort

/-- Runs an operation for a request that carries the API key. -/
def guarded (s : Server) (r : HttpRequest) (operation : Session Json) : Session HttpAnswer :=
  settle (if s.admits r then operation else throw (.error .auth))

/-- The most bytes that a body may have: two times 1024 times 1024. -/
def bodyLimit : Nat := 2097152

/-- Reads the body of a request, or answers at once. What follows the first value of
the body does not matter. -/
def readBody {α : Type} (decode : Decoder α) (r : HttpRequest) : Except HttpAnswer α :=
  if !r.announcesJson then .error (.bare 415)
  else if bodyLimit < r.body.utf8ByteSize then .error (.bare 413)
  else
    match decode (Draft.ofText r.body) with
    | .ok value => .ok value
    | .error .malformed => .error (.bare 400)
    | .error .misshapen => .error (.bare 422)

def withBody {α : Type} (s : Server) (decode : Decoder α) (r : HttpRequest)
    (operation : α → Session Json) : Session HttpAnswer :=
  match readBody decode r with
  | .ok value => s.guarded r (operation value)
  | .error answer => return answer

/-- A panel's series as the dashboard takes them. -/
def seriesJson (series : List Series) : Json := .obj [("data", .arr (series.map Series.toJson))]

def serve (s : Server) (r : HttpRequest) : Route → Session HttpAnswer
  | .health => return .ofJson (.obj [("status", .str "ok")])
  | .testConnection => s.guarded r (ConnectionStatus.toJson <$> Service.testConnection)
  | .listDataSources => s.guarded r (Json.ofTexts <$> Service.listDataSources)
  | .describe segment =>
    match RequestPath.decode? segment with
    | some name => s.guarded r (Service.describe name)
    | none => return .bare 400
  | .query => s.withBody PanelQuery.decoder r fun panel => seriesJson <$> s.service.query panel
  | .filterValues => s.withBody FilterLookup.decoder r s.service.filterValues

def answer (s : Server) (r : HttpRequest) : Session HttpAnswer :=
  match Route.ofPath? (RequestPath.ofTarget r.target) with
  | none => return .bare 404
  | some route =>
    if !route.allows r.method then return .bare 405
    else if r.method = "HEAD" then HttpAnswer.head <$> s.serve r route
    else s.serve r route

end Server

end DruidPanels
