import DruidPanels.Http.Server
import DruidPanels.Proofs.FanOut

/-! # Routed requests

Before the API key is looked at, a request is routed and read, and that either leads to an
operation of the service or ends in an answer at once (`routed`). What follows is the same
for all routes: the answer at once, the refusal of a missing key, or the outcome of the
operation, whose exchange with the broker is that of the request (`exchange_answer`). -/

namespace DruidPanels

/-- What can be asked of a service. -/
inductive Operation where
  | testConnection
  | listDataSources
  | describe (name : String)
  | query (panel : PanelQuery)
  | filterValues (lookup : FilterLookup)

namespace Operation

/-- Carries out an operation, and gives its result as it is sent. -/
def perform (s : Service) : Operation → Session Json
  | testConnection => ConnectionStatus.toJson <$> Service.testConnection
  | listDataSources => Json.ofTexts <$> Service.listDataSources
  | describe name => Service.describe name
  | query panel => Server.seriesJson <$> s.query panel
  | filterValues lookup => s.filterValues lookup

end Operation

namespace Operation

open Session

theorem appends_perform (s : Service) (op : Operation) : (op.perform s).Appends := by
  cases op with
  | testConnection =>
    exact appends_map (appends_bind (appends_send _) fun _ => appends_pure _) _
  | listDataSources =>
    exact appends_map (appends_bind (appends_send _) fun _ => appends_ofExcept _) _
  | describe name =>
    simp only [perform, Service.describe]
    split
    · exact appends_send _
    · exact appends_ofExcept (.error _)
  | query panel => exact appends_map (s.appends_query panel) _
  | filterValues lookup =>
    exact appends_bind (appends_ofExcept _) fun spec => s.appends_ask spec

end Operation

/-- The request asks for nothing but a sign of life. -/
def HttpRequest.AsksHealth (r : HttpRequest) : Prop :=
  RequestPath.ofTarget r.target = "/healthz".toList ∧ (r.method = "GET" ∨ r.method = "HEAD")

instance (r : HttpRequest) : Decidable r.AsksHealth :=
  inferInstanceAs (Decidable (_ ∧ _))

namespace Server

/-! ## Up to the key -/

/-- What a route makes of a request: an operation, or an answer at once. -/
def read (r : HttpRequest) : Route → Except HttpAnswer Operation
  | .health => .error (.ofJson (.obj [("status", .str "ok")]))
  | .testConnection => .ok .testConnection
  | .listDataSources => .ok .listDataSources
  | .describe segment =>
    match RequestPath.decode? segment with
    | some name => .ok (.describe name)
    | none => .error (.bare 400)
  | .query => (readBody PanelQuery.decoder r).map .query
  | .filterValues => (readBody FilterLookup.decoder r).map .filterValues

/-- What becomes of a request before its key counts. -/
def routed (r : HttpRequest) : Except HttpAnswer Operation :=
  match Route.ofPath? (RequestPath.ofTarget r.target) with
  | none => .error (.bare 404)
  | some route => if route.allows r.method then read r route else .error (.bare 405)

theorem ofPath?_eq_health_iff (path : List Char) :
    Route.ofPath? path = some .health ↔ path = "/healthz".toList := by
  unfold Route.ofPath?
  by_cases hpath : path = "/healthz".toList
  · rw [if_pos hpath]
    exact iff_of_true rfl hpath
  · rw [if_neg hpath]
    refine iff_of_false ?_ hpath
    -- every other branch leads to another route or to none
    repeat' split
    all_goals nofun

/-- The statuses of requests that are turned away as they stand, whatever their key. -/
def turnedAway : List Nat := [400, 404, 405, 413, 415, 422]

theorem map_readBody_eq_error {α : Type} {decode : Decoder α} {toOperation : α → Operation}
    {r : HttpRequest} {a : HttpAnswer} (h : (readBody decode r).map toOperation = .error a) :
    ∃ status ∈ turnedAway, a = .bare status := by
  unfold readBody at h
  split at h
  · cases h
    exact ⟨415, by decide, rfl⟩
  · split at h
    · cases h
      exact ⟨413, by decide, rfl⟩
    · split at h
      · cases h
      · cases h
        exact ⟨400, by decide, rfl⟩
      · cases h
        exact ⟨422, by decide, rfl⟩

theorem routed_of_asksHealth {r : HttpRequest} (h : r.AsksHealth) :
    routed r = .error (.ofJson (.obj [("status", .str "ok")])) := by
  obtain ⟨hpath, hmethod⟩ := h
  have hallowed : Route.health.allows r.method = true := by
    rcases hmethod with hget | hhead
    · rw [hget]
      rfl
    · rw [hhead]
      rfl
  rw [routed, (ofPath?_eq_health_iff _).mpr hpath]
  simp only [hallowed, if_true]
  rfl

/-- An answer at once turns the request away without a text, unless a sign of life was
asked for. -/
theorem routed_eq_error {r : HttpRequest} {a : HttpAnswer} (hhealth : ¬ r.AsksHealth)
    (h : routed r = .error a) : ∃ status ∈ turnedAway, a = .bare status := by
  unfold routed at h
  split at h
  · cases h
    exact ⟨404, by decide, rfl⟩
  · next route hroute =>
    split at h
    · next hallowed =>
      cases route with
      | health =>
        refine absurd ⟨(ofPath?_eq_health_iff _).mp hroute, ?_⟩ hhealth
        simpa [Route.allows, Route.takesBody] using hallowed
      | testConnection | listDataSources => cases h
      | describe segment =>
        simp only [read] at h
        split at h
        · cases h
        · cases h
          exact ⟨400, by decide, rfl⟩
      | query => exact map_readBody_eq_error h
      | filterValues => exact map_readBody_eq_error h
    · cases h
      exact ⟨405, by decide, rfl⟩

/-- An answer as it is sent: a request for the head alone gets no text. -/
def shown (r : HttpRequest) (a : HttpAnswer) : HttpAnswer :=
  if r.method = "HEAD" then a.head else a

@[simp] theorem status_shown (r : HttpRequest) (a : HttpAnswer) : (shown r a).status = a.status := by
  unfold shown
  split <;> rfl

theorem shown_bare (r : HttpRequest) (status : Nat) : shown r (.bare status) = .bare status := by
  unfold shown
  split <;> rfl

theorem withBody_eq {α : Type} (s : Server) (decode : Decoder α) (r : HttpRequest)
    (toOperation : α → Operation) :
    s.withBody decode r (fun value => (toOperation value).perform s.service) =
      match (readBody decode r).map toOperation with
      | .ok op => s.guarded r (op.perform s.service)
      | .error a => return a := by
  unfold withBody
  cases readBody decode r <;> rfl

theorem serve_eq (s : Server) (r : HttpRequest) (route : Route) :
    s.serve r route =
      match read r route with
      | .ok op => s.guarded r (op.perform s.service)
      | .error a => return a := by
  cases route with
  | health | testConnection | listDataSources => rfl
  | describe segment =>
    simp only [serve, read]
    cases RequestPath.decode? segment <;> rfl
  | query => exact s.withBody_eq PanelQuery.decoder r .query
  | filterValues => exact s.withBody_eq FilterLookup.decoder r .filterValues

theorem answer_eq (s : Server) (r : HttpRequest) :
    s.answer r = shown r <$>
      match routed r with
      | .ok op => s.guarded r (op.perform s.service)
      | .error a => return a := by
  unfold answer routed
  cases Route.ofPath? (RequestPath.ofTarget r.target) with
  | none => simp [shown_bare]
  | some route =>
    cases hallowed : route.allows r.method with
    | false => simp [hallowed, shown_bare]
    | true =>
      simp only [hallowed, Bool.not_true, Bool.false_eq_true, if_false, if_true]
      rw [serve_eq]
      by_cases hhead : r.method = "HEAD"
      · have hshown : shown r = HttpAnswer.head := funext fun a => if_pos hhead
        rw [if_pos hhead, hshown]
      · have hshown : shown r = id := funext fun a => if_neg hhead
        rw [if_neg hhead, hshown, id_map]

/-! ## From the key on -/

/-- How an outcome is answered. Only a computation that was abandoned has no answer. -/
def settled : Except Fault Json → Except Fault HttpAnswer
  | .ok value => .ok (.ofJson value)
  | .error (.error e) => .ok (.ofError e)
  | .error .abort => .error .abort

theorem run_settle (operation : Session Json) (b : Broker) :
    (settle operation).run.run b =
      (settled (operation.run.run b).1, (operation.run.run b).2) := by
  unfold settle
  rw [Session.run_tryCatch, Session.run_map]
  obtain ⟨outcome, b'⟩ := operation.run.run b
  cases outcome with
  | ok value => rfl
  | error fault => cases fault <;> rfl

theorem exchange_settle (operation : Session Json) (waiting : List (String × BrokerReply)) :
    (settle operation).exchange waiting =
      ⟨settled (operation.exchange waiting).answer, (operation.exchange waiting).sent,
        (operation.exchange waiting).left⟩ := by
  unfold Session.exchange
  rw [run_settle]
  rfl

theorem appends_settle {operation : Session Json} (h : operation.Appends) :
    (settle operation).Appends := by
  intro b
  rw [run_settle, exchange_settle, h b]

theorem guarded_eq (s : Server) (r : HttpRequest) (operation : Session Json) :
    s.guarded r operation =
      if s.admits r then settle operation else return .ofError .auth := by
  unfold guarded
  split <;> rfl

theorem appends_answer (s : Server) (r : HttpRequest) : (s.answer r).Appends := by
  rw [answer_eq]
  refine Session.appends_map ?_ _
  split
  · next op _ =>
    rw [guarded_eq]
    split
    · exact appends_settle (op.appends_perform s.service)
    · exact Session.appends_pure _
  · exact Session.appends_pure _

/-- The exchange of a request that carries the key is that of its operation. Any other one
is answered without the broker. -/
theorem exchange_answer (s : Server) (r : HttpRequest) (waiting : List (String × BrokerReply)) :
    (s.answer r).exchange waiting =
      match routed r with
      | .error a => ⟨.ok (shown r a), [], waiting⟩
      | .ok op =>
        if s.admits r then
          let x := (op.perform s.service).exchange waiting
          ⟨(settled x.answer).map (shown r), x.sent, x.left⟩
        else ⟨.ok (shown r (.ofError .auth)), [], waiting⟩ := by
  rw [answer_eq, Session.exchange_functor_map]
  cases routed r with
  | error a => rfl
  | ok op =>
    simp only [guarded_eq]
    split
    · rw [exchange_settle]
    · rfl

end Server

end DruidPanels
