import DruidPanels.Proofs.DateMath
import DruidPanels.Proofs.Routes

/-! # Who is to blame

A request is checked before the broker is asked, and the reply is read after that. So an
operation that fails by the caller's fault has sent nothing, and one that fails by the
broker's has asked it (`errors_fit_sent`). The two sides of the first request are kept
apart by what may fail there: checks only with faults of the caller, readers of replies
only with faults of the broker (`OnlyFails`). -/

namespace DruidPanels

namespace Fault

/-- A fault of a request that makes no sense. Anything may be abandoned. -/
def ofCaller : Fault → Bool
  | .error (.invalidRequest _) => true
  | .abort => true
  | _ => false

/-- A fault of the broker or of the way to it. Anything may be abandoned. -/
def ofBroker : Fault → Bool
  | .error (.transport _) => true
  | .error (.brokerStatus _ _) => true
  | .error (.unexpectedResponse _) => true
  | .abort => true
  | _ => false

end Fault

/-! ## Results that fail in one way -/

/-- The result has no other faults than these. -/
def OnlyFails {α : Type} (faults : Fault → Bool) (result : Except Fault α) : Prop :=
  ∀ f, result = .error f → faults f = true

namespace OnlyFails

variable {α β : Type} {faults : Fault → Bool}

theorem ok (a : α) : OnlyFails faults (.ok a) := nofun

theorem error {f : Fault} (h : faults f = true) : OnlyFails faults (.error f : Except Fault α) := by
  rintro _ ⟨⟩
  exact h

theorem bind {x : Except Fault α} {next : α → Except Fault β} (hx : OnlyFails faults x)
    (hnext : ∀ a, OnlyFails faults (next a)) : OnlyFails faults (x >>= next) := by
  cases x with
  | error f => exact error (hx f rfl)
  | ok a => exact hnext a

theorem map {x : Except Fault α} (hx : OnlyFails faults x) (f : α → β) :
    OnlyFails faults (x.map f) := by
  cases x with
  | error e => exact error (hx e rfl)
  | ok a => exact ok (f a)

theorem mapM {read : α → Except Fault β} (hread : ∀ a, OnlyFails faults (read a))
    (items : List α) : OnlyFails faults (items.mapM read) := by
  induction items with
  | nil => exact ok []
  | cons a rest ih =>
    rw [List.mapM_cons]
    exact bind (hread a) fun b => bind ih fun bs => ok (b :: bs)

end OnlyFails

/-! ## Checks of requests -/

theorem TimeExpression.onlyFails_resolve (now : Instant) (rounding : Rounding)
    (expression : String) : OnlyFails Fault.ofCaller (resolve now rounding expression) := by
  rw [resolve_eq]
  split
  · next t steps _ =>
    cases Step.runText rounding t steps with
    | ok s => exact .ok s
    | error fault =>
      refine OnlyFails.error ?_
      cases fault <;> rfl
  · exact OnlyFails.error rfl

theorem TimeRange.onlyFails_resolve (now : Instant) (start stop : String) :
    OnlyFails Fault.ofCaller (resolve now start stop) := by
  refine (TimeExpression.onlyFails_resolve now .down start).bind fun first => ?_
  refine (TimeExpression.onlyFails_resolve now .up stop).bind fun last => ?_
  unfold TimeRange.of
  split
  · exact .ok _
  · exact OnlyFails.error rfl

theorem Service.onlyFails_lookupSpec (s : Service) (lookup : FilterLookup) :
    OnlyFails Fault.ofCaller (s.lookupSpec lookup) := by
  unfold Service.lookupSpec
  dsimp only
  split
  · split
    · exact (TimeRange.onlyFails_resolve _ _ _).bind fun range => .ok _
    · exact OnlyFails.error rfl
  · exact OnlyFails.error rfl

/-! ## Readers of replies -/

namespace Reply

theorem onlyFails_items (queryType : String) (reply : Json) :
    OnlyFails Fault.ofBroker (items queryType reply) := by
  cases reply with
  | arr items => exact .ok items
  | null | bool | num | str | obj => exact OnlyFails.error rfl

theorem onlyFails_names (reply : Json) : OnlyFails Fault.ofBroker (names reply) := by
  cases reply with
  | arr items =>
    refine OnlyFails.mapM (fun item => ?_) items
    cases item with
    | str s => exact .ok s
    | null | bool | num | arr | obj => exact OnlyFails.error rfl
  | null | bool | num | str | obj => exact OnlyFails.error rfl

theorem onlyFails_cutToSecond (ms : Int) : OnlyFails Fault.ofBroker (Timestamp.cutToSecond ms) := by
  unfold Timestamp.cutToSecond
  dsimp only
  split
  · exact .ok _
  · exact OnlyFails.error rfl

theorem onlyFails_timed (buckets : List Json) : OnlyFails Fault.ofBroker (timed buckets) := by
  refine OnlyFails.mapM (fun bucket => ?_) buckets
  refine OnlyFails.map ?_ _
  unfold bucketTime Timestamp.ofBucket
  split
  · exact onlyFails_cutToSecond _
  · exact OnlyFails.error rfl

theorem onlyFails_timeseries (reply : Json) (metrics : List String) :
    OnlyFails Fault.ofBroker (timeseries reply metrics) :=
  (onlyFails_items _ reply).bind fun buckets => (onlyFails_timed buckets).bind fun _ => .ok _

theorem onlyFails_topN (reply : Json) (dimension metric : String) :
    OnlyFails Fault.ofBroker (topN reply dimension metric) :=
  (onlyFails_items _ reply).bind fun buckets => (onlyFails_timed buckets).bind fun _ => .ok _

theorem onlyFails_groupBy (reply : Json) (dimensions metrics : List String) :
    OnlyFails Fault.ofBroker (groupBy reply dimensions metrics) :=
  (onlyFails_items _ reply).bind fun rows => (onlyFails_timed rows).bind fun _ => .ok _

theorem onlyFails_select (reply : Json) : OnlyFails Fault.ofBroker (select reply) :=
  (onlyFails_items _ reply).bind fun _ => .ok _

theorem onlyFails_sqlTime (fallback : Int) (row : Fields) :
    OnlyFails Fault.ofBroker (sqlTime fallback row) := by
  unfold sqlTime
  dsimp only
  split
  · split
    · exact .ok _
    · exact OnlyFails.error rfl
  · split
    · exact .ok _
    · exact .ok _

theorem onlyFails_timedRow (fallback : Int) (row : Json) :
    OnlyFails Fault.ofBroker (timedRow fallback row) :=
  ((onlyFails_sqlTime fallback row.fields).bind onlyFails_cutToSecond).map _

theorem onlyFails_sql (reply : Json) (dimensions metrics : List String) (now : Instant) :
    OnlyFails Fault.ofBroker (sql reply dimensions metrics now) := by
  refine (onlyFails_items _ reply).bind fun rows => ?_
  split
  · refine OnlyFails.bind ?_ fun _ => .ok _
    exact OnlyFails.mapM (onlyFails_timedRow _) rows
  · exact OnlyFails.error rfl

theorem onlyFails_raw (body : Fields) (reply : Json) :
    OnlyFails Fault.ofBroker (raw body reply) := by
  unfold raw
  split
  · exact onlyFails_timeseries reply _
  · exact onlyFails_topN reply _ _
  · exact onlyFails_groupBy reply _ _
  · exact onlyFails_select reply
  · exact .ok []

theorem onlyFails_toSeries (spec : QuerySpec) (reply : Json) (now : Instant) :
    OnlyFails Fault.ofBroker (toSeries spec reply now) := by
  cases spec with
  | sql q => exact onlyFails_sql reply _ _ now
  | raw body => exact onlyFails_raw body reply
  | native q =>
    cases q with
    | timeseries => exact onlyFails_timeseries reply _
    | topN => exact onlyFails_topN reply _ _
    | groupBy => exact onlyFails_groupBy reply _ _
    | select => exact onlyFails_select reply

end Reply

theorem BrokerReply.onlyFails_result (reply : BrokerReply) :
    OnlyFails Fault.ofBroker reply.result := by
  cases reply with
  | answer value => exact .ok value
  | status | unreachable => exact OnlyFails.error rfl

namespace Session

variable {α β : Type}

/-! ## Sessions that fail on the right side -/

/-- A failure comes after a request, and is the broker's. -/
def AsksFirst (m : Session α) : Prop :=
  ∀ waiting f, (m.exchange waiting).answer = .error f →
    f.ofBroker = true ∧ (m.exchange waiting).sent ≠ []

/-- A failure before the first request is the caller's, and one after it the broker's. -/
def Placed (m : Session α) : Prop :=
  ∀ waiting f, (m.exchange waiting).answer = .error f →
    (f.ofCaller = true ∧ (m.exchange waiting).sent = []) ∨
      (f.ofBroker = true ∧ (m.exchange waiting).sent ≠ [])

theorem AsksFirst.placed {m : Session α} (h : m.AsksFirst) : m.Placed :=
  fun waiting f hf => .inr (h waiting f hf)

theorem asksFirst_pure (a : α) : (pure a : Session α).AsksFirst := nofun

theorem asksFirst_send (request : BrokerRequest) : (send request).AsksFirst := by
  intro waiting f h
  rw [exchange_send] at h ⊢
  exact ⟨BrokerReply.onlyFails_result _ f h, List.cons_ne_nil _ _⟩

/-- After a request the reply may be read by anything that blames the broker. -/
theorem AsksFirst.read {m : Session α} (hm : m.AsksFirst) {read : α → Except Fault β}
    (hsent : ∀ waiting, (m.exchange waiting).sent ≠ [])
    (hread : ∀ a, OnlyFails Fault.ofBroker (read a)) :
    (m >>= fun a => ofExcept (read a)).AsksFirst := by
  intro waiting f h
  rw [exchange_bind_ofExcept] at h ⊢
  refine ⟨?_, hsent waiting⟩
  cases hanswer : (m.exchange waiting).answer with
  | error e =>
    rw [hanswer] at h
    cases h
    exact (hm waiting f hanswer).1
  | ok a =>
    rw [hanswer] at h
    exact hread a f h

theorem AsksFirst.bind {m : Session α} {next : α → Session β} (hm : m.AsksFirst)
    (happends : ∀ a, (next a).Appends) (hnext : ∀ a, (next a).AsksFirst) :
    (m >>= next).AsksFirst := by
  intro waiting f h
  rw [exchange_bind m happends] at h ⊢
  have hfail := hm waiting
  generalize m.exchange waiting = x at h hfail ⊢
  obtain ⟨answer, sent, left⟩ := x
  cases answer with
  | error e =>
    cases h
    exact hfail f rfl
  | ok a =>
    obtain ⟨hbroker, hsent⟩ := hnext a left f h
    refine ⟨hbroker, ?_⟩
    change sent ++ _ ≠ []
    simp [hsent]

/-- A check before everything else. -/
theorem placed_check {check : Except Fault α} {next : α → Session β}
    (hcheck : OnlyFails Fault.ofCaller check) (hnext : ∀ a, (next a).Placed) :
    (ofExcept check >>= next).Placed := by
  cases check with
  | ok a => exact hnext a
  | error e =>
    intro waiting f h
    cases h
    exact .inl ⟨hcheck e rfl, rfl⟩

theorem Placed.map {m : Session α} (hm : m.Placed) (f : α → β) : (f <$> m).Placed := by
  intro waiting fault h
  rw [exchange_functor_map] at h ⊢
  have hplaced := hm waiting
  generalize m.exchange waiting = x at h hplaced ⊢
  obtain ⟨answer, sent, left⟩ := x
  cases answer with
  | ok a => cases h
  | error e =>
    cases h
    exact hplaced fault rfl

end Session

/-! ## Operations -/

namespace Service

open Session

variable (s : Service) (range : TimeRange) (budget : Option Nat) (vars : Variables)

theorem asksFirst_queryTarget (target : PanelTarget) :
    (s.queryTarget range budget vars target).AsksFirst := by
  rw [queryTarget_eq]
  split
  · exact asksFirst_pure []
  · refine AsksFirst.read (asksFirst_send _) (fun waiting => ?_) fun reply => ?_
    · rw [exchange_send]
      exact List.cons_ne_nil _ _
    · exact (Reply.onlyFails_toSeries _ _ _).map _

theorem asksFirst_queryTargets (targets : List PanelTarget) :
    (s.queryTargets range budget vars targets).AsksFirst := by
  induction targets with
  | nil => exact asksFirst_pure []
  | cons target rest ih =>
    have hrest := s.appends_queryTargets range budget vars rest
    refine (s.asksFirst_queryTarget range budget vars target).bind (fun _ => ?_) fun _ => ?_
    · exact appends_bind hrest fun _ => appends_pure _
    · exact ih.bind (fun _ => appends_pure _) fun _ => asksFirst_pure _

theorem placed_query (panel : PanelQuery) : (s.query panel).Placed :=
  placed_check (TimeRange.onlyFails_resolve _ _ _) fun range =>
    (s.asksFirst_queryTargets range _ _ _).placed

end Service

namespace Operation

open Session

theorem placed_perform (s : Service) (op : Operation) : (op.perform s).Placed := by
  have hlisting (waiting : List (String × BrokerReply)) :
      ((send (.get DataSource.listing)).exchange waiting).sent ≠ [] := by
    rw [exchange_send]
    exact List.cons_ne_nil _ _
  cases op with
  | testConnection =>
    exact (AsksFirst.read (asksFirst_send _) hlisting fun _ => .ok _).placed.map _
  | listDataSources =>
    exact (AsksFirst.read (asksFirst_send _) hlisting Reply.onlyFails_names).placed.map _
  | describe name =>
    simp only [perform, Service.describe]
    split
    · exact (asksFirst_send _).placed
    · intro waiting f h
      cases h
      exact .inl ⟨rfl, rfl⟩
  | query panel => exact (s.placed_query panel).map _
  | filterValues lookup =>
    exact placed_check (s.onlyFails_lookupSpec lookup) fun spec => (asksFirst_send _).placed

end Operation

/-! ## Errors and statuses -/

/-- The error may be answered after these requests: the caller is told that the request
makes no sense only if none was sent, and of the broker's failures only if one was. The
other errors are no operation's. -/
def ServiceError.FitsSent (sent : List BrokerRequest) : ServiceError → Prop
  | .invalidRequest _ => sent = []
  | .transport _ => sent ≠ []
  | .brokerStatus _ _ => sent ≠ []
  | .unexpectedResponse _ => sent ≠ []
  | .auth => False
  | .internal _ => False

theorem Session.Placed.fitsSent {α : Type} {m : Session α} (h : m.Placed)
    {waiting : List (String × BrokerReply)} {e : ServiceError}
    (he : (m.exchange waiting).answer = .error (.error e)) :
    e.FitsSent (m.exchange waiting).sent := by
  rcases h waiting _ he with ⟨hcaller, hsent⟩ | ⟨hbroker, hsent⟩
  · cases e with
    | invalidRequest => exact hsent
    | auth | transport | brokerStatus | unexpectedResponse | internal => cases hcaller
  · cases e with
    | transport | brokerStatus | unexpectedResponse => exact hsent
    | auth | invalidRequest | internal => cases hbroker

theorem ServiceError.FitsSent.status {sent : List BrokerRequest} {e : ServiceError}
    (h : e.FitsSent sent) : (e.status = 400 ∧ sent = []) ∨ (e.status = 502 ∧ sent ≠ []) := by
  cases e with
  | invalidRequest => exact .inl ⟨rfl, h⟩
  | transport | brokerStatus | unexpectedResponse => exact .inr ⟨rfl, h⟩
  | auth | internal => exact h.elim

namespace Server

variable {s : Server} {r : HttpRequest} {waiting : List (String × BrokerReply)}

/-- The exchange of a request whose operation failed: the error is answered. -/
theorem exchange_answer_of_error {op : Operation} (hrouted : routed r = .ok op)
    (hadmits : s.admits r = true) {e : ServiceError}
    (he : ((op.perform s.service).exchange waiting).answer = .error (.error e)) :
    (s.answer r).exchange waiting =
      ⟨.ok (shown r (.ofError e)), ((op.perform s.service).exchange waiting).sent,
        ((op.perform s.service).exchange waiting).left⟩ := by
  simp only [exchange_answer, hrouted, hadmits, if_true, he]
  rfl

/-- Whatever a request with the key leads to, its status fits what was sent. -/
theorem status_fits_sent (hadmits : s.admits r = true) {a : HttpAnswer}
    (ha : ((s.answer r).exchange waiting).answer = .ok a) :
    a.status = 200 ∨ (a.status ∈ turnedAway ∧ ((s.answer r).exchange waiting).sent = []) ∨
      (a.status = 502 ∧ ((s.answer r).exchange waiting).sent ≠ []) := by
  cases hrouted : routed r with
  | error atOnce =>
    have hexchange := s.exchange_answer r waiting
    rw [hrouted] at hexchange
    rw [hexchange] at ha ⊢
    cases ha
    by_cases hhealth : r.AsksHealth
    · rw [routed_of_asksHealth hhealth] at hrouted
      cases hrouted
      exact .inl (status_shown r _)
    · obtain ⟨status, hmem, rfl⟩ := routed_eq_error hhealth hrouted
      exact .inr (.inl ⟨(status_shown r _).symm ▸ hmem, rfl⟩)
  | ok op =>
    cases hx : ((op.perform s.service).exchange waiting).answer with
    | ok value =>
      simp only [exchange_answer, hrouted, hadmits, if_true, hx] at ha
      cases ha
      exact .inl (status_shown r _)
    | error fault =>
      cases fault with
      | abort =>
        simp only [exchange_answer, hrouted, hadmits, if_true, hx] at ha
        cases ha
      | error e =>
        rw [exchange_answer_of_error hrouted hadmits hx] at ha ⊢
        cases ha
        rw [status_shown]
        rcases ((op.placed_perform s.service).fitsSent hx).status with ⟨h400, hnone⟩ | hbroker
        · refine .inr (.inl ⟨?_, hnone⟩)
          change e.status ∈ turnedAway
          rw [h400]
          decide
        · exact .inr (.inr hbroker)

/-- **An error tells whether the broker was asked.** What an operation does hangs on the
waiting replies alone. If it answers that the request is invalid, it has sent nothing; if
it answers that the broker could not be reached, refused or was not understood, it has sent
a request; and it answers no other error. A request that carries the key and leads to the
operation is answered by that error's status, 400 if nothing was sent and 502 otherwise.
And whatever it leads to, a request that carries the key is answered by 200, or turned
away with nothing sent, or answered by 502 with something sent. -/
theorem errors_fit_sent (s : Server) (r : HttpRequest) (waiting : List (String × BrokerReply)) :
    let y := (s.answer r).exchange waiting
    (s.answer r).Appends ∧
    (∀ op : Operation,
      let x := (op.perform s.service).exchange waiting
      (op.perform s.service).Appends ∧
      ∀ e, x.answer = .error (.error e) → e.FitsSent x.sent ∧
        (routed r = .ok op → s.admits r = true →
          ∃ a, y.answer = .ok a ∧ a.status = e.status ∧ y.sent = x.sent ∧
            ((a.status = 400 ∧ y.sent = []) ∨ (a.status = 502 ∧ y.sent ≠ [])))) ∧
    (s.admits r = true → ∀ a, y.answer = .ok a →
      a.status = 200 ∨ (a.status ∈ turnedAway ∧ y.sent = []) ∨
        (a.status = 502 ∧ y.sent ≠ [])) := by
  intro y
  refine ⟨s.appends_answer r, ?_, fun hadmits a => status_fits_sent hadmits⟩
  intro op x
  refine ⟨op.appends_perform s.service, ?_⟩
  intro e he
  have hfits : e.FitsSent x.sent := (op.placed_perform s.service).fitsSent he
  refine ⟨hfits, ?_⟩
  intro hrouted hadmits
  have hy : y = ⟨.ok (shown r (.ofError e)), x.sent, x.left⟩ :=
    exchange_answer_of_error hrouted hadmits he
  rw [hy]
  exact ⟨_, rfl, status_shown r _, rfl, (status_shown r _).symm ▸ hfits.status⟩

/-- A listing is asked for with the key while no reply waits. -/
theorem errors_fit_sent_unlisted :
    let s : Server := ⟨some "secret", .epoch, .empty, none⟩
    let r : HttpRequest := ⟨"GET", "/api/datasources", [("x-api-key", "secret")], ""⟩
    let e : ServiceError := .brokerStatus 404 "no fixture for /druid/v2/datasources"
    let x := (Operation.listDataSources.perform s.service).exchange []
    x.answer = .error (.error e) ∧ routed r = .ok .listDataSources ∧ s.admits r = true ∧
      x.sent ≠ [] ∧
      ∃ a, ((s.answer r).exchange []).answer = .ok a ∧ a.status = 502 := by
  intro s r e x
  have hfailed : x.answer = .error (.error e) := rfl
  have hroute : Route.ofPath? (RequestPath.ofTarget r.target) = some .listDataSources := by decide
  have hrouted : routed r = .ok .listDataSources := by
    rw [routed, hroute]
    rfl
  have hadmits : s.admits r = true := by decide
  have hfits := ((errors_fit_sent s r []).2.1 .listDataSources).2 e hfailed
  obtain ⟨a, hanswer, hstatus, _⟩ := hfits.2 hrouted hadmits
  exact ⟨hfailed, hrouted, hadmits, hfits.1, a, hanswer, hstatus⟩

end Server

end DruidPanels
