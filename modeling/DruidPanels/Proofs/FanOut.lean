import DruidPanels.Proofs.Exchange
import DruidPanels.Proofs.Itemwise
import DruidPanels.Service

/-! # Fan-out of a panel

A panel's targets are asked in order on the replies that the earlier ones left, and
the first that fails ends the panel. So a panel of two lists of targets is the panel of
the first list and then that of the second (`query_fanOut`), and a panel of one target
sends at most the one request that this target makes and has the series of its reply. -/

namespace DruidPanels.Service

open Session

variable (s : Service) (range : TimeRange) (budget : Option Nat) (vars : Variables)

/-! ## One target -/

theorem appends_ask (spec : QuerySpec) : (s.ask spec).Appends := appends_send _

/-- The series that the reply to a target's request becomes. -/
def seriesOf (target : PanelTarget) (reply : Json) : Except Fault (List Series) :=
  let window := s.window range budget target
  let spec := target.querySpec window vars
  (Reply.toSeries spec reply s.now).map fun series =>
    if spec.clampsFirstPoint then Series.clampStart window.start series else series

/-- A target that is not skipped asks once; what it does with the reply is no session. -/
theorem queryTarget_eq (target : PanelTarget) :
    s.queryTarget range budget vars target =
      if target.skipped then pure []
      else s.ask (target.querySpec (s.window range budget target) vars) >>= fun reply =>
        Session.ofExcept (s.seriesOf range budget vars target reply) := by
  simp only [queryTarget, seriesOf, ofExcept_map]

theorem appends_queryTarget (target : PanelTarget) :
    (s.queryTarget range budget vars target).Appends := by
  rw [queryTarget_eq]
  split
  · exact appends_pure []
  · exact appends_bind (s.appends_ask _) fun _ => appends_ofExcept _

/-- The request of a target. -/
def request (target : PanelTarget) : BrokerRequest :=
  let spec := target.querySpec (s.window range budget target) vars
  .post spec.endpoint (spec.render s.overrides)

/-- A skipped target answers with no series and touches nothing. Any other makes its request
and answers with the series of the reply. -/
theorem exchange_queryTarget (target : PanelTarget) (waiting : List (String × BrokerReply)) :
    let reply := (⟨waiting, []⟩ : Broker).answer (s.request range budget vars target)
    (s.queryTarget range budget vars target).exchange waiting =
      if target.skipped then ⟨.ok [], [], waiting⟩
      else ⟨reply.1.result >>= s.seriesOf range budget vars target,
        [s.request range budget vars target], reply.2.waiting⟩ := by
  intro reply
  rw [queryTarget_eq]
  split
  · rfl
  · rw [exchange_bind_ofExcept, ask, exchange_send]
    rfl

/-- A target that is answered and not skipped got a reply, and its series are the reply's. -/
theorem answer_queryTarget_eq_ok {target : PanelTarget} (hskipped : target.skipped = false)
    {waiting : List (String × BrokerReply)} {part : List Series}
    (h : ((s.queryTarget range budget vars target).exchange waiting).answer = .ok part) :
    ∃ reply, ((⟨waiting, []⟩ : Broker).answer (s.request range budget vars target)).1 =
        .answer reply ∧ s.seriesOf range budget vars target reply = .ok part := by
  rw [exchange_queryTarget, hskipped, if_neg Bool.false_ne_true] at h
  obtain ⟨reply, hreply, hpart⟩ := Itemwise.bind_eq_ok_iff.mp h
  exact ⟨reply, BrokerReply.result_eq_ok_iff.mp hreply, hpart⟩

/-! ## All targets -/

theorem appends_queryTargets (targets : List PanelTarget) :
    (s.queryTargets range budget vars targets).Appends := by
  induction targets with
  | nil => exact appends_pure []
  | cons target rest ih =>
    exact appends_bind (s.appends_queryTarget range budget vars target) fun _ =>
      appends_bind ih fun _ => appends_pure _

theorem queryTargets_append (first second : List PanelTarget) :
    s.queryTargets range budget vars (first ++ second) = do
      let a ← s.queryTargets range budget vars first
      return a ++ (← s.queryTargets range budget vars second) := by
  induction first with
  | nil => simp [queryTargets]
  | cons target rest ih =>
    simp only [List.cons_append, queryTargets, ih, bind_assoc, pure_bind, List.append_assoc]

theorem exchange_queryTargets_append (first second : List PanelTarget)
    (waiting : List (String × BrokerReply)) :
    let a := (s.queryTargets range budget vars first).exchange waiting
    let b := (s.queryTargets range budget vars second).exchange a.left
    (s.queryTargets range budget vars (first ++ second)).exchange waiting =
      match a.answer, b.answer with
      | .error e, _ => ⟨.error e, a.sent, a.left⟩
      | .ok _, .error e => ⟨.error e, a.sent ++ b.sent, b.left⟩
      | .ok dataA, .ok dataB => ⟨.ok (dataA ++ dataB), a.sent ++ b.sent, b.left⟩ := by
  intro a b
  have hsecond (data : List Series) :
      (do return data ++ (← s.queryTargets range budget vars second) :
        Session (List Series)).Appends :=
    appends_bind (s.appends_queryTargets range budget vars second) fun _ => appends_pure _
  rw [queryTargets_append, exchange_bind _ hsecond]
  change a.andThen _ = _
  cases ha : a.answer with
  | error e => simp only [Exchange.andThen, ha]
  | ok dataA =>
    simp only [Exchange.andThen, ha, exchange_map]
    change (⟨b.answer.map _, a.sent ++ b.sent, b.left⟩ : Exchange _) = _
    cases b.answer <;> rfl

theorem queryTargets_singleton (target : PanelTarget) :
    s.queryTargets range budget vars [target] = s.queryTarget range budget vars target := by
  simp only [queryTargets, pure_bind, List.append_nil, bind_pure]

/-- Targets all succeed if those of both lists do. -/
theorem answer_queryTargets_append_eq_ok {first second : List PanelTarget}
    {waiting : List (String × BrokerReply)} {table : List Series}
    (h : ((s.queryTargets range budget vars (first ++ second)).exchange waiting).answer =
      .ok table) :
    let a := (s.queryTargets range budget vars first).exchange waiting
    ∃ dataA dataB, a.answer = .ok dataA ∧
      ((s.queryTargets range budget vars second).exchange a.left).answer = .ok dataB ∧
      table = dataA ++ dataB := by
  intro a
  rw [exchange_queryTargets_append] at h
  split at h
  · cases h
  · cases h
  · next dataA dataB ha hb =>
    cases h
    exact ⟨dataA, dataB, ha, hb, rfl⟩

/-- The series of one target among others. -/
theorem answer_queryTargets_around {before after : List PanelTarget} {target : PanelTarget}
    {waiting : List (String × BrokerReply)} {table : List Series}
    (h : ((s.queryTargets range budget vars (before ++ target :: after)).exchange waiting).answer =
      .ok table) :
    let x := (s.queryTargets range budget vars before).exchange waiting
    ∃ first part last, x.answer = .ok first ∧
      ((s.queryTarget range budget vars target).exchange x.left).answer = .ok part ∧
      table = first ++ part ++ last := by
  intro x
  obtain ⟨first, others, hfirst, hothers, rfl⟩ :=
    s.answer_queryTargets_append_eq_ok range budget vars h
  rw [← List.singleton_append] at hothers
  obtain ⟨part, last, hpart, _, rfl⟩ :=
    s.answer_queryTargets_append_eq_ok range budget vars hothers
  rw [queryTargets_singleton] at hpart
  exact ⟨first, part, last, hfirst, hpart, (List.append_assoc _ _ _).symm⟩

/-! ## The panel -/

theorem query_of_error {panel : PanelQuery} {e : Fault}
    (h : panel.range.resolve s.now = .error e) : s.query panel = Session.ofExcept (.error e) := by
  unfold query
  rw [h]
  rfl

theorem query_of_ok {panel : PanelQuery} {range : TimeRange}
    (h : panel.range.resolve s.now = .ok range) :
    s.query panel = s.queryTargets range panel.maxDataPoints panel.vars panel.targets := by
  unfold query
  rw [h]
  rfl

theorem appends_query (panel : PanelQuery) : (s.query panel).Appends :=
  appends_bind (appends_ofExcept _) fun range =>
    s.appends_queryTargets range panel.maxDataPoints panel.vars panel.targets

/-- **A panel of two lists of targets is two panels in sequence.** Whatever the broker
was asked before, a panel does what its exchange with the waiting replies says. If the
range does not resolve, the panel fails and asks nothing. Otherwise the targets of two
lists send the requests, leave the replies and give the series of the first list and,
on the replies that this one left, of the second, unless the first fails: then nothing
of the second takes place. A failure of the second keeps no series of the first. And a
single target that is skipped has no series and asks nothing, while any other sends the one
request of its query and has the series of the reply. -/
theorem query_fanOut (range : PanelRange) (waiting : List (String × BrokerReply)) :
    let panel (targets : List PanelTarget) := s.query ⟨range, budget, targets, vars⟩
    (∀ targets, (panel targets).Appends) ∧
    match range.resolve s.now with
    | .error e => ∀ targets, (panel targets).exchange waiting = ⟨.error e, [], waiting⟩
    | .ok resolved =>
      (∀ first second,
        let a := (panel first).exchange waiting
        let b := (panel second).exchange a.left
        (panel (first ++ second)).exchange waiting =
          match a.answer, b.answer with
          | .error e, _ => ⟨.error e, a.sent, a.left⟩
          | .ok _, .error e => ⟨.error e, a.sent ++ b.sent, b.left⟩
          | .ok dataA, .ok dataB => ⟨.ok (dataA ++ dataB), a.sent ++ b.sent, b.left⟩) ∧
      ∀ target,
        let spec := target.querySpec (s.window resolved budget target) vars
        let request := .post spec.endpoint (spec.render s.overrides)
        let reply := (⟨waiting, []⟩ : Broker).answer request
        (panel [target]).exchange waiting =
          if target.skipped then ⟨.ok [], [], waiting⟩
          else ⟨reply.1.result >>= s.seriesOf resolved budget vars target, [request],
            reply.2.waiting⟩ := by
  intro panel
  refine ⟨fun targets => s.appends_query _, ?_⟩
  split
  · next e h =>
    intro targets
    rw [show panel targets = _ from s.query_of_error h]
    rfl
  · next resolved h =>
    have hpanel (targets : List PanelTarget) :
        panel targets = s.queryTargets resolved budget vars targets := s.query_of_ok h
    refine ⟨fun first second => ?_, fun target => ?_⟩
    · simp only [hpanel]
      exact s.exchange_queryTargets_append resolved budget vars first second waiting
    · rw [hpanel, queryTargets_singleton]
      exact s.exchange_queryTarget resolved budget vars target waiting

end DruidPanels.Service
