import DruidPanels.Broker

/-! # Exchanges with the broker

A session reads the replies that wait and adds to the requests, so what it does is
one exchange: its answer, the requests that it sends and the replies that it leaves.
The exchange of a broker that was never asked anything says all (`Appends`): after
any other history the requests are those of the history and then its own. Sessions in
sequence make their exchanges in sequence (`exchange_bind`), and a failed one is the
last. -/

namespace DruidPanels

/-- What a session does to a broker with nothing but waiting replies. -/
structure Exchange (α : Type) where
  answer : Except Fault α
  sent : List BrokerRequest
  left : List (String × BrokerReply)

/-- One exchange and then another on the replies that it leaves. The other never
takes place if the first fails. -/
def Exchange.andThen {α β : Type} (x : Exchange α)
    (next : α → List (String × BrokerReply) → Exchange β) : Exchange β :=
  match x.answer with
  | .ok a =>
    let y := next a x.left
    ⟨y.answer, x.sent ++ y.sent, y.left⟩
  | .error e => ⟨.error e, x.sent, x.left⟩

theorem BrokerReply.result_eq_ok_iff {reply : BrokerReply} {value : Json} :
    reply.result = .ok value ↔ reply = .answer value := by
  cases reply with
  | answer given => simp only [result, Except.ok.injEq, answer.injEq]
  | status | unreachable => simp only [result, reduceCtorEq]

namespace Broker

theorem answer_eq (b : Broker) (request : BrokerRequest) :
    b.answer request = (((⟨b.waiting, []⟩ : Broker).answer request).1,
      ⟨((⟨b.waiting, []⟩ : Broker).answer request).2.waiting, b.requests ++ [request]⟩) := by
  unfold Broker.answer
  cases Broker.take? request.path b.waiting <;> rfl

end Broker

namespace Session

variable {α β : Type}

/-- The exchange of a session, given the replies that wait. -/
def exchange (m : Session α) (waiting : List (String × BrokerReply)) : Exchange α :=
  let (answer, broker) := m.run.run ⟨waiting, []⟩
  ⟨answer, broker.requests, broker.waiting⟩

/-- What a session does hangs on the waiting replies alone, and its requests come
after the earlier ones. -/
def Appends (m : Session α) : Prop := ∀ b : Broker,
  m.run.run b = ((m.exchange b.waiting).answer,
    ⟨(m.exchange b.waiting).left, b.requests ++ (m.exchange b.waiting).sent⟩)

/-! ## Sessions of one step -/

@[simp] theorem exchange_ofExcept (result : Except Fault α)
    (waiting : List (String × BrokerReply)) :
    (ofExcept result).exchange waiting = ⟨result, [], waiting⟩ := rfl

@[simp] theorem exchange_pure (a : α) (waiting : List (String × BrokerReply)) :
    (pure a : Session α).exchange waiting = ⟨.ok a, [], waiting⟩ := rfl

theorem appends_ofExcept (result : Except Fault α) : (ofExcept result).Appends := by
  intro b
  rw [exchange_ofExcept, List.append_nil]
  rfl

theorem appends_pure (a : α) : (pure a : Session α).Appends := appends_ofExcept (.ok a)

theorem exchange_send (request : BrokerRequest) (waiting : List (String × BrokerReply)) :
    (send request).exchange waiting =
      ⟨((⟨waiting, []⟩ : Broker).answer request).1.result, [request],
        ((⟨waiting, []⟩ : Broker).answer request).2.waiting⟩ := by
  have hsent : ((⟨waiting, []⟩ : Broker).answer request).2.requests = [request] := by
    rw [Broker.answer_eq]; rfl
  -- the broker's own record of the request is what `exchange` reads off
  rw [← hsent]
  rfl

theorem appends_send (request : BrokerRequest) : (send request).Appends := by
  intro b
  rw [exchange_send]
  change ((b.answer request).1.result, (b.answer request).2) = _
  rw [Broker.answer_eq b request]

theorem ofExcept_map (result : Except Fault α) (f : α → β) :
    ofExcept (result.map f) = (do return f (← ofExcept result)) := by
  cases result <;> rfl

/-! ## Sessions in sequence -/

theorem run_bind (m : Session α) (f : α → Session β) (b : Broker) :
    (m >>= f).run.run b = match m.run.run b with
      | (.ok a, b') => (f a).run.run b'
      | (.error e, b') => (.error e, b') := by
  rw [ExceptT.run_bind, StateT.run_bind]
  obtain ⟨answer, b'⟩ := m.run.run b
  cases answer <;> rfl

/-- Only the second session needs to append: it alone starts on requests that are
not there when its exchange is read off. -/
theorem exchange_bind (m : Session α) {f : α → Session β} (hf : ∀ a, (f a).Appends)
    (waiting : List (String × BrokerReply)) :
    (m >>= f).exchange waiting = (m.exchange waiting).andThen fun a => (f a).exchange := by
  unfold exchange
  rw [run_bind]
  obtain ⟨answer, b⟩ := m.run.run ⟨waiting, []⟩
  cases answer with
  | error e => rfl
  | ok a => simp only [hf a b, Exchange.andThen]; rfl

/-- To work on the answer changes neither the requests nor the replies left. -/
theorem exchange_map (m : Session α) (f : α → β) (waiting : List (String × BrokerReply)) :
    (do return f (← m) : Session β).exchange waiting =
      ⟨(m.exchange waiting).answer.map f, (m.exchange waiting).sent,
        (m.exchange waiting).left⟩ := by
  rw [exchange_bind m fun a => appends_pure (f a)]
  obtain ⟨answer, sent, left⟩ := m.exchange waiting
  cases answer with
  | error e => rfl
  | ok a => simp only [Exchange.andThen, exchange_pure, List.append_nil]; rfl

/-- What is read of an answer needs no further request. -/
theorem exchange_bind_ofExcept (m : Session α) (read : α → Except Fault β)
    (waiting : List (String × BrokerReply)) :
    (m >>= fun a => ofExcept (read a)).exchange waiting =
      ⟨(m.exchange waiting).answer >>= read, (m.exchange waiting).sent,
        (m.exchange waiting).left⟩ := by
  rw [exchange_bind m fun a => appends_ofExcept (read a)]
  obtain ⟨answer, sent, left⟩ := m.exchange waiting
  cases answer with
  | error e => rfl
  | ok a => simp only [Exchange.andThen, exchange_ofExcept, List.append_nil]; rfl

theorem appends_bind {m : Session α} {f : α → Session β} (hm : m.Appends)
    (hf : ∀ a, (f a).Appends) : (m >>= f).Appends := by
  intro b
  rw [exchange_bind m hf, run_bind, hm b]
  obtain ⟨answer, sent, left⟩ := m.exchange b.waiting
  cases answer with
  | error e => rfl
  | ok a => simp only [hf a _, Exchange.andThen, List.append_assoc]

/-! ## Answers worked on -/

theorem run_map (m : Session α) (f : α → β) (b : Broker) :
    (f <$> m).run.run b = ((m.run.run b).1.map f, (m.run.run b).2) := by
  rw [map_eq_pure_bind, run_bind]
  obtain ⟨answer, b'⟩ := m.run.run b
  cases answer <;> rfl

theorem exchange_functor_map (m : Session α) (f : α → β)
    (waiting : List (String × BrokerReply)) :
    (f <$> m).exchange waiting =
      ⟨(m.exchange waiting).answer.map f, (m.exchange waiting).sent,
        (m.exchange waiting).left⟩ := by
  unfold exchange
  rw [run_map]
  rfl

theorem appends_map {m : Session α} (hm : m.Appends) (f : α → β) : (f <$> m).Appends := by
  intro b
  rw [run_map, exchange_functor_map, hm b]

theorem run_tryCatch (m : Session α) (handle : Fault → Session α) (b : Broker) :
    (tryCatch m handle).run.run b = match m.run.run b with
      | (.ok a, b') => (.ok a, b')
      | (.error e, b') => (handle e).run.run b' := by
  rw [ExceptT.run_tryCatch, StateT.run_bind]
  obtain ⟨answer, b'⟩ := m.run.run b
  cases answer <;> rfl

end Session

end DruidPanels
