import DruidPanels.Proofs.Routes

/-! # Requests without the key

While a server with an API key runs, requests come in and replies come to wait at the
broker. A request that lacks the key has one answer, whatever has happened so far, and
leaves the broker as it is; so it might as well not have been made, as far as all other
requests go (`run_lacking_key`). -/

namespace DruidPanels

/-- The request does not carry the key: its first `x-api-key` header is missing, cannot be
read or is another text. -/
def HttpRequest.Lacks (key : String) (r : HttpRequest) : Prop :=
  match r.header? "x-api-key" with
  | none => True
  | some value => value.toList.all isVisible = false ∨ value ≠ key

/-- What happens while a server runs. -/
inductive HttpEvent where
  /-- Replies come to wait at the broker. -/
  | replies (more : List (String × BrokerReply))
  | request (r : HttpRequest)

namespace Server

/-- The outcomes of the requests of a run, and the broker after it. -/
def run (s : Server) : List HttpEvent → Broker → List (Except Fault HttpAnswer) × Broker
  | [], b => ([], b)
  | .replies more :: rest, b => s.run rest (b.queue more)
  | .request r :: rest, b =>
    let (outcome, next) := (s.answer r).run.run b
    let (outcomes, last) := s.run rest next
    (outcome :: outcomes, last)

/-! ## One request -/

theorem admits_of_lacks {s : Server} {key : String} {r : HttpRequest}
    (hkey : s.apiKey = some key) (h : r.Lacks key) : s.admits r = false := by
  simp only [admits, hkey]
  refine decide_eq_false fun hreadable => ?_
  obtain ⟨hheader, hvisible⟩ := Option.filter_eq_some_iff.mp hreadable
  unfold HttpRequest.Lacks at h
  rw [hheader] at h
  rcases h with hunreadable | hother
  · rw [hunreadable] at hvisible
    cases hvisible
  · exact hother rfl

/-- The answer to a request that is not admitted. -/
def refusal (r : HttpRequest) : HttpAnswer :=
  match routed r with
  | .error a => shown r a
  | .ok _ => shown r (.ofError .auth)

theorem run_answer_of_not_admits {s : Server} {r : HttpRequest} (h : s.admits r = false)
    (b : Broker) : (s.answer r).run.run b = (.ok (refusal r), b) := by
  have hexchange : (s.answer r).exchange b.waiting = ⟨.ok (refusal r), [], b.waiting⟩ := by
    rw [exchange_answer, refusal]
    cases routed r with
    | error a => rfl
    | ok op => simp only [h, Bool.false_eq_true, if_false]
  rw [s.appends_answer r b, hexchange]
  simp only [List.append_nil]

theorem status_refusal_eq_iff (r : HttpRequest) : (refusal r).status = 200 ↔ r.AsksHealth := by
  constructor
  · intro hstatus
    by_cases hhealth : r.AsksHealth
    · exact hhealth
    · have hturned : 200 ∉ turnedAway := by decide
      unfold refusal at hstatus
      cases hrouted : routed r with
      | ok op =>
        rw [hrouted] at hstatus
        simp only [status_shown] at hstatus
        cases hstatus
      | error a =>
        obtain ⟨status, hmem, rfl⟩ := routed_eq_error hhealth hrouted
        rw [hrouted] at hstatus
        simp only [status_shown] at hstatus
        exact absurd (hstatus ▸ hmem) hturned
  · intro hhealth
    rw [refusal, routed_of_asksHealth hhealth]
    exact status_shown r _

/-! ## A run -/

theorem run_append (s : Server) (first second : List HttpEvent) (b : Broker) :
    s.run (first ++ second) b =
      ((s.run first b).1 ++ (s.run second (s.run first b).2).1,
        (s.run second (s.run first b).2).2) := by
  induction first generalizing b with
  | nil => rfl
  | cons event rest ih =>
    cases event with
    | replies more => exact ih _
    | request r =>
      simp only [List.cons_append, run, ih]
      rfl

/-- **A request without the key does not reach the broker, and learns nothing of it.** To a
request that lacks the key of a server there is one answer, of status 200 exactly if a
sign of life was asked for. It is given on every broker, and leaves it as it is: no
request is sent, and all replies still wait. So wherever such a request comes in a run, it
gets this answer, and everything else takes place as without it. -/
theorem run_lacking_key {s : Server} {key : String} (hkey : s.apiKey = some key)
    {r : HttpRequest} (hlacks : r.Lacks key) :
    ∃ a : HttpAnswer, (a.status = 200 ↔ r.AsksHealth) ∧
      (∀ b, (s.answer r).run.run b = (.ok a, b)) ∧
      ∀ (before after : List HttpEvent) (b : Broker),
        let (earlier, reached) := s.run before b
        let (later, last) := s.run after reached
        s.run (before ++ .request r :: after) b = (earlier ++ .ok a :: later, last) := by
  have hanswer := run_answer_of_not_admits (admits_of_lacks hkey hlacks)
  refine ⟨refusal r, status_refusal_eq_iff r, hanswer, ?_⟩
  intro before after b
  simp only [run_append, run, hanswer]

/-- A listing is asked for, with the wrong key before the right one. -/
def twoKeys : HttpRequest where
  method := "GET"
  target := "/api/datasources"
  headers := [("X-Api-Key", "guess"), ("x-api-key", "secret")]
  body := ""

theorem run_twoKeys :
    let s : Server := ⟨some "secret", .epoch, .empty, none⟩
    let listing := ("/druid/v2/datasources", BrokerReply.answer (.arr [.str "wiki"]))
    s.apiKey = some "secret" ∧ twoKeys.Lacks "secret" ∧
      ∃ a, a.status ≠ 200 ∧
        s.run [.replies [listing], .request twoKeys] .idle = ([.ok a], ⟨[listing], []⟩) := by
  have hlacks : twoKeys.Lacks "secret" := .inr (by decide)
  obtain ⟨a, hstatus, _, hrun⟩ :=
    run_lacking_key (s := ⟨some "secret", .epoch, .empty, none⟩) rfl hlacks
  have hhealth : ¬ twoKeys.AsksHealth := by decide
  exact ⟨rfl, hlacks, a, mt hstatus.mp hhealth, hrun [.replies _] [] .idle⟩

end Server

end DruidPanels
