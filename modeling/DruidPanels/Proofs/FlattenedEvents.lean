import DruidPanels.Proofs.DistinctKeys
import DruidPanels.Proofs.EventTimes
import DruidPanels.Proofs.Itemwise
import Mathlib.Logic.Relation

/-! # Flattened events

The pages of a reply to a select query hold events, and an event with a time that can be
read is taken, page after page (`Taken`). The table of the reply holds the fields of the
taken events and nothing else. Any other event, and any page without a list of events, can
be put into a reply or left out of it (`select_flattens`). -/

namespace DruidPanels.Reply

/-! ## Events that are taken -/

/-- The page has this list of events. -/
def HasEvents (page : Json) (list : List Json) : Prop :=
  ∃ result, page.get? "result" = some result ∧ result.get? "events" = some (.arr list)

/-- The event is an object of these fields and has this time: its `timestamp` is not null
and not the empty text, and can be read. -/
structure HappensAt (wrapper : Json) (event : Fields × Int) : Prop where
  fields : wrapper.get? "event" = some (.obj event.1)
  time : ∃ timestamp, Fields.get? event.1 "timestamp" = some timestamp ∧ timestamp ≠ .null ∧
    timestamp ≠ .str "" ∧ Timestamp.millis? timestamp = some event.2

/-- The events with a time, in order: those of each page that has a list of events. -/
inductive Taken : List Json → List (Fields × Int) → Prop
  | nil : Taken [] []
  | page {page : Json} {list : List Json} {pages : List Json} {own others : List (Fields × Int)}
      (hpage : HasEvents page list) (hown : Itemwise.Sifts HappensAt list own)
      (rest : Taken pages others) : Taken (page :: pages) (own ++ others)
  | other {page : Json} {pages : List Json} {taken : List (Fields × Int)}
      (hpage : ∀ list, ¬ HasEvents page list) (rest : Taken pages taken) :
      Taken (page :: pages) taken

theorem timedEvent?_eq_some_iff {wrapper : Json} {event : Fields × Int} :
    timedEvent? wrapper = some event ↔ HappensAt wrapper event := by
  unfold timedEvent?
  simp only [Option.bind_eq_bind, Option.bind_eq_some_iff, Option.pure_def]
  constructor
  · intro h
    obtain ⟨value, hvalue, fields, hfields, timestamp, htimestamp, ms, hms, hevent⟩ := h
    cases value with
    | obj found =>
      cases hfields
      cases hevent
      refine ⟨hvalue, timestamp, htimestamp, ?_, ?_, hms⟩
      -- neither null nor the empty text can be read as a time
      · intro hnull
        rw [hnull] at hms
        cases hms
      · intro hempty
        have hnone : Timestamp.millis? (.str "") = none := rfl
        rw [hempty, hnone] at hms
        cases hms
    | null | bool | num | str | arr => cases hfields
  · intro h
    obtain ⟨timestamp, htimestamp, _, _, hms⟩ := h.time
    exact ⟨_, h.fields, event.1, rfl, timestamp, htimestamp, event.2, hms, rfl⟩

theorem events_of_hasEvents {page : Json} {list : List Json} (h : HasEvents page list) :
    events page = list := by
  obtain ⟨result, hresult, hevents⟩ := h
  rw [events, hresult, Option.bind_some, hevents]
  rfl

theorem events_eq_nil {page : Json} (h : ∀ list, ¬ HasEvents page list) : events page = [] := by
  unfold events
  cases hresult : page.get? "result" with
  | none => rfl
  | some result =>
    rw [Option.bind_some]
    cases hevents : result.get? "events" with
    | none => rfl
    | some value =>
      cases value with
      | arr list => exact absurd ⟨result, hresult, hevents⟩ (h list)
      | null | bool | num | str | obj => rfl

/-- The events with a time, as they are read. -/
def taken (pages : List Json) : List (Fields × Int) :=
  (pages.flatMap events).filterMap timedEvent?

theorem taken_append (first last : List Json) :
    taken (first ++ last) = taken first ++ taken last := by
  simp only [taken, List.flatMap_append, List.filterMap_append]

theorem taken_cons (page : Json) (pages : List Json) :
    taken (page :: pages) = (events page).filterMap timedEvent? ++ taken pages := by
  simp only [taken, List.flatMap_cons, List.filterMap_append]

/-- What is taken is what is read, and nothing else. -/
theorem taken_iff {pages : List Json} {events : List (Fields × Int)} :
    Taken pages events ↔ taken pages = events := by
  constructor
  · intro h
    induction h with
    | nil => rfl
    | page hpage hown _ ih =>
      have hread := (Itemwise.sifts_iff fun _ _ _ => timedEvent?_eq_some_iff).mp hown
      rw [taken_cons, events_of_hasEvents hpage, hread, ih]
    | other hpage _ ih =>
      rw [taken_cons, events_eq_nil hpage, List.filterMap_nil, List.nil_append, ih]
  · intro h
    subst h
    induction pages with
    | nil => exact .nil
    | cons page pages ih =>
      rw [taken_cons]
      by_cases hpage : ∃ list, HasEvents page list
      · obtain ⟨list, hlist⟩ := hpage
        rw [events_of_hasEvents hlist]
        exact .page hlist ((Itemwise.sifts_iff fun _ _ _ => timedEvent?_eq_some_iff).mpr rfl) ih
      · rw [events_eq_nil (not_exists.mp hpage)]
        exact .other (not_exists.mp hpage) ih

theorem select_arr (pages : List Json) :
    select (.arr pages) = .ok (Series.tabulate ((taken pages).flatMap eventPoints)) := rfl

/-! ## Edits that leave no trace -/

/-- One page without a list of events is left out, or one event without a time is left out
of the list of its page. -/
inductive Drops : List Json → List Json → Prop
  | page (before after : List Json) {page : Json} (hpage : ∀ list, ¬ HasEvents page list) :
      Drops (before ++ page :: after) (before ++ after)
  | event (before after : List Json) {page page' event : Json} {first last : List Json}
      (hpage : HasEvents page (first ++ event :: last)) (hpage' : HasEvents page' (first ++ last))
      (hevent : ∀ timed, ¬ HappensAt event timed) :
      Drops (before ++ page :: after) (before ++ page' :: after)

theorem Drops.taken_eq {pages pages' : List Json} (h : Drops pages pages') :
    taken pages = taken pages' := by
  cases h with
  | page before after hpage =>
    rw [taken_append, taken_append, taken_cons, events_eq_nil hpage]
    rfl
  | @event before after page page' event first last hpage hpage' hevent =>
    have hnone : timedEvent? event = none :=
      Option.eq_none_iff_forall_ne_some.mpr fun timed h =>
        hevent timed (timedEvent?_eq_some_iff.mp h)
    rw [taken_append, taken_append, taken_cons, taken_cons, events_of_hasEvents hpage,
      events_of_hasEvents hpage', List.filterMap_append, List.filterMap_append,
      List.filterMap_cons_none hnone]

theorem taken_eq_of_eqvGen {pages pages' : List Json} (h : Relation.EqvGen Drops pages pages') :
    taken pages = taken pages' := by
  induction h with
  | rel _ _ hdrops => exact hdrops.taken_eq
  | refl => rfl
  | symm _ _ _ ih => exact ih.symm
  | trans _ _ _ _ _ ih ih' => exact ih.trans ih'

/-! ## Fields of events -/

/-- The fields of an event that have series, in their order: all but its time. -/
def fieldNames (event : Fields × Int) : List String :=
  event.1.keys.filter fun name => name ≠ "timestamp"

/-- The value of a field at the time of the event, if the event has that field. -/
def fieldPoint? (name : String) (event : Fields × Int) : Option Point :=
  (Fields.get? event.1 name).map fun value => ⟨value, event.2⟩

theorem map_eventPoints (event : Fields × Int) :
    (eventPoints event).map (·.1) = fieldNames event := by
  rw [eventPoints, List.map_map, fieldNames, Fields.keys, List.filter_map]
  rfl

theorem names_flattened (events : List (Fields × Int)) :
    (Series.tabulate (events.flatMap eventPoints)).map (·.name) =
      (events.flatMap fieldNames).eraseDups := by
  rw [Series.names_tabulate, List.map_flatMap]
  exact congrArg _ (List.flatMap_congr fun event _ => map_eventPoints event)

theorem pointsOf_eq_filterMap {name : String} (hname : name ≠ "timestamp")
    {events : List (Fields × Int)} (hkeys : ∀ event ∈ events, event.1.keys.Nodup) :
    Series.pointsOf (events.flatMap eventPoints) name = events.filterMap (fieldPoint? name) := by
  rw [pointsOf_eventPoints hname, List.filterMap_eq_flatMap_toList]
  refine List.flatMap_congr fun event hevent => ?_
  have hvalue := Fields.filter_eq_toList_get? (hkeys event hevent) name
  rw [fieldPoint?, Option.toList_map, ← hvalue, List.map_map]
  rfl

theorem nodup_keys_of_mem_taken {pages : List Json}
    (hpages : ∀ page ∈ pages, page.distinctKeys = true) {event : Fields × Int}
    (h : event ∈ taken pages) : event.1.keys.Nodup := by
  obtain ⟨wrapper, hwrapper, hevent⟩ := List.mem_filterMap.mp h
  obtain ⟨page, hpage, hin⟩ := List.mem_flatMap.mp hwrapper
  by_cases hlist : ∃ list, HasEvents page list
  · obtain ⟨list, hlist⟩ := hlist
    rw [events_of_hasEvents hlist] at hin
    obtain ⟨result, hresult, hevents⟩ := hlist
    have hdistinct := Json.distinctKeys_of_get? (hpages page hpage) hresult
    have hitems := Json.distinctKeys_arr_iff.mp (Json.distinctKeys_of_get? hdistinct hevents)
    have hfields := (timedEvent?_eq_some_iff.mp hevent).fields
    exact (Json.distinctKeys_obj_iff.mp (Json.distinctKeys_of_get? (hitems wrapper hin) hfields)).1
  · rw [events_eq_nil (not_exists.mp hlist)] at hin
    cases hin

/-- **The table of a select reply is that of the events with a time.** For every list of
pages there is a table. Its series are named after the fields of the events that are taken,
their times aside, no name twice and each where it first comes; and if no object of the
reply holds a key twice, a series has just the values of its field in the events that have
it, in order, each at the time of its event to the millisecond. Any number of events that
are not taken and of pages without events may be put in or left out, and the table stays
the same. -/
theorem select_flattens (pages : List Json) :
    ∃ events table, Taken pages events ∧ select (.arr pages) = .ok table ∧
      (table.map (·.name)).Nodup ∧ "timestamp" ∉ table.map (·.name) ∧
      table.map (·.name) = (events.flatMap fieldNames).eraseDups ∧
      ((∀ page ∈ pages, page.distinctKeys = true) →
        ∀ s ∈ table, s.points = events.filterMap (fieldPoint? s.name)) ∧
      ∀ pages', Relation.EqvGen Drops pages pages' → select (.arr pages') = .ok table := by
  have hnames := names_flattened (taken pages)
  have htime : "timestamp" ∉ ((taken pages).flatMap fieldNames).eraseDups := by
    intro hmem
    obtain ⟨event, _, hfield⟩ := List.mem_flatMap.mp (List.mem_eraseDups.mp hmem)
    exact of_decide_eq_true (List.mem_filter.mp hfield).2 rfl
  refine ⟨taken pages, _, taken_iff.mpr rfl, select_arr pages, ?_, ?_, hnames, ?_, ?_⟩
  · rw [hnames]
    exact Series.nodup_eraseDups _
  · rw [hnames]
    exact htime
  · intro hpages s hs
    have hname : s.name ≠ "timestamp" := by
      intro hsame
      refine htime ?_
      rw [← hnames, ← hsame]
      exact List.mem_map_of_mem hs
    rw [Series.tabulate_eq] at hs
    obtain ⟨name, _, rfl⟩ := List.mem_map.mp hs
    exact pointsOf_eq_filterMap hname fun event => nodup_keys_of_mem_taken hpages
  · intro pages' hpages'
    rw [select_arr, taken_eq_of_eqvGen hpages']

/-- An edit of the last millisecond before 1970. -/
def earlyEvent : Json :=
  .obj [("event", .obj [("page", .str "Main"), ("timestamp", .ofInt (-1)), ("added", .ofInt 3)])]

/-- An edit whose time is left empty. -/
def untimedEvent : Json :=
  .obj [("event", .obj [("timestamp", .str ""), ("page", .str "Other")])]

def pageOf (events : List Json) : Json := .obj [("result", .obj [("events", .arr events)])]

theorem select_spottyPages :
    let spotty := [pageOf [untimedEvent, earlyEvent], .obj [("result", .null)]]
    let timely := [pageOf [earlyEvent]]
    (∀ page ∈ spotty, page.distinctKeys = true) ∧ Relation.EqvGen Drops spotty timely ∧
      ∃ table, select (.arr spotty) = .ok table ∧ select (.arr timely) = .ok table ∧
        table.map (·.name) = ["page", "added"] ∧ ∀ s ∈ table, s.points.map (·.time) = [-1] := by
  intro spotty timely
  have hpages : ∀ page ∈ spotty, page.distinctKeys = true := by decide
  have huntimed : ∀ timed, ¬ HappensAt untimedEvent timed := by
    intro timed h
    cases (timedEvent?_eq_some_iff.mpr h : timedEvent? untimedEvent = some timed)
  have hbare : ∀ list, ¬ HasEvents (.obj [("result", .null)]) list := by
    intro list h
    obtain ⟨result, hresult, hevents⟩ := h
    cases hresult
    cases hevents
  have hspotty :
      HasEvents (pageOf [untimedEvent, earlyEvent]) ([] ++ untimedEvent :: [earlyEvent]) :=
    ⟨_, rfl, rfl⟩
  have htimely : HasEvents (pageOf [earlyEvent]) ([] ++ [earlyEvent]) := ⟨_, rfl, rfl⟩
  have hdrops : Relation.EqvGen Drops spotty timely :=
    .trans _ [pageOf [untimedEvent, earlyEvent]] _ (.rel _ _ (.page [_] [] hbare))
      (.rel _ _ (.event [] [] hspotty htimely huntimed))
  obtain ⟨events, table, htaken, hok, _, _, hnames, hpoints, hedits⟩ := select_flattens spotty
  have hevents : taken spotty = events := taken_iff.mp htaken
  subst hevents
  have hfields : table.map (·.name) = ["page", "added"] := hnames
  refine ⟨hpages, hdrops, table, hok, hedits timely hdrops, hfields, fun s hs => ?_⟩
  rw [hpoints hpages s hs]
  have hname : s.name ∈ ["page", "added"] := hfields ▸ List.mem_map_of_mem hs
  rcases List.mem_cons.mp hname with hpage | hadded
  · rw [hpage]
    rfl
  · rw [List.mem_singleton.mp hadded]
    rfl

end DruidPanels.Reply
