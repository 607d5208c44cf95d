import DruidPanels.Settings
import DruidPanels.Proofs.DistinctKeys
import DruidPanels.Proofs.Itemwise
import DruidPanels.Proofs.TrimmedTexts

/-! # The URL of the broker

The URL is what the first of two variables holds that is set at all, trimmed and then cut of
the slashes at its end. A blank variable therefore hides the other one, and a URL whose last
word is made of slashes loses that word and keeps what stood before it, be it a blank or
nothing (`ofEnvironment_broker`). -/

namespace DruidPanels

/-! ## Texts cut down to a URL -/

namespace Settings

/-- A text is cut down to a URL: the blanks at its ends go, and then the slashes at the end
of what is left. -/
structure Cuts (text lead url slashes tail : List Char) : Prop where
  eq : text = lead ++ (url ++ slashes) ++ tail
  blankLead : ∀ c ∈ lead, Text.isBlank c = true
  blankTail : ∀ c ∈ tail, Text.isBlank c = true
  trimmed : Text.Trimmed (url ++ slashes)
  allSlashes : ∀ c ∈ slashes, c = '/'
  last : url.getLast? ≠ some '/'

/-- A URL that can be asked: it is not empty, and neither blanks nor slashes end it. -/
structure Usable (url : List Char) : Prop where
  trimmed : Text.Trimmed url
  last : url.getLast? ≠ some '/'

/-- The last word of a text is made of slashes. -/
def EndsInSlashes (text : List Char) : Prop :=
  ∃ front slashes tail, text = front ++ slashes ++ tail ∧
    (∀ c ∈ front.getLast?, Text.isBlank c = true) ∧ slashes ≠ [] ∧ (∀ c ∈ slashes, c = '/') ∧
    ∀ c ∈ tail, Text.isBlank c = true

theorem cuts_withoutSlashes {text trimmed : String} (h : Text.trimmed? text = some trimmed) :
    ∃ lead slashes tail, Cuts text.toList lead (withoutSlashes trimmed).toList slashes tail := by
  have htrimmed := (Text.trimmed?_eq_some_iff.mp h).2
  have hends := Text.endsIn_rdropWhile (· = '/') trimmed.toList
  have hurl : (withoutSlashes trimmed).toList = trimmed.toList.rdropWhile (· = '/') := by
    rw [withoutSlashes, String.toList_ofList]
    rfl
  rw [hurl]
  refine ⟨text.toList.takeWhile Text.isBlank, trimmed.toList.rtakeWhile (· = '/'),
    (text.toList.dropWhile Text.isBlank).rtakeWhile Text.isBlank, ?_⟩
  have htail := Text.endsIn_rdropWhile Text.isBlank (text.toList.dropWhile Text.isBlank)
  have hmiddle : Text.dropEnds Text.isBlank text.toList =
      (text.toList.dropWhile Text.isBlank).rdropWhile Text.isBlank := rfl
  constructor
  · rw [← hends.eq, htrimmed, hmiddle, List.append_assoc, ← htail.eq,
      List.takeWhile_append_dropWhile]
  · exact fun c hc => List.mem_takeWhile_imp hc
  · exact htail.run
  · rw [← hends.eq]
    exact Text.trimmed_of_trimmed? h
  · exact fun c hc => of_decide_eq_true (hends.run c hc)
  · exact fun hlast => absurd rfl (of_decide_eq_false (hends.last '/' hlast))

namespace Cuts

variable {text lead url slashes tail : List Char}

theorem usable_iff (h : Cuts text lead url slashes tail) :
    Usable url ↔ url ≠ [] ∧ ∀ c ∈ url.getLast?, Text.isBlank c = false := by
  refine ⟨fun husable => ⟨husable.trimmed.ne_nil, husable.trimmed.last⟩, fun hurl => ?_⟩
  refine ⟨⟨hurl.1, fun c hc => ?_, hurl.2⟩, h.last⟩
  exact h.trimmed.head c (Text.head?_mem_of_append hc)

theorem blank_last_of_not_usable (h : Cuts text lead url slashes tail) (hnot : ¬ Usable url) :
    ∀ c ∈ (lead ++ url).getLast?, Text.isBlank c = true := by
  intro c hc
  rw [List.getLast?_append] at hc
  cases hlast : url.getLast? with
  | none =>
    rw [hlast, Option.none_or] at hc
    exact h.blankLead c (List.mem_of_getLast? hc)
  | some d =>
    rw [hlast, Option.some_or, Option.mem_some_iff] at hc
    have hne : url ≠ [] := List.getLast?_isSome.mp (by rw [hlast]; rfl)
    refine Bool.not_eq_false _ |>.mp fun hclear => hnot (h.usable_iff.mpr ⟨hne, ?_⟩)
    rw [hlast]
    intro e he
    rwa [← Option.mem_some_iff.mp he, hc]

theorem slashes_ne_nil_of_not_usable (h : Cuts text lead url slashes tail)
    (hnot : ¬ Usable url) : slashes ≠ [] := by
  rintro rfl
  have htrimmed := h.trimmed
  rw [List.append_nil] at htrimmed
  exact hnot ⟨htrimmed, h.last⟩

theorem endsIn_blanks (h : Cuts text lead url slashes tail) :
    Text.EndsIn Text.isBlank text (lead ++ (url ++ slashes)) tail where
  eq := h.eq
  run := h.blankTail
  last := fun c hc => by
    rw [List.getLast?_append_of_ne_nil _ h.trimmed.ne_nil] at hc
    exact h.trimmed.last c hc

theorem endsIn_slashes (h : Cuts text lead url slashes tail) :
    Text.EndsIn (· = '/') (lead ++ (url ++ slashes)) (lead ++ url) slashes where
  eq := (List.append_assoc ..).symm
  run := fun c hc => decide_eq_true (h.allSlashes c hc)
  last := fun c hc => by
    refine decide_eq_false fun hslash => ?_
    rw [List.getLast?_append] at hc
    cases hlast : url.getLast? with
    | none =>
      rw [hlast, Option.none_or] at hc
      have hblank := h.blankLead c (List.mem_of_getLast? hc)
      rw [hslash] at hblank
      cases hblank
    | some d =>
      rw [hlast, Option.some_or, Option.mem_some_iff] at hc
      exact h.last (by rw [hlast, hc, hslash])

theorem front_eq (h : Cuts text lead url slashes tail) {front slashes' tail' : List Char}
    (heq : text = front ++ slashes' ++ tail')
    (hfront : ∀ c ∈ front.getLast?, Text.isBlank c = true) (hne : slashes' ≠ [])
    (hslashes : ∀ c ∈ slashes', c = '/') (htail : ∀ c ∈ tail', Text.isBlank c = true) :
    front = lead ++ url := by
  have hblanks : Text.EndsIn Text.isBlank text (front ++ slashes') tail' := by
    refine ⟨heq, htail, fun c hc => ?_⟩
    rw [List.getLast?_append_of_ne_nil _ hne] at hc
    rw [hslashes c (List.mem_of_getLast? hc)]
    rfl
  have hsame := hblanks.front_eq h.endsIn_blanks
  have hrun : Text.EndsIn (· = '/') (lead ++ (url ++ slashes)) front slashes' := by
    refine ⟨hsame.symm, fun c hc => decide_eq_true (hslashes c hc), fun c hc => ?_⟩
    refine decide_eq_false fun hslash => ?_
    have hblank := hfront c hc
    rw [hslash] at hblank
    cases hblank
  exact hrun.front_eq h.endsIn_slashes

/-- A URL cannot be asked exactly if the last word of its text is made of slashes. -/
theorem usable_iff_not_endsInSlashes (h : Cuts text lead url slashes tail) :
    Usable url ↔ ¬ EndsInSlashes text := by
  constructor
  · -- Where the slashes are cut off, the text in front of them ends in the URL, not in a blank.
    intro husable hends
    obtain ⟨front, slashes', tail', heq, hfront, hne, hslashes, htail⟩ := hends
    obtain ⟨hurl, hlast⟩ := h.usable_iff.mp husable
    obtain ⟨c, hc⟩ := Option.isSome_iff_exists.mp (List.getLast?_isSome.mpr hurl)
    rw [h.front_eq heq hfront hne hslashes htail, List.getLast?_append_of_ne_nil _ hurl] at hfront
    cases (hlast c hc).symm.trans (hfront c hc)
  · intro hnone
    by_contra hnot
    refine hnone ⟨lead ++ url, slashes, tail, ?_, h.blank_last_of_not_usable hnot,
      h.slashes_ne_nil_of_not_usable hnot, h.allSlashes, h.blankTail⟩
    rw [h.eq, ← List.append_assoc lead url slashes]

end Cuts

/-! ## Environments -/

variable {lookUp : HostLookup} {env : Environment}

/-- A variable of this name, written in any case, holds the text. -/
def Holds (env : Environment) (name text : String) : Prop := (name, text) ∈ lowered env

/-- Nothing but the URL of the broker can be wrong with an environment, on a machine that
looks hosts up so: no two variables have the same name up to case, numbers are well-formed
where they are given, and what they say to listen at has an address. -/
structure Startable (lookUp : HostLookup) (env : Environment) : Prop where
  distinct : ((lowered env).map (·.1)).Nodup
  listens : ∃ socketNumber address,
    number SocketAddress.numberBound ((lowered env).lookup "druid_bridge_listen_port") =
      .ok socketNumber ∧
    listenAddressOf lookUp ((lowered env).lookup "druid_bridge_listen_addr")
      ((lowered env).lookup "druid_bridge_listen_host") socketNumber = .ok address
  timeout : ∃ timeout,
    number Word.size ((lowered env).lookup "druid_bridge_request_timeout_secs") = .ok timeout

/-- The text that is taken for the URL of the broker: that of its own variable if this is set
at all, and else that of the shared one. -/
inductive NamesBroker (env : Environment) : String → Prop
  | own {text : String} (h : Holds env "druid_bridge_druid_url" text) : NamesBroker env text
  | shared {text : String} (hown : ∀ own, ¬ Holds env "druid_bridge_druid_url" own)
      (h : Holds env "druid_url" text) : NamesBroker env text

theorem Startable.lookup_eq_some_iff (h : Startable lookUp env) {name text : String} :
    (lowered env).lookup name = some text ↔ Holds env name text :=
  Pairs.lookup_eq_some_iff h.distinct

theorem Startable.unambiguous (h : Startable lookUp env) : unambiguous (lowered env) = true :=
  List.all_eq_true.mpr fun name _ => decide_eq_true (Pairs.length_filter_le_one h.distinct name)

/-- The text that is looked up for the URL of the broker. -/
def brokerText? (env : Environment) : Option String :=
  ((lowered env).lookup "druid_bridge_druid_url").or ((lowered env).lookup "druid_url")

theorem Startable.brokerText?_eq_some_iff (h : Startable lookUp env) {text : String} :
    brokerText? env = some text ↔ NamesBroker env text := by
  unfold brokerText?
  rw [Option.or_eq_some_iff, h.lookup_eq_some_iff, h.lookup_eq_some_iff,
    Option.eq_none_iff_forall_ne_some]
  simp only [ne_eq, h.lookup_eq_some_iff]
  constructor
  · intro hcases
    obtain hown | ⟨hnone, hshared⟩ := hcases
    · exact .own hown
    · exact .shared hnone hshared
  · intro hnames
    cases hnames with
    | own hown => exact .inl hown
    | shared hnone hshared => exact .inr ⟨hnone, hshared⟩

theorem Startable.eq_of_namesBroker (h : Startable lookUp env) {text text' : String}
    (hnames : NamesBroker env text) (hnames' : NamesBroker env text') : text = text' := by
  have hfound := h.brokerText?_eq_some_iff.mpr hnames
  have hfound' := h.brokerText?_eq_some_iff.mpr hnames'
  exact Option.some_inj.mp (hfound.symm.trans hfound')

/-- A text that may be absent, and is trimmed and not blank if it is there. -/
def Tidy (text : Option String) : Prop :=
  ∀ s ∈ text, Text.Trimmed s.toList

theorem tidy_bind_trimmed? (text : Option String) : Tidy (text.bind Text.trimmed?) := by
  intro s hs
  obtain ⟨whole, _, hwhole⟩ := Option.bind_eq_some_iff.mp hs
  exact Text.trimmed_of_trimmed? hwhole

theorem map_user_map (user password : Option String) :
    ((user.map fun name => (⟨name, password⟩ : Credentials)).map (·.user)) = user := by
  cases user <;> rfl

/-- Settings of an environment that gives this URL: the URL goes without the slashes at its
end, and other texts are there and trimmed or absent. -/
structure Follows (s : Settings) (url : String) : Prop where
  brokerUrl : s.brokerUrl = withoutSlashes url
  apiKey : Tidy s.apiKey
  timeZone : Tidy s.timeZone
  user : Tidy (s.credentials.map (·.user))

theorem Startable.ofEnvironment_of_url (h : Startable lookUp env) {url : String}
    (hurl : (brokerText? env).bind Text.trimmed? = some url) :
    ∃ s, ofEnvironment env lookUp = .ok s ∧ s.Follows url := by
  obtain ⟨socketNumber, address, hnumber, haddress⟩ := h.listens
  obtain ⟨timeout, htimeout⟩ := h.timeout
  unfold brokerText? at hurl
  simp only [ofEnvironment, h.unambiguous, hnumber, htimeout, haddress, hurl, Itemwise.ok_bind]
  refine ⟨_, rfl, rfl, tidy_bind_trimmed? _, tidy_bind_trimmed? _, ?_⟩
  rw [map_user_map]
  exact tidy_bind_trimmed? _

theorem Startable.ofEnvironment_of_none (h : Startable lookUp env)
    (hnone : (brokerText? env).bind Text.trimmed? = none) :
    ofEnvironment env lookUp = .error .noBroker := by
  obtain ⟨socketNumber, address, hnumber, haddress⟩ := h.listens
  obtain ⟨timeout, htimeout⟩ := h.timeout
  unfold brokerText? at hnone
  simp only [ofEnvironment, h.unambiguous, hnumber, htimeout, haddress, hnone, Itemwise.ok_bind]
  rfl

theorem Startable.ofEnvironment_isOk_iff (h : Startable lookUp env) :
    (∃ s, ofEnvironment env lookUp = .ok s) ↔
      ∃ text, NamesBroker env text ∧ Text.blank text = false := by
  constructor
  · intro hok
    obtain ⟨s, hs⟩ := hok
    cases hurl : (brokerText? env).bind Text.trimmed? with
    | none => cases hs.symm.trans (h.ofEnvironment_of_none hurl)
    | some url =>
      obtain ⟨text, htext, htrimmed⟩ := Option.bind_eq_some_iff.mp hurl
      exact ⟨text, h.brokerText?_eq_some_iff.mp htext, (Text.trimmed?_eq_some_iff.mp htrimmed).1⟩
  · intro hnames
    obtain ⟨text, htext, hblank⟩ := hnames
    have htrimmed : Text.trimmed? text = some (Text.trim text) := by
      rw [Text.trimmed?, hblank, if_neg Bool.false_ne_true]
    have hurl : (brokerText? env).bind Text.trimmed? = some (Text.trim text) := by
      rw [h.brokerText?_eq_some_iff.mpr htext, Option.bind_some, htrimmed]
    obtain ⟨s, hs, _⟩ := h.ofEnvironment_of_url hurl
    exact ⟨s, hs⟩

/-- One of the two variables for the broker holds something else than blanks. -/
def Configured (env : Environment) : Prop :=
  ∃ text, (Holds env "druid_bridge_druid_url" text ∨ Holds env "druid_url" text) ∧
    Text.blank text = false

/-- The bridge's own variable for the broker is set, and blank. -/
def BlankOwn (env : Environment) : Prop :=
  ∃ own, Holds env "druid_bridge_druid_url" own ∧ Text.blank own = true

theorem Startable.names_iff (h : Startable lookUp env) :
    (∃ text, NamesBroker env text ∧ Text.blank text = false) ↔
      Configured env ∧ ¬ BlankOwn env := by
  constructor
  · intro hnames
    obtain ⟨text, htext, hblank⟩ := hnames
    cases htext with
    | own hown =>
      refine ⟨⟨text, .inl hown, hblank⟩, fun hhides => ?_⟩
      obtain ⟨own, hsame, hnothing⟩ := hhides
      cases (h.lookup_eq_some_iff.mpr hown).symm.trans (h.lookup_eq_some_iff.mpr hsame)
      cases hblank.symm.trans hnothing
    | shared hnone hshared =>
      refine ⟨⟨text, .inr hshared, hblank⟩, fun hhides => ?_⟩
      obtain ⟨own, hown, _⟩ := hhides
      exact hnone own hown
  · intro hset
    obtain ⟨⟨text, htext, hblank⟩, hclear⟩ := hset
    by_cases hown : ∃ own, Holds env "druid_bridge_druid_url" own
    · obtain ⟨own, hown⟩ := hown
      refine ⟨own, .own hown, Bool.eq_false_iff.mpr fun hnothing => ?_⟩
      exact hclear ⟨own, hown, hnothing⟩
    · have hnone : ∀ own, ¬ Holds env "druid_bridge_druid_url" own := not_exists.mp hown
      exact ⟨text, .shared hnone (htext.resolve_left (hnone text)), hblank⟩

/-- **A blank variable hides the URL of the broker.** Let nothing but this URL be wrong with
an environment, however hosts are looked up. There are settings exactly if one of the two
variables holds something and the first, where it is set, is not blank. Their URL is cut
out of the text of the first variable that is set. It is not empty and has no blank at its
ends exactly if the last word of that text is not made of slashes; a slash never ends it.
The key, the time zone and the user are each absent, or trimmed and not blank. -/
theorem ofEnvironment_broker (h : Startable lookUp env) :
    ((∃ s, ofEnvironment env lookUp = .ok s) ↔ Configured env ∧ ¬ BlankOwn env) ∧
    ∀ s, ofEnvironment env lookUp = .ok s →
      (∃ text lead slashes tail, NamesBroker env text ∧
        Cuts text.toList lead s.brokerUrl.toList slashes tail ∧
        (Usable s.brokerUrl.toList ↔ ¬ EndsInSlashes text.toList)) ∧
      Tidy s.apiKey ∧ Tidy s.timeZone ∧ Tidy (s.credentials.map (·.user)) := by
  refine ⟨h.ofEnvironment_isOk_iff.trans h.names_iff, fun s hs => ?_⟩
  cases hurl : (brokerText? env).bind Text.trimmed? with
  | none => cases hs.symm.trans (h.ofEnvironment_of_none hurl)
  | some url =>
    obtain ⟨settings, hsettings, hfollows⟩ := h.ofEnvironment_of_url hurl
    cases hs.symm.trans hsettings
    obtain ⟨text, htext, htrimmed⟩ := Option.bind_eq_some_iff.mp hurl
    obtain ⟨lead, slashes, tail, hcuts⟩ := cuts_withoutSlashes htrimmed
    rw [← hfollows.brokerUrl] at hcuts
    refine ⟨⟨text, lead, slashes, tail, h.brokerText?_eq_some_iff.mp htext, hcuts, ?_⟩, ?_⟩
    · exact hcuts.usable_iff_not_endsInSlashes
    · exact ⟨hfollows.apiKey, hfollows.timeZone, hfollows.user⟩

/-- The bridge's own variable is blank, and the shared one names a broker. -/
def blankOwnVariable : Environment :=
  [("DRUID_BRIDGE_DRUID_URL", " "), ("DRUID_URL", "http://druid:8082")]

/-- The last word of the URL is a slash. The host to listen at is given by its name. -/
def slashWord : Environment :=
  [("Druid_Url", "http://druid /"), ("DRUID_BRIDGE_LISTEN_HOST", "bridge")]

/-- A machine that knows one host by its name. -/
def bridgeLookup : HostLookup := fun host =>
  if host = "bridge" then some [.v4 [10, 0, 0, 7]] else none

theorem lowered_blankOwnVariable : lowered blankOwnVariable =
    [("druid_bridge_druid_url", " "), ("druid_url", "http://druid:8082")] := by
  decide +kernel

theorem startable_blankOwnVariable (lookUp : HostLookup) : Startable lookUp blankOwnVariable := by
  constructor
  · rw [lowered_blankOwnVariable]
    decide
  · rw [lowered_blankOwnVariable]
    exact ⟨none, ⟨.v4 [0, 0, 0, 0], 8490⟩, rfl, rfl⟩
  · rw [lowered_blankOwnVariable]
    exact ⟨none, rfl⟩

theorem lowered_slashWord : lowered slashWord =
    [("druid_url", "http://druid /"), ("druid_bridge_listen_host", "bridge")] := by
  decide +kernel

theorem startable_slashWord : Startable bridgeLookup slashWord := by
  constructor
  · rw [lowered_slashWord]
    decide
  · rw [lowered_slashWord]
    exact ⟨none, ⟨.v4 [10, 0, 0, 7], 8490⟩, rfl, rfl⟩
  · rw [lowered_slashWord]
    exact ⟨none, rfl⟩

theorem namesBroker_slashWord : NamesBroker slashWord "http://druid /" :=
  .shared (fun own => by simp [Holds, lowered_slashWord]) (by simp [Holds, lowered_slashWord])

theorem endsInSlashes_slashWord : EndsInSlashes "http://druid /".toList := by
  have hlast : "http://druid ".toList.getLast? = some ' ' := by decide
  refine ⟨"http://druid ".toList, ['/'], [], by decide, fun c hc => ?_,
    List.cons_ne_nil _ _, List.forall_mem_singleton.mpr rfl, nofun⟩
  rw [hlast, Option.mem_some_iff] at hc
  rw [← hc]
  rfl

theorem ofEnvironment_blankOwnVariable :
    (∀ lookUp, Startable lookUp blankOwnVariable) ∧ Configured blankOwnVariable ∧
      (∀ lookUp, ¬ ∃ s, ofEnvironment blankOwnVariable lookUp = .ok s) ∧
      Startable bridgeLookup slashWord ∧
      ∃ s, ofEnvironment slashWord bridgeLookup = .ok s ∧ ¬ Usable s.brokerUrl.toList := by
  have hconfigured : Configured blankOwnVariable :=
    ⟨"http://druid:8082", .inr (by simp [Holds, lowered_blankOwnVariable]), by decide +kernel⟩
  have hhides : BlankOwn blankOwnVariable :=
    ⟨" ", by simp [Holds, lowered_blankOwnVariable], by decide +kernel⟩
  refine ⟨startable_blankOwnVariable, hconfigured, fun lookUp hok => ?_, startable_slashWord, ?_⟩
  · have hstarts := (ofEnvironment_broker (startable_blankOwnVariable lookUp)).1
    exact (hstarts.mp hok).2 hhides
  · obtain ⟨hsettings, hurl⟩ := ofEnvironment_broker startable_slashWord
    obtain ⟨s, hs⟩ := hsettings.mpr
      (startable_slashWord.names_iff.mp ⟨_, namesBroker_slashWord, by decide +kernel⟩)
    obtain ⟨⟨text, _, _, _, htext, _, husable⟩, _⟩ := hurl s hs
    refine ⟨s, hs, fun hasked => husable.mp hasked ?_⟩
    rw [startable_slashWord.eq_of_namesBroker htext namesBroker_slashWord]
    exact endsInSlashes_slashWord

end Settings

end DruidPanels
