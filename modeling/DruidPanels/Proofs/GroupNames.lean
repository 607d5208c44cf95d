import DruidPanels.Proofs.GroupTables
import DruidPanels.Proofs.Itemwise

/-! # Names of groups

A series of groups is named by the labels of its group, joined by hyphens, a colon and its
metric. Hyphens may stand in labels, and colons in labels and in metrics, so two groups or
two metrics can come to one name, and then their points come into one series. When they
do is said exactly (`mem_sources_iff_alike`): two groups under one metric only if both have a
hyphen inside a label, and two metrics only if one of them ends in a colon and the other. -/

namespace DruidPanels

/-! ## Joined texts -/

namespace Text

variable (separator : Char)

theorem count_intercalate {parts : List (List Char)} (hne : parts ≠ []) :
    ([separator].intercalate parts).count separator + 1 =
      parts.flatten.count separator + parts.length := by
  induction parts with
  | nil => exact absurd rfl hne
  | cons part rest ih =>
    cases rest with
    | nil => simp
    | cons next rest =>
      have hrest := ih (List.cons_ne_nil _ _)
      rw [List.intercalate_cons_cons, List.flatten_cons]
      simp only [List.count_append, List.count_singleton_self, List.length_cons] at hrest ⊢
      omega

variable {separator}

theorem mem_intercalate {parts : List (List Char)} {c : Char}
    (h : c ∈ [separator].intercalate parts) : c = separator ∨ ∃ part ∈ parts, c ∈ part := by
  induction parts with
  | nil => exact absurd h (by simp)
  | cons part rest ih =>
    cases rest with
    | nil => exact .inr ⟨part, List.mem_cons_self, by simpa using h⟩
    | cons next rest =>
      rw [List.intercalate_cons_cons, List.mem_append, List.mem_append, List.mem_singleton] at h
      rcases h with (h | h) | h
      · exact .inr ⟨part, List.mem_cons_self, h⟩
      · exact .inl h
      · rcases ih h with h | ⟨p, hp, hc⟩
        · exact .inl h
        · exact .inr ⟨p, List.mem_cons_of_mem _ hp, hc⟩

/-- As many parts that join to the same text are the same parts if those on one side are
free of the separator: those on the other side then have none to spare. -/
theorem eq_of_intercalate_eq {parts others : List (List Char)}
    (hlength : parts.length = others.length)
    (hjoined : [separator].intercalate parts = [separator].intercalate others)
    (hfree : ∀ part ∈ parts, separator ∉ part) : parts = others := by
  by_cases hne : parts = []
  · subst hne
    exact (List.length_eq_zero_iff.mp hlength.symm).symm
  have hne' : others ≠ [] := by
    intro h
    rw [h] at hlength
    exact hne (List.length_eq_zero_iff.mp hlength)
  have hcount := count_intercalate separator hne
  have hcount' := count_intercalate separator hne'
  have hzero : parts.flatten.count separator = 0 := by
    rw [List.count_eq_zero, List.mem_flatten]
    rintro ⟨part, hpart, hmem⟩
    exact hfree part hpart hmem
  rw [hjoined] at hcount
  have hzero' : others.flatten.count separator = 0 := by omega
  have hfree' : ∀ part ∈ others, separator ∉ part := by
    intro part hpart hmem
    exact List.count_eq_zero.mp hzero' (List.mem_flatten.mpr ⟨part, hpart, hmem⟩)
  rw [← List.splitOn_intercalate separator hfree hne, hjoined,
    List.splitOn_intercalate separator hfree' hne']

/-- Two texts that are cut in two by a separator are the same only if they are cut at the
same place, or if one of the second parts holds the cut of the other text. -/
theorem cuts_of_eq {a b m n : List Char} (h : a ++ separator :: m = b ++ separator :: n) :
    (a = b ∧ m = n) ∨ (∃ rest, m = rest ++ separator :: n ∧ b = a ++ separator :: rest) ∨
      ∃ rest, n = rest ++ separator :: m ∧ a = b ++ separator :: rest := by
  rcases List.append_eq_append_iff.mp h with ⟨between, hb, hm⟩ | ⟨between, ha, hn⟩
  · cases between with
    | nil =>
      rw [List.append_nil] at hb
      exact .inl ⟨hb.symm, List.tail_eq_of_cons_eq hm⟩
    | cons c rest =>
      obtain ⟨rfl, htail⟩ := List.cons_eq_cons.mp hm
      exact .inr (.inl ⟨rest, htail, hb⟩)
  · cases between with
    | nil =>
      rw [List.append_nil] at ha
      exact .inl ⟨ha, (List.tail_eq_of_cons_eq hn).symm⟩
    | cons c rest =>
      obtain ⟨rfl, htail⟩ := List.cons_eq_cons.mp hn
      exact .inr (.inr ⟨rest, htail, ha⟩)

end Text

namespace Reply

/-! ## Names that read alike -/

/-- The labels of a row, one for each dimension. -/
def labels (dimensions : List String) (event : Fields) : List String :=
  dimensions.map fun dimension => label "" (Fields.get? event dimension)

/-- Two groups whose labels differ and read the same when joined: there are at least two
dimensions, and both groups have a hyphen inside a label. -/
structure HyphenClash (first second : List String) : Prop where
  ne : first ≠ second
  joined : "-".intercalate first = "-".intercalate second
  two_le : 2 ≤ first.length
  hyphen_left : ∃ label ∈ first, '-' ∈ label.toList
  hyphen_right : ∃ label ∈ second, '-' ∈ label.toList

/-- A metric that ends in a colon and another metric, and a group of that other metric
whose labels have the rest behind a colon. -/
structure ColonClash (first : List String) (metric : String) (second : List String)
    (other : String) : Prop where
  cut : ∃ rest, metric = rest ++ ":" ++ other ∧
    "-".intercalate second = "-".intercalate first ++ ":" ++ rest
  colon : ∃ label ∈ second, ':' ∈ label.toList

/-- Without a hyphen inside a group's labels their joined text cuts up in one way only. -/
theorem exists_hyphen {first second : List String} (hlength : first.length = second.length)
    (hjoined : "-".intercalate first = "-".intercalate second) (hne : first ≠ second) :
    ∃ label ∈ first, '-' ∈ label.toList := by
  by_contra hfree
  have hchars : ['-'].intercalate (first.map String.toList) =
      ['-'].intercalate (second.map String.toList) := by
    have htoList := congrArg String.toList hjoined
    rwa [String.toList_intercalate, String.toList_intercalate] at htoList
  have hparts : first.map String.toList = second.map String.toList := by
    refine Text.eq_of_intercalate_eq (by rw [List.length_map, List.length_map, hlength]) hchars ?_
    intro part hpart hmem
    obtain ⟨label, hlabel, rfl⟩ := List.mem_map.mp hpart
    exact hfree ⟨label, hlabel, hmem⟩
  exact hne (List.map_injective_iff.mpr (fun _ _ => String.toList_inj.mp) hparts)

theorem eq_or_hyphenClash {first second : List String} (hlength : first.length = second.length)
    (hjoined : "-".intercalate first = "-".intercalate second) :
    first = second ∨ HyphenClash first second := by
  by_cases hne : first = second
  · exact .inl hne
  have htwo : 2 ≤ first.length := by
    match first, second, hlength with
    | [], [], _ => exact absurd rfl hne
    | [a], [b], _ =>
      rw [String.intercalate_singleton, String.intercalate_singleton] at hjoined
      exact absurd (congrArg ([·]) hjoined) hne
    | _ :: _ :: _, _, _ => simp
  exact .inr ⟨hne, hjoined, htwo, exists_hyphen hlength hjoined hne,
    exists_hyphen hlength.symm hjoined.symm (Ne.symm hne)⟩

theorem colonClash_of_cut {first second : List String} {metric other rest : String}
    (hmetric : metric = rest ++ ":" ++ other)
    (hjoined : "-".intercalate second = "-".intercalate first ++ ":" ++ rest) :
    ColonClash first metric second other := by
  refine ⟨⟨rest, hmetric, hjoined⟩, ?_⟩
  have hmem : ':' ∈ ("-".intercalate second).toList := by
    rw [hjoined]
    simp
  rw [String.toList_intercalate] at hmem
  rcases Text.mem_intercalate hmem with h | ⟨part, hpart, hcolon⟩
  · exact absurd h (by decide)
  · obtain ⟨label, hlabel, rfl⟩ := List.mem_map.mp hpart
    exact ⟨label, hlabel, hcolon⟩

theorem append_colon_eq_iff {a b m n : String} :
    a ++ ":" ++ m = b ++ ":" ++ n ↔
      (a = b ∧ m = n) ∨ (∃ rest, m = rest ++ ":" ++ n ∧ b = a ++ ":" ++ rest) ∨
        ∃ rest, n = rest ++ ":" ++ m ∧ a = b ++ ":" ++ rest := by
  have hcut {s t : String} {rest : List Char} (h : s.toList = rest ++ ':' :: t.toList) :
      s = String.ofList rest ++ ":" ++ t := String.toList_inj.mp (by simp [h])
  have hcut' {s t : String} {rest : List Char} (h : s.toList = t.toList ++ ':' :: rest) :
      s = t ++ ":" ++ String.ofList rest := String.toList_inj.mp (by simp [h])
  constructor
  · intro h
    have hchars : a.toList ++ ':' :: m.toList = b.toList ++ ':' :: n.toList := by
      simpa using congrArg String.toList h
    rcases Text.cuts_of_eq hchars with ⟨ha, hm⟩ | ⟨rest, hm, hb⟩ | ⟨rest, hn, ha⟩
    · exact .inl ⟨String.toList_inj.mp ha, String.toList_inj.mp hm⟩
    · exact .inr (.inl ⟨String.ofList rest, hcut hm, hcut' hb⟩)
    · exact .inr (.inr ⟨String.ofList rest, hcut hn, hcut' ha⟩)
  · rintro (⟨rfl, rfl⟩ | ⟨rest, rfl, rfl⟩ | ⟨rest, rfl, rfl⟩)
    · rfl
    · simp only [String.append_assoc]
    · simp only [String.append_assoc]

/-- Two cells read alike: metric and labels are the same, or in a clash of hyphens or of
colons. -/
def Alike (dimensions : List String) (c d : Cell) : Prop :=
  let first := labels dimensions c.1.1
  let second := labels dimensions d.1.1
  (c.2 = d.2 ∧ (first = second ∨ HyphenClash first second)) ∨
    ColonClash first c.2 second d.2 ∨ ColonClash second d.2 first c.2

theorem cellName_eq_iff (dimensions : List String) (c d : Cell) :
    cellName dimensions c = cellName dimensions d ↔ Alike dimensions c d := by
  have hlength : (labels dimensions c.1.1).length = (labels dimensions d.1.1).length := by
    rw [labels, labels, List.length_map, List.length_map]
  change "-".intercalate (labels dimensions c.1.1) ++ ":" ++ c.2 =
    "-".intercalate (labels dimensions d.1.1) ++ ":" ++ d.2 ↔ _
  rw [append_colon_eq_iff]
  constructor
  · rintro (⟨hjoined, hmetric⟩ | ⟨rest, hmetric, hjoined⟩ | ⟨rest, hmetric, hjoined⟩)
    · exact .inl ⟨hmetric, eq_or_hyphenClash hlength hjoined⟩
    · exact .inr (.inl (colonClash_of_cut hmetric hjoined))
    · exact .inr (.inr (colonClash_of_cut hmetric hjoined))
  · rintro (⟨hmetric, hsame | hclash⟩ | hclash | hclash)
    · exact .inl ⟨congrArg _ hsame, hmetric⟩
    · exact .inl ⟨hclash.joined, hmetric⟩
    · exact .inr (.inl hclash.cut)
    · exact .inr (.inr hclash.cut)

/-! ## Replies of rows -/

/-- The replies that are pivoted row by row: those of groups, and those of SQL, whose rows
may take their time from the clock. -/
inductive RowReply where
  | groups
  | sql (now : Instant)

namespace RowReply

/-- The values of the rows. -/
def events (reply : Json) : RowReply → List Fields
  | groups => reply.items.map eventOf
  | sql _ => reply.items.map Json.fields

def table (reply : Json) (dimensions metrics : List String) :
    RowReply → Except Fault (List Series)
  | groups => Reply.groupBy reply dimensions metrics
  | sql now => Reply.sql reply dimensions metrics now

end RowReply

theorem RowReply.table_eq_pivot {p : RowReply} {reply : Json} {dimensions metrics : List String}
    {table : List Series} (h : p.table reply dimensions metrics = .ok table) :
    ∃ rows : List (Fields × Int),
      rows.map (·.1) = p.events reply ∧ table = pivot dimensions metrics rows := by
  have hitems {queryType : String} {items : List Json}
      (h : Reply.items queryType reply = .ok items) : reply.items = items := by
    cases reply with
    | arr _ => exact Except.ok.inj h
    | null | bool | num | str | obj => cases h
  cases p with
  | groups =>
    obtain ⟨items, hreply, h⟩ := Itemwise.bind_eq_ok_iff.mp h
    obtain ⟨rows, hrows, h⟩ := Itemwise.bind_eq_ok_iff.mp h
    cases h
    refine ⟨_, ?_, rfl⟩
    have hevents : rows.map (fun row => eventOf row.1) = items.map eventOf := by
      refine Itemwise.map_of_mapM (fun bucket timed htimed => ?_) hrows
      obtain ⟨time, _, rfl⟩ := Itemwise.map_eq_ok_iff.mp htimed
      rfl
    rw [List.map_map, RowReply.events, hitems hreply, ← hevents]
    rfl
  | sql now =>
    obtain ⟨items, hreply, h⟩ := Itemwise.bind_eq_ok_iff.mp h
    cases hfallback : now.addSeconds? (-fallbackAge) with
    | none =>
      rw [hfallback] at h
      cases h
    | some fallback =>
      rw [hfallback] at h
      obtain ⟨rows, hrows, h⟩ := Itemwise.bind_eq_ok_iff.mp h
      cases h
      refine ⟨rows, ?_, rfl⟩
      rw [RowReply.events, hitems hreply]
      refine Itemwise.map_of_mapM (fun row timed htimed => ?_) hrows
      obtain ⟨ms, _, rfl⟩ := Itemwise.map_eq_ok_iff.mp htimed
      rfl

/-- The cells whose points come into a series. -/
def sources (dimensions metrics : List String) (rows : List (Fields × Int)) (s : Series) :
    List Cell :=
  (rows ×ˢ metrics).filter fun c => cellName dimensions c = s.name

/-- **Groups and metrics are kept apart, but for clashes.** A table of groups, or of SQL
rows, is made of the rows of its reply: the points of a series are those of its cells, and
beside one cell of a series there are those that read alike, and no others. So two groups
share a series under one metric exactly if they have the same labels or in a clash of
hyphens, and two metrics do so exactly in a clash of colons. -/
theorem mem_sources_iff_alike {p : RowReply} {reply : Json} {dimensions metrics : List String}
    {table : List Series} (h : p.table reply dimensions metrics = .ok table) :
    ∃ rows : List (Fields × Int), rows.map (·.1) = p.events reply ∧
      ∀ s ∈ table, s.points = (sources dimensions metrics rows s).map cellPoint ∧
        ∀ c ∈ sources dimensions metrics rows s, ∀ d ∈ rows ×ˢ metrics,
          d ∈ sources dimensions metrics rows s ↔ Alike dimensions c d := by
  obtain ⟨rows, hevents, rfl⟩ := p.table_eq_pivot h
  refine ⟨rows, hevents, fun s hs => ⟨points_of_mem_pivot dimensions metrics hs, ?_⟩⟩
  intro c hc d hd
  have hname : cellName dimensions c = s.name := of_decide_eq_true (List.mem_filter.mp hc).2
  rw [← cellName_eq_iff, hname, sources, List.mem_filter, decide_eq_true_iff]
  exact ⟨fun hmem => hmem.2.symm, fun heq => ⟨hd, heq.symm⟩⟩

/-- Edits of two pages, with a hyphen in the site of one and in the page of the other. -/
def pageRows : List Json :=
  [groupRow 0 (.obj [("site", .str "en-us"), ("page", .str "top"), ("edits", .ofInt 1)]),
    groupRow 0 (.obj [("site", .str "en"), ("page", .str "us-top"), ("edits", .ofInt 2)])]

theorem alike_pageRows :
    RowReply.groups.table (.arr pageRows) ["site", "page"] ["edits"] =
        .ok [⟨"en-us-top:edits", [⟨.ofInt 1, 0⟩, ⟨.ofInt 2, 0⟩]⟩] ∧
      ∃ c d : Cell, labels ["site", "page"] c.1.1 = ["en-us", "top"] ∧
        labels ["site", "page"] d.1.1 = ["en", "us-top"] ∧ Alike ["site", "page"] c d := by
  have htable : RowReply.groups.table (.arr pageRows) ["site", "page"] ["edits"] =
      .ok [⟨"en-us-top:edits", [⟨.ofInt 1, 0⟩, ⟨.ofInt 2, 0⟩]⟩] := rfl
  obtain ⟨rows, hevents, hsources⟩ := mem_sources_iff_alike htable
  obtain ⟨first, rest, rfl, hfirst, hrest⟩ := List.map_eq_cons_iff.mp hevents
  obtain ⟨second, last, rfl, hsecond, _⟩ := List.map_eq_cons_iff.mp hrest
  have hname₁ : cellName ["site", "page"] (first, "edits") = "en-us-top:edits" := by
    rw [cellName, hfirst]
    rfl
  have hname₂ : cellName ["site", "page"] (second, "edits") = "en-us-top:edits" := by
    rw [cellName, hsecond]
    rfl
  have hmem₁ : (first, "edits") ∈ (first :: second :: last) ×ˢ ["edits"] := by simp
  have hmem₂ : (second, "edits") ∈ (first :: second :: last) ×ˢ ["edits"] := by simp
  refine ⟨htable, (first, "edits"), (second, "edits"), ?_, ?_, ?_⟩
  · rw [hfirst]
    rfl
  · rw [hsecond]
    rfl
  · refine ((hsources _ (List.mem_singleton_self _)).2 _ ?_ _ hmem₂).mp ?_
    · exact List.mem_filter.mpr ⟨hmem₁, decide_eq_true hname₁⟩
    · exact List.mem_filter.mpr ⟨hmem₂, decide_eq_true hname₂⟩

/-- Edits of two sites under two metrics, with a colon in one site and in one metric. -/
def botRows : List Json :=
  [groupRow 0 (.obj [("site", .str "en:bot"), ("edits", .ofInt 1)]),
    groupRow 0 (.obj [("site", .str "en"), ("bot:edits", .ofInt 2)])]

/-- Points of two groups come into one series, and so do points of two metrics. -/
theorem groupBy_mixes_pageRows_botRows :
    (pageRows.map fun row => labels ["site", "page"] (eventOf row)) =
        [["en-us", "top"], ["en", "us-top"]] ∧
      groupBy (.arr pageRows) ["site", "page"] ["edits"] =
        .ok [⟨"en-us-top:edits", [⟨.ofInt 1, 0⟩, ⟨.ofInt 2, 0⟩]⟩] ∧
      groupBy (.arr botRows) ["site"] ["edits", "bot:edits"] =
        .ok [⟨"en:bot:edits", [⟨.ofInt 1, 0⟩, ⟨.ofInt 2, 0⟩]⟩,
          ⟨"en:bot:bot:edits", [⟨.null, 0⟩]⟩, ⟨"en:edits", [⟨.null, 0⟩]⟩] :=
  ⟨rfl, rfl, rfl⟩

end Reply

end DruidPanels
