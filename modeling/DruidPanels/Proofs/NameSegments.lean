import DruidPanels.Http.Path
import DruidPanels.Proofs.Exchange
import DruidPanels.Service

/-! # Names as segments

A datasource is described at the path of the listing and one segment more, its name. What
is written of a name is decoded to all of it that is written (`decode?_segment`), and holds
no character that ends a segment. But tabs and line breaks are not written, and for `.` and
`..` nothing is: these names, and no others, are not said by the paths that they reach
(`describe_oneSegment_iff`). -/

namespace DruidPanels

namespace DataSource

/-! ## Written bytes -/

theorem hexDigit?_hexDigit : ∀ n < 16, Text.hexDigit? (hexDigit n) = some n := by decide

/-- A character that ends a segment. -/
def EndsSegment (c : Char) : Prop := c = '/' ∨ c = '?' ∨ c = '#'

theorem not_endsSegment_hexDigit : ∀ n < 16, ¬ EndsSegment (hexDigit n) := by
  unfold EndsSegment
  decide

theorem lt_of_isPlain {b : UInt8} (h : isPlain b = true) : b.toNat < 0x7F := by
  simp only [isPlain, Bool.and_eq_true, decide_eq_true_eq] at h
  exact h.1.2

theorem ne_of_isPlain {b : UInt8} (h : isPlain b = true) :
    Char.ofNat b.toNat ≠ '%' ∧ ¬ EndsSegment (Char.ofNat b.toNat) := by
  simp only [isPlain, Bool.and_eq_true, Bool.not_eq_true', List.contains_eq_mem,
    decide_eq_false_iff_not] at h
  constructor
  · intro hc
    exact h.2 (hc ▸ by decide)
  · rintro (hc | hc | hc) <;> exact h.2 (hc ▸ by decide)

/-- A character of one byte is that byte. -/
theorem utf8EncodeChar_of_isPlain {b : UInt8} (h : isPlain b = true) :
    String.utf8EncodeChar (Char.ofNat b.toNat) = [b] := by
  have hlt := lt_of_isPlain h
  have hnat : (Char.ofNat b.toNat).toNat = b.toNat := by
    rw [Char.ofNat, dif_pos (.inl (by omega))]
    rfl
  have hone : (Char.ofNat b.toNat).utf8Size = 1 :=
    Char.utf8Size_eq_one_iff.mpr (UInt32.le_iff_toNat_le.mpr (by
      change (Char.ofNat b.toNat).toNat ≤ 127
      omega))
  rw [String.utf8EncodeChar_eq_singleton hone]
  refine congrArg (fun byte => [byte]) (UInt8.toNat_inj.mp ?_)
  rw [UInt32.toNat_toUInt8]
  change (Char.ofNat b.toNat).toNat % 256 = b.toNat
  omega

/-- The two digits of a byte are read as the byte. -/
theorem decodeBytes_hexDigits (b : UInt8) (rest : List Char) :
    RequestPath.decodeBytes
        ('%' :: hexDigit (b.toNat / 16) :: hexDigit (b.toNat % 16) :: rest) =
      b :: RequestPath.decodeBytes rest := by
  have hbyte : b.toNat < 256 := b.toNat_lt
  have hvalue : b.toNat / 16 * 16 + b.toNat % 16 = b.toNat := by omega
  rw [RequestPath.decodeBytes, hexDigit?_hexDigit _ (by omega), hexDigit?_hexDigit _ (by omega)]
  simp only [hvalue, UInt8.ofNat_toNat]

theorem decodeBytes_encodeByte (b : UInt8) (rest : List Char) :
    RequestPath.decodeBytes (encodeByte b ++ rest) = b :: RequestPath.decodeBytes rest := by
  unfold encodeByte
  split
  · next hplain =>
    have hpercent := (ne_of_isPlain hplain).1
    rw [List.singleton_append, RequestPath.decodeBytes, utf8EncodeChar_of_isPlain hplain]
    · rfl
    · exact fun _ _ _ hc => absurd hc hpercent
  · exact decodeBytes_hexDigits b rest

theorem decodeBytes_flatMap_encodeByte (bytes : List UInt8) :
    RequestPath.decodeBytes (bytes.flatMap encodeByte) = bytes := by
  induction bytes with
  | nil => rfl
  | cons b rest ih => rw [List.flatMap_cons, decodeBytes_encodeByte, ih]

theorem not_endsSegment_of_mem_encodeByte {b : UInt8} {c : Char} (h : c ∈ encodeByte b) :
    ¬ EndsSegment c := by
  have hbyte : b.toNat < 256 := b.toNat_lt
  unfold encodeByte at h
  split at h
  · next hplain =>
    rw [List.mem_singleton.mp h]
    exact (ne_of_isPlain hplain).2
  · simp only [List.mem_cons, List.not_mem_nil, or_false] at h
    rcases h with rfl | rfl | rfl
    · unfold EndsSegment
      decide
    · exact not_endsSegment_hexDigit _ (by omega)
    · exact not_endsSegment_hexDigit _ (by omega)

/-! ## Written names -/

/-- What is written of a name: all but tabs and line breaks. -/
def written (name : String) : String := String.ofList (name.toList.filter (!isOmitted ·))

theorem segment_eq (name : String) :
    segment name.toList = ((written name).toList.flatMap String.utf8EncodeChar).flatMap encodeByte := by
  rw [written, String.toList_ofList]
  rfl

/-- A segment is decoded to what is written of the name. -/
theorem decode?_segment (name : String) :
    RequestPath.decode? (segment name.toList) = some (written name) := by
  have hbytes : ByteArray.mk ((written name).toList.flatMap String.utf8EncodeChar).toArray =
      (written name).toList.utf8Encode := by
    rw [List.utf8Encode, ← List.data_toByteArray]
  unfold RequestPath.decode? String.fromUTF8?
  rw [segment_eq, decodeBytes_flatMap_encodeByte, hbytes,
    dif_pos ByteArray.isValidUTF8_utf8Encode]
  exact congrArg some (String.toByteArray_inj.mp String.utf8Encode_toList)

theorem segment_inj {a b : String} :
    segment a.toList = segment b.toList ↔ written a = written b := by
  constructor
  · intro h
    have hdecoded := congrArg RequestPath.decode? h
    rw [decode?_segment, decode?_segment] at hdecoded
    exact Option.some.inj hdecoded
  · intro h
    rw [segment_eq, segment_eq, h]

theorem not_endsSegment_of_mem_segment {name : String} {c : Char}
    (h : c ∈ segment name.toList) : ¬ EndsSegment c := by
  rw [segment_eq] at h
  obtain ⟨b, _, hc⟩ := List.mem_flatMap.mp h
  exact not_endsSegment_of_mem_encodeByte hc

/-- The name holds no tab and no line break. -/
def Unbroken (name : String) : Prop :=
  '\t' ∉ name.toList ∧ '\n' ∉ name.toList ∧ '\r' ∉ name.toList

instance : DecidablePred Unbroken := fun _ => inferInstanceAs (Decidable (_ ∧ _ ∧ _))

/-- A name is written in full if it has no tab and no line break. -/
theorem written_eq_self_iff {name : String} : written name = name ↔ Unbroken name := by
  rw [← String.toList_inj, written, String.toList_ofList, List.filter_eq_self]
  constructor
  · intro h
    have hno : ∀ c, isOmitted c = true → c ∉ name.toList := by
      intro c hc hmem
      have hkept := h c hmem
      rw [hc] at hkept
      cases hkept
    exact ⟨hno _ rfl, hno _ rfl, hno _ rfl⟩
  · rintro ⟨htab, hfeed, hreturn⟩ c hc
    simp only [isOmitted, Bool.not_eq_true', Bool.or_eq_false_iff, decide_eq_false_iff_not]
    refine ⟨⟨?_, ?_⟩, ?_⟩
    · exact fun h => htab (h ▸ hc)
    · exact fun h => hfeed (h ▸ hc)
    · exact fun h => hreturn (h ▸ hc)

/-! ## Paths -/

/-- The name stands for a step from one path to another. -/
def IsStep (name : String) : Prop := name = "." ∨ name = ".."

instance : DecidablePred IsStep := fun _ => inferInstanceAs (Decidable (_ ∨ _))

/-- The path is that of the listing and one segment more. The segment is not empty, holds
no character that ends it and is decoded to the name. -/
def OneSegment (path name : String) : Prop :=
  ∃ segment : List Char, path = listing ++ "/" ++ String.ofList segment ∧ segment ≠ [] ∧
    (∀ c ∈ segment, ¬ EndsSegment c) ∧ RequestPath.decode? segment = some name

theorem listing_append_inj {a b : List Char} :
    listing ++ "/" ++ String.ofList a = listing ++ "/" ++ String.ofList b ↔ a = b := by
  refine ⟨fun h => ?_, fun h => h ▸ rfl⟩
  have hlist := congrArg String.toList h
  simp only [String.toList_append, String.toList_ofList] at hlist
  exact List.append_cancel_left hlist

/-- The path of a segment is longer than that of the listing. -/
theorem listing_append_ne {segment : List Char} {path : String}
    (h : path.length ≤ listing.length) : listing ++ "/" ++ String.ofList segment ≠ path := by
  rintro rfl
  simp only [String.length_append] at h
  have hslash : "/".length = 1 := rfl
  omega

theorem segment_eq_dots_iff {name : String} :
    segment name.toList = ['.', '.'] ↔ written name = ".." :=
  segment_inj (b := "..")

theorem path_of_isStep {name : String} (h : IsStep name) : path name = listing := if_pos h

theorem path_of_written_dots {name : String} (h : ¬ IsStep name) (hdots : written name = "..") :
    path name = "/druid/v2/" := by
  unfold IsStep at h
  rw [path, if_neg h, if_pos (segment_eq_dots_iff.mpr hdots)]

theorem path_of_segment {name : String} (h : ¬ IsStep name) (hdots : written name ≠ "..") :
    path name = listing ++ "/" ++ String.ofList (segment name.toList) := by
  unfold IsStep at h
  rw [path, if_neg h, if_neg (mt segment_eq_dots_iff.mp hdots)]

theorem path_eq_listing_iff {name : String} : path name = listing ↔ IsStep name := by
  by_cases hstep : IsStep name
  · exact iff_of_true (path_of_isStep hstep) hstep
  refine iff_of_false (fun h => ?_) hstep
  by_cases hdots : written name = ".."
  · rw [path_of_written_dots hstep hdots] at h
    exact absurd h (by decide)
  · rw [path_of_segment hstep hdots] at h
    exact listing_append_ne (Nat.le_refl _) h

/-- Of names that are no steps, those reach the same path that are written alike. -/
theorem path_eq_path_iff {a b : String} (ha : ¬ IsStep a) (hb : ¬ IsStep b) :
    path a = path b ↔ written a = written b := by
  have hshort : "/druid/v2/".length ≤ listing.length := by decide
  by_cases hda : written a = ".." <;> by_cases hdb : written b = ".."
  · rw [path_of_written_dots ha hda, path_of_written_dots hb hdb, hda, hdb]
    exact iff_of_true rfl rfl
  · rw [path_of_written_dots ha hda, path_of_segment hb hdb, hda]
    exact iff_of_false (fun h => listing_append_ne hshort h.symm) (Ne.symm hdb)
  · rw [path_of_segment ha hda, path_of_written_dots hb hdb, hdb]
    exact iff_of_false (listing_append_ne hshort) hda
  · rw [path_of_segment ha hda, path_of_segment hb hdb, listing_append_inj, segment_inj]

theorem oneSegment_path_iff {name : String} (hne : name ≠ "") :
    OneSegment (path name) name ↔ ¬ IsStep name ∧ Unbroken name := by
  rw [← written_eq_self_iff]
  constructor
  · rintro ⟨segment', hpath, _, _, hdecoded⟩
    by_cases hstep : IsStep name
    · rw [path_of_isStep hstep] at hpath
      exact absurd hpath.symm (listing_append_ne (Nat.le_refl _))
    by_cases hdots : written name = ".."
    · rw [path_of_written_dots hstep hdots] at hpath
      exact absurd hpath.symm (listing_append_ne (by decide))
    · rw [path_of_segment hstep hdots, listing_append_inj] at hpath
      rw [← hpath, decode?_segment] at hdecoded
      exact ⟨hstep, Option.some.inj hdecoded⟩
  · rintro ⟨hstep, hwritten⟩
    have hdots : written name ≠ ".." := fun h => hstep (.inr (hwritten.symm.trans h))
    refine ⟨segment name.toList, path_of_segment hstep hdots, fun hempty => ?_,
      fun c hc => not_endsSegment_of_mem_segment hc, ?_⟩
    · have hblank : written name = written "" := segment_inj.mp hempty
      exact hne (hwritten.symm.trans hblank)
    · rw [decode?_segment, hwritten]

end DataSource

/-! ## Descriptions -/

namespace Service

open DataSource

/-- A name that is asked for: it is not empty and holds no slash. -/
def Asked (name : String) : Prop := name ≠ "" ∧ '/' ∉ name.toList

/-- To describe what was typed is one request, for the path. -/
def Reaches (typed path : String) : Prop :=
  ∀ waiting, ((describe typed).exchange waiting).sent = [.get path]

theorem describe_of_asked {typed : String} (h : Asked (Text.trim typed)) :
    describe typed = Session.send (.get (path (Text.trim typed))) := by
  have hname : ((Text.trim typed).isEmpty || (Text.trim typed).toList.contains '/') = false := by
    simpa [Asked] using h
  simp only [describe, path?, hname, Bool.false_eq_true, if_false]

theorem describe_of_not_asked {typed : String} (h : ¬ Asked (Text.trim typed)) :
    describe typed = throw (RequestError.dataSourceName (Text.trim typed)).fault := by
  have hname : ((Text.trim typed).isEmpty || (Text.trim typed).toList.contains '/') = true := by
    rw [← Bool.not_eq_false]
    simpa [Asked] using h
  simp only [describe, path?, hname, if_true]

theorem reaches_iff {typed path : String} :
    Reaches typed path ↔ Asked (Text.trim typed) ∧ DataSource.path (Text.trim typed) = path := by
  by_cases h : Asked (Text.trim typed)
  · have hsent : ∀ waiting, ((describe typed).exchange waiting).sent =
        [.get (DataSource.path (Text.trim typed))] := by
      intro waiting
      rw [describe_of_asked h, Session.exchange_send]
    unfold Reaches
    simp only [hsent, List.cons.injEq, BrokerRequest.get.injEq, and_true, h, true_and]
    exact ⟨fun hall => hall [], fun heq _ => heq⟩
  · refine iff_of_false (fun hreaches => ?_) fun hasked => h hasked.1
    have hsent := hreaches []
    rw [describe_of_not_asked h] at hsent
    cases hsent

/-- **A name is said by one segment, unless it is a step or is broken.** Whatever is typed,
its name is refused without a request if it is empty or holds a slash; any other is asked
for by one request. The path of the request is that of the listing and one segment that
says the name exactly if the name is no step and holds no tab and no line break. It is that
of the listing itself exactly for steps, and of two other names those reach the same path
that differ in tabs and line breaks alone. -/
theorem describe_oneSegment_iff (typed : String) :
    let name := Text.trim typed
    (¬ Asked name → ∀ waiting, (describe typed).exchange waiting =
      ⟨.error (RequestError.dataSourceName name).fault, [], waiting⟩) ∧
    (Asked name → ∃ path, Reaches typed path ∧
      (OneSegment path name ↔ ¬ IsStep name ∧ Unbroken name) ∧
      (path = listing ↔ IsStep name) ∧
      ∀ typed', Reaches typed' path ↔ Asked (Text.trim typed') ∧
        (IsStep (Text.trim typed') ∧ IsStep name ∨
          ¬ IsStep (Text.trim typed') ∧ ¬ IsStep name ∧
            written (Text.trim typed') = written name)) := by
  intro name
  refine ⟨fun h waiting => ?_, fun h => ⟨path name, reaches_iff.mpr ⟨h, rfl⟩,
    oneSegment_path_iff h.1, path_eq_listing_iff, fun typed' => ?_⟩⟩
  · rw [describe_of_not_asked h]
    rfl
  · rw [reaches_iff]
    refine and_congr_right fun _ => ?_
    by_cases hstep : IsStep name
    · rw [path_of_isStep hstep, path_eq_listing_iff]
      simp [hstep]
    · by_cases hstep' : IsStep (Text.trim typed')
      · have hdiffer : ¬ listing = path name := fun heq => hstep (path_eq_listing_iff.mp heq.symm)
        rw [path_of_isStep hstep']
        simp [hstep, hstep', hdiffer]
      · rw [path_eq_path_iff hstep' hstep]
        simp [hstep, hstep']

/-- A name with a tab in it reaches the path of another name, and `.` reaches the listing. -/
theorem describe_tabbedName :
    (∃ path, Reaches "a\tb" path ∧ Reaches "ab" path ∧ ¬ OneSegment path "a\tb") ∧
      Reaches " . " listing ∧
      (describe "a/b").exchange [] = ⟨.error (RequestError.dataSourceName "a/b").fault, [], []⟩ := by
  have htab : Text.trim "a\tb" = "a\tb" := by decide +kernel
  have hplain : Text.trim "ab" = "ab" := by decide +kernel
  have hdot : Text.trim " . " = "." := by decide +kernel
  have hslash : Text.trim "a/b" = "a/b" := by decide +kernel
  obtain ⟨_, hasked⟩ := describe_oneSegment_iff "a\tb"
  obtain ⟨path, hreaches, hsegment, _, hothers⟩ := hasked (by rw [htab]; exact ⟨by decide, by decide⟩)
  obtain ⟨_, hdotAsked⟩ := describe_oneSegment_iff " . "
  obtain ⟨dotPath, hdotReaches, _, hlisting, _⟩ :=
    hdotAsked (by rw [hdot]; exact ⟨by decide, by decide⟩)
  refine ⟨⟨path, hreaches, ?_, ?_⟩, ?_, ?_⟩
  · refine (hothers "ab").mpr ⟨by rw [hplain]; exact ⟨by decide, by decide⟩, .inr ?_⟩
    rw [htab, hplain]
    exact ⟨by decide, by decide, by decide⟩
  · rw [htab] at hsegment
    exact fun h => absurd (hsegment.mp h).2 (by decide)
  · rwa [hlisting.mpr (by rw [hdot]; exact .inl rfl)] at hdotReaches
  · have hrefused := (describe_oneSegment_iff "a/b").1
    rw [hslash] at hrefused
    exact hrefused (fun h => h.2 (by decide)) []

end Service

end DruidPanels
