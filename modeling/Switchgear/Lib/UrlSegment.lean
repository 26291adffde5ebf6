/-
  Switchgear.Lib.UrlSegment — a URL put together from plain text and one segment
  nobody has looked at.

  `requestText` is what a client sends of a URL: it parses the URL and writes its
  path and query down again, percent-encoded.  `ofText` is what a router makes of
  that.  Between plain segments and a plain query, any text is put as a segment:

    * `target_safe` — a safe segment arrives as one, between the others,
    * `safe_of_decoded` — a text that is decoded from any segment that arrives is
      a safe segment.
-/
import Switchgear.Lib.PercentEncode

namespace Switchgear.Lib

namespace UrlPath

open Url

/-! ## §1. What a client sends and a router reads. -/

/-- The path and the query, written down. -/
def Target.toText (self : Target) : List Char :=
  pathText (self.segments.map (percentEncode pathSet))
    ++ queryText (self.query.map (percentEncode querySet))

/-- The path and the query of a request line, up to a fragment. -/
def Target.ofText (text : List Char) : Target :=
  let text := text.takeWhile fun c => c != '#'
  { segments := ((text.takeWhile fun c => c != '?').splitOn '/').tail
    query :=
      match text.dropWhile fun c => c != '?' with
      | [] => none
      | _ :: query => some query }

/-- What a client sends of a URL. -/
def requestText (hosts : HostParser) (text : List Char) : Option (List Char) :=
  (Url.parse hosts text).map fun url => (target url.tail).toText

theorem mem_resolveDots {s : List Char} {segments : List (List Char)} (path : List (List Char))
    (h : s ∈ resolveDots path segments) :
    s = [] ∨ s ∈ path ∨ (s ∈ segments ∧ isSingleDot s = false ∧ isDoubleDot s = false) := by
  have htail : ∀ rest : List (List Char), ∀ path : List (List Char),
      s ∈ (if rest = [] then [] :: path else path) → s = [] ∨ s ∈ path := by
    intro rest path hmem
    split at hmem
    · exact List.mem_cons.mp hmem
    · exact .inr hmem
  -- on the segments; what is kept of the path so far comes back at the end
  induction segments generalizing path with
  | nil =>
      right; left
      unfold resolveDots at h
      exact List.mem_reverse.mp h
  | cons segment rest ih =>
      have hstep : ∀ path', s ∈ resolveDots path' rest → (s ∈ path' → s = [] ∨ s ∈ path
            ∨ (s = segment ∧ isSingleDot s = false ∧ isDoubleDot s = false)) →
          s = [] ∨ s ∈ path
            ∨ (s ∈ segment :: rest ∧ isSingleDot s = false ∧ isDoubleDot s = false) := by
        intro path' hmem hpath'
        rcases ih path' hmem with hnil | hmem | ⟨hmem, hdots⟩
        · exact .inl hnil
        · rcases hpath' hmem with hnil | hmem | ⟨rfl, hdots⟩
          · exact .inl hnil
          · exact .inr (.inl hmem)
          · exact .inr (.inr ⟨List.mem_cons_self, hdots⟩)
        · exact .inr (.inr ⟨List.mem_cons_of_mem _ hmem, hdots⟩)
      unfold resolveDots at h
      cases hdouble : isDoubleDot segment with
      | true =>
          rw [hdouble, if_pos rfl] at h
          -- `..` takes a segment away, and leaves an empty one where it is the last
          apply hstep _ h
          intro hmem
          rcases htail rest path.tail hmem with hnil | hmem
          · exact .inl hnil
          · exact .inr (.inl (List.mem_of_mem_tail hmem))
      | false =>
          rw [hdouble, if_neg Bool.false_ne_true] at h
          cases hsingle : isSingleDot segment with
          | true =>
              rw [hsingle, if_pos rfl] at h
              apply hstep _ h
              intro hmem
              rcases htail rest path hmem with hnil | hmem
              · exact .inl hnil
              · exact .inr (.inl hmem)
          | false =>
              rw [hsingle, if_neg Bool.false_ne_true] at h
              apply hstep _ h
              intro hmem
              rcases List.mem_cons.mp hmem with rfl | hmem
              · exact .inr (.inr ⟨rfl, hsingle, hdouble⟩)
              · exact .inr (.inl hmem)

/-- A piece is part of the text and has no separator. -/
theorem mem_splitOnP {p : Char → Bool} {s text : List Char} (h : s ∈ text.splitOnP p) :
    s.Sublist text ∧ ∀ c ∈ s, p c = false := by
  induction text generalizing s with
  | nil =>
      rw [List.splitOnP_nil, List.mem_singleton] at h
      subst h
      exact ⟨List.Sublist.refl _, by simp⟩
  | cons c text ih =>
      rw [List.splitOnP_cons_eq_if_modifyHead] at h
      cases hc : p c with
      | true =>
          rw [hc, if_pos rfl] at h
          rcases List.mem_cons.mp h with rfl | h
          · exact ⟨List.nil_sublist _, by simp⟩
          · obtain ⟨hsub, hsep⟩ := ih h
            exact ⟨hsub.cons c, hsep⟩
      | false =>
          rw [hc, if_neg Bool.false_ne_true] at h
          obtain ⟨first, rest, hsplit⟩ := List.exists_cons_of_ne_nil (List.splitOnP_ne_nil p text)
          rw [hsplit, List.modifyHead_cons] at h
          rcases List.mem_cons.mp h with rfl | h
          · obtain ⟨hsub, hsep⟩ := ih (s := first) (by rw [hsplit]; exact List.mem_cons_self)
            refine ⟨hsub.cons_cons c, ?_⟩
            intro c' hc'
            rcases List.mem_cons.mp hc' with rfl | hc'
            · exact hc
            · exact hsep c' hc'
          · obtain ⟨hsub, hsep⟩ := ih (s := s) (by rw [hsplit]; exact List.mem_cons_of_mem _ h)
            exact ⟨hsub.cons c, hsep⟩

/-- No segment that arrives has a slash. -/
theorem not_slash_of_mem_target {text s : List Char} (h : s ∈ (target text).segments) :
    ∀ c ∈ s, isSlash c = false := by
  rcases mem_resolveDots [] h with rfl | hnil | ⟨hmem, -⟩
  · intro c hc
    cases hc
  · cases hnil
  · exact (mem_splitOnP (List.mem_of_mem_tail hmem)).2

/-- An encoded text has the characters of the text that are not encoded, and those of `%XX`. -/
theorem mem_percentEncode {set : Char → Bool} {s : List Char} {c : Char}
    (hc : c ∈ percentEncode set s) :
    (c ∈ s ∧ set c = false) ∨ (c ≠ '/' ∧ c ≠ '?' ∧ c ≠ '#') := by
  obtain ⟨d, hd, hmem⟩ := List.mem_flatMap.mp hc
  cases hset : set d with
  | true =>
      right
      rw [hset, if_pos rfl] at hmem
      obtain ⟨b, -, hmem⟩ := List.mem_flatMap.mp hmem
      have hdigit : ∀ n : Fin 16, (Nat.digitChar n).toUpper ≠ '/'
          ∧ (Nat.digitChar n).toUpper ≠ '?' ∧ (Nat.digitChar n).toUpper ≠ '#' := by decide
      have hb : b.toNat < 256 := b.toNat_lt
      simp only [percentByte, List.mem_cons, List.not_mem_nil, or_false] at hmem
      rcases hmem with rfl | rfl | rfl
      · decide
      · exact hdigit ⟨b.toNat / 16, by omega⟩
      · exact hdigit ⟨b.toNat % 16, by omega⟩
  | false =>
      left
      rw [hset, if_neg Bool.false_ne_true, List.mem_singleton] at hmem
      subst hmem
      exact ⟨hd, hset⟩

/-- In an encoded segment there is no slash but its own, no question mark and no hash. -/
theorem mem_percentEncode_pathSet {s : List Char} (h : ∀ c ∈ s, isSlash c = false) {c : Char}
    (hc : c ∈ percentEncode pathSet s) : c ≠ '/' ∧ c ≠ '?' ∧ c ≠ '#' := by
  rcases mem_percentEncode hc with ⟨hmem, hset⟩ | hne
  · refine ⟨?_, ?_, ?_⟩
    · intro heq
      have hslash := h c hmem
      rw [heq] at hslash
      cases hslash
    · intro heq
      rw [heq] at hset
      exact absurd hset (by decide)
    · intro heq
      rw [heq] at hset
      exact absurd hset (by decide)
  · exact hne

/-- What a client sends has no fragment. -/
theorem not_hash_of_mem_toText {self : Target}
    (h : ∀ s ∈ self.segments, ∀ c ∈ s, isSlash c = false) {c : Char} (hc : c ∈ self.toText) :
    c ≠ '#' := by
  rcases List.mem_append.mp hc with hc | hc
  · obtain ⟨s, hs, hmem⟩ := List.mem_flatMap.mp hc
    obtain ⟨s', hs', rfl⟩ := List.mem_map.mp hs
    rcases List.mem_cons.mp hmem with rfl | hmem
    · decide
    · exact (mem_percentEncode_pathSet (h s' hs') hmem).2.2
  · cases hquery : self.query with
    | none =>
        rw [hquery] at hc
        cases hc
    | some query =>
        rw [hquery] at hc
        rcases List.mem_cons.mp hc with rfl | hc
        · decide
        · rcases mem_percentEncode hc with ⟨-, hset⟩ | ⟨-, -, hne⟩
          · intro heq
            rw [heq] at hset
            exact absurd hset (by decide)
          · exact hne

/-- A path falls into its segments again. -/
theorem splitOn_pathText {segments : List (List Char)} (h : ∀ s ∈ segments, '/' ∉ s) :
    ∀ first : List Char, '/' ∉ first →
      (first ++ pathText segments).splitOn '/' = first :: segments := by
  induction segments with
  | nil =>
      intro first hfirst
      show (first ++ []).splitOn '/' = _
      rw [List.append_nil, List.splitOn_eq_singleton hfirst]
  | cons segment segments ih =>
      intro first hfirst
      have hrest := ih (fun s hs => h s (List.mem_cons_of_mem _ hs)) segment
        (h segment List.mem_cons_self)
      show (first ++ '/' :: (segment ++ pathText segments)).splitOn '/' = _
      rw [List.splitOn_append_cons_self, List.splitOn_eq_singleton hfirst, hrest]
      rfl

/-- The router reads the encoded segments and the encoded query. -/
theorem ofText_toText (self : Target) (h : ∀ s ∈ self.segments, ∀ c ∈ s, isSlash c = false) :
    Target.ofText self.toText
      = { segments := self.segments.map (percentEncode pathSet)
          query := self.query.map (percentEncode querySet) } := by
  have hslash : ∀ s ∈ self.segments.map (percentEncode pathSet), '/' ∉ s := by
    intro s hs hmem
    obtain ⟨s', hs', rfl⟩ := List.mem_map.mp hs
    exact (mem_percentEncode_pathSet (h s' hs') hmem).1 rfl
  have hquestion : ∀ c ∈ pathText (self.segments.map (percentEncode pathSet)),
      (c != '?') = true := by
    intro c hc
    obtain ⟨s, hs, hmem⟩ := List.mem_flatMap.mp hc
    obtain ⟨s', hs', rfl⟩ := List.mem_map.mp hs
    rcases List.mem_cons.mp hmem with rfl | hmem
    · rfl
    · exact bne_iff_ne.mpr (mem_percentEncode_pathSet (h s' hs') hmem).2.1
  have hfragment : self.toText.takeWhile (fun c => c != '#') = self.toText := by
    rw [List.takeWhile_eq_self_iff]
    intro c hc
    exact bne_iff_ne.mpr (not_hash_of_mem_toText h hc)
  obtain ⟨hpath, hrest⟩ := takeWhile_queryText hquestion (self.query.map (percentEncode querySet))
  have hsegments := splitOn_pathText hslash [] (by simp)
  rw [List.nil_append] at hsegments
  unfold Target.ofText
  rw [hfragment]
  unfold Target.toText
  dsimp only
  rw [hpath, hrest, hsegments, List.tail_cons]
  cases self.query with
  | none => rfl
  | some query => rfl

/-! ## §2. Safe segments. -/

/-- A character at which a segment ends, or that is dropped. -/
def isDelimiter (c : Char) : Bool := isSlash c || isTabOrNewline c || c == '#' || c == '?'

/-- A segment that arrives as it is written. -/
structure SafeSegment (segment : List Char) : Prop where
  delimiters : ∀ c ∈ segment, isDelimiter c = false
  single_dot : isSingleDot segment = false
  double_dot : isDoubleDot segment = false
  pairs : hasPair segment = false

theorem hasPair_of_not_mem {text : List Char} (h : '%' ∉ text) : hasPair text = false := by
  rw [← percentDecode_eq_self_iff]
  exact if_neg h

theorem PlainSegment.safe {segment : List Char} (h : PlainSegment segment) :
    SafeSegment segment where
  delimiters c hc := by
    have hplain := h.plainChar hc
    simp [isDelimiter, hplain.not_slash, not_tab_of_visible hplain.visible, hplain.not_hash,
      hplain.not_question]
  single_dot := h.not_dots.1
  double_dot := h.not_dots.2
  pairs := hasPair_of_not_mem h.not_mem_percent

theorem safeSegment_nil : SafeSegment [] where
  delimiters := by simp
  single_dot := by decide
  double_dot := by decide
  pairs := by decide

theorem SafeSegment.decoded {segment : List Char} (h : SafeSegment segment) :
    percentDecode segment = some (String.ofList segment) :=
  (percentDecode_eq_self_iff segment).mpr h.pairs

/-! ## §3. One segment between plain ones. -/

/-- A query nothing is encoded of is plain. -/
theorem plainQuery_of_querySet {query : List Char} (h : ∀ c ∈ query, querySet c = false) :
    PlainQuery query := by
  intro c hc
  have hset := h c hc
  constructor
  · simp only [querySet, controlSet, Bool.or_eq_false_iff, decide_eq_false_iff_not] at hset
    unfold isControlOrSpace
    rw [decide_eq_false_iff_not]
    exact hset.1.1
  · intro heq
    rw [heq] at hset
    exact absurd hset (by decide)

/-- What is left of a segment that nothing is cut off from but at a fragment or a query. -/
def inPath (segment : List Char) : List Char :=
  (dropTabs segment).takeWhile fun c => !(c == '#' || c == '?')

/-- Nothing ends the path in the segment. -/
def Uncut (segment : List Char) : Prop := ∀ c ∈ dropTabs segment, (c == '#' || c == '?') = false

section Around

variable {before after : List (List Char)} {query : Option (List Char)}

/-- What is after the segment: something, and nothing that is cut off at the end. -/
structure PlainRest (after : List (List Char)) (query : Option (List Char)) : Prop where
  nonempty : pathText after ++ queryText query ≠ []
  segments : ∀ s ∈ after, PlainSegment s
  query : ∀ text ∈ query, ∀ c ∈ text, querySet c = false

/-- The text with the segment in it. -/
def around (before : List (List Char)) (segment : List Char) (after : List (List Char))
    (query : Option (List Char)) : List Char :=
  pathText before ++ '/' :: (segment ++ (pathText after ++ queryText query))

theorem PlainRest.mem (h : PlainRest after query) {c : Char}
    (hc : c ∈ pathText after ++ queryText query) : isControlOrSpace c = false ∧ c ≠ '#' := by
  rcases List.mem_append.mp hc with hc | hc
  · have hpath := mem_pathText h.segments hc
    exact ⟨hpath.1, hpath.2.2⟩
  · cases query with
    | none => cases hc
    | some text =>
        rcases List.mem_cons.mp hc with rfl | hc
        · decide
        · exact plainQuery_of_querySet (h.query text rfl) c hc

/-- What the parser cuts the path out of. -/
theorem clean_around (hbefore : ∀ s ∈ before, PlainSegment s) (hrest : PlainRest after query)
    (segment : List Char) :
    dropTabs ((around before segment after query).rdropWhile isControlOrSpace)
      = around before (dropTabs segment) after query := by
  have hlast : (around before segment after query).rdropWhile isControlOrSpace
      = around before segment after query := by
    rw [List.rdropWhile_eq_self_iff]
    intro hne
    have hsplit : around before segment after query
        = (pathText before ++ '/' :: segment) ++ (pathText after ++ queryText query) := by
      simp [around]
    have hmem : (around before segment after query).getLast hne
        ∈ pathText after ++ queryText query := by
      simp only [hsplit, List.getLast_append_of_ne_nil _ hrest.nonempty]
      exact List.getLast_mem _
    rw [(hrest.mem hmem).1]
    exact Bool.false_ne_true
  have htabs : dropTabs (pathText before) = pathText before :=
    dropTabs_visible fun c hc => (mem_pathText hbefore hc).1
  have htabs' : dropTabs (pathText after ++ queryText query) = pathText after ++ queryText query :=
    dropTabs_visible fun c hc => (hrest.mem hc).1
  rw [hlast]
  unfold around
  rw [dropTabs_append, dropTabs_cons_of_neg (by decide), dropTabs_append, htabs, htabs']

theorem takeWhile_path (text : List Char) :
    (text.takeWhile fun c => c != '#').takeWhile (fun c => c != '?')
      = text.takeWhile fun c => !(c == '#' || c == '?') := by
  rw [List.takeWhile_takeWhile]
  congr 1
  funext c
  cases hhash : c == '#' <;> cases hquestion : c == '?' <;> simp_all

theorem takeWhile_before (hbefore : ∀ s ∈ before, PlainSegment s) (text : List Char) :
    (pathText before ++ '/' :: text).takeWhile (fun c => !(c == '#' || c == '?'))
      = pathText before ++ '/' :: text.takeWhile fun c => !(c == '#' || c == '?') := by
  rw [List.takeWhile_append_of_pos]
  · rfl
  · intro c hc
    obtain ⟨-, hquestion, hhash⟩ := mem_pathText hbefore hc
    simp [hquestion, hhash]

theorem splitOnP_before (hbefore : ∀ s ∈ before, PlainSegment s) (text : List Char) :
    ((pathText before ++ '/' :: text).splitOnP isSlash).tail = before ++ text.splitOnP isSlash := by
  have hsplit := splitOnP_pathText hbefore [] (by simp)
  rw [List.nil_append] at hsplit
  rw [List.splitOnP_append_cons _ _ (by decide), hsplit]
  rfl

theorem splitOnP_after (hafter : ∀ s ∈ after, PlainSegment s) (text : List Char) :
    (text ++ pathText after).splitOnP isSlash = text.splitOnP isSlash ++ after := by
  cases after with
  | nil =>
      show (text ++ []).splitOnP isSlash = _
      rw [List.append_nil, List.append_nil]
  | cons s after =>
      have hs := hafter s List.mem_cons_self
      have hrest := splitOnP_pathText (fun s' hs' => hafter s' (List.mem_cons_of_mem _ hs')) s
        fun c hc => (hs.plainChar hc).not_slash
      show (text ++ '/' :: (s ++ pathText after)).splitOnP isSlash = _
      rw [List.splitOnP_append_cons _ _ (by decide), hrest]

theorem inPath_of_uncut {segment : List Char} (h : Uncut segment) :
    inPath segment = dropTabs segment := by
  unfold inPath
  rw [List.takeWhile_eq_self_iff]
  intro c hc
  rw [h c hc]
  rfl

/-- Where nothing in the segment ends the path, its pieces stand between the others. -/
theorem target_of_uncut (hbefore : ∀ s ∈ before, PlainSegment s) (hrest : PlainRest after query)
    {segment : List Char} (h : Uncut segment) :
    target (around before segment after query)
      = { segments := resolveDots [] (before ++ ((inPath segment).splitOnP isSlash ++ after))
          query } := by
  have hhash : (around before (dropTabs segment) after query).takeWhile (fun c => c != '#')
      = around before (dropTabs segment) after query := by
    rw [List.takeWhile_eq_self_iff]
    intro c hc
    rw [bne_iff_ne]
    rcases List.mem_append.mp hc with hc | hc
    · exact (mem_pathText hbefore hc).2.2
    · rcases List.mem_cons.mp hc with rfl | hc
      · decide
      · rcases List.mem_append.mp hc with hc | hc
        · have hcut := h c hc
          simp only [Bool.or_eq_false_iff, beq_eq_false_iff_ne] at hcut
          exact hcut.1
        · exact (hrest.mem hc).2
  have hquestion : ∀ c ∈ pathText before ++ '/' :: (dropTabs segment ++ pathText after),
      (c != '?') = true := by
    intro c hc
    rw [bne_iff_ne]
    rcases List.mem_append.mp hc with hc | hc
    · exact (mem_pathText hbefore hc).2.1
    · rcases List.mem_cons.mp hc with rfl | hc
      · decide
      · rcases List.mem_append.mp hc with hc | hc
        · have hcut := h c hc
          simp only [Bool.or_eq_false_iff, beq_eq_false_iff_ne] at hcut
          exact hcut.2
        · exact (mem_pathText hrest.segments hc).2.1
  obtain ⟨hpath, htail⟩ := takeWhile_queryText hquestion query
  have haround : around before (dropTabs segment) after query
      = (pathText before ++ '/' :: (dropTabs segment ++ pathText after)) ++ queryText query := by
    simp [around]
  unfold target
  rw [clean_around hbefore hrest, hhash, haround]
  dsimp only
  rw [hpath, htail, splitOnP_before hbefore, splitOnP_after hrest.segments, inPath_of_uncut h]
  cases query with
  | none => rfl
  | some query => rfl

/-- Else only the pieces up to there are left. -/
theorem target_of_cut (hbefore : ∀ s ∈ before, PlainSegment s) (hrest : PlainRest after query)
    {segment : List Char} (h : ¬ Uncut segment) :
    (target (around before segment after query)).segments
      = resolveDots [] (before ++ (inPath segment).splitOnP isSlash) := by
  have hcut : (dropTabs segment ++ (pathText after ++ queryText query)).takeWhile
      (fun c => !(c == '#' || c == '?')) = inPath segment := by
    unfold inPath
    rw [List.takeWhile_append, if_neg]
    intro hlength
    apply h
    intro c hc
    have hself := (List.takeWhile_prefix _).eq_of_length hlength
    rw [← hself] at hc
    simpa using List.mem_takeWhile_imp hc
  unfold target
  rw [clean_around hbefore hrest]
  dsimp only
  rw [takeWhile_path]
  unfold around
  rw [takeWhile_before hbefore, hcut, splitOnP_before hbefore]

/-- A segment that arrives is a plain one, or a piece of the one in between. -/
theorem mem_target (hbefore : ∀ s ∈ before, PlainSegment s) (hrest : PlainRest after query)
    {segment s : List Char} (h : s ∈ (target (around before segment after query)).segments)
    (hne : s ≠ []) :
    PlainSegment s ∨ (s ∈ (inPath segment).splitOnP isSlash
      ∧ isSingleDot s = false ∧ isDoubleDot s = false) := by
  have hpieces : (s ∈ before ∨ s ∈ (inPath segment).splitOnP isSlash ∨ s ∈ after)
      ∧ isSingleDot s = false ∧ isDoubleDot s = false := by
    by_cases huncut : Uncut segment
    · rw [target_of_uncut hbefore hrest huncut] at h
      rcases mem_resolveDots [] h with hnil | hnil | ⟨hmem, hdots⟩
      · exact absurd hnil hne
      · cases hnil
      · simp only [List.mem_append] at hmem
        exact ⟨hmem, hdots⟩
    · rw [target_of_cut hbefore hrest huncut] at h
      rcases mem_resolveDots [] h with hnil | hnil | ⟨hmem, hdots⟩
      · exact absurd hnil hne
      · cases hnil
      · rcases List.mem_append.mp hmem with hmem | hmem
        · exact ⟨.inl hmem, hdots⟩
        · exact ⟨.inr (.inl hmem), hdots⟩
  obtain ⟨hmem | hmem | hmem, hdots⟩ := hpieces
  · exact .inl (hbefore s hmem)
  · exact .inr ⟨hmem, hdots⟩
  · exact .inl (hrest.segments s hmem)

theorem length_utf8_le {first second : List Char} (h : first.Sublist second) :
    (utf8 first).length ≤ (utf8 second).length := (h.flatMap _).length_le

/-- A part of a text that takes as many bytes is all of it. -/
theorem eq_of_length_utf8 {first second : List Char} (h : first.Sublist second)
    (hle : (utf8 second).length ≤ (utf8 first).length) : first = second := by
  induction h with
  | slnil => rfl
  | cons c h ih =>
      have hsub := length_utf8_le h
      have hsize := c.utf8Size_pos
      rw [utf8_cons, List.length_append, String.length_utf8EncodeChar] at hle
      omega
  | cons_cons c h ih =>
      rw [utf8_cons, utf8_cons, List.length_append, List.length_append] at hle
      rw [ih (by omega)]

/-- **A text that is decoded from a segment that arrives** is a safe segment. -/
theorem safe_of_decoded (hbefore : ∀ s ∈ before, PlainSegment s) (hrest : PlainRest after query)
    {segment s : List Char} (h : s ∈ (target (around before segment after query)).segments)
    (hne : s ≠ []) (hdecode : percentDecode s = some (String.ofList segment)) :
    SafeSegment segment := by
  rcases mem_target hbefore hrest h hne with hplain | ⟨hpiece, hsingle, hdouble⟩
  · have hself := percentDecode_plain hplain
    rw [hdecode, Option.some.injEq, String.ofList_inj] at hself
    rw [hself]
    exact hplain.safe
  · obtain ⟨hsub, hslash⟩ := mem_splitOnP hpiece
    have hsub' : s.Sublist segment :=
      hsub.trans ((List.takeWhile_prefix _).sublist.trans List.filter_sublist)
    -- decoding loses bytes, and so does every cut: there was neither
    have hbytes := (percentDecode_eq_some_iff s segment).mp hdecode
    have hle : (utf8 segment).length ≤ (utf8 s).length := by
      rw [← hbytes]
      exact length_percentBytes_le (utf8 s)
    obtain rfl := eq_of_length_utf8 hsub' hle
    refine ⟨?_, hsingle, hdouble, (percentDecode_eq_self_iff s).mp hdecode⟩
    intro c hc
    have hkept := hsub.subset hc
    have hcut := List.mem_takeWhile_imp hkept
    have htab := List.of_mem_filter ((List.takeWhile_prefix _).subset hkept)
    simp only [Bool.not_eq_true', Bool.or_eq_false_iff] at hcut htab
    simp [isDelimiter, hslash c hc, htab, hcut.1, hcut.2]

/-- **A safe segment arrives** between the others, and the query after it. -/
theorem target_safe (hbefore : ∀ s ∈ before, PlainSegment s) (hrest : PlainRest after query)
    {segment : List Char} (h : SafeSegment segment) :
    target (around before segment after query)
      = { segments := before ++ segment :: after, query } := by
  have hdelimiter : ∀ c ∈ segment, (isSlash c = false ∧ isTabOrNewline c = false)
      ∧ (c == '#' || c == '?') = false := by
    intro c hc
    have hc' := h.delimiters c hc
    simp only [isDelimiter, Bool.or_eq_false_iff] at hc' ⊢
    exact ⟨⟨hc'.1.1.1, hc'.1.1.2⟩, hc'.1.2, hc'.2⟩
  have htabs : dropTabs segment = segment := by
    unfold dropTabs
    rw [List.filter_eq_self]
    intro c hc
    rw [(hdelimiter c hc).1.2]
    rfl
  have huncut : Uncut segment := by
    intro c hc
    rw [htabs] at hc
    exact (hdelimiter c hc).2
  have hpieces : (inPath segment).splitOnP isSlash = [segment] := by
    rw [inPath_of_uncut huncut, htabs]
    exact List.splitOnP_eq_singleton fun c hc => (hdelimiter c hc).1.1
  rw [target_of_uncut hbefore hrest huncut, hpieces, List.singleton_append,
    resolveDots_of_not_dots]
  · rfl
  · intro s hs
    rcases List.mem_append.mp hs with hs | hs
    · exact (hbefore s hs).not_dots
    · rcases List.mem_cons.mp hs with rfl | hs
      · exact ⟨h.single_dot, h.double_dot⟩
      · exact (hrest.segments s hs).not_dots

/-! ## §4. The request. -/

theorem percentEncode_of_not_mem {set : Char → Bool} {text : List Char}
    (h : ∀ c ∈ text, set c = false) : percentEncode set text = text := by
  induction text with
  | nil => rfl
  | cons c text ih =>
      rw [percentEncode_cons_of_not_mem (h c List.mem_cons_self),
        ih fun c' hc' => h c' (List.mem_cons_of_mem _ hc')]

theorem percentEncode_plain {segment : List Char} (h : PlainSegment segment) :
    percentEncode pathSet segment = segment := by
  apply percentEncode_of_not_mem
  intro c hc
  have hall := Hex.of_ascii (P := fun c => isUnreserved c = true → pathSet c = false) (by decide)
    (isUnreserved_lt (h.unreserved c hc))
  exact hall (h.unreserved c hc)

theorem percentEncode_ne_nil {set : Char → Bool} {segment : List Char} (h : segment ≠ []) :
    percentEncode set segment ≠ [] := by
  obtain ⟨c, rest, rfl⟩ := List.exists_cons_of_ne_nil h
  cases hc : set c with
  | true =>
      obtain ⟨b, bytes, hbytes⟩ := List.exists_cons_of_ne_nil (String.utf8EncodeChar_ne_nil (c := c))
      rw [percentEncode_cons_of_mem hc, hbytes]
      exact List.cons_ne_nil _ _
  | false =>
      rw [percentEncode_cons_of_not_mem hc]
      exact List.cons_ne_nil _ _

/-- A safe segment is read by the router, encoded, between the others. -/
theorem arrived_safe (hbefore : ∀ s ∈ before, PlainSegment s) (hrest : PlainRest after query)
    {segment : List Char} (h : SafeSegment segment) :
    Target.ofText (target (around before segment after query)).toText
      = { segments := before ++ percentEncode pathSet segment :: after, query } := by
  have hplain : ∀ segments : List (List Char), (∀ s ∈ segments, PlainSegment s) →
      segments.map (percentEncode pathSet) = segments := by
    intro segments hsegments
    refine (List.map_congr_left fun s hs => ?_).trans (List.map_id _)
    exact percentEncode_plain (hsegments s hs)
  have hquery : query.map (percentEncode querySet) = query := by
    cases query with
    | none => rfl
    | some text => exact congrArg some (percentEncode_of_not_mem (hrest.query text rfl))
  rw [ofText_toText _ fun s hs => not_slash_of_mem_target hs, target_safe hbefore hrest h,
    List.map_append, List.map_cons, hplain before hbefore, hplain after hrest.segments, hquery]

/-- A text the router decodes from a parameter is a safe segment. -/
theorem safe_of_arrived (hbefore : ∀ s ∈ before, PlainSegment s) (hrest : PlainRest after query)
    {segment parameter : List Char}
    (h : parameter ∈ (Target.ofText (target (around before segment after query)).toText).segments)
    (hdecode : percentDecode parameter = some (String.ofList segment)) :
    SafeSegment segment := by
  rw [ofText_toText _ fun s hs => not_slash_of_mem_target hs] at h
  obtain ⟨s, hs, rfl⟩ := List.mem_map.mp h
  rw [percentDecode_percentEncode encodeSet_pathSet] at hdecode
  cases s with
  | nil =>
      -- an empty parameter is the empty text
      have hnil : percentDecode [] = some (String.ofList []) := rfl
      rw [hnil, Option.some.injEq, String.ofList_inj] at hdecode
      rw [← hdecode]
      exact safeSegment_nil
  | cons c rest => exact safe_of_decoded hbefore hrest hs (List.cons_ne_nil c rest) hdecode

end Around

/-- Where a service stands: a special scheme other than `file`, and an authority that ends
where the path begins. -/
structure Origin (hosts : HostParser) where
  scheme : String
  authority : String
  special : (schemeOf scheme.toList).map SchemeType.of = some .specialNotFile
  nonempty : authority.toList ≠ []
  plain : ∀ c ∈ authority.toList, isDelimiter c = false
  parses : (Url.parse hosts (scheme.toList ++ ':' :: '/' :: '/' :: (authority.toList
    ++ ['/']))).isSome = true

namespace Origin

variable {hosts : HostParser} (self : Origin hosts)

/-- `scheme://authority`. -/
def text : List Char := self.scheme.toList ++ ':' :: '/' :: '/' :: self.authority.toList

/-- The scheme, in lower case. -/
theorem exists_lower : ∃ lower, schemeOf self.scheme.toList = some lower
    ∧ SchemeType.of lower = .specialNotFile := by
  obtain ⟨lower, hlower, htype⟩ := Option.map_eq_some_iff.mp self.special
  exact ⟨lower, hlower, htype⟩

theorem scheme_chars : ∀ c ∈ self.scheme.toList, isSchemeChar c = true := by
  obtain ⟨lower, hlower, -⟩ := self.exists_lower
  intro c hc
  cases hscheme : self.scheme.toList with
  | nil =>
      rw [hscheme] at hc
      cases hc
  | cons first rest =>
      rw [hscheme] at hlower hc
      unfold schemeOf at hlower
      dsimp only at hlower
      split at hlower
      · rename_i hall
        rw [Bool.and_eq_true] at hall
        exact List.all_eq_true.mp hall.2 c hc
      · cases hlower

theorem scheme_visible {c : Char} (h : isSchemeChar c = true) :
    isControlOrSpace c = false ∧ c ≠ ':' := by
  constructor
  · unfold isControlOrSpace
    rw [decide_eq_false_iff_not]
    intro hle
    have hall := Hex.of_ascii (P := fun c => c.toNat ≤ 0x20 → isSchemeChar c = false) (by decide)
      (c := c) (by omega)
    rw [hall hle] at h
    cases h
  · intro heq
    rw [heq] at h
    exact absurd h (by decide)

/-- The origin is left as it is, and its end with it. -/
theorem clean_text (rest : List Char) :
    clean (self.text ++ '/' :: rest)
      = self.text ++ '/' :: dropTabs (rest.rdropWhile isControlOrSpace) := by
  have hstart : self.text.dropWhile isControlOrSpace = self.text := by
    obtain ⟨lower, hlower, -⟩ := self.exists_lower
    obtain ⟨c, cs, hcons⟩ : ∃ c cs, self.scheme.toList = c :: cs := by
      apply List.exists_cons_of_ne_nil
      intro hnil
      rw [hnil] at hlower
      cases hlower
    have hc := scheme_visible (self.scheme_chars c (by simp [hcons]))
    unfold text
    rw [hcons, List.cons_append, List.dropWhile_cons_of_neg (by simp [hc.1])]
  have htabs : dropTabs self.text = self.text := by
    unfold dropTabs
    rw [List.filter_eq_self]
    intro c hc
    have htab : isTabOrNewline c = false := by
      unfold text at hc
      simp only [List.mem_append, List.mem_cons] at hc
      rcases hc with hc | rfl | rfl | rfl | hc
      · exact not_tab_of_visible (scheme_visible (self.scheme_chars c hc)).1
      · decide
      · decide
      · decide
      · have hplain := self.plain c hc
        simp only [isDelimiter, Bool.or_eq_false_iff] at hplain
        exact hplain.1.1.2
    rw [htab]
    rfl
  rw [clean_append, cleanStart, hstart, htabs]

/-- The authority ends where the path begins. -/
theorem authority_end {c : Char} (hc : c ∈ self.authority.toList) :
    isSlash c = false ∧ isAuthorityEnd .specialNotFile c = false := by
  have hplain := self.plain c hc
  simp only [isDelimiter, isSlash, Bool.or_eq_false_iff] at hplain
  obtain ⟨⟨⟨⟨hslash, hbackslash⟩, -⟩, hhash⟩, hquestion⟩ := hplain
  simp [isSlash, isAuthorityEnd, hslash, hbackslash, hhash, hquestion]

theorem parseRest_authority {lower : List Char} (htype : SchemeType.of lower = .specialNotFile)
    (rest : List Char) :
    parseRest hosts lower ('/' :: '/' :: (self.authority.toList ++ '/' :: rest))
      = parseAuthority hosts lower .specialNotFile self.authority.toList ('/' :: rest) := by
  have hskip : ('/' :: '/' :: (self.authority.toList ++ '/' :: rest)).dropWhile isSlash
      = self.authority.toList ++ '/' :: rest := by
    obtain ⟨c, cs, hcons⟩ := List.exists_cons_of_ne_nil self.nonempty
    have hc := (self.authority_end (c := c) (by simp [hcons])).1
    rw [List.dropWhile_cons_of_pos (by decide), List.dropWhile_cons_of_pos (by decide), hcons,
      List.cons_append, List.dropWhile_cons_of_neg (by simp [hc])]
  have hauthority : ∀ c ∈ self.authority.toList,
      (!isAuthorityEnd .specialNotFile c) = true := by
    intro c hc
    rw [(self.authority_end hc).2]
    rfl
  unfold parseRest
  rw [htype]
  dsimp only
  rw [hskip]
  unfold Url.authority Url.afterAuthority
  rw [List.takeWhile_append_of_pos hauthority, List.dropWhile_append_of_pos hauthority]
  simp [isAuthorityEnd]

/-- The path goes to the tail of the URL. -/
theorem parse_text (rest : List Char) :
    ∃ url, Url.parse hosts (self.text ++ '/' :: rest) = some url
      ∧ url.tail = '/' :: dropTabs (rest.rdropWhile isControlOrSpace) := by
  obtain ⟨lower, hlower, htype⟩ := self.exists_lower
  have hcolon : ':' ∉ self.scheme.toList := fun hmem =>
    (scheme_visible (self.scheme_chars _ hmem)).2 rfl
  have hparse : ∀ rest, Url.parse hosts (self.text ++ '/' :: rest)
      = parseAuthority hosts lower .specialNotFile self.authority.toList
          ('/' :: dropTabs (rest.rdropWhile isControlOrSpace)) := by
    intro rest
    have hsplit : self.text ++ '/' :: dropTabs (rest.rdropWhile isControlOrSpace)
        = self.scheme.toList ++ ':' :: ('/' :: '/' :: (self.authority.toList
            ++ '/' :: dropTabs (rest.rdropWhile isControlOrSpace))) := by
      simp [text]
    unfold Url.parse parseClean
    rw [self.clean_text, hsplit, splitScheme_append hcolon, hlower, Option.map_some,
      Option.bind_some]
    exact self.parseRest_authority htype _
  have hparses := self.parses
  have htext : self.scheme.toList ++ ':' :: '/' :: '/' :: (self.authority.toList ++ ['/'])
      = self.text ++ '/' :: [] := by simp [text]
  rw [htext, hparse, Option.isSome_iff_exists] at hparses
  obtain ⟨url, hurl⟩ := hparses
  refine ⟨{ url with tail := '/' :: dropTabs (rest.rdropWhile isControlOrSpace) }, ?_, rfl⟩
  rw [hparse, parseAuthority_tail hosts lower .specialNotFile self.authority.toList _
    ('/' :: dropTabs (([] : List Char).rdropWhile isControlOrSpace)), hurl]
  rfl

/-- **The request** for a URL of the origin has the path and the query that were put after it. -/
theorem requestText_around {before after : List (List Char)} {query : Option (List Char)}
    (hbefore : ∀ s ∈ before, PlainSegment s) (hrest : PlainRest after query)
    (segment : List Char) :
    requestText hosts (self.text ++ around before segment after query)
      = some (target (around before segment after query)).toText := by
  obtain ⟨rest, haround⟩ : ∃ rest, around before segment after query = '/' :: rest := by
    cases before with
    | nil => exact ⟨_, rfl⟩
    | cons first before => exact ⟨_, rfl⟩
  obtain ⟨url, hparse, htail⟩ := self.parse_text rest
  have hclean : url.tail = around before (dropTabs segment) after query := by
    rw [htail, ← clean_around hbefore hrest, haround]
    rw [show '/' :: rest = [] ++ '/' :: rest from rfl, rdropWhile_append_cons (by decide),
      List.nil_append, dropTabs_cons_of_neg (by decide)]
  have hidem : dropTabs (dropTabs segment) = dropTabs segment := by
    unfold dropTabs
    rw [List.filter_filter]
    simp
  unfold requestText
  rw [haround, hparse, Option.map_some, hclean, ← haround]
  unfold target
  rw [clean_around hbefore hrest, clean_around hbefore hrest, hidem]

end Origin

end UrlPath

end Switchgear.Lib
