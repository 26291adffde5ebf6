/-
  Switchgear.Lib.UrlPath — the path and the query of a URL, from the text a client
  writes to what a router and a form decoder read of it.

  The URL parser of a special scheme drops tabs, newlines and trailing blanks,
  cuts off the fragment and the query, takes `/` and `\` for the end of a
  segment, and resolves `.` and `..`.  What it percent-encodes the router decodes
  again, so that a segment is read back through its own `%XX` sequences only.

  Main results:
    * `target_pathText` — plain segments arrive as they are, with their query,
    * `percentDecode_plain`, `formPairs_intercalate` — what the decoders read of a
      plain segment and of a plain query,
    * `parseUsize_toString` — a number comes back from its text.
-/
import Switchgear.Lib.Hex
import Switchgear.Lib.Url

namespace Switchgear.Lib

namespace UrlPath

open Url

/-! ## §1. Segments and query. -/

/-- What a request line says after the authority. -/
structure Target where
  segments : List (List Char)
  query : Option (List Char)
  deriving DecidableEq

def isSingleDot (segment : List Char) : Bool :=
  let lower := segment.map Char.toLower
  lower = ".".toList || lower = "%2e".toList

def isDoubleDot (segment : List Char) : Bool :=
  let lower := segment.map Char.toLower
  lower = "..".toList || lower = ".%2e".toList || lower = "%2e.".toList || lower = "%2e%2e".toList

/-- Resolve `.` and `..`, which at the end leave an empty segment; `path` is the segments
so far, the last one first. -/
def resolveDots (path : List (List Char)) : List (List Char) → List (List Char)
  | [] => path.reverse
  | segment :: rest =>
      if isDoubleDot segment then
        resolveDots (if rest = [] then [] :: path.tail else path.tail) rest
      else if isSingleDot segment then
        resolveDots (if rest = [] then [] :: path else path) rest
      else resolveDots (segment :: path) rest

/-- The text after the authority, which starts with a slash. -/
def target (text : List Char) : Target :=
  let text := (dropTabs (text.rdropWhile isControlOrSpace)).takeWhile fun c => c != '#'
  let path := text.takeWhile fun c => c != '?'
  { segments := resolveDots [] (path.splitOnP isSlash).tail
    query :=
      match text.dropWhile fun c => c != '?' with
      | [] => none
      | _ :: query => some query }

/-- A path of these segments. -/
def pathText (segments : List (List Char)) : List Char :=
  segments.flatMap fun segment => '/' :: segment

def queryText : Option (List Char) → List Char
  | none => []
  | some query => '?' :: query

/-! ## §2. Plain texts. -/

/-- The unreserved characters of RFC 3986. -/
def isUnreserved (c : Char) : Bool :=
  c.isAlphanum || c == '-' || c == '.' || c == '_' || c == '~'

/-- A segment nothing happens to. -/
structure PlainSegment (segment : List Char) : Prop where
  nonempty : segment ≠ []
  unreserved : ∀ c ∈ segment, isUnreserved c = true
  not_single_dot : segment ≠ ['.']
  not_double_dot : segment ≠ ['.', '.']

/-- A query nothing happens to. -/
def PlainQuery (query : List Char) : Prop :=
  ∀ c ∈ query, isControlOrSpace c = false ∧ c ≠ '#'

theorem isUnreserved_lt {c : Char} (h : isUnreserved c = true) : c.toNat < 128 := by
  unfold isUnreserved Char.isAlphanum Char.isAlpha Char.isUpper Char.isLower Char.isDigit at h
  simp only [Bool.or_eq_true, Bool.and_eq_true, decide_eq_true_eq, beq_iff_eq,
    UInt32.le_iff_toNat_le, ge_iff_le] at h
  have hz : 'Z'.val.toNat = 90 := rfl
  have hlower : 'z'.val.toNat = 122 := rfl
  have hnine : '9'.val.toNat = 57 := rfl
  show c.val.toNat < 128
  rcases h with (((((h | h) | h) | rfl) | rfl) | rfl) | rfl
  · omega
  · omega
  · omega
  all_goals decide

/-- What the parser asks of a character, answered for an unreserved one. -/
structure PlainChar (c : Char) : Prop where
  visible : isControlOrSpace c = false
  not_slash : isSlash c = false
  not_percent : c ≠ '%'
  not_question : c ≠ '?'
  not_hash : c ≠ '#'
  lower_not_percent : c.toLower ≠ '%'
  lower_dot : c.toLower = '.' → c = '.'

theorem plainChar_of_isUnreserved {c : Char} (h : isUnreserved c = true) : PlainChar c := by
  have hc := Hex.of_ascii (P := fun c => isUnreserved c = true →
    (isControlOrSpace c = false ∧ isSlash c = false ∧ c ≠ '%' ∧ c ≠ '?' ∧ c ≠ '#')
    ∧ c.toLower ≠ '%' ∧ (c.toLower = '.' → c = '.')) (by decide) (isUnreserved_lt h)
  obtain ⟨⟨hvisible, hslash, hpercent, hquestion, hhash⟩, hlower, hdot⟩ := hc h
  exact ⟨hvisible, hslash, hpercent, hquestion, hhash, hlower, hdot⟩

namespace PlainSegment

variable {segment : List Char}

theorem plainChar (h : PlainSegment segment) {c : Char} (hc : c ∈ segment) : PlainChar c :=
  plainChar_of_isUnreserved (h.unreserved c hc)

theorem not_mem_percent (h : PlainSegment segment) : '%' ∉ segment :=
  fun hc => (h.plainChar hc).not_percent rfl

/-- In lower case it is a row of dots only if it is one. -/
theorem eq_dots_of_lower (h : PlainSegment segment) {n : ℕ}
    (hlower : segment.map Char.toLower = List.replicate n '.') :
    segment = List.replicate n '.' := by
  rw [List.eq_replicate_iff] at hlower ⊢
  rw [List.length_map] at hlower
  refine ⟨hlower.1, ?_⟩
  intro c hc
  exact (h.plainChar hc).lower_dot (hlower.2 _ (List.mem_map_of_mem hc))

/-- It is neither `.` nor `..`, in any spelling. -/
theorem not_dots (h : PlainSegment segment) :
    isSingleDot segment = false ∧ isDoubleDot segment = false := by
  have hpercent : ∀ text : List Char, '%' ∈ text → segment.map Char.toLower ≠ text := by
    intro text hmem heq
    rw [← heq] at hmem
    obtain ⟨c, hc, hlower⟩ := List.mem_map.mp hmem
    exact (h.plainChar hc).lower_not_percent hlower
  unfold isSingleDot isDoubleDot
  simp only [Bool.or_eq_false_iff, decide_eq_false_iff_not]
  refine ⟨⟨?_, hpercent _ (by decide)⟩, ⟨⟨?_, hpercent _ (by decide)⟩, hpercent _ (by decide)⟩,
    hpercent _ (by decide)⟩
  · intro heq
    exact h.not_single_dot (h.eq_dots_of_lower (n := 1) heq)
  · intro heq
    exact h.not_double_dot (h.eq_dots_of_lower (n := 2) heq)

end PlainSegment

theorem not_tab_of_visible {c : Char} (h : isControlOrSpace c = false) :
    isTabOrNewline c = false := by
  unfold isControlOrSpace at h
  rw [decide_eq_false_iff_not] at h
  unfold isTabOrNewline
  rw [Bool.eq_false_iff]
  intro htab
  simp only [Bool.or_eq_true, beq_iff_eq] at htab
  rcases htab with (rfl | rfl) | rfl
  all_goals exact h (by decide)

/-! ## §3. Plain texts arrive as they are. -/

theorem mem_pathText {segments : List (List Char)} (h : ∀ segment ∈ segments, PlainSegment segment)
    {c : Char} (hc : c ∈ pathText segments) :
    isControlOrSpace c = false ∧ c ≠ '?' ∧ c ≠ '#' := by
  obtain ⟨segment, hsegment, hmem⟩ := List.mem_flatMap.mp hc
  rcases List.mem_cons.mp hmem with rfl | hmem
  · decide
  · have hplain := (h segment hsegment).plainChar hmem
    exact ⟨hplain.visible, hplain.not_question, hplain.not_hash⟩

theorem splitOnP_pathText {segments : List (List Char)}
    (h : ∀ segment ∈ segments, PlainSegment segment) (first : List Char)
    (hfirst : ∀ c ∈ first, isSlash c = false) :
    (first ++ pathText segments).splitOnP isSlash = first :: segments := by
  induction segments generalizing first with
  | nil =>
      rw [show pathText [] = [] from rfl, List.append_nil]
      exact List.splitOnP_eq_singleton hfirst
  | cons segment segments ih =>
      have hsegment := h segment List.mem_cons_self
      have hrest := ih (fun s hs => h s (List.mem_cons_of_mem _ hs)) segment
        fun c hc => (hsegment.plainChar hc).not_slash
      have htext : pathText (segment :: segments) = '/' :: (segment ++ pathText segments) := rfl
      rw [htext, List.splitOnP_append_cons_of_forall_mem hfirst '/' rfl, hrest]

theorem resolveDots_of_not_dots {segments : List (List Char)}
    (h : ∀ s ∈ segments, isSingleDot s = false ∧ isDoubleDot s = false)
    (path : List (List Char)) : resolveDots path segments = path.reverse ++ segments := by
  induction segments generalizing path with
  | nil => simp [resolveDots]
  | cons segment segments ih =>
      obtain ⟨hsingle, hdouble⟩ := h segment List.mem_cons_self
      unfold resolveDots
      rw [hsingle, hdouble, if_neg Bool.false_ne_true, if_neg Bool.false_ne_true,
        ih (fun s hs => h s (List.mem_cons_of_mem _ hs))]
      simp

theorem dropTabs_visible {text : List Char} (h : ∀ c ∈ text, isControlOrSpace c = false) :
    dropTabs text = text := by
  unfold dropTabs
  rw [List.filter_eq_self]
  intro c hc
  rw [not_tab_of_visible (h c hc)]
  rfl

/-- The path ends where the query begins. -/
theorem takeWhile_queryText {path : List Char} (h : ∀ c ∈ path, (c != '?') = true)
    (query : Option (List Char)) :
    (path ++ queryText query).takeWhile (fun c => c != '?') = path
      ∧ (path ++ queryText query).dropWhile (fun c => c != '?') = queryText query := by
  rw [List.takeWhile_append_of_pos h, List.dropWhile_append_of_pos h]
  cases query with
  | none => exact ⟨List.append_nil _, rfl⟩
  | some query => exact ⟨List.append_nil _, rfl⟩

/-- **Plain segments arrive as they are**, and so does their query. -/
theorem target_pathText {segments : List (List Char)}
    (h : ∀ segment ∈ segments, PlainSegment segment) {query : Option (List Char)}
    (hquery : ∀ text ∈ query, PlainQuery text) :
    target (pathText segments ++ queryText query) = { segments, query } := by
  have hvisible : ∀ c ∈ pathText segments ++ queryText query,
      isControlOrSpace c = false ∧ c ≠ '#' := by
    intro c hc
    rcases List.mem_append.mp hc with hc | hc
    · have hpath := mem_pathText h hc
      exact ⟨hpath.1, hpath.2.2⟩
    · cases query with
      | none => cases hc
      | some text =>
          rcases List.mem_cons.mp hc with rfl | hc
          · decide
          · exact hquery text rfl c hc
  have htrim : (pathText segments ++ queryText query).rdropWhile isControlOrSpace
      = pathText segments ++ queryText query := by
    rw [List.rdropWhile_eq_self_iff]
    intro hne
    rw [Bool.not_eq_true]
    exact (hvisible _ (List.getLast_mem hne)).1
  have htabs : dropTabs (pathText segments ++ queryText query)
      = pathText segments ++ queryText query := dropTabs_visible fun c hc => (hvisible c hc).1
  have hfragment : (pathText segments ++ queryText query).takeWhile (fun c => c != '#')
      = pathText segments ++ queryText query := by
    rw [List.takeWhile_eq_self_iff]
    intro c hc
    exact bne_iff_ne.mpr (hvisible c hc).2
  have hquestion : ∀ c ∈ pathText segments, (c != '?') = true := fun c hc =>
    bne_iff_ne.mpr (mem_pathText h hc).2.1
  obtain ⟨hpath, hrest⟩ := takeWhile_queryText hquestion query
  have hsplit := splitOnP_pathText h [] (by simp)
  rw [List.nil_append] at hsplit
  unfold target
  rw [htrim, htabs, hfragment]
  dsimp only
  rw [hpath, hrest, hsplit, List.tail_cons, resolveDots_of_not_dots fun s hs => (h s hs).not_dots]
  cases query with
  | none => rfl
  | some text => rfl

/-! ## §4. What the decoders read. -/

/-- Replace the `%XX` sequences among bytes. -/
def percentBytes : List UInt8 → List UInt8
  | 37 :: high :: low :: rest =>
      match Hex.digitValue (Char.ofNat high.toNat), Hex.digitValue (Char.ofNat low.toNat) with
      | some h, some l => UInt8.ofNat (h * 16 + l) :: percentBytes rest
      -- a `%` without two digits stands for itself
      | _, _ => 37 :: percentBytes (high :: low :: rest)
  | b :: rest => b :: percentBytes rest
  | [] => []

/-- A segment behind the percent-decoder; nothing where it is no UTF-8. -/
def percentDecode (segment : List Char) : Option String :=
  if '%' ∈ segment then
    String.fromUTF8? ⟨(percentBytes (segment.flatMap String.utf8EncodeChar)).toArray⟩
  else some (String.ofList segment)

theorem percentDecode_plain {segment : List Char} (h : PlainSegment segment) :
    percentDecode segment = some (String.ofList segment) := if_neg h.not_mem_percent

/-- Where a decoder stands inside a character: the bytes that are missing, the range of the next
one and the bits so far. -/
structure Pending where
  missing : ℕ
  least : ℕ := 0x80
  greatest : ℕ := 0xBF
  bits : ℕ

/-- U+FFFD. -/
def replacement : Char := Char.ofNat 0xFFFD

/-- What a first byte is: a character, the start of one, or neither. -/
def firstByte (b : ℕ) : List Char × Option Pending :=
  if b < 0x80 then ([Char.ofNat b], none)
  -- a continuation byte, or the start of an overlong form
  else if b < 0xC2 then ([replacement], none)
  else if b < 0xE0 then ([], some { missing := 1, bits := b - 0xC0 })
  else if b < 0xF0 then
    ([], some
      { missing := 2
        -- no overlong forms, and no surrogates
        least := if b = 0xE0 then 0xA0 else 0x80
        greatest := if b = 0xED then 0x9F else 0xBF
        bits := b - 0xE0 })
  else if b < 0xF5 then
    ([], some
      { missing := 3
        -- no overlong forms, and nothing above U+10FFFF
        least := if b = 0xF0 then 0x90 else 0x80
        greatest := if b = 0xF4 then 0x8F else 0xBF
        bits := b - 0xF0 })
  else ([replacement], none)

/-- `String::from_utf8_lossy`: what is cut short is one U+FFFD, and the byte that cut it short is
read again as a first one. -/
def fromUtf8Lossy : Option Pending → List UInt8 → List Char
  | none, [] => []
  | some _, [] => [replacement]
  | none, b :: rest =>
      let (text, pending) := firstByte b.toNat
      text ++ fromUtf8Lossy pending rest
  | some pending, b :: rest =>
      if pending.least ≤ b.toNat ∧ b.toNat ≤ pending.greatest then
        let bits := pending.bits * 64 + (b.toNat - 0x80)
        if pending.missing = 1 then Char.ofNat bits :: fromUtf8Lossy none rest
        else fromUtf8Lossy (some { missing := pending.missing - 1, bits }) rest
      else
        let (text, pending) := firstByte b.toNat
        replacement :: (text ++ fromUtf8Lossy pending rest)

/-- A name or a value of a query. -/
def formDecode (text : List Char) : String :=
  let text := text.map fun c => if c = '+' then ' ' else c
  (percentDecode text).getD
    (String.ofList (fromUtf8Lossy none (percentBytes (text.flatMap String.utf8EncodeChar))))

-- the start of `é` and a byte that starts nothing, one character each
example : formDecode "a%C3+%FF".toList = "a\uFFFD \uFFFD" := by decide +kernel

/-- The pairs of `application/x-www-form-urlencoded`. -/
def formPairs (query : List Char) : List (String × String) :=
  ((query.splitOn '&').filter fun piece => piece != []).map fun piece =>
    (formDecode (piece.takeWhile fun c => c != '='),
      formDecode (piece.dropWhile fun c => c != '=').tail)

/-- A field of a derived decoder: `none` where it is repeated, `some none` where it is
missing. -/
def formField (key : String) (pairs : List (String × String)) : Option (Option String) :=
  match pairs.filter fun pair => pair.1 == key with
  | [] => some none
  | [pair] => some (some pair.2)
  | _ => none

/-- `usize::from_str` and `u64::from_str`: decimal digits, after an optional `+`. -/
def parseUsize (text : String) : Option UInt64 :=
  let digits :=
    match text.toList with
    | '+' :: digits => digits
    | digits => digits
  if digits ≠ [] ∧ digits.all Char.isDigit = true ∧ Nat.ofDigitChars 10 digits 0 < 2 ^ 64 then
    some (UInt64.ofNat (Nat.ofDigitChars 10 digits 0))
  else none

/-- `bool::from_str`. -/
def parseBool (text : String) : Option Bool :=
  if text = "true" then some true else if text = "false" then some false else none

/-! ## §5. The fields of a plain query. -/

/-- A text the form decoder takes as it is. -/
def PlainForm (text : List Char) : Prop := ∀ c ∈ text, c ∉ ['&', '=', '%', '+']

instance (text : List Char) : Decidable (PlainForm text) :=
  inferInstanceAs (Decidable (∀ c ∈ text, c ∉ ['&', '=', '%', '+']))

theorem formDecode_plain {text : List Char} (h : PlainForm text) :
    formDecode text = String.ofList text := by
  have hplus : (text.map fun c => if c = '+' then ' ' else c) = text := by
    calc text.map (fun c => if c = '+' then ' ' else c) = text.map id := by
          apply List.map_congr_left
          intro c hc
          apply if_neg
          intro heq
          exact h c hc (by simp [heq])
      _ = text := List.map_id text
  have hpercent : '%' ∉ text := fun hmem => h _ hmem (by simp)
  unfold formDecode percentDecode
  dsimp only
  rw [hplus, if_neg hpercent]
  rfl

/-- `key=value`. -/
def formPiece (pair : List Char × List Char) : List Char := pair.1 ++ '=' :: pair.2

/-- The pairs of a query come back, where their texts are plain. -/
theorem formPairs_intercalate {pairs : List (List Char × List Char)} (hne : pairs ≠ [])
    (h : ∀ pair ∈ pairs, PlainForm pair.1 ∧ PlainForm pair.2) :
    formPairs (['&'].intercalate (pairs.map formPiece))
      = pairs.map fun pair => (String.ofList pair.1, String.ofList pair.2) := by
  have hamp : ∀ piece ∈ pairs.map formPiece, '&' ∉ piece := by
    intro piece hpiece hmem
    obtain ⟨pair, hpair, rfl⟩ := List.mem_map.mp hpiece
    rcases List.mem_append.mp hmem with hmem | hmem
    · exact (h pair hpair).1 _ hmem (by simp)
    · rcases List.mem_cons.mp hmem with heq | hmem
      · exact absurd heq (by decide)
      · exact (h pair hpair).2 _ hmem (by simp)
  have hsplit := List.splitOn_intercalate '&' hamp (by simpa using hne)
  have hfilter : (pairs.map formPiece).filter (fun piece => piece != [])
      = pairs.map formPiece := by
    rw [List.filter_eq_self]
    intro piece hpiece
    obtain ⟨pair, -, rfl⟩ := List.mem_map.mp hpiece
    simp [formPiece]
  unfold formPairs
  rw [hsplit, hfilter, List.map_map]
  apply List.map_congr_left
  intro pair hpair
  obtain ⟨hkey, hvalue⟩ := h pair hpair
  have hequals : ∀ c ∈ pair.1, (c != '=') = true := by
    intro c hc
    rw [bne_iff_ne]
    intro heq
    exact hkey c hc (by simp [heq])
  have htake : (formPiece pair).takeWhile (fun c => c != '=') = pair.1 := by
    unfold formPiece
    rw [List.takeWhile_append_of_pos hequals]
    exact List.append_nil _
  have hdrop : (formPiece pair).dropWhile (fun c => c != '=') = '=' :: pair.2 := by
    unfold formPiece
    rw [List.dropWhile_append_of_pos hequals]
    rfl
  show (formDecode ((formPiece pair).takeWhile fun c => c != '='),
    formDecode ((formPiece pair).dropWhile fun c => c != '=').tail) = _
  rw [htake, hdrop, List.tail_cons, formDecode_plain hkey, formDecode_plain hvalue]

theorem toList_toString (n : UInt64) : (toString n).toList = Nat.toDigits 10 n.toNat :=
  Nat.toList_repr

theorem isDigit_toString (n : UInt64) : ∀ c ∈ (toString n).toList, c.isDigit = true := by
  intro c hc
  rw [toList_toString] at hc
  exact Nat.isDigit_of_mem_toDigits (by decide) (by decide) hc

/-- A number comes back from its text. -/
theorem parseUsize_toString (n : UInt64) : parseUsize (toString n) = some n := by
  have hlist := toList_toString n
  have hne : Nat.toDigits 10 n.toNat ≠ [] := Nat.toDigits_ne_nil
  have hall : (Nat.toDigits 10 n.toNat).all Char.isDigit = true := by
    rw [List.all_eq_true, ← hlist]
    exact isDigit_toString n
  have hvalue : Nat.ofDigitChars 10 (Nat.toDigits 10 n.toNat) 0 = n.toNat :=
    Nat.ofDigitChars_ten_toDigits
  have hdigits : (match Nat.toDigits 10 n.toNat with
      | '+' :: digits => digits
      | digits => digits) = Nat.toDigits 10 n.toNat := by
    split
    · rename_i digits heq
      rw [heq] at hall
      simp at hall
    · rfl
  unfold parseUsize
  rw [hlist, hdigits]
  dsimp only
  rw [hvalue, if_pos ⟨hne, hall, n.toNat_lt⟩, UInt64.ofNat_toNat]

end UrlPath

end Switchgear.Lib
