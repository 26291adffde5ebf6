/-
  Switchgear.Service.ForwardedProto — `parse_forwarded_proto` against the grammar
  of the `Forwarded` header.

  The code takes the pieces between semicolons, whatever else they hold: the
  commas between elements, the quotes and the elements after the first one are
  not looked at.  Of the first piece that begins with `proto=` it returns what
  follows the last `=`.

  Main result:
    * `forwarded_proto_iff` — it returns the `proto` of the first element where
      that can be read this way (`ReadsStraight`), and elsewhere only where the
      same value happens to stand after another `=`.
-/
import Switchgear.Lib.ForwardedHeader
import Switchgear.Service.Extract

namespace Switchgear.Service

open Switchgear.Lib
open Forwarded

namespace Scheme

/-! ## §1. One piece. -/

def isBlank (c : Char) : Bool := c == ' ' || c == '\t'

/-- `s.trim().to_lowercase().starts_with("proto=")`. -/
def beginsProto (piece : List Char) : Bool :=
  "proto=".toList.isPrefixOf ((trim piece).map Char.toLower)

/-- What the code makes of a piece. -/
def readPiece (piece : List Char) : Option String :=
  if beginsProto piece then
    -- what follows the last `=`, also where the value has one of its own
    (((trim piece).map Char.toLower).splitOn '=').getLast?.map String.ofList
  else none

theorem parseForwardedProto_eq (forwarded : Bytes) :
    parseForwardedProto forwarded
      = (headerToStr forwarded).bind fun text =>
          (text.toList.splitOn ';').findSome? readPiece := rfl

/-- The text without its blanks at the end, in lower case. -/
def trimmedLower (text : List Char) : List Char := (text.rdropWhile isBlank).map Char.toLower

theorem toLower_eq_iff {c d : Char} (hd : d = ';' ∨ d = '=' ∨ d = ',') : c.toLower = d ↔ c = d := by
  by_cases hc : c.toNat < 128
  · have hascii := Hex.of_ascii (P := fun c => (c.toLower = ';' ↔ c = ';')
      ∧ (c.toLower = '=' ↔ c = '=') ∧ (c.toLower = ',' ↔ c = ',')) (by decide) hc
    rcases hd with rfl | rfl | rfl
    · exact hascii.1
    · exact hascii.2.1
    · exact hascii.2.2
  · -- no letter of ASCII
    have hupper : ¬ (c.val ≥ 'A'.val ∧ c.val ≤ 'Z'.val) := by
      intro h
      have hz : 'Z'.val.toNat = 90 := rfl
      have hle : c.val.toNat ≤ 'Z'.val.toNat := UInt32.le_iff_toNat_le.mp h.2
      have hc' : ¬ c.val.toNat < 128 := hc
      omega
    unfold Char.toLower
    rw [dif_neg hupper]

/-- Around a character that is no blank, trimming is done on either side. -/
theorem trim_split {c : Char} (hc : isBlank c = false) (before after : List Char) :
    trim (before ++ c :: after)
      = before.dropWhile isBlank ++ c :: after.rdropWhile isBlank := by
  show ((before ++ c :: after).dropWhile isBlank).rdropWhile isBlank = _
  rw [Url.dropWhile_append_cons hc, Url.rdropWhile_append_cons hc]

/-- **A piece is read** after its last `=`. -/
theorem readPiece_eq {before after : List Char} (h : '=' ∉ after) :
    readPiece (before ++ '=' :: after)
      = if beginsProto (before ++ '=' :: after) then some (String.ofList (trimmedLower after))
        else none := by
  have hlast : '=' ∉ trimmedLower after := by
    intro hmem
    obtain ⟨c, hc, heq⟩ := List.mem_map.mp hmem
    rw [toLower_eq_iff (.inr (.inl rfl))] at heq
    subst heq
    exact h ((List.rdropWhile_prefix _ _).subset hc)
  unfold readPiece
  rw [trim_split rfl, List.map_append, List.map_cons]
  have hequals : Char.toLower '=' = '=' := rfl
  rw [hequals]
  show (if beginsProto (before ++ '=' :: after) = true then
    ((_ ++ '=' :: trimmedLower after).splitOn '=').getLast?.map String.ofList else none) = _
  rw [getLast?_splitOn hlast]
  rfl

/-- A piece that begins a `proto` has an `=`. -/
theorem equals_mem_of_beginsProto {piece : List Char} (h : beginsProto piece = true) :
    '=' ∈ piece := by
  have hprefix : "proto=".toList <+: (trim piece).map Char.toLower := List.isPrefixOf_iff_prefix.mp h
  have hmem : '=' ∈ (trim piece).map Char.toLower := hprefix.subset (by decide)
  obtain ⟨c, hc, heq⟩ := List.mem_map.mp hmem
  rw [toLower_eq_iff (.inr (.inl rfl))] at heq
  subst heq
  exact (List.dropWhile_suffix _).subset ((List.rdropWhile_prefix _ _).subset hc)

/-- A piece is read exactly if it begins a `proto`. -/
theorem readPiece_eq_none_iff (piece : List Char) :
    readPiece piece = none ↔ beginsProto piece = false := by
  cases hbegins : beginsProto piece with
  | false => simp [readPiece, hbegins]
  | true =>
      obtain ⟨before, after, rfl, hafter⟩ := exists_last (equals_mem_of_beginsProto hbegins)
      rw [readPiece_eq hafter, hbegins]
      simp

end Scheme

/-! ## §2. The whole value. -/

section Value

open Scheme

variable {self : Forwarded}

/-- Every character is in ASCII. -/
def Ascii (self : Forwarded) : Prop := ∀ c ∈ self.chars, c.toNat < 128

/-- A character of a header value is a byte, and a visible one or a tab if it is in ASCII. -/
theorem byte_of_isQuotable {c : Char} (h : isQuotable c = true) :
    (UInt8.ofNat c.toNat).toNat = c.toNat
      ∧ (((32 ≤ UInt8.ofNat c.toNat && UInt8.ofNat c.toNat < 127) || UInt8.ofNat c.toNat == 9) = true
        ↔ c.toNat < 128) := by
  have hrange : c.toNat = 9 ∨ (32 ≤ c.toNat ∧ c.toNat ≤ 126) ∨ (128 ≤ c.toNat ∧ c.toNat ≤ 255) := by
    simp only [isQuotable, Bool.or_eq_true, beq_iff_eq, Bool.and_eq_true, decide_eq_true_eq] at h
    rcases h with (rfl | h) | h
    · exact .inl rfl
    · exact .inr (.inl h)
    · exact .inr (.inr h)
  have hbyte : (UInt8.ofNat c.toNat).toNat = c.toNat := by
    rw [UInt8.toNat_ofNat']
    omega
  refine ⟨hbyte, ?_⟩
  simp only [Bool.or_eq_true, Bool.and_eq_true, decide_eq_true_eq, beq_iff_eq,
    UInt8.le_iff_toNat_le, UInt8.lt_iff_toNat_lt, ← UInt8.toNat_inj, hbyte]
  have h32 : (32 : UInt8).toNat = 32 := rfl
  have h127 : (127 : UInt8).toNat = 127 := rfl
  have h9 : (9 : UInt8).toNat = 9 := rfl
  omega

theorem headerToStr_ascii (h : Ascii self) :
    headerToStr self.bytes = some (String.ofList self.chars) := by
  have hvisible : (self.bytes.all fun b => (32 ≤ b && b < 127) || b == 9) = true := by
    rw [List.all_eq_true]
    intro b hb
    obtain ⟨c, hc, rfl⟩ := List.mem_map.mp hb
    exact (byte_of_isQuotable (self.quotable hc)).2.mpr (h c hc)
  have hchars : (self.bytes.map fun b => Char.ofNat b.toNat) = self.chars := by
    unfold Forwarded.bytes
    rw [List.map_map]
    refine (List.map_congr_left fun c hc => ?_).trans (List.map_id _)
    show Char.ofNat (UInt8.ofNat c.toNat).toNat = c
    rw [(byte_of_isQuotable (self.quotable hc)).1, Char.ofNat_toNat]
  unfold headerToStr
  rw [if_pos hvisible, hchars]

theorem headerToStr_not_ascii (h : ¬ Ascii self) : headerToStr self.bytes = none := by
  unfold headerToStr
  rw [if_neg]
  intro hvisible
  apply h
  intro c hc
  rw [List.all_eq_true] at hvisible
  exact (byte_of_isQuotable (self.quotable hc)).2.mp (hvisible _ (List.mem_map_of_mem hc))

/-- The slots before a pair, each with its semicolon. -/
def leadingChars (before : Element) : List Char :=
  before.flatMap fun slot => slotChars slot ++ [';']

/-- The slots after a pair, each with its semicolon. -/
def afterChars : Element → List Char
  | [] => []
  | slot :: rest => ';' :: Element.chars (slot :: rest)

theorem elementChars_append (before : Element) (pair : Pair) (after : Element) :
    Element.chars (before ++ some pair :: after)
      = leadingChars before ++ (pair.chars ++ afterChars after) := by
  induction before with
  | nil =>
      cases after with
      | nil => simp [Element.chars, leadingChars, afterChars, slotChars]
      | cons slot rest => simp [Element.chars, leadingChars, afterChars, slotChars]
  | cons slot before ih =>
      have hcons : Element.chars (slot :: before ++ some pair :: after)
          = slotChars slot ++ ';' :: Element.chars (before ++ some pair :: after) := by
        cases before with
        | nil => rfl
        | cons next rest => rfl
      rw [hcons, ih]
      simp [leadingChars]

/-- What stands after a pair. -/
def tailChars (self : Forwarded) (after : Element) : List Char :=
  afterChars after ++ restChars self.rest

theorem chars_eq {before after : Element} {pair : Pair}
    (h : FirstProto self.first before pair after) :
    self.chars = leadingChars before
      ++ (pair.name.text ++ '=' :: (pair.value.chars ++ tailChars self after)) := by
  unfold Forwarded.chars tailChars
  rw [h.split, elementChars_append]
  simp [Pair.chars]

/-- The pieces of the slots before a pair come first. -/
theorem splitOn_leadingChars (before : Element) (text : List Char) :
    (leadingChars before ++ text).splitOn ';'
      = (before.flatMap fun slot => (slotChars slot).splitOn ';') ++ text.splitOn ';' := by
  induction before with
  | nil => rfl
  | cons slot before ih =>
      have hcons : leadingChars (slot :: before) ++ text
          = slotChars slot ++ ';' :: (leadingChars before ++ text) := by
        simp [leadingChars]
      rw [hcons, List.splitOn_append_cons_self, ih, List.flatMap_cons, List.append_assoc]

/-- The value as far as its piece goes. -/
def valuePiece (self : Forwarded) (pair : Pair) (after : Element) : List Char :=
  (pair.value.chars ++ tailChars self after).takeWhile fun c => c != ';'

/-- The piece of a `proto` begins one. -/
theorem beginsProto_pair {pair : Pair} (hproto : pair.isProto = true) (text : List Char) :
    beginsProto (pair.name.text ++ '=' :: text) = true := by
  have hname : pair.name.text.map Char.toLower = "proto".toList := by
    simpa [Pair.isProto] using hproto
  have htrim : pair.name.text.dropWhile isBlank = pair.name.text := by
    rw [List.dropWhile_eq_self_iff]
    intro hpos
    have hchar := plainTchar (pair.name.tchars _ (List.getElem_mem hpos))
    simp [isBlank, hchar.not_space, hchar.not_tab]
  unfold beginsProto
  rw [trim_split rfl, htrim, List.map_append, hname]
  have hlower : (("proto".toList ++ Char.toLower '=' :: (text.rdropWhile isBlank).map Char.toLower))
      = "proto=".toList ++ (text.rdropWhile isBlank).map Char.toLower := rfl
  rw [List.map_cons, hlower, List.isPrefixOf_iff_prefix]
  exact List.prefix_append _ _

/-- What the code finds of a text: first in the slots before the pair, then the pair. -/
theorem findSome?_chars {before after : Element} {pair : Pair}
    (h : FirstProto self.first before pair after) :
    (self.chars.splitOn ';').findSome? readPiece
      = ((before.flatMap fun slot => (slotChars slot).splitOn ';').findSome? readPiece).or
          (readPiece (pair.name.text ++ '=' :: valuePiece self pair after)) := by
  have hname : ∀ c ∈ pair.name.text ++ ['='], (c != ';') = true := by
    intro c hc
    rcases List.mem_append.mp hc with hc | hc
    · simpa using (plainTchar (pair.name.tchars c hc)).not_semicolon
    · rw [List.mem_singleton.mp hc]
      rfl
  obtain ⟨rest, hrest⟩ := splitOn_eq_cons (a := ';')
    ((pair.name.text ++ ['=']) ++ (pair.value.chars ++ tailChars self after))
  rw [List.takeWhile_append_of_pos hname] at hrest
  have htext : pair.name.text ++ '=' :: (pair.value.chars ++ tailChars self after)
      = (pair.name.text ++ ['=']) ++ (pair.value.chars ++ tailChars self after) := by simp
  have hpiece : pair.name.text ++ '=' :: valuePiece self pair after
      = (pair.name.text ++ ['=']) ++ (pair.value.chars ++ tailChars self after).takeWhile
          fun c => c != ';' := by simp [valuePiece]
  have hbegins := beginsProto_pair h.isProto (valuePiece self pair after)
  rw [chars_eq h, splitOn_leadingChars, List.findSome?_append, htext, hrest, hpiece]
  congr 1
  rw [List.findSome?_cons]
  cases hread : readPiece ((pair.name.text ++ ['=']) ++ (pair.value.chars ++ tailChars self
      after).takeWhile fun c => c != ';') with
  | some text => rfl
  | none =>
      rw [readPiece_eq_none_iff, ← hpiece, hbegins] at hread
      cases hread

/-! ## §3. Which values are read right. -/

/-- **The parameter is read**: the code returns the `proto` of the first element. -/
def ReadsProto (self : Forwarded) : Prop :=
  Scheme.parseForwardedProto self.bytes = self.proto.map String.ofList

/-- The value can be read by its semicolons.  Where the first element has no `proto`, no piece
of an ASCII value begins one.  Where it has one, the value is in ASCII, the `proto` is a token
and is followed by a semicolon or the end, and no piece of the quoted strings before it begins
a `proto` of its own. -/
def ReadsStraight (self : Forwarded) : Prop :=
  (NoProto self.first
      ∧ (Ascii self → ∀ piece ∈ self.chars.splitOn ';', beginsProto piece = false))
    ∨ ∃ before pair after, FirstProto self.first before pair after ∧ Ascii self
      ∧ (∃ t, pair.value = .token t) ∧ (after ≠ [] ∨ self.rest = [])
      ∧ ∀ slot ∈ before, ∀ piece ∈ (slotChars slot).splitOn ';', beginsProto piece = false

/-- The value of the `proto` stands once more, after another `=` than its own and before a
semicolon or the end. -/
def Repeats (self : Forwarded) : Prop :=
  ∃ before pair after, FirstProto self.first before pair after
    ∧ ∃ pre post, self.chars = pre ++ '=' :: post ∧ pre ≠ leadingChars before ++ pair.name.text
      ∧ trimmedLower (post.takeWhile fun c => c != ';') = pair.value.unquoted.map Char.toLower

/-- What the code does with a value in ASCII. -/
theorem parse_ascii (h : Ascii self) :
    Scheme.parseForwardedProto self.bytes = (self.chars.splitOn ';').findSome? readPiece := by
  rw [Scheme.parseForwardedProto_eq, headerToStr_ascii h, Option.bind_some, String.toList_ofList]

theorem parse_not_ascii (h : ¬ Ascii self) : Scheme.parseForwardedProto self.bytes = none := by
  rw [Scheme.parseForwardedProto_eq, headerToStr_not_ascii h]
  rfl

theorem findSome?_readPiece_eq_none_iff (pieces : List (List Char)) :
    pieces.findSome? readPiece = none ↔ ∀ piece ∈ pieces, beginsProto piece = false := by
  rw [List.findSome?_eq_none_iff]
  refine forall₂_congr fun piece _ => ?_
  exact readPiece_eq_none_iff piece

/-- Without a `proto` in the first element, nothing must be read. -/
theorem readsProto_iff_of_noProto (h : NoProto self.first) :
    ReadsProto self
      ↔ (Ascii self → ∀ piece ∈ self.chars.splitOn ';', beginsProto piece = false) := by
  unfold ReadsProto
  rw [proto_of_noProto h]
  by_cases hascii : Ascii self
  · rw [parse_ascii hascii, Option.map_none, findSome?_readPiece_eq_none_iff]
    simp [hascii]
  · rw [parse_not_ascii hascii]
    simp [hascii]

section First

variable {before after : Element} {pair : Pair}

/-- With one, it must be read, and the value be in ASCII. -/
theorem readsProto_iff_of_first (h : FirstProto self.first before pair after) :
    ReadsProto self ↔ Ascii self
      ∧ ((before.flatMap fun slot => (slotChars slot).splitOn ';').findSome? readPiece).or
          (readPiece (pair.name.text ++ '=' :: valuePiece self pair after))
        = some (String.ofList (pair.value.unquoted.map Char.toLower)) := by
  unfold ReadsProto
  rw [proto_of_first h, Option.map_some]
  by_cases hascii : Ascii self
  · rw [parse_ascii hascii, findSome?_chars h]
    simp [hascii]
  · rw [parse_not_ascii hascii]
    simp [hascii]

/-- A piece ends where the next semicolon, or nothing, follows. -/
theorem takeWhile_piece {piece rest : List Char} (hpiece : ';' ∉ piece)
    (hrest : rest = [] ∨ ∃ rest', rest = ';' :: rest') :
    (piece ++ rest).takeWhile (fun c => c != ';') = piece := by
  have hall : ∀ c ∈ piece, (c != ';') = true := by
    intro c hc
    have hne : c ≠ ';' := by
      intro heq
      rw [heq] at hc
      exact hpiece hc
    simpa using hne
  rw [List.takeWhile_append_of_pos hall]
  rcases hrest with rfl | ⟨rest', rfl⟩
  · simp
  · simp

/-- A token that ends its piece is read. -/
theorem readPiece_token {t : Token} (htoken : pair.value = .token t)
    (hproto : pair.isProto = true) (hend : after ≠ [] ∨ self.rest = []) :
    readPiece (pair.name.text ++ '=' :: valuePiece self pair after)
      = some (String.ofList (pair.value.unquoted.map Char.toLower)) := by
  have hsemicolon : ';' ∉ t.text := fun hmem => (plainTchar (t.tchars _ hmem)).not_semicolon rfl
  have hequals : '=' ∉ t.text := fun hmem => (plainTchar (t.tchars _ hmem)).not_equals rfl
  have htail : tailChars self after = [] ∨ ∃ rest, tailChars self after = ';' :: rest := by
    unfold tailChars
    cases after with
    | nil =>
        left
        have hrest : self.rest = [] := hend.resolve_left fun hne => hne rfl
        rw [hrest]
        rfl
    | cons slot rest => exact .inr ⟨_, rfl⟩
  have hpiece : valuePiece self pair after = t.text := by
    unfold valuePiece
    rw [htoken]
    exact takeWhile_piece hsemicolon htail
  have hlast : t.text.rdropWhile isBlank = t.text := by
    rw [List.rdropWhile_eq_self_iff]
    intro hne
    have hchar := plainTchar (t.tchars _ (List.getLast_mem hne))
    simp [isBlank, hchar.not_space, hchar.not_tab]
  rw [hpiece, readPiece_eq hequals, beginsProto_pair hproto, if_pos rfl, htoken]
  unfold trimmedLower
  rw [hlast]
  rfl

/-- A piece of the slots before the pair that is read as its value stands there once more. -/
theorem repeats_of_before (h : FirstProto self.first before pair after)
    (hread : (before.flatMap fun slot => (slotChars slot).splitOn ';').findSome? readPiece
      = some (String.ofList (pair.value.unquoted.map Char.toLower))) : Repeats self := by
  obtain ⟨piece, hmem, hpiece⟩ := List.exists_of_findSome?_eq_some hread
  obtain ⟨slot, hslot, hsplit⟩ := List.mem_flatMap.mp hmem
  have hbegins : beginsProto piece = true := by
    rw [← Bool.not_eq_false, ← readPiece_eq_none_iff, hpiece]
    simp
  obtain ⟨pre, x, rfl, hx⟩ := exists_last (equals_mem_of_beginsProto hbegins)
  rw [readPiece_eq hx, hbegins, if_pos rfl, Option.some.injEq, String.ofList_inj] at hpiece
  -- the piece in its slot, and the slot among the others
  obtain ⟨left, right, hchars, hsemicolon, hright⟩ := mem_splitOn hsplit
  obtain ⟨first, last, rfl⟩ := List.append_of_mem hslot
  let rest := pair.name.text ++ '=' :: (pair.value.chars ++ tailChars self after)
  have hleading : leadingChars (first ++ slot :: last)
      = leadingChars first ++ (left ++ pre) ++ '=' :: (x ++ (right ++ ';' :: leadingChars last)) := by
    unfold leadingChars
    rw [List.flatMap_append, List.flatMap_cons, hchars]
    simp
  refine ⟨_, pair, after, h, leadingChars first ++ (left ++ pre),
    x ++ (right ++ ';' :: leadingChars last) ++ rest, ?_, ?_, ?_⟩
  · rw [chars_eq h, hleading]
    simp [rest]
  · intro heq
    have hlength := congrArg List.length heq
    rw [hleading] at hlength
    simp only [List.length_append, List.length_cons] at hlength
    omega
  · have hx' : ';' ∉ x := fun hmem => hsemicolon (by simp [hmem])
    have hnext : (right ++ ';' :: leadingChars last) ++ rest = []
        ∨ ∃ rest', (right ++ ';' :: leadingChars last) ++ rest = ';' :: rest' := by
      right
      rcases hright with rfl | ⟨right', rfl⟩
      · exact ⟨_, rfl⟩
      · exact ⟨_, rfl⟩
    rw [List.append_assoc, takeWhile_piece hx' hnext]
    exact hpiece

/-- A `,` right after a token is read with it. -/
theorem not_token_with_comma {t : Token} {ows : Ows} {more : List Char} :
    trimmedLower ((t.text ++ (ows.text ++ ',' :: more)).takeWhile fun c => c != ';')
      ≠ t.text.map Char.toLower := by
  intro heq
  have hall : ∀ c ∈ t.text ++ (ows.text ++ [',']), (c != ';') = true := by
    intro c hc
    rcases List.mem_append.mp hc with hc | hc
    · simpa using (plainTchar (t.tchars c hc)).not_semicolon
    · rcases List.mem_append.mp hc with hc | hc
      · rcases ows.blank c hc with rfl | rfl
        · rfl
        · rfl
      · rw [List.mem_singleton.mp hc]
        rfl
  have htext : t.text ++ (ows.text ++ ',' :: more) = (t.text ++ (ows.text ++ [','])) ++ more := by
    simp
  have hpiece : (t.text ++ (ows.text ++ [','])) ++ more.takeWhile (fun c => c != ';')
      = (t.text ++ ows.text) ++ ',' :: more.takeWhile (fun c => c != ';') := by simp
  rw [htext, List.takeWhile_append_of_pos hall, hpiece] at heq
  unfold trimmedLower at heq
  rw [Url.rdropWhile_append_cons rfl] at heq
  have hcomma : Char.toLower ',' ∈ t.text.map Char.toLower := by
    rw [← heq]
    simp
  obtain ⟨c, hc, hlower⟩ := List.mem_map.mp hcomma
  rw [show Char.toLower ',' = ',' from rfl, toLower_eq_iff (.inr (.inr rfl))] at hlower
  exact (plainTchar (t.tchars c hc)).not_comma hlower

/-- A semicolon in the text of a quoted string is one of its characters. -/
theorem semicolon_unquoted {items : List QuotedItem}
    (h : ';' ∈ items.flatMap QuotedItem.chars) : ';' ∈ (Value.quoted items).unquoted := by
  obtain ⟨item, hitem, hmem⟩ := List.mem_flatMap.mp h
  refine List.mem_map.mpr ⟨item, hitem, ?_⟩
  cases item with
  | text c hc => exact (List.mem_singleton.mp hmem).symm
  | pair c hc =>
      rcases List.mem_cons.mp hmem with h | h
      · cases h
      · exact (List.mem_singleton.mp h).symm

/-- Every character of a quoted string takes at least one in its text. -/
theorem length_le_chars (items : List QuotedItem) :
    items.length ≤ (items.flatMap QuotedItem.chars).length := by
  induction items with
  | nil => exact le_rfl
  | cons item items ih =>
      have hone : 1 ≤ item.chars.length := by
        cases item with
        | text c hc => exact le_rfl
        | pair c hc => exact Nat.le_succ 1
      rw [List.flatMap_cons, List.length_append, List.length_cons]
      omega

/-- A quoted string is not read as its value: the quotes stay, or it is cut at a semicolon. -/
theorem not_quoted {items : List QuotedItem} {more : List Char} :
    trimmedLower (((Value.quoted items).chars ++ more).takeWhile fun c => c != ';')
      ≠ (Value.quoted items).unquoted.map Char.toLower := by
  intro heq
  let raw := items.flatMap QuotedItem.chars
  have hchars : (Value.quoted items).chars ++ more = ('"' :: raw) ++ '"' :: more := by
    simp [Value.chars, raw]
  by_cases hsemicolon : ';' ∈ raw
  · have hunquoted : ';' ∈ (Value.quoted items).unquoted.map Char.toLower :=
      List.mem_map.mpr ⟨';', semicolon_unquoted hsemicolon, rfl⟩
    rw [← heq] at hunquoted
    obtain ⟨c, hc, hlower⟩ := List.mem_map.mp hunquoted
    rw [toLower_eq_iff (.inl rfl)] at hlower
    subst hlower
    have hne := List.mem_takeWhile_imp ((List.rdropWhile_prefix _ _).subset hc)
    simp at hne
  · -- then the piece has both quotes and every character between them
    have hall : ∀ c ∈ ('"' :: raw) ++ ['"'], (c != ';') = true := by
      intro c hc
      have hcases : c = '"' ∨ c ∈ raw ∨ c = '"' := by simpa using hc
      rcases hcases with rfl | hc | rfl
      · rfl
      · have hne : c ≠ ';' := by
          intro heq
          rw [heq] at hc
          exact hsemicolon hc
        simpa using hne
      · rfl
    have htext : ('"' :: raw) ++ '"' :: more = (('"' :: raw) ++ ['"']) ++ more := by simp
    have hpiece : (('"' :: raw) ++ ['"']) ++ more.takeWhile (fun c => c != ';')
        = ('"' :: raw) ++ '"' :: more.takeWhile (fun c => c != ';') := by simp
    rw [hchars, htext, List.takeWhile_append_of_pos hall, hpiece] at heq
    unfold trimmedLower at heq
    rw [Url.rdropWhile_append_cons rfl] at heq
    have hlength := congrArg List.length heq
    have hitems : items.length ≤ raw.length := length_le_chars items
    simp only [List.length_map, List.length_append, List.length_cons, Value.unquoted] at hlength
    omega

/-- The piece of the pair, read as its value: it is a token that ends its piece, or the value
stands there once more. -/
theorem straight_or_repeats_of_pair (h : FirstProto self.first before pair after)
    (hread : readPiece (pair.name.text ++ '=' :: valuePiece self pair after)
      = some (String.ofList (pair.value.unquoted.map Char.toLower))) :
    ((∃ t, pair.value = .token t) ∧ (after ≠ [] ∨ self.rest = [])) ∨ Repeats self := by
  by_cases hequals : '=' ∈ valuePiece self pair after
  · right
    obtain ⟨pre, x, hpiece, hx⟩ := exists_last hequals
    obtain ⟨hsemicolon, rest, htext, hrest⟩ :=
      takeWhile_split (a := ';') (pair.value.chars ++ tailChars self after)
    have hread' : trimmedLower x = pair.value.unquoted.map Char.toLower := by
      have hsplit : pair.name.text ++ '=' :: valuePiece self pair after
          = (pair.name.text ++ '=' :: pre) ++ '=' :: x := by
        rw [hpiece]
        simp
      have hbegins := beginsProto_pair h.isProto (valuePiece self pair after)
      rw [hsplit] at hread hbegins
      rw [readPiece_eq hx, hbegins, if_pos rfl, Option.some.injEq, String.ofList_inj] at hread
      exact hread
    have hpiece' : (pair.value.chars ++ tailChars self after).takeWhile (fun c => c != ';')
        = pre ++ '=' :: x := hpiece
    rw [hpiece'] at htext hsemicolon
    refine ⟨before, pair, after, h, leadingChars before ++ (pair.name.text ++ '=' :: pre), x ++ rest,
      ?_, ?_, ?_⟩
    · rw [chars_eq h, htext]
      simp
    · intro heq
      have hlength := congrArg List.length heq
      simp only [List.length_append, List.length_cons] at hlength
      omega
    · rw [takeWhile_piece (fun hmem => hsemicolon (by simp [hmem])) hrest]
      exact hread'
  · left
    rw [readPiece_eq hequals, beginsProto_pair h.isProto, if_pos rfl, Option.some.injEq,
      String.ofList_inj] at hread
    unfold valuePiece at hread
    cases hvalue : pair.value with
    | quoted items =>
        rw [hvalue] at hread
        exact absurd hread not_quoted
    | token t =>
        refine ⟨⟨t, rfl⟩, ?_⟩
        by_contra hend
        rw [not_or, not_not] at hend
        obtain ⟨rfl, hrest⟩ := hend
        obtain ⟨⟨ows, after, element⟩, more, hmore⟩ := List.exists_cons_of_ne_nil hrest
        rw [hvalue] at hread
        unfold tailChars restChars at hread
        rw [hmore, List.flatMap_cons] at hread
        simp only [afterChars, List.nil_append, List.append_assoc, List.cons_append] at hread
        exact not_token_with_comma hread

end First

/-- **What is read right**: every value that can be read by its semicolons, and no other but
where the value of its `proto` happens to stand once more after another `=`. -/
theorem forwarded_proto_iff (self : Forwarded) :
    (ReadsStraight self → ReadsProto self)
      ∧ (ReadsProto self → ReadsStraight self ∨ Repeats self) := by
  constructor
  · intro h
    rcases h with ⟨hnone, hpieces⟩ | ⟨before, pair, after, hfirst, hascii, ⟨t, htoken⟩, hend, hbefore⟩
    · exact (readsProto_iff_of_noProto hnone).mpr hpieces
    · refine (readsProto_iff_of_first hfirst).mpr ⟨hascii, ?_⟩
      have hnothing : (before.flatMap fun slot => (slotChars slot).splitOn ';').findSome? readPiece
          = none := by
        rw [findSome?_readPiece_eq_none_iff]
        intro piece hmem
        obtain ⟨slot, hslot, hpiece⟩ := List.mem_flatMap.mp hmem
        exact hbefore slot hslot piece hpiece
      rw [hnothing, Option.none_or]
      exact readPiece_token htoken hfirst.isProto hend
  · intro h
    rcases noProto_or_first self.first with hnone | ⟨before, pair, after, hfirst⟩
    · exact .inl (.inl ⟨hnone, (readsProto_iff_of_noProto hnone).mp h⟩)
    · obtain ⟨hascii, hread⟩ := (readsProto_iff_of_first hfirst).mp h
      cases hbefore : (before.flatMap fun slot => (slotChars slot).splitOn ';').findSome?
          readPiece with
      | some text =>
          rw [hbefore, Option.some_or] at hread
          exact .inr (repeats_of_before hfirst (hbefore.trans hread))
      | none =>
          rw [hbefore, Option.none_or] at hread
          rcases straight_or_repeats_of_pair hfirst hread with ⟨htoken, hend⟩ | hrepeats
          · refine .inl (.inr ⟨before, pair, after, hfirst, hascii, htoken, hend, ?_⟩)
            rw [findSome?_readPiece_eq_none_iff] at hbefore
            intro slot hslot piece hpiece
            exact hbefore piece (List.mem_flatMap.mpr ⟨slot, hslot, hpiece⟩)
          · exact .inr hrepeats

/-- A word as a token. -/
def tokenOf (text : String) (h : (text.toList ≠ [] ∧ text.toList.all isTchar = true) := by
    decide +kernel) : Token :=
  ⟨text.toList, h.1, List.all_eq_true.mp h.2⟩

/-- `for=192.0.2.43;proto=https;by=203.0.113.60`. -/
def behindProxy : Forwarded where
  first :=
    [ some ⟨tokenOf "for", .token (tokenOf "192.0.2.43")⟩,
      some ⟨tokenOf "proto", .token (tokenOf "https")⟩,
      some ⟨tokenOf "by", .token (tokenOf "203.0.113.60")⟩ ]
  rest := []

/-- What one proxy adds is read, its `proto` in the middle. -/
theorem forwarded_proto_iff_proxy : ReadsProto behindProxy := by
  have hascii : Ascii behindProxy := by
    intro c hc
    have hall : behindProxy.chars.all (fun c => c.toNat < 128) = true := by decide +kernel
    exact of_decide_eq_true (List.all_eq_true.mp hall c hc)
  have hfirst : FirstProto behindProxy.first
      [some ⟨tokenOf "for", .token (tokenOf "192.0.2.43")⟩]
      ⟨tokenOf "proto", .token (tokenOf "https")⟩
      [some ⟨tokenOf "by", .token (tokenOf "203.0.113.60")⟩] :=
    { split := rfl
      isProto := by decide +kernel
      noProto := by
        intro pair hpair
        rw [Option.some.inj (List.mem_singleton.mp hpair)]
        decide +kernel }
  have hbefore : ∀ slot ∈ [some (Pair.mk (tokenOf "for") (.token (tokenOf "192.0.2.43")))],
      ∀ piece ∈ (slotChars slot).splitOn ';', beginsProto piece = false := by
    intro slot hslot
    rw [List.mem_singleton.mp hslot]
    decide +kernel
  exact (forwarded_proto_iff behindProxy).1
    (.inr ⟨_, _, _, hfirst, hascii, ⟨_, rfl⟩, .inl (List.cons_ne_nil _ _), hbefore⟩)

/-- `for=192.0.2.43;proto=https, for=198.51.100.17`. -/
def behindProxies : Forwarded where
  first :=
    [ some ⟨tokenOf "for", .token (tokenOf "192.0.2.43")⟩,
      some ⟨tokenOf "proto", .token (tokenOf "https")⟩ ]
  rest :=
    [ (⟨[], by simp⟩, ⟨[' '], by simp⟩,
        [some ⟨tokenOf "for", .token (tokenOf "198.51.100.17")⟩]) ]

example : behindProxies.chars = "for=192.0.2.43;proto=https, for=198.51.100.17".toList := by
  decide +kernel

/-- The scheme read is the address of the element after the comma. -/
theorem proxy_read_as_proto : ¬ ∀ self : Forwarded, ReadsProto self := by
  intro h
  have hread := h behindProxies
  have hcode : Scheme.parseForwardedProto behindProxies.bytes = some "198.51.100.17" := by
    decide +kernel
  have hproto : behindProxies.proto.map String.ofList = some "https" := by decide +kernel
  unfold ReadsProto at hread
  rw [hcode, hproto] at hread
  exact absurd hread (by decide)

end Value

end Switchgear.Service
