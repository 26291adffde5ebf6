/-
  Switchgear.Lib.ForwardedHeader — values of the `Forwarded` header.

  A value is a list of elements between commas, an element a list of pairs
  between semicolons, some of which may be missing, and a pair a name and a
  token or a quoted string.  White space may stand around a comma.  Names are
  compared without case.

  The types hold well-formed values only; `chars` writes a value, `proto` reads
  the parameter of the first element.

  Below them: how a text falls into pieces at a separator.
-/
import Switchgear.Lib.Hex

namespace Switchgear.Lib

namespace Forwarded

/-! ## §1. Characters. -/

/-- The special characters of a token; 39 and 96 are the two single quotes. -/
def tcharSpecials : List Char :=
  ['!', '#', '$', '%', '&', Char.ofNat 39, '*', '+', '-', '.', '^', '_', Char.ofNat 96, '|', '~']

def isTchar (c : Char) : Bool := c.isAlphanum || tcharSpecials.contains c

/-- Tab, space, visible characters and the upper half of a byte. -/
def isQuotable (c : Char) : Bool :=
  c == '\t' || (0x20 ≤ c.toNat && c.toNat ≤ 0x7E) || (0x80 ≤ c.toNat && c.toNat ≤ 0xFF)

/-- What stands in a quoted string without a backslash. -/
def isQdtext (c : Char) : Bool := isQuotable c && c != '"' && c != '\\'

/-! ## §2. Values. -/

structure Token where
  text : List Char
  ne_nil : text ≠ []
  tchars : ∀ c ∈ text, isTchar c = true

inductive QuotedItem where
  | text (c : Char) (h : isQdtext c = true)
  | pair (c : Char) (h : isQuotable c = true)

inductive Value where
  | token (token : Token)
  | quoted (items : List QuotedItem)

structure Pair where
  name : Token
  value : Value

/-- The pairs between semicolons. -/
abbrev Element := List (Option Pair)

/-- Optional white space. -/
structure Ows where
  text : List Char
  blank : ∀ c ∈ text, c = ' ' ∨ c = '\t'

end Forwarded

open Forwarded in
/-- A value: its first element, and the others after their commas. -/
structure Forwarded where
  first : Element
  rest : List (Ows × Ows × Element)

namespace Forwarded

/-! ## §3. What is written. -/

def QuotedItem.chars : QuotedItem → List Char
  | .text c _ => [c]
  | .pair c _ => ['\\', c]

def Value.chars : Value → List Char
  | .token t => t.text
  | .quoted items => '"' :: items.flatMap QuotedItem.chars ++ ['"']

def Pair.chars (pair : Pair) : List Char := pair.name.text ++ '=' :: pair.value.chars

def slotChars (slot : Option Pair) : List Char := slot.elim [] Pair.chars

def Element.chars : Element → List Char
  | [] => []
  | [slot] => slotChars slot
  | slot :: next :: rest => slotChars slot ++ ';' :: chars (next :: rest)

/-- The elements after the first one, each after its comma. -/
def restChars (rest : List (Ows × Ows × Element)) : List Char :=
  rest.flatMap fun entry => entry.1.text ++ ',' :: (entry.2.1.text ++ Element.chars entry.2.2)

def chars (self : Forwarded) : List Char := Element.chars self.first ++ restChars self.rest

/-- The bytes of the header value. -/
def bytes (self : Forwarded) : List UInt8 := self.chars.map fun c => UInt8.ofNat c.toNat

/-! ## §4. What it means. -/

def QuotedItem.value : QuotedItem → Char
  | .text c _ => c
  | .pair c _ => c

def Value.unquoted : Value → List Char
  | .token t => t.text
  | .quoted items => items.map QuotedItem.value

def Pair.isProto (pair : Pair) : Bool := pair.name.text.map Char.toLower == "proto".toList

/-- The lower-cased, unquoted `proto` of the first element. -/
def proto (self : Forwarded) : Option (List Char) :=
  self.first.findSome? fun slot => slot.bind fun pair =>
    if pair.isProto then some (pair.value.unquoted.map Char.toLower) else none

/-- No pair of the element is a `proto`. -/
def NoProto (element : Element) : Prop := ∀ pair, some pair ∈ element → pair.isProto = false

/-- The first `proto` of the element, with what stands before and after. -/
structure FirstProto (element before : Element) (pair : Pair) (after : Element) : Prop where
  split : element = before ++ some pair :: after
  isProto : pair.isProto = true
  noProto : NoProto before

theorem noProto_or_first (element : Element) :
    NoProto element ∨ ∃ before pair after, FirstProto element before pair after := by
  induction element with
  | nil =>
      left
      intro pair hmem
      cases hmem
  | cons slot rest ih =>
      -- an empty slot is no `proto` either
      by_cases hslot : ∃ pair, slot = some pair ∧ pair.isProto = true
      · obtain ⟨pair, rfl, hproto⟩ := hslot
        right
        refine ⟨[], pair, rest, rfl, hproto, ?_⟩
        intro pair' hmem
        cases hmem
      · have hnot : ∀ pair, slot = some pair → pair.isProto = false := by
          intro pair hpair
          rw [← Bool.not_eq_true]
          intro hproto
          exact hslot ⟨pair, hpair, hproto⟩
        rcases ih with hrest | ⟨before, pair, after, hfirst⟩
        · left
          intro pair hmem
          rcases List.mem_cons.mp hmem with heq | hmem
          · exact hnot pair heq.symm
          · exact hrest pair hmem
        · right
          refine ⟨slot :: before, pair, after, by rw [hfirst.split]; rfl, hfirst.isProto, ?_⟩
          intro pair' hmem
          rcases List.mem_cons.mp hmem with heq | hmem
          · exact hnot pair' heq.symm
          · exact hfirst.noProto pair' hmem

variable {self : Forwarded}

/-- A search through slots none of which is a `proto`. -/
theorem findSome?_noProto {element : Element} (h : NoProto element) :
    (element.findSome? fun slot => slot.bind fun pair =>
      if pair.isProto then some (pair.value.unquoted.map Char.toLower) else none) = none := by
  rw [List.findSome?_eq_none_iff]
  intro slot hmem
  cases slot with
  | none => rfl
  | some pair =>
      show (if pair.isProto = true then _ else _) = none
      rw [h pair hmem]
      rfl

theorem proto_of_noProto (h : NoProto self.first) : self.proto = none := findSome?_noProto h

theorem proto_of_first {before after : Element} {pair : Pair}
    (h : FirstProto self.first before pair after) :
    self.proto = some (pair.value.unquoted.map Char.toLower) := by
  unfold proto
  rw [h.split, List.findSome?_append, findSome?_noProto h.noProto, Option.none_or,
    List.findSome?_cons]
  simp [h.isProto]

/-! ## §5. The characters of a value. -/

theorem isTchar_lt {c : Char} (h : isTchar c = true) : c.toNat < 128 := by
  unfold isTchar Char.isAlphanum Char.isAlpha Char.isUpper Char.isLower Char.isDigit at h
  simp only [Bool.or_eq_true, Bool.and_eq_true, decide_eq_true_eq, List.contains_iff_mem,
    UInt32.le_iff_toNat_le, ge_iff_le] at h
  have hz : 'Z'.val.toNat = 90 := rfl
  have hlower : 'z'.val.toNat = 122 := rfl
  have hnine : '9'.val.toNat = 57 := rfl
  have hother : tcharSpecials.all (fun c => c.toNat < 128) = true := rfl
  show c.val.toNat < 128
  rcases h with ((h | h) | h) | h
  · omega
  · omega
  · omega
  · exact of_decide_eq_true (List.all_eq_true.mp hother c h)

/-- A character of a token is none of the others. -/
structure PlainTchar (c : Char) : Prop where
  quotable : isQuotable c = true
  not_semicolon : c ≠ ';'
  not_equals : c ≠ '='
  not_comma : c ≠ ','
  not_space : c ≠ ' '
  not_tab : c ≠ '\t'

theorem plainTchar {c : Char} (h : isTchar c = true) : PlainTchar c := by
  have hc := Hex.of_ascii (P := fun c => isTchar c = true →
    isQuotable c = true ∧ c ≠ ';' ∧ c ≠ '=' ∧ c ≠ ',' ∧ c ≠ ' ' ∧ c ≠ '\t') (by decide)
    (isTchar_lt h)
  obtain ⟨hquotable, hsemicolon, hequals, hcomma, hspace, htab⟩ := hc h
  exact ⟨hquotable, hsemicolon, hequals, hcomma, hspace, htab⟩

theorem QuotedItem.quotable (item : QuotedItem) {c : Char} (h : c ∈ item.chars) :
    isQuotable c = true := by
  cases item with
  | text c' hc' =>
      rw [List.mem_singleton.mp h]
      unfold isQdtext at hc'
      simp only [Bool.and_eq_true] at hc'
      exact hc'.1.1
  | pair c' hc' =>
      rcases List.mem_cons.mp h with rfl | h
      · decide
      · rw [List.mem_singleton.mp h]
        exact hc'

theorem Value.quotable (value : Value) {c : Char} (h : c ∈ value.chars) : isQuotable c = true := by
  cases value with
  | token t => exact (plainTchar (t.tchars c h)).quotable
  | quoted items =>
      have hmem : c = '"' ∨ c ∈ items.flatMap QuotedItem.chars ∨ c = '"' := by
        simpa [Value.chars] using h
      rcases hmem with rfl | hmem | rfl
      · decide
      · obtain ⟨item, -, hc⟩ := List.mem_flatMap.mp hmem
        exact item.quotable hc
      · decide

theorem slotChars_quotable (slot : Option Pair) {c : Char} (h : c ∈ slotChars slot) :
    isQuotable c = true := by
  cases slot with
  | none => cases h
  | some pair =>
      rcases List.mem_append.mp h with h | h
      · exact (plainTchar (pair.name.tchars c h)).quotable
      · rcases List.mem_cons.mp h with rfl | h
        · decide
        · exact pair.value.quotable h

theorem Element.quotable (element : Element) {c : Char} (h : c ∈ Element.chars element) :
    isQuotable c = true := by
  induction element using Element.chars.induct with
  | case1 => cases h
  | case2 slot => exact slotChars_quotable slot h
  | case3 slot next rest ih =>
      rcases List.mem_append.mp h with h | h
      · exact slotChars_quotable slot h
      · rcases List.mem_cons.mp h with rfl | h
        · decide
        · exact ih h

theorem Ows.quotable (ows : Ows) {c : Char} (h : c ∈ ows.text) : isQuotable c = true := by
  rcases ows.blank c h with rfl | rfl
  · decide
  · decide

/-- Every character of a value can stand in a header. -/
theorem quotable (self : Forwarded) {c : Char} (h : c ∈ self.chars) : isQuotable c = true := by
  rcases List.mem_append.mp h with h | h
  · exact Element.quotable _ h
  · obtain ⟨⟨before, after, element⟩, -, h⟩ := List.mem_flatMap.mp h
    rcases List.mem_append.mp h with h | h
    · exact before.quotable h
    · rcases List.mem_cons.mp h with rfl | h
      · decide
      · rcases List.mem_append.mp h with h | h
        · exact after.quotable h
        · exact Element.quotable element h

end Forwarded

/-! ## §6. Texts in pieces. -/

section Pieces

variable {α : Type} [BEq α] [LawfulBEq α] {a : α}

/-- The first piece is what comes before the first separator. -/
theorem splitOn_eq_cons (text : List α) :
    ∃ rest, text.splitOn a = text.takeWhile (fun c => c != a) :: rest := by
  induction text with
  | nil => exact ⟨[], rfl⟩
  | cons c text ih =>
      obtain ⟨rest, hrest⟩ := ih
      rw [List.splitOn_cons_eq_if_modifyHead]
      by_cases hc : c = a
      · subst hc
        refine ⟨text.splitOn c, ?_⟩
        simp
      · refine ⟨rest, ?_⟩
        rw [if_neg (by simpa using hc), hrest, List.takeWhile_cons_of_pos (by simpa using hc)]
        rfl

/-- Up to the first separator there is none, and then there is one, or the end. -/
theorem takeWhile_split (text : List α) :
    a ∉ text.takeWhile (fun c => c != a)
      ∧ ∃ after, text = text.takeWhile (fun c => c != a) ++ after
        ∧ (after = [] ∨ ∃ rest, after = a :: rest) := by
  constructor
  · intro hmem
    have hne := List.mem_takeWhile_imp hmem
    simp at hne
  · refine ⟨text.dropWhile fun c => c != a, List.takeWhile_append_dropWhile.symm, ?_⟩
    cases hafter : text.dropWhile fun c => c != a with
    | nil => exact .inl rfl
    | cons c rest =>
        right
        have hhead := List.head_dropWhile_not (fun c => c != a) (l := text) (by rw [hafter]; simp)
        simp only [hafter, List.head_cons] at hhead
        have hc : c = a := by simpa using hhead
        exact ⟨rest, by rw [hc]⟩

/-- A piece has no separator in it and ends at one, or at the end. -/
theorem mem_splitOn {text piece : List α} (h : piece ∈ text.splitOn a) :
    ∃ before after, text = before ++ (piece ++ after) ∧ a ∉ piece
      ∧ (after = [] ∨ ∃ rest, after = a :: rest) := by
  induction text generalizing piece with
  | nil =>
      rw [List.splitOn_nil, List.mem_singleton] at h
      subst h
      exact ⟨[], [], rfl, by simp, .inl rfl⟩
  | cons c text ih =>
      rw [List.splitOn_cons_eq_if_modifyHead] at h
      by_cases hc : c = a
      · subst hc
        rw [if_pos (by simp)] at h
        rcases List.mem_cons.mp h with rfl | h
        · exact ⟨[], c :: text, rfl, by simp, .inr ⟨text, rfl⟩⟩
        · obtain ⟨before, after, htext, hpiece, hafter⟩ := ih h
          exact ⟨c :: before, after, by rw [htext]; rfl, hpiece, hafter⟩
      · obtain ⟨rest, hrest⟩ := splitOn_eq_cons (a := a) text
        rw [if_neg (by simpa using hc), hrest] at h
        rcases List.mem_cons.mp h with rfl | h
        · -- the first piece goes on with this character
          obtain ⟨hnone, after, htext, hafter⟩ := takeWhile_split (a := a) text
          refine ⟨[], after, ?_, ?_, hafter⟩
          · rw [List.nil_append, List.cons_append, ← htext]
          · rw [List.mem_cons, not_or]
            exact ⟨Ne.symm hc, hnone⟩
        · have hmem : piece ∈ text.splitOn a := by
            rw [hrest]
            exact List.mem_cons_of_mem _ h
          obtain ⟨before, after, htext, hpiece, hafter⟩ := ih hmem
          exact ⟨c :: before, after, by rw [htext]; rfl, hpiece, hafter⟩

/-- The last piece. -/
theorem getLast?_splitOn {before after : List α} (h : a ∉ after) :
    ((before ++ a :: after).splitOn a).getLast? = some after := by
  rw [List.splitOn_append_cons_self, List.splitOn_eq_singleton h, List.getLast?_append]
  rfl

/-- A text with a separator has a last one. -/
theorem exists_last {text : List α} (h : a ∈ text) :
    ∃ before after, text = before ++ a :: after ∧ a ∉ after := by
  induction text with
  | nil => cases h
  | cons c text ih =>
      by_cases hrest : a ∈ text
      · obtain ⟨before, after, htext, hafter⟩ := ih hrest
        exact ⟨c :: before, after, by rw [htext]; rfl, hafter⟩
      · rcases List.mem_cons.mp h with rfl | h
        · exact ⟨[], text, rfl, hrest⟩
        · exact absurd h hrest

end Pieces

end Switchgear.Lib
