/-
  Switchgear.Lib.PercentEncode — percent-encoded text, as a URL parser writes it
  and a router reads it.

  The parser encodes the characters that may not stand in a path or a query and
  leaves `%` alone.  The decoder undoes this, and it decodes the `%XX` that stood
  in the text before as well.

  Main results:
    * `percentDecode_percentEncode` — the decoder reads a text and its encoding
      alike,
    * `percentDecode_eq_self_iff` — a text comes back if and only if no percent
      sign in it has two digits after it.
-/
import Switchgear.Lib.UrlPath

namespace Switchgear.Lib

namespace UrlPath

open Hex

/-! ## §1. Encoding. -/

def utf8 (text : List Char) : List UInt8 := text.flatMap String.utf8EncodeChar

/-- `%XX`, with digits in upper case. -/
def percentByte (b : UInt8) : List Char :=
  ['%', (Nat.digitChar (b.toNat / 16)).toUpper, (Nat.digitChar (b.toNat % 16)).toUpper]

/-- `utf8_percent_encode`, of the characters in a set. -/
def percentEncode (set : Char → Bool) (text : List Char) : List Char :=
  text.flatMap fun c => if set c then (String.utf8EncodeChar c).flatMap percentByte else [c]

/-- Controls, blanks and what is not in ASCII. -/
def controlSet (c : Char) : Bool := c.toNat ≤ 0x20 || 0x7F ≤ c.toNat

/-- The path percent-encode set; 96 is the grave accent. -/
def pathSet (c : Char) : Bool :=
  controlSet c || ['"', '#', '<', '>', '?', '^', Char.ofNat 96, '{', '}'].contains c

/-- The special-query percent-encode set; 39 is the single quote. -/
def querySet (c : Char) : Bool := controlSet c || ['"', '#', '<', '>', Char.ofNat 39].contains c

/-- A set that takes what is not in ASCII, and neither `%` nor a digit. -/
structure EncodeSet (set : Char → Bool) : Prop where
  ascii : ∀ c, set c = false → c.toNat < 128
  percent : set '%' = false
  digit : ∀ c n, digitValue c = some n → set c = false

/-! ## §2. Bytes and digits. -/

theorem digitValue_lt {c : Char} {n : ℕ} (h : digitValue c = some n) : c.toNat < 128 := by
  have hnine : '9'.val.toNat = 57 := rfl
  have hf : 'f'.val.toNat = 102 := rfl
  have hF : 'F'.val.toNat = 70 := rfl
  show c.val.toNat < 128
  unfold digitValue at h
  split at h
  · rename_i hdigit
    have hle : c.val.toNat ≤ '9'.val.toNat := hdigit.2
    omega
  · split at h
    · rename_i hlower
      have hle : c.val.toNat ≤ 'f'.val.toNat := hlower.2
      omega
    · split at h
      · rename_i hupper
        have hle : c.val.toNat ≤ 'F'.val.toNat := hupper.2
        omega
      · cases h

theorem encodeSet_pathSet : EncodeSet pathSet where
  ascii c h := by
    simp only [pathSet, controlSet, Bool.or_eq_false_iff, decide_eq_false_iff_not] at h
    omega
  percent := by decide
  digit c n h := by
    have hall := of_ascii (P := fun c => (digitValue c).isSome = true → pathSet c = false)
      (by decide) (digitValue_lt h)
    exact hall (by rw [h]; rfl)

theorem utf8EncodeChar_ascii {c : Char} (h : c.toNat < 128) :
    String.utf8EncodeChar c = [UInt8.ofNat c.toNat] := by
  have hle : c.val.toNat ≤ 0x7f := Nat.le_of_lt_succ h
  unfold String.utf8EncodeChar
  exact if_pos hle

/-- The bytes of a character that is not in ASCII are in the upper half. -/
theorem utf8EncodeChar_not_ascii {c : Char} (h : ¬ c.toNat < 128) :
    ∀ b ∈ String.utf8EncodeChar c, 128 ≤ b.toNat := by
  have hgt : ¬ c.val.toNat ≤ 0x7f := fun hle => h (Nat.lt_succ_of_le hle)
  intro b hb
  unfold String.utf8EncodeChar at hb
  rw [if_neg hgt] at hb
  split at hb
  · simp only [List.mem_cons, List.not_mem_nil, or_false] at hb
    rcases hb with rfl | rfl
    · rw [UInt8.toNat_ofNat']; omega
    · rw [UInt8.toNat_ofNat']; omega
  · split at hb
    · simp only [List.mem_cons, List.not_mem_nil, or_false] at hb
      rcases hb with rfl | rfl | rfl
      · rw [UInt8.toNat_ofNat']; omega
      · rw [UInt8.toNat_ofNat']; omega
      · rw [UInt8.toNat_ofNat']; omega
    · simp only [List.mem_cons, List.not_mem_nil, or_false] at hb
      rcases hb with rfl | rfl | rfl | rfl
      · rw [UInt8.toNat_ofNat']; omega
      · rw [UInt8.toNat_ofNat']; omega
      · rw [UInt8.toNat_ofNat']; omega
      · rw [UInt8.toNat_ofNat']; omega

/-- Only a percent sign has its byte. -/
theorem utf8EncodeChar_ne_percent {c : Char} (h : c ≠ '%') :
    ∀ b ∈ String.utf8EncodeChar c, b ≠ 37 := by
  intro b hb heq
  subst heq
  by_cases hascii : c.toNat < 128
  · rw [utf8EncodeChar_ascii hascii, List.mem_singleton] at hb
    have hall := of_ascii (P := fun c => 37 = UInt8.ofNat c.toNat → c = '%') (by decide) hascii
    exact h (hall hb)
  · have hle := utf8EncodeChar_not_ascii hascii 37 hb
    exact absurd hle (by decide)

theorem utf8_cons (c : Char) (text : List Char) :
    utf8 (c :: text) = String.utf8EncodeChar c ++ utf8 text := rfl

theorem utf8_append (first second : List Char) :
    utf8 (first ++ second) = utf8 first ++ utf8 second := List.flatMap_append

theorem utf8_percent (text : List Char) : utf8 ('%' :: text) = 37 :: utf8 text := rfl

/-- The digits a percent sign needs after it. -/
def startsDigits : List Char → Bool
  | high :: low :: _ => (digitValue high).isSome && (digitValue low).isSome
  | _ => false

/-- The same among bytes. -/
def startsDigitBytes : List UInt8 → Bool
  | high :: low :: _ =>
      (digitValue (Char.ofNat high.toNat)).isSome && (digitValue (Char.ofNat low.toNat)).isSome
  | _ => false

/-- A percent sign with two digits after it. -/
def hasPair : List Char → Bool
  | [] => false
  | c :: text => (c == '%' && startsDigits text) || hasPair text

theorem not_digit_of_le {b : UInt8} (h : 128 ≤ b.toNat) :
    (digitValue (Char.ofNat b.toNat)).isSome = false := by
  rw [Bool.eq_false_iff]
  intro hsome
  obtain ⟨n, hn⟩ := Option.isSome_iff_exists.mp hsome
  have hlt := digitValue_lt hn
  have hb : b.toNat < 256 := b.toNat_lt
  have hvalid : b.toNat.isValidChar := Or.inl (by omega)
  rw [Char.toNat_ofNat, if_pos hvalid] at hlt
  omega

/-- A character is a digit if the byte that stands for it is one. -/
theorem digit_byte {c : Char} :
    ∃ b rest, String.utf8EncodeChar c = b :: rest
      ∧ (digitValue (Char.ofNat b.toNat)).isSome = (digitValue c).isSome
      ∧ ((digitValue c).isSome = true → rest = []) := by
  by_cases hascii : c.toNat < 128
  · refine ⟨UInt8.ofNat c.toNat, [], utf8EncodeChar_ascii hascii, ?_, fun _ => rfl⟩
    have hbyte : (UInt8.ofNat c.toNat).toNat = c.toNat := by
      rw [UInt8.toNat_ofNat']
      omega
    rw [hbyte, Char.ofNat_toNat]
  · obtain ⟨b, rest, hbytes⟩ := List.exists_cons_of_ne_nil (String.utf8EncodeChar_ne_nil (c := c))
    have hnone : (digitValue c).isSome = false := by
      rw [Bool.eq_false_iff]
      intro hsome
      obtain ⟨n, hn⟩ := Option.isSome_iff_exists.mp hsome
      exact hascii (digitValue_lt hn)
    have hle : 128 ≤ b.toNat := utf8EncodeChar_not_ascii hascii b (by simp [hbytes])
    refine ⟨b, rest, hbytes, ?_, ?_⟩
    · rw [hnone, not_digit_of_le hle]
    · rw [hnone]
      intro h
      cases h

theorem startsDigitBytes_utf8 (text : List Char) :
    startsDigitBytes (utf8 text) = startsDigits text := by
  cases text with
  | nil => rfl
  | cons high text =>
      obtain ⟨b, rest, hbytes, hdigit, hrest⟩ := digit_byte (c := high)
      rw [utf8_cons, hbytes]
      cases hhigh : (digitValue high).isSome with
      | false =>
          rw [hhigh] at hdigit
          have hleft : startsDigitBytes (b :: (rest ++ utf8 text)) = false := by
            cases rest ++ utf8 text with
            | nil => rfl
            | cons b' rest' => simp [startsDigitBytes, hdigit]
          rw [List.cons_append, hleft]
          cases text with
          | nil => rfl
          | cons low text => simp [startsDigits, hhigh]
      | true =>
          rw [hrest hhigh, List.singleton_append]
          rw [hhigh] at hdigit
          cases text with
          | nil => rfl
          | cons low text =>
              obtain ⟨b', rest', hbytes', hdigit', -⟩ := digit_byte (c := low)
              rw [utf8_cons, hbytes']
              show (_ && _) = (_ && _)
              rw [hdigit, hdigit', hhigh]

/-! ## §3. Decoding. -/

theorem percentBytes_append_of_ne {bytes : List UInt8} (h : ∀ b ∈ bytes, b ≠ 37)
    (rest : List UInt8) : percentBytes (bytes ++ rest) = bytes ++ percentBytes rest := by
  induction bytes with
  | nil => rfl
  | cons b bytes ih =>
      have hb : b ≠ 37 := h b List.mem_cons_self
      have hrest := ih fun b' hb' => h b' (List.mem_cons_of_mem _ hb')
      rw [List.cons_append, List.cons_append, ← hrest, percentBytes]
      intro high low rest' heq
      exact absurd heq hb

theorem percentBytes_percent_of_neg {bytes : List UInt8} (h : startsDigitBytes bytes = false) :
    percentBytes (37 :: bytes) = 37 :: percentBytes bytes := by
  cases bytes with
  | nil => rfl
  | cons high bytes =>
      cases bytes with
      | nil => rfl
      | cons low bytes =>
          rw [percentBytes]
          split
          · rename_i hhigh hlow
            simp [startsDigitBytes, hhigh, hlow] at h
          · rfl

theorem percentBytes_pair {high low : UInt8} {h l : ℕ}
    (hhigh : digitValue (Char.ofNat high.toNat) = some h)
    (hlow : digitValue (Char.ofNat low.toNat) = some l) (rest : List UInt8) :
    percentBytes (37 :: high :: low :: rest) = UInt8.ofNat (h * 16 + l) :: percentBytes rest := by
  rw [percentBytes, hhigh, hlow]

theorem exists_digits {text : List Char} (h : startsDigits text = true) :
    ∃ high low rest h l, text = high :: low :: rest ∧ digitValue high = some h
      ∧ digitValue low = some l := by
  match text, h with
  | high :: low :: rest, hdigits =>
      simp only [startsDigits, Bool.and_eq_true, Option.isSome_iff_exists] at hdigits
      obtain ⟨⟨h, hhigh⟩, l, hlow⟩ := hdigits
      exact ⟨high, low, rest, h, l, rfl, hhigh, hlow⟩

/-- A percent sign and two digits are one byte. -/
theorem percentBytes_digits {high low : Char} {h l : ℕ} (hhigh : digitValue high = some h)
    (hlow : digitValue low = some l) (rest : List UInt8) :
    percentBytes (utf8 ['%', high, low] ++ rest)
      = UInt8.ofNat (h * 16 + l) :: percentBytes rest := by
  have hbyte : ∀ d v, digitValue d = some v →
      digitValue (Char.ofNat (UInt8.ofNat d.toNat).toNat) = some v := by
    intro d v hd
    have hascii := digitValue_lt hd
    have hnat : (UInt8.ofNat d.toNat).toNat = d.toNat := by
      rw [UInt8.toNat_ofNat']
      omega
    rw [hnat, Char.ofNat_toNat, hd]
  rw [utf8_percent, utf8_cons, utf8_cons, utf8EncodeChar_ascii (digitValue_lt hhigh),
    utf8EncodeChar_ascii (digitValue_lt hlow)]
  exact percentBytes_pair (hbyte high h hhigh) (hbyte low l hlow) rest

theorem utf8_digits (high low : Char) (text : List Char) :
    utf8 ('%' :: high :: low :: text) = utf8 ['%', high, low] ++ utf8 text := by
  rw [← utf8_append]
  rfl

theorem length_percentBytes_le (bytes : List UInt8) :
    (percentBytes bytes).length ≤ bytes.length := by
  induction bytes using percentBytes.induct with
  | case1 high low rest h l hlow hhigh ih =>
      rw [percentBytes_pair hhigh hlow]
      simp only [List.length_cons]
      omega
  | case2 high low rest hnone ih =>
      have hneg : startsDigitBytes (high :: low :: rest) = false := by
        rw [Bool.eq_false_iff]
        intro htrue
        simp only [startsDigitBytes, Bool.and_eq_true, Option.isSome_iff_exists] at htrue
        obtain ⟨⟨h, hh⟩, l, hl⟩ := htrue
        exact hnone h l hh hl
      rw [percentBytes_percent_of_neg hneg]
      simp only [List.length_cons] at ih ⊢
      omega
  | case3 b rest hne ih =>
      rw [percentBytes]
      · simp only [List.length_cons]
        omega
      · exact hne
  | case4 => exact le_rfl

/-- What is encoded is decoded. -/
theorem percentBytes_percentByte (b : UInt8) (rest : List UInt8) :
    percentBytes (utf8 (percentByte b) ++ rest) = b :: percentBytes rest := by
  have hdigit : ∀ d : Fin 16, digitValue (Nat.digitChar d).toUpper = some d.val := by decide
  have hb : b.toNat < 256 := b.toNat_lt
  have hhigh := hdigit ⟨b.toNat / 16, by omega⟩
  have hlow := hdigit ⟨b.toNat % 16, by omega⟩
  have hsum : b.toNat / 16 * 16 + b.toNat % 16 = b.toNat := by omega
  unfold percentByte
  rw [percentBytes_digits hhigh hlow]
  show UInt8.ofNat (b.toNat / 16 * 16 + b.toNat % 16) :: percentBytes rest = _
  rw [hsum, UInt8.ofNat_toNat]

theorem percentBytes_encoded (bytes rest : List UInt8) :
    percentBytes (utf8 (bytes.flatMap percentByte) ++ rest) = bytes ++ percentBytes rest := by
  induction bytes with
  | nil => rfl
  | cons b bytes ih =>
      rw [List.flatMap_cons, utf8_append, List.append_assoc, percentBytes_percentByte, ih]
      rfl

section Encode

variable {set : Char → Bool}

theorem percentEncode_cons_of_mem {c : Char} (hc : set c = true) (text : List Char) :
    percentEncode set (c :: text)
      = (String.utf8EncodeChar c).flatMap percentByte ++ percentEncode set text := by
  unfold percentEncode
  rw [List.flatMap_cons, if_pos hc]

theorem percentEncode_cons_of_not_mem {c : Char} (hc : set c = false) (text : List Char) :
    percentEncode set (c :: text) = c :: percentEncode set text := by
  unfold percentEncode
  rw [List.flatMap_cons, if_neg (by simp [hc])]
  rfl

variable (hset : EncodeSet set)

include hset

/-- An encoded character begins with a percent sign, and is no digit. -/
theorem percentEncode_cons_eq {c : Char} (hc : set c = true) (text : List Char) :
    digitValue c = none ∧ ∃ rest, percentEncode set (c :: text) = '%' :: rest := by
  constructor
  · cases hdigit : digitValue c with
    | none => rfl
    | some n =>
        rw [hset.digit c n hdigit] at hc
        cases hc
  · obtain ⟨b, bytes, hbytes⟩ := List.exists_cons_of_ne_nil (String.utf8EncodeChar_ne_nil (c := c))
    rw [percentEncode_cons_of_mem hc, hbytes]
    exact ⟨_, rfl⟩

theorem startsDigits_percentEncode (text : List Char) :
    startsDigits (percentEncode set text) = startsDigits text := by
  have hpercent : digitValue '%' = none := by decide
  cases text with
  | nil => rfl
  | cons high text =>
      cases hhigh : set high with
      | true =>
          obtain ⟨hnot, rest, hrest⟩ := percentEncode_cons_eq hset hhigh text
          have hleft : startsDigits ('%' :: rest) = false := by
            cases rest with
            | nil => rfl
            | cons c rest => simp [startsDigits, hpercent]
          rw [hrest, hleft]
          cases text with
          | nil => rfl
          | cons low text => simp [startsDigits, hnot]
      | false =>
          rw [percentEncode_cons_of_not_mem hhigh]
          cases text with
          | nil => rfl
          | cons low text =>
              cases hlow : set low with
              | true =>
                  obtain ⟨hnot, rest, hrest⟩ := percentEncode_cons_eq hset hlow text
                  rw [hrest]
                  simp [startsDigits, hpercent, hnot]
              | false =>
                  rw [percentEncode_cons_of_not_mem hlow]
                  rfl

/-- The decoder finds the same bytes in a text and in its encoding. -/
theorem percentBytes_percentEncode (text : List Char) :
    percentBytes (utf8 (percentEncode set text)) = percentBytes (utf8 text) := by
  induction hlength : text.length using Nat.strong_induction_on generalizing text with
  | _ n ih =>
      cases text with
      | nil => rfl
      | cons c text =>
          have htext := ih text.length (by simp [← hlength]) text rfl
          by_cases hc : c = '%'
          · subst hc
            rw [percentEncode_cons_of_not_mem hset.percent]
            cases hdigits : startsDigits text with
            | false =>
                have hencoded : startsDigitBytes (utf8 (percentEncode set text)) = false := by
                  rw [startsDigitBytes_utf8, startsDigits_percentEncode hset, hdigits]
                have hplain : startsDigitBytes (utf8 text) = false := by
                  rw [startsDigitBytes_utf8, hdigits]
                rw [utf8_percent, utf8_percent, percentBytes_percent_of_neg hencoded,
                  percentBytes_percent_of_neg hplain, htext]
            | true =>
                -- both digits stay as they are, and the rest is shorter
                obtain ⟨high, low, rest, h, l, rfl, hhigh, hlow⟩ := exists_digits hdigits
                have hrest := ih rest.length (by simp [← hlength]; omega) rest rfl
                rw [percentEncode_cons_of_not_mem (hset.digit high h hhigh),
                  percentEncode_cons_of_not_mem (hset.digit low l hlow),
                  utf8_digits high low (percentEncode set rest), utf8_digits high low rest,
                  percentBytes_digits hhigh hlow, percentBytes_digits hhigh hlow, hrest]
          · have hne := utf8EncodeChar_ne_percent hc
            rw [utf8_cons, percentBytes_append_of_ne hne, ← htext]
            cases hc' : set c with
            | true => rw [percentEncode_cons_of_mem hc', utf8_append, percentBytes_encoded]
            | false =>
                rw [percentEncode_cons_of_not_mem hc', utf8_cons, percentBytes_append_of_ne hne]

end Encode

theorem fromUTF8?_eq_some_iff (bytes : List UInt8) (text : List Char) :
    String.fromUTF8? ⟨bytes.toArray⟩ = some (String.ofList text) ↔ bytes = utf8 text := by
  have hbytes : (⟨bytes.toArray⟩ : ByteArray) = bytes.toByteArray := by
    apply ByteArray.ext
    rw [List.data_toByteArray]
  have hinj : bytes.toByteArray = text.utf8Encode ↔ bytes = utf8 text := by
    constructor
    · intro heq
      have hdata := congrArg (fun a => a.data.toList) heq
      rw [List.toList_data_toByteArray] at hdata
      exact hdata.trans List.toList_data_toByteArray
    · intro heq
      rw [heq]
      rfl
  rw [hbytes, ← hinj]
  unfold String.fromUTF8?
  constructor
  · intro h
    split at h
    · have hstring := congrArg String.toByteArray (Option.some.inj h)
      rw [String.toByteArray_ofList] at hstring
      exact hstring
    · cases h
  · intro heq
    rw [dif_pos (by rw [heq]; exact ByteArray.isValidUTF8_utf8Encode)]
    congr 1
    rw [← String.toByteArray_inj, String.toByteArray_ofList]
    exact heq

theorem not_mem_percent_utf8 {text : List Char} (h : '%' ∉ text) : ∀ b ∈ utf8 text, b ≠ 37 := by
  intro b hb
  obtain ⟨c, hc, hbyte⟩ := List.mem_flatMap.mp hb
  refine utf8EncodeChar_ne_percent ?_ b hbyte
  intro heq
  rw [heq] at hc
  exact h hc

/-- The decoder reads bytes, whether there is a percent sign or not. -/
theorem percentDecode_eq (text : List Char) :
    percentDecode text = String.fromUTF8? ⟨(percentBytes (utf8 text)).toArray⟩ := by
  by_cases hpercent : '%' ∈ text
  · exact if_pos hpercent
  · have hkept := percentBytes_append_of_ne (not_mem_percent_utf8 hpercent) []
    rw [List.append_nil, show percentBytes [] = [] from rfl, List.append_nil] at hkept
    have hsome : percentDecode text = some (String.ofList text) := if_neg hpercent
    rw [hsome, hkept]
    exact ((fromUTF8?_eq_some_iff _ text).mpr rfl).symm

/-- **A text and its encoding are read alike.** -/
theorem percentDecode_percentEncode {set : Char → Bool} (hset : EncodeSet set)
    (text : List Char) : percentDecode (percentEncode set text) = percentDecode text := by
  rw [percentDecode_eq, percentDecode_eq, percentBytes_percentEncode hset]

theorem percentDecode_eq_some_iff (segment text : List Char) :
    percentDecode segment = some (String.ofList text)
      ↔ percentBytes (utf8 segment) = utf8 text := by
  rw [percentDecode_eq]
  exact fromUTF8?_eq_some_iff _ text

theorem eq_nil_of_percentBytes {bytes : List UInt8} (h : percentBytes bytes = []) : bytes = [] := by
  unfold percentBytes at h
  split at h
  · split at h
    · cases h
    · cases h
  · cases h
  · rfl

/-- Only the empty segment is decoded to the empty text. -/
theorem eq_nil_of_percentDecode {segment : List Char} (h : percentDecode segment = some "") :
    segment = [] := by
  have hbytes := (percentDecode_eq_some_iff segment []).mp h
  have hnil : utf8 segment = [] := eq_nil_of_percentBytes hbytes
  cases segment with
  | nil => rfl
  | cons c rest =>
      rw [utf8_cons, List.append_eq_nil_iff] at hnil
      exact absurd hnil.1 String.utf8EncodeChar_ne_nil

/-- Where something is decoded, bytes are lost. -/
theorem length_percentBytes_lt {text : List Char} (h : hasPair text = true) :
    (percentBytes (utf8 text)).length < (utf8 text).length := by
  induction text with
  | nil => cases h
  | cons c text ih =>
      by_cases hc : c = '%'
      · subst hc
        cases hdigits : startsDigits text with
        | false =>
            have hrest : hasPair text = true := by
              simpa [hasPair, hdigits] using h
            have hlt := ih hrest
            have hneg : startsDigitBytes (utf8 text) = false := by
              rw [startsDigitBytes_utf8, hdigits]
            rw [utf8_percent, percentBytes_percent_of_neg hneg]
            simp only [List.length_cons]
            omega
        | true =>
            obtain ⟨high, low, rest, h, l, rfl, hhigh, hlow⟩ := exists_digits hdigits
            have hle := length_percentBytes_le (utf8 rest)
            have hhighSize := high.utf8Size_pos
            have hlowSize := low.utf8Size_pos
            rw [utf8_digits, percentBytes_digits hhigh hlow]
            simp only [utf8_cons, List.length_cons, List.length_append,
              String.length_utf8EncodeChar]
            omega
      · have hrest : hasPair text = true := by
          simpa [hasPair, hc] using h
        have hlt := ih hrest
        rw [utf8_cons, percentBytes_append_of_ne (utf8EncodeChar_ne_percent hc)]
        simp only [List.length_append]
        omega

/-- **A text comes back** if and only if there is nothing to decode in it. -/
theorem percentDecode_eq_self_iff (text : List Char) :
    percentDecode text = some (String.ofList text) ↔ hasPair text = false := by
  rw [percentDecode_eq_some_iff]
  constructor
  · intro heq
    rw [Bool.eq_false_iff]
    intro hpair
    have hlt := length_percentBytes_lt hpair
    rw [heq] at hlt
    omega
  · intro hpair
    induction text with
    | nil => rfl
    | cons c text ih =>
        have hrest : hasPair text = false := by
          simp only [hasPair, Bool.or_eq_false_iff] at hpair
          exact hpair.2
        by_cases hc : c = '%'
        · subst hc
          have hneg : startsDigitBytes (utf8 text) = false := by
            rw [startsDigitBytes_utf8]
            simpa [hasPair, hrest] using hpair
          rw [utf8_percent, percentBytes_percent_of_neg hneg, ih hrest]
        · rw [utf8_cons, percentBytes_append_of_ne (utf8EncodeChar_ne_percent hc), ih hrest]

end UrlPath

end Switchgear.Lib
