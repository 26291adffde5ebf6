/-
  Switchgear.Lib.Hex — bytes as hexadecimal digits, and numbers as bytes, most
  significant first.

  The encoder writes lower case; the decoder takes either case and nothing but an
  even number of digits.

    * `decode_encode` — bytes come back from their digits,
    * `fromBeBytes_toBeBytes` — a 64-bit number comes back from its eight bytes,
    * `isHexDigit_encode` — what the digits of an encoding are.
-/
import Mathlib

namespace Switchgear.Lib

namespace Hex

/-! ## §1. Digits. -/

/-- The value of a digit, of either case. -/
def digitValue (c : Char) : Option ℕ :=
  if '0' ≤ c ∧ c ≤ '9' then some (c.toNat - '0'.toNat)
  else if 'a' ≤ c ∧ c ≤ 'f' then some (c.toNat - 'a'.toNat + 10)
  else if 'A' ≤ c ∧ c ≤ 'F' then some (c.toNat - 'A'.toNat + 10)
  else none

/-- A digit as the encoder writes them. -/
def isHexDigit (c : Char) : Bool := ('0' ≤ c ∧ c ≤ '9') ∨ ('a' ≤ c ∧ c ≤ 'f')

theorem digitValue_digitChar {n : ℕ} (h : n < 16) : digitValue (Nat.digitChar n) = some n := by
  have hall : ∀ d : Fin 16, digitValue (Nat.digitChar d) = some d.val := by decide
  exact hall ⟨n, h⟩

/-- What holds of the ASCII characters one by one. -/
theorem of_ascii {P : Char → Prop} (h : ∀ n : Fin 128, P (Char.ofNat n)) {c : Char}
    (hc : c.toNat < 128) : P c := by
  have hchar := h ⟨c.toNat, hc⟩
  rwa [Char.ofNat_toNat] at hchar

theorem isHexDigit_lt {c : Char} (h : isHexDigit c = true) : c.toNat < 128 := by
  unfold isHexDigit at h
  rw [decide_eq_true_iff] at h
  have hnine : '9'.val.toNat = 57 := rfl
  have hf : 'f'.val.toNat = 102 := rfl
  show c.val.toNat < 128
  rcases h with ⟨-, h⟩ | ⟨-, h⟩
  · have hle : c.val.toNat ≤ '9'.val.toNat := h
    omega
  · have hle : c.val.toNat ≤ 'f'.val.toNat := h
    omega

theorem isHexDigit_digitChar {n : ℕ} (h : n < 16) : isHexDigit (Nat.digitChar n) = true := by
  have hall : ∀ d : Fin 16, isHexDigit (Nat.digitChar d) = true := by decide
  exact hall ⟨n, h⟩

/-! ## §2. Bytes. -/

def encodeByte (b : UInt8) : List Char :=
  [Nat.digitChar (b.toNat / 16), Nat.digitChar (b.toNat % 16)]

def encode (bytes : List UInt8) : List Char := bytes.flatMap encodeByte

def decode : List Char → Option (List UInt8)
  | [] => some []
  | [_] => none
  | high :: low :: rest => do
      let high ← digitValue high
      let low ← digitValue low
      let bytes ← decode rest
      return UInt8.ofNat (high * 16 + low) :: bytes

theorem decode_encode (bytes : List UInt8) : decode (encode bytes) = some bytes := by
  induction bytes with
  | nil => rfl
  | cons b bytes ih =>
      have hb : b.toNat < 256 := b.toNat_lt
      have hhigh : b.toNat / 16 < 16 := by omega
      have hlow : b.toNat % 16 < 16 := by omega
      have hsum : b.toNat / 16 * 16 + b.toNat % 16 = b.toNat := by omega
      show decode (Nat.digitChar (b.toNat / 16) :: Nat.digitChar (b.toNat % 16)
        :: encode bytes) = _
      unfold decode
      rw [digitValue_digitChar hhigh, digitValue_digitChar hlow, ih]
      show some (UInt8.ofNat (b.toNat / 16 * 16 + b.toNat % 16) :: bytes) = _
      rw [hsum, UInt8.ofNat_toNat]

theorem isHexDigit_encode (bytes : List UInt8) : ∀ c ∈ encode bytes, isHexDigit c = true := by
  intro c hc
  obtain ⟨b, -, hb⟩ := List.mem_flatMap.mp hc
  have hlt : b.toNat < 256 := b.toNat_lt
  rcases List.mem_pair.mp hb with rfl | rfl
  · exact isHexDigit_digitChar (by omega)
  · exact isHexDigit_digitChar (by omega)

/-! ## §3. Numbers. -/

/-- `u64::to_be_bytes`. -/
def toBeBytes (n : UInt64) : List UInt8 :=
  (List.range 8).map fun i => UInt8.ofNat (n.toNat / 256 ^ (7 - i))

/-- `u64::from_be_bytes`, for eight bytes. -/
def fromBeBytes (bytes : List UInt8) : Option UInt64 :=
  if bytes.length = 8 then
    some (UInt64.ofNat (bytes.foldl (fun n b => n * 256 + b.toNat) 0))
  else none

theorem fromBeBytes_toBeBytes (n : UInt64) : fromBeBytes (toBeBytes n) = some n := by
  have hn : n.toNat < 2 ^ 64 := n.toNat_lt
  have hlength : (toBeBytes n).length = 8 := by
    unfold toBeBytes
    rw [List.length_map, List.length_range]
  have hsum : (toBeBytes n).foldl (fun n b => n * 256 + b.toNat) 0 = n.toNat := by
    unfold toBeBytes
    simp [List.range_succ]
    omega
  unfold fromBeBytes
  rw [if_pos hlength, hsum, UInt64.ofNat_toNat]

end Hex

end Switchgear.Lib
