-- SUMMARY: The canonical base64 encoding told by the number that bytes and symbols stand for (`Text.Base64.Encodes`), and that the encoder writes it.
import GitHubReconciler.Proofs.Text.Base64
import Mathlib.Data.Nat.Digits.Defs

/-!
# Canonical encodings

Bytes and the symbols of their encoding are digits of one number, in base 256 and in base 64. Where
the last group is short, zero bits are put behind that number, two for each byte that is missing to
three, so that the bits make whole symbols, and an equals sign stands for each missing byte.
`Encodes` says this without the encoder. Digits are determined by their number and how many there
are, so bytes have one canonical encoding, which the encoder writes.
-/

namespace GitHubReconciler.Text.Base64

variable {bytes : Bytes} {text : List Char} {values values' : List Nat} {base : Nat}

/-! ## Bytes in groups of six bits -/

/-- The number that digits stand for, the most significant one first. -/
def number (base : Nat) (digits : List Nat) : Nat :=
  Nat.ofDigits base digits.reverse

/-- How many bytes are missing to whole groups of three. -/
def missing (bytes : Bytes) : Nat :=
  (3 - bytes.length % 3) % 3

/-- `values` are the bits of `bytes`, six in each value, with two zero bits put behind for each
    byte that is missing. -/
structure Sextets (bytes : Bytes) (values : List Nat) : Prop where
  lt : ∀ v ∈ values, v < 64
  length_eq : 6 * values.length = 8 * bytes.length + 2 * missing bytes
  number_eq : number 64 values = number 256 (bytes.map UInt8.toNat) * 2 ^ (2 * missing bytes)

theorem Sextets.unique (h : Sextets bytes values) (h' : Sextets bytes values') :
    values = values' := by
  have hlength : values.length = values'.length := by
    have hbits := h.length_eq
    have hbits' := h'.length_eq
    omega
  refine List.reverse_inj.mp (Nat.ofDigits_inj_of_len_eq (b := 64) (by decide) ?_ ?_ ?_ ?_)
  · simpa using hlength
  · simpa using h.lt
  · simpa using h'.lt
  · exact h.number_eq.trans h'.number_eq.symm

theorem number_append {xs ys : List Nat} :
    number base (xs ++ ys) = number base xs * base ^ ys.length + number base ys := by
  rw [number, List.reverse_append, Nat.ofDigits_append, List.length_reverse, Nat.add_comm,
    Nat.mul_comm]
  rfl

@[simp] theorem missing_cons {a b c : UInt8} : missing (a :: b :: c :: bytes) = missing bytes := by
  simp only [missing, List.length_cons]
  omega

/-- A whole group in front adds four values in front. -/
theorem Sextets.cons {a b c : UInt8} {v w x y : Nat} (h : Sextets bytes values)
    (hlt : ∀ z ∈ [v, w, x, y], z < 64)
    (hnumber : number 64 [v, w, x, y] = number 256 [a.toNat, b.toNat, c.toNat]) :
    Sextets (a :: b :: c :: bytes) (v :: w :: x :: y :: values) where
  lt := List.forall_mem_append.mpr ⟨hlt, h.lt⟩
  length_eq := by
    have hbits := h.length_eq
    simp
    omega
  number_eq := by
    have hpow : 64 ^ values.length = 256 ^ bytes.length * 2 ^ (2 * missing bytes) := by
      calc 64 ^ values.length = 2 ^ (6 * values.length) := by rw [Nat.pow_mul]
        _ = 2 ^ (8 * bytes.length + 2 * missing bytes) := by rw [h.length_eq]
        _ = 256 ^ bytes.length * 2 ^ (2 * missing bytes) := by rw [Nat.pow_add, Nat.pow_mul 2 8]
    calc number 64 ([v, w, x, y] ++ values)
        = number 256 [a.toNat, b.toNat, c.toNat] * 64 ^ values.length + number 64 values := by
          rw [number_append, hnumber]
      _ = (number 256 [a.toNat, b.toNat, c.toNat] * 256 ^ bytes.length +
            number 256 (bytes.map UInt8.toNat)) * 2 ^ (2 * missing bytes) := by
          rw [hpow, h.number_eq, Nat.add_mul, Nat.mul_assoc]
      _ = number 256 ([a.toNat, b.toNat, c.toNat] ++ bytes.map UInt8.toNat) *
            2 ^ (2 * missing bytes) := by
          rw [number_append, List.length_map]
      _ = _ := by rw [missing_cons]; rfl

/-- The encoder writes the symbols of the values and an equals sign for each missing byte. -/
theorem exists_sextets (bytes : Bytes) :
    ∃ values, Sextets bytes values ∧
      encodeBytes bytes = values.map symbol ++ List.replicate (missing bytes) padding := by
  fun_induction encodeBytes bytes with
  | case1 => exact ⟨[], ⟨by simp, rfl, rfl⟩, rfl⟩
  | case2 a n =>
    have hn : n < 256 := a.toNat_lt
    refine ⟨[n / 4, n % 4 * 16], ⟨?_, rfl, ?_⟩, rfl⟩
    · simp
      omega
    · simp [number, missing, Nat.ofDigits_cons]
      omega
  | case3 a b n =>
    have ha : a.toNat < 256 := a.toNat_lt
    have hb : b.toNat < 256 := b.toNat_lt
    refine ⟨[n / 1024, n / 16 % 64, n % 16 * 4], ⟨?_, rfl, ?_⟩, rfl⟩
    · simp
      omega
    · simp [number, missing, Nat.ofDigits_cons]
      omega
  | case4 a b c rest n ih =>
    have ha : a.toNat < 256 := a.toNat_lt
    have hb : b.toNat < 256 := b.toNat_lt
    have hc : c.toNat < 256 := c.toNat_lt
    obtain ⟨values, hsextets, hrest⟩ := ih
    refine ⟨n / 262144 :: n / 4096 % 64 :: n / 64 % 64 :: n % 64 :: values, hsextets.cons ?_ ?_, ?_⟩
    · simp
      omega
    · simp [number, Nat.ofDigits_cons]
      omega
    · rw [hrest, missing_cons]
      rfl

/-! ## Texts -/

/-- The symbols of the standard alphabet in the order of their values. -/
def alphabet : List Char :=
  "ABCDEFGHIJKLMNOPQRSTUVWXYZabcdefghijklmnopqrstuvwxyz0123456789+/".toList

/-- `text` is the canonical encoding of `bytes`. -/
def Encodes (bytes : Bytes) (text : List Char) : Prop :=
  ∃ values, Sextets bytes values ∧
    text = values.map (alphabet[·]!) ++ List.replicate (missing bytes) '='

/-- Bytes have one canonical encoding, which the encoder writes. -/
theorem encodes_iff : Encodes bytes text ↔ text = (encode bytes).toList := by
  have hsymbols : ∀ v < 64, Char.ofNat (symbol v).toNat = alphabet[v]! := by decide +kernel
  obtain ⟨values, hsextets, hencode⟩ := exists_sextets bytes
  have hencoded : (encode bytes).toList =
      values.map (alphabet[·]!) ++ List.replicate (missing bytes) '=' := by
    rw [encode, String.toList_ofList, hencode, List.map_append, List.map_map, List.map_replicate]
    congr 1
    exact List.map_congr_left fun v hv => hsymbols v (hsextets.lt v hv)
  rw [hencoded]
  constructor
  · rintro ⟨values', hsextets', rfl⟩
    rw [hsextets.unique hsextets']
  · exact fun h => ⟨values, hsextets, h⟩

theorem encodes_toList_iff {text : String} : Encodes bytes text.toList ↔ text = encode bytes := by
  rw [encodes_iff, String.toList_inj]

end GitHubReconciler.Text.Base64
