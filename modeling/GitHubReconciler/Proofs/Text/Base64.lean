-- SUMMARY: Exactness of base64: the strict decoder takes the texts that the encoder writes and no others (`Text.Base64.decode_eq_ok_iff`).
import GitHubReconciler.Text.Base64

/-!
# Exactness of base64

The decoder reads every text of the encoder back and refuses every other text. What is read
from a group determines the group: its symbols determine their values, the padding is what is
missing to four, and the unused bits of a last symbol are zero. So a text that is decoded is the
encoding of what was decoded. The other direction reads the groups of an encoding one by one.

Texts come in by their UTF-8 bytes: different texts have different bytes, and the bytes of an
encoding are its symbols.
-/

namespace GitHubReconciler.Text

/-! ## Bytes of texts -/

theorem toList_loop_eq (bytes : ByteArray) (i : Nat) (read : List UInt8) :
    ByteArray.toList.loop bytes i read = read.reverse ++ bytes.data.toList.drop i := by
  fun_induction ByteArray.toList.loop bytes i read with
  | case1 i read hlt ih =>
    have hlength : i < bytes.data.toList.length := by simpa using hlt
    have hbyte : bytes.get! i = bytes.data.toList[i] := by
      rw [Array.getElem_toList]
      exact getElem!_pos bytes.data i hlt
    rw [ih, List.drop_eq_getElem_cons hlength, hbyte]
    simp
  | case2 i read hlt =>
    rw [List.drop_eq_nil_of_le (by simpa using Nat.le_of_not_lt hlt)]
    simp

theorem toList_eq_data_toList (bytes : ByteArray) : bytes.toList = bytes.data.toList := by
  rw [ByteArray.toList, toList_loop_eq]
  simp

theorem toUTF8_toList (text : String) :
    text.toUTF8.toList = text.toList.flatMap String.utf8EncodeChar := by
  rw [toList_eq_data_toList, String.toUTF8_eq_toByteArray, ← String.ofList_toList (s := text),
    String.toByteArray_ofList, List.utf8Encode, List.toList_data_toByteArray, String.toList_ofList]

/-- Different texts have different bytes. -/
theorem toUTF8_toList_inj {text text' : String} :
    text.toUTF8.toList = text'.toUTF8.toList ↔ text = text' := by
  simp [toList_eq_data_toList, String.toUTF8_eq_toByteArray, Array.toList_inj, ← ByteArray.ext_iff,
    String.toByteArray_inj]

theorem toByteArray_toUTF8_toList (text : String) :
    text.toUTF8.toList.toByteArray = text.toByteArray := by
  rw [toList_eq_data_toList, String.toUTF8_eq_toByteArray, ByteArray.ext_iff, ← Array.toList_inj,
    List.toList_data_toByteArray]

/-- A text of ASCII characters has these as its bytes. -/
theorem flatMap_ascii {bytes : Bytes} (h : ∀ b ∈ bytes, b.toNat < 128) :
    bytes.flatMap (fun b => String.utf8EncodeChar (Char.ofNat b.toNat)) = bytes := by
  have hascii : ∀ n < 128, String.utf8EncodeChar (Char.ofNat n) = [UInt8.ofNat n] := by decide
  induction bytes with
  | nil => rfl
  | cons b rest ih =>
    obtain ⟨hb, hrest⟩ := List.forall_mem_cons.mp h
    rw [List.flatMap_cons, hascii b.toNat hb, UInt8.ofNat_toNat, ih hrest, List.singleton_append]

namespace Base64

variable {start k : Nat} {firstPadding : Option Nat} {group : Bytes} {values : List Nat}
  {paddings : Nat}

theorem bind_eq_ok_iff {ε α β : Type} {x : Except ε α} {f : α → Except ε β} {y : β} :
    (x >>= f) = .ok y ↔ ∃ a, x = .ok a ∧ f a = .ok y := by
  cases x with
  | error fault => simp [bind, Except.bind]
  | ok a => simp [bind, Except.bind]

/-! ## Alphabet -/

theorem value?_eq_some_iff {b : UInt8} {v : Nat} : value? b = some v ↔ v < 64 ∧ symbol v = b := by
  have hvalues : ∀ n < 256, ∀ v ∈ value? (UInt8.ofNat n), v < 64 ∧ symbol v = UInt8.ofNat n := by
    decide +kernel
  constructor
  · intro h
    rw [← UInt8.ofNat_toNat (x := b)] at h ⊢
    exact hvalues b.toNat b.toNat_lt v h
  · rintro ⟨hv, rfl⟩
    exact value?_symbol v hv

theorem symbol_ne_padding {v : Nat} (h : v < 64) : symbol v ≠ padding := by
  have hsymbols : ∀ v < 64, symbol v ≠ padding := by decide
  exact hsymbols v h

theorem valueAt_eq_ok_iff {b : UInt8} {offset v : Nat} :
    valueAt b offset = .ok v ↔ v < 64 ∧ symbol v = b := by
  rw [← value?_eq_some_iff, valueAt]
  cases value? b <;> simp

/-! ## The last group -/

/-- What is read from the last group is what stands in it: symbols, and padding behind them. -/
theorem eq_of_scanLast
    (h : scanLast start k firstPadding group = .ok (values, paddings)) :
    (∀ v ∈ values, v < 64) ∧ group = values.map symbol ++ List.replicate paddings padding ∧
      (firstPadding ≠ none → values = []) := by
  induction group generalizing k firstPadding values paddings with
  | nil =>
    cases h
    simp
  | cons b rest ih =>
    unfold scanLast at h
    split at h
    next hpadding =>
      split at h
      next => cases h
      next =>
        obtain ⟨⟨values, paddings⟩, hrest, heq⟩ := bind_eq_ok_iff.mp h
        cases heq
        obtain ⟨-, rfl, hnone⟩ := ih hrest
        obtain rfl := hnone (by cases firstPadding <;> simp)
        simp [hpadding, List.replicate_succ]
    next hsymbol =>
      cases firstPadding with
      | some p => cases h
      | none =>
        obtain ⟨v, hv, h⟩ := bind_eq_ok_iff.mp h
        obtain ⟨⟨values, paddings⟩, hrest, heq⟩ := bind_eq_ok_iff.mp h
        cases heq
        obtain ⟨hbound, rfl, -⟩ := ih hrest
        obtain ⟨hlt, rfl⟩ := valueAt_eq_ok_iff.mp hv
        exact ⟨List.forall_mem_cons.mpr ⟨hlt, hbound⟩, rfl, fun hnone => absurd rfl hnone⟩

theorem scanLast_replicate (hk : 2 ≤ k) :
    scanLast start k firstPadding (List.replicate paddings padding) = .ok ([], paddings) := by
  induction paddings generalizing k firstPadding with
  | zero => rfl
  | succ n ih =>
    rw [List.replicate_succ]
    unfold scanLast
    rw [if_pos rfl, if_neg (by omega), ih (by omega)]
    rfl

/-- Symbols with padding behind them are read, if the padding begins no earlier than at the third
    byte. -/
theorem scanLast_append (values : List Nat) (paddings : Nat) (hvalues : ∀ v ∈ values, v < 64)
    (hk : 2 ≤ k + values.length) :
    scanLast start k none (values.map symbol ++ List.replicate paddings padding) =
      .ok (values, paddings) := by
  induction values generalizing k with
  | nil => exact scanLast_replicate hk
  | cons v rest ih =>
    obtain ⟨hv, hrest⟩ := List.forall_mem_cons.mp hvalues
    rw [List.map_cons, List.cons_append]
    unfold scanLast
    rw [if_neg (symbol_ne_padding hv), valueAt_eq_ok_iff.mpr ⟨hv, rfl⟩]
    have hscan := ih hrest (k := k + 1) (by simp at hk; omega)
    simp [hscan, bind, Except.bind, pure, Except.pure]

/-! ## Groups -/

section

variable {a b c d : Nat}

theorem toNat_high (ha : a < 64) (hb : b < 64) :
    (UInt8.ofNat (a * 4 + b / 16)).toNat = a * 4 + b / 16 :=
  UInt8.toNat_ofNat_of_lt' (show _ < 256 by omega)

theorem toNat_middle (hc : c < 64) :
    (UInt8.ofNat (b % 16 * 16 + c / 4)).toNat = b % 16 * 16 + c / 4 :=
  UInt8.toNat_ofNat_of_lt' (show _ < 256 by omega)

theorem toNat_low (hd : d < 64) : (UInt8.ofNat (c % 4 * 64 + d)).toNat = c % 4 * 64 + d :=
  UInt8.toNat_ofNat_of_lt' (show _ < 256 by omega)

theorem encodeBytes_one (ha : a < 64) (hb : b < 64) (hunused : b % 16 = 0) :
    encodeBytes [UInt8.ofNat (a * 4 + b / 16)] = [symbol a, symbol b, padding, padding] := by
  have hfirst : (a * 4 + b / 16) / 4 = a := by omega
  have hsecond : (a * 4 + b / 16) % 4 * 16 = b := by omega
  simp only [encodeBytes, toNat_high ha hb, hfirst, hsecond]

theorem encodeBytes_two (ha : a < 64) (hb : b < 64) (hc : c < 64) (hunused : c % 4 = 0) :
    encodeBytes [UInt8.ofNat (a * 4 + b / 16), UInt8.ofNat (b % 16 * 16 + c / 4)] =
      [symbol a, symbol b, symbol c, padding] := by
  have hfirst : (256 * (a * 4 + b / 16) + (b % 16 * 16 + c / 4)) / 1024 = a := by omega
  have hsecond : (256 * (a * 4 + b / 16) + (b % 16 * 16 + c / 4)) / 16 % 64 = b := by omega
  have hthird : (256 * (a * 4 + b / 16) + (b % 16 * 16 + c / 4)) % 16 * 4 = c := by omega
  simp only [encodeBytes, toNat_high ha hb, toNat_middle hc, hfirst, hsecond, hthird]

theorem encodeBytes_three (ha : a < 64) (hb : b < 64) (hc : c < 64) (hd : d < 64) (rest : Bytes) :
    encodeBytes (UInt8.ofNat (a * 4 + b / 16) :: UInt8.ofNat (b % 16 * 16 + c / 4) ::
        UInt8.ofNat (c % 4 * 64 + d) :: rest) =
      symbol a :: symbol b :: symbol c :: symbol d :: encodeBytes rest := by
  have hnumber : 65536 * (a * 4 + b / 16) + 256 * (b % 16 * 16 + c / 4) + (c % 4 * 64 + d) =
      262144 * a + 4096 * b + 64 * c + d := by omega
  have hfirst : (262144 * a + 4096 * b + 64 * c + d) / 262144 = a := by omega
  have hsecond : (262144 * a + 4096 * b + 64 * c + d) / 4096 % 64 = b := by omega
  have hthird : (262144 * a + 4096 * b + 64 * c + d) / 64 % 64 = c := by omega
  have hfourth : (262144 * a + 4096 * b + 64 * c + d) % 64 = d := by omega
  simp only [encodeBytes, toNat_high ha hb, toNat_middle hc, toNat_low hd, hnumber, hfirst, hsecond,
    hthird, hfourth]

theorem decodeLast_one (start : Nat) (ha : a < 64) (hb : b < 64) (hunused : b % 16 = 0) :
    decodeLast start [symbol a, symbol b, padding, padding] =
      .ok [UInt8.ofNat (a * 4 + b / 16)] := by
  have hscan : scanLast start 0 none [symbol a, symbol b, padding, padding] = .ok ([a, b], 2) :=
    scanLast_append [a, b] 2 (by simp [ha, hb]) (by simp)
  simp [decodeLast, hscan, hunused, bind, Except.bind, pure, Except.pure]

theorem decodeLast_two (start : Nat) (ha : a < 64) (hb : b < 64) (hc : c < 64)
    (hunused : c % 4 = 0) :
    decodeLast start [symbol a, symbol b, symbol c, padding] =
      .ok [UInt8.ofNat (a * 4 + b / 16), UInt8.ofNat (b % 16 * 16 + c / 4)] := by
  have hscan : scanLast start 0 none [symbol a, symbol b, symbol c, padding] = .ok ([a, b, c], 1) :=
    scanLast_append [a, b, c] 1 (by simp [ha, hb, hc]) (by simp)
  simp [decodeLast, hscan, hunused, bind, Except.bind, pure, Except.pure]

/-- Four symbols are read as three bytes, in the last group as in every other. -/
theorem decodeGroups_three {text bytes : Bytes} (ha : a < 64) (hb : b < 64) (hc : c < 64)
    (hd : d < 64) (htext : decodeGroups (start + 4) text = .ok bytes) :
    decodeGroups start (symbol a :: symbol b :: symbol c :: symbol d :: text) =
      .ok (UInt8.ofNat (a * 4 + b / 16) :: UInt8.ofNat (b % 16 * 16 + c / 4) ::
        UInt8.ofNat (c % 4 * 64 + d) :: bytes) := by
  cases text with
  | nil =>
    cases htext
    have hscan : scanLast start 0 none [symbol a, symbol b, symbol c, symbol d] =
        .ok ([a, b, c, d], 0) :=
      scanLast_append [a, b, c, d] 0 (by simp [ha, hb, hc, hd]) (by simp)
    simp [decodeGroups, decodeLast, hscan, bind, Except.bind, pure, Except.pure]
  | cons e rest =>
    have hvalue : ∀ {v offset : Nat}, v < 64 → valueAt (symbol v) offset = .ok v :=
      fun hv => valueAt_eq_ok_iff.mpr ⟨hv, rfl⟩
    simp [decodeGroups, hvalue ha, hvalue hb, hvalue hc, hvalue hd, htext, bind, Except.bind, pure,
      Except.pure]

end

theorem eq_of_decodeLast {bytes : Bytes} (hlength : group.length ≤ 4)
    (h : decodeLast start group = .ok bytes) : group = encodeBytes bytes := by
  obtain ⟨⟨values, paddings⟩, hscan, hread⟩ := bind_eq_ok_iff.mp h
  obtain ⟨hvalues, rfl, -⟩ := eq_of_scanLast hscan
  simp only [List.length_append, List.length_map, List.length_replicate] at hlength
  dsimp only at hread
  split at hread
  next => cases hread
  next hfew =>
    split at hread
    next => cases hread
    next hgroup =>
      -- With at least two symbols, whole groups of four are a single one.
      have hpaddings : values.length + paddings = 4 := by omega
      split at hread
      next a b =>
        split at hread
        next => cases hread
        next hunused =>
          cases hread
          obtain rfl : paddings = 2 := by simp at hpaddings; omega
          simp only [List.forall_mem_cons] at hvalues
          exact (encodeBytes_one hvalues.1 hvalues.2.1 (by omega)).symm
      next a b c =>
        split at hread
        next => cases hread
        next hunused =>
          cases hread
          obtain rfl : paddings = 1 := by simp at hpaddings; omega
          simp only [List.forall_mem_cons] at hvalues
          exact (encodeBytes_two hvalues.1 hvalues.2.1 hvalues.2.2.1 (by omega)).symm
      next a b c d =>
        cases hread
        obtain rfl : paddings = 0 := by simp at hpaddings; omega
        simp only [List.forall_mem_cons] at hvalues
        exact (encodeBytes_three hvalues.1 hvalues.2.1 hvalues.2.2.1 hvalues.2.2.2.1 []).symm
      next => cases hread

theorem eq_of_decodeGroups {text bytes : Bytes} (h : decodeGroups start text = .ok bytes) :
    text = encodeBytes bytes := by
  fun_induction decodeGroups start text generalizing bytes with
  | case1 =>
    cases h
    rfl
  | case2 start a b c d e rest ih =>
    obtain ⟨a, hsymbol_a, h⟩ := bind_eq_ok_iff.mp h
    obtain ⟨b, hsymbol_b, h⟩ := bind_eq_ok_iff.mp h
    obtain ⟨c, hsymbol_c, h⟩ := bind_eq_ok_iff.mp h
    obtain ⟨d, hsymbol_d, h⟩ := bind_eq_ok_iff.mp h
    obtain ⟨rest, hrest, h⟩ := bind_eq_ok_iff.mp h
    cases h
    obtain ⟨ha, rfl⟩ := valueAt_eq_ok_iff.mp hsymbol_a
    obtain ⟨hb, rfl⟩ := valueAt_eq_ok_iff.mp hsymbol_b
    obtain ⟨hc, rfl⟩ := valueAt_eq_ok_iff.mp hsymbol_c
    obtain ⟨hd, rfl⟩ := valueAt_eq_ok_iff.mp hsymbol_d
    rw [encodeBytes_three ha hb hc hd, ih hrest]
  | case3 start group hnil hlong =>
    refine eq_of_decodeLast ?_ h
    match group with
    | [] | [_] | [_, _] | [_, _, _] | [_, _, _, _] => simp
    | a :: b :: c :: d :: e :: rest => exact (hlong a b c d e rest rfl).elim

theorem decodeGroups_encodeBytes (bytes : Bytes) (start : Nat) :
    decodeGroups start (encodeBytes bytes) = .ok bytes := by
  revert start
  fun_induction encodeBytes bytes with
  | case1 => exact fun _ => rfl
  | case2 a n =>
    intro start
    have ha : n < 256 := a.toNat_lt
    have hbyte : n / 4 * 4 + n % 4 * 16 / 16 = a.toNat := by omega
    have hlast := decodeLast_one start (a := n / 4) (b := n % 4 * 16) (by omega)
      (by omega) (by omega)
    rwa [hbyte, UInt8.ofNat_toNat] at hlast
  | case3 a b n =>
    intro start
    have ha : a.toNat < 256 := a.toNat_lt
    have hb : b.toNat < 256 := b.toNat_lt
    have hhigh : n / 1024 * 4 + n / 16 % 64 / 16 = a.toNat := by omega
    have hlow : n / 16 % 64 % 16 * 16 + n % 16 * 4 / 4 = b.toNat := by omega
    have hlast := decodeLast_two start (a := n / 1024) (b := n / 16 % 64)
      (c := n % 16 * 4) (by omega) (by omega) (by omega) (by omega)
    rwa [hhigh, hlow, UInt8.ofNat_toNat, UInt8.ofNat_toNat] at hlast
  | case4 a b c rest n ih =>
    intro start
    have ha : a.toNat < 256 := a.toNat_lt
    have hb : b.toNat < 256 := b.toNat_lt
    have hc : c.toNat < 256 := c.toNat_lt
    have hhigh : n / 262144 * 4 + n / 4096 % 64 / 16 = a.toNat := by omega
    have hmiddle : n / 4096 % 64 % 16 * 16 + n / 64 % 64 / 4 = b.toNat := by omega
    have hlow : n / 64 % 64 % 4 * 64 + n % 64 = c.toNat := by omega
    have hgroups := decodeGroups_three (a := n / 262144) (b := n / 4096 % 64)
      (c := n / 64 % 64) (d := n % 64) (by omega) (by omega) (by omega) (by omega) (ih (start + 4))
    rwa [hhigh, hmiddle, hlow, UInt8.ofNat_toNat, UInt8.ofNat_toNat, UInt8.ofNat_toNat] at hgroups

/-- Of all bytes, the decoder takes those that the encoder writes. -/
theorem decodeBytes_eq_ok_iff {text bytes : Bytes} :
    decodeBytes text = .ok bytes ↔ text = encodeBytes bytes := by
  constructor
  · intro h
    unfold decodeBytes at h
    split at h
    next => cases h
    next => exact eq_of_decodeGroups h
  · rintro rfl
    have hstray : strayLast? (encodeBytes bytes) = none := by
      rw [strayLast?, length_encodeBytes, if_neg (by omega)]
    rw [decodeBytes, hstray]
    exact decodeGroups_encodeBytes bytes 0

/-! ## Texts -/

/-- Symbols and padding are printable ASCII. -/
def IsPrintable (b : UInt8) : Prop := 32 < b.toNat ∧ b.toNat < 128

theorem isPrintable_padding : IsPrintable padding := by
  simp [IsPrintable, padding]

theorem isPrintable_symbol (v : Nat) : IsPrintable (symbol v) := by
  unfold IsPrintable symbol
  split
  next => simp; omega
  next =>
    split
    next => simp; omega
    next =>
      split
      next => simp; omega
      next => split <;> simp

theorem isPrintable_of_mem_encodeBytes {bytes : Bytes} :
    ∀ b ∈ encodeBytes bytes, IsPrintable b := by
  fun_induction encodeBytes bytes with
  | case1 => simp
  | case2 => simp [isPrintable_symbol, isPrintable_padding]
  | case3 => simp [isPrintable_symbol, isPrintable_padding]
  | case4 a b c rest n ih => simpa [isPrintable_symbol] using ih

theorem toUTF8_encode (bytes : Bytes) : (encode bytes).toUTF8.toList = encodeBytes bytes := by
  rw [toUTF8_toList, encode, String.toList_ofList, List.flatMap_map]
  exact flatMap_ascii fun b hb => (isPrintable_of_mem_encodeBytes b hb).2

/-- The decoder undoes the encoder, and it refuses every other text. -/
theorem decode_eq_ok_iff {text : String} {bytes : Bytes} :
    decode text = .ok bytes ↔ text = encode bytes := by
  rw [decode, decodeBytes_eq_ok_iff, ← toUTF8_encode, toUTF8_toList_inj]

@[simp] theorem decode_encode (bytes : Bytes) : decode (encode bytes) = .ok bytes :=
  decode_eq_ok_iff.mpr rfl

/-- Different bytes have different encodings. -/
theorem encode_inj {bytes bytes' : Bytes} : encode bytes = encode bytes' ↔ bytes = bytes' := by
  constructor
  · intro h
    have hdecode := decode_encode bytes
    rw [h, decode_encode] at hdecode
    exact (Except.ok.inj hdecode).symm
  · exact congrArg encode

end Base64

end GitHubReconciler.Text
