-- SUMMARY: Exactness of the comparison of bodies (`Content.body_exact`): a file decodes to the text whose encoding it carries, however that is wrapped, and to no other.
import GitHubReconciler.Content.Body
import GitHubReconciler.Proofs.Text.Canonical

/-!
# Comparing bodies

A file carries a text if its content is the canonical base64 encoding of the UTF-8 bytes of the
text with white space put in anywhere. `Wrapped` says that from the side of the one who puts it in,
and `Carries` from the side of the one who takes it out again; they agree because no symbol of an
encoding is white space. Decoding finds the text that a file carries, and the comparison with a
desired file comes down to what the file carries.
-/

namespace GitHubReconciler.Content

variable {f f' : Remote.File} {d : Desired} {s s' : String} {bytes : Bytes}

/-! ## Wrapping -/

/-- The white space that wrapping puts in. -/
def blanks : List Char := [' ', '\t', '\n', '\x0c', '\r']

theorem isWrapping_iff {c : Char} : Text.isWrapping c = true ↔ c ∈ blanks := by
  simp [Text.isWrapping, blanks, or_assoc]

/-- The second text is the first one with white space put in. -/
inductive Wrapped : List Char → List Char → Prop where
  | nil : Wrapped [] []
  | keep {line text : List Char} (c : Char) : Wrapped line text → Wrapped (c :: line) (c :: text)
  | blank {line text : List Char} {c : Char} :
      c ∈ blanks → Wrapped line text → Wrapped line (c :: text)

theorem Wrapped.filter_eq {line text : List Char} (h : Wrapped line text)
    (hline : ∀ c ∈ line, c ∉ blanks) : text.filter (· ∉ blanks) = line := by
  induction h with
  | nil => rfl
  | keep c _ ih =>
    obtain ⟨hc, hrest⟩ := List.forall_mem_cons.mp hline
    rw [List.filter_cons_of_pos (by simpa using hc), ih hrest]
  | blank hc _ ih => rw [List.filter_cons_of_neg (by simpa using hc), ih hline]

theorem wrapped_filter (text : List Char) : Wrapped (text.filter (· ∉ blanks)) text := by
  induction text with
  | nil => exact .nil
  | cons c rest ih =>
    by_cases hc : c ∈ blanks
    · rw [List.filter_cons_of_neg (by simpa using hc)]
      exact .blank hc ih
    · rw [List.filter_cons_of_pos (by simpa using hc)]
      exact .keep c ih

theorem not_mem_blanks_of_mem_encode {c : Char} (hc : c ∈ (Text.Base64.encode bytes).toList) :
    c ∉ blanks := by
  have hprintable : ∀ n < 128, 32 < n → Char.ofNat n ∉ blanks := by decide
  rw [Text.Base64.encode, String.toList_ofList, List.mem_map] at hc
  obtain ⟨b, hb, rfl⟩ := hc
  obtain ⟨hlow, hhigh⟩ := Text.Base64.isPrintable_of_mem_encodeBytes b hb
  exact hprintable b.toNat hhigh hlow

theorem wrapped_encode_iff {text : List Char} :
    Wrapped (Text.Base64.encode bytes).toList text ↔
      text.filter (· ∉ blanks) = (Text.Base64.encode bytes).toList := by
  constructor
  · exact fun h => h.filter_eq fun _ => not_mem_blanks_of_mem_encode
  · exact fun h => h ▸ wrapped_filter text

/-! ## What a file carries -/

/-- A file carries a text if its content, once every space, tab, line feed, form feed and carriage
    return is taken out, is the canonical encoding of the UTF-8 bytes of the text. -/
def Carries (f : Remote.File) (s : String) : Prop :=
  ∃ content, f.content = some content ∧
    Text.Base64.Encodes s.toUTF8.toList (content.toList.filter (· ∉ blanks))

theorem unwrap_toList (text : String) :
    (unwrap text).toList = text.toList.filter (· ∉ blanks) := by
  rw [unwrap, String.toList_ofList]
  refine List.filter_congr fun c _ => ?_
  simp [← isWrapping_iff]

theorem carries_iff_unwrap :
    Carries f s ↔ ∃ content, f.content = some content ∧
      unwrap content = Text.Base64.encode s.toUTF8.toList := by
  simp only [Carries, Text.Base64.encodes_iff, ← String.toList_inj, unwrap_toList]

theorem carries_iff_wrapped :
    Carries f s ↔ ∃ content, f.content = some content ∧
      Wrapped (Text.Base64.encode s.toUTF8.toList).toList content.toList := by
  simp only [Carries, Text.Base64.encodes_iff, wrapped_encode_iff]

/-- Files of the same content carry the same text. -/
theorem Carries.unique (h : Carries f s) (h' : Carries f' s') (hcontent : f.content = f'.content) :
    s = s' := by
  obtain ⟨content, hsome, hencode⟩ := carries_iff_unwrap.mp h
  obtain ⟨content', hsome', hencode'⟩ := carries_iff_unwrap.mp h'
  obtain rfl : content = content' := by simpa [hsome, hsome'] using hcontent
  rw [hencode, Text.Base64.encode_inj, Text.toUTF8_toList_inj] at hencode'
  exact hencode'

/-! ## Decoding -/

theorem isInlined_iff :
    isInlined f = true ↔ f.encoding = none ∨ f.encoding = some "base64" := by
  unfold isInlined
  cases f.encoding <;> simp

theorem isInlined_eq_false_iff :
    isInlined f = false ↔ ∃ encoding, f.encoding = some encoding ∧ encoding ≠ "base64" := by
  unfold isInlined
  cases f.encoding <;> simp

theorem text?_eq_some_iff : text? bytes = some s ↔ bytes = s.toUTF8.toList := by
  unfold text? String.fromUTF8?
  constructor
  · intro h
    split at h
    next hvalid =>
      cases h
      rw [Text.toList_eq_data_toList]
      exact List.toList_data_toByteArray.symm
    next => cases h
  · rintro rfl
    rw [Text.toByteArray_toUTF8_toList, dif_pos s.isValidUTF8]
    rfl

/-- A file decodes to the text that it carries, if its encoding is one that can be decoded. -/
theorem body?_eq_some_iff : body? f = some s ↔ isInlined f = true ∧ Carries f s := by
  rw [carries_iff_unwrap]
  unfold body?
  cases hinlined : isInlined f with
  | false => simp
  | true =>
    cases hcontent : f.content with
    | none => simp
    | some content =>
      cases hdecode : Text.Base64.decode (unwrap content) with
      | ok bytes =>
        have hunwrap := Text.Base64.decode_eq_ok_iff.mp hdecode
        simp [hunwrap, text?_eq_some_iff, Text.Base64.encode_inj]
      | error fault =>
        have hunwrap : unwrap content ≠ Text.Base64.encode s.toUTF8.toList := by
          intro heq
          rw [Text.Base64.decode_eq_ok_iff.mpr heq] at hdecode
          cases hdecode
        simpa [hdecode] using hunwrap

/-- Only a file of another encoding is taken for a desired file that it does not carry. -/
theorem isMetBy_iff : d.isMetBy f = true ↔ isInlined f = false ∨ Carries f d.content := by
  rw [Desired.isMetBy, Bool.or_eq_true, beq_iff_eq, body?_eq_some_iff]
  cases isInlined f <;> simp

/-! ## Exactness -/

/-- The comparison of bodies is exact. A file decodes to a text if it comes in base64, named or
    not, and its content without white space is the canonical encoding of the text; so white space
    may stand anywhere in the encoding, and no content decodes to two texts. A file is taken for
    the desired one if it comes in another encoding or if its content without white space is the
    canonical encoding of the desired body. -/
theorem body_exact :
    (∀ f s, body? f = some s ↔
      (f.encoding = none ∨ f.encoding = some "base64") ∧ Carries f s) ∧
    (∀ (f : Remote.File) (s content : String) (encoding : List Char),
      (f.encoding = none ∨ f.encoding = some "base64") → f.content = some content →
        Text.Base64.Encodes s.toUTF8.toList encoding → Wrapped encoding content.toList →
          body? f = some s) ∧
    (∀ f f' s s', f.content = f'.content → body? f = some s → body? f' = some s' → s = s') ∧
    ∀ (d : Desired) f, d.isMetBy f = true ↔
      (∃ encoding, f.encoding = some encoding ∧ encoding ≠ "base64") ∨ Carries f d.content := by
  refine ⟨fun f s => ?decodes,
    fun f s content encoding hinlined hcontent hencodes hwrapped => ?wrapped,
    fun f f' s s' hcontent h h' => ?unique, fun d f => ?met⟩
  case decodes => rw [body?_eq_some_iff, isInlined_iff]
  case wrapped =>
    obtain rfl := Text.Base64.encodes_iff.mp hencodes
    exact body?_eq_some_iff.mpr
      ⟨isInlined_iff.mpr hinlined, carries_iff_wrapped.mpr ⟨content, hcontent, hwrapped⟩⟩
  case unique => exact (body?_eq_some_iff.mp h).2.unique (body?_eq_some_iff.mp h').2 hcontent
  case met => rw [isMetBy_iff, isInlined_eq_false_iff]

/-- An encoding that is wrapped in the middle of a group. -/
def greeting : Remote.File where
  content := some "aGVs\nbG\r\n 8=\n"
  encoding := some "base64"

theorem body_exact_greeting :
    Text.Base64.Encodes "hello".toUTF8.toList "aGVsbG8=".toList ∧
      Wrapped "aGVsbG8=".toList "aGVs\nbG\r\n 8=\n".toList ∧ body? greeting = some "hello" := by
  have hencodes : Text.Base64.Encodes "hello".toUTF8.toList "aGVsbG8=".toList :=
    Text.Base64.encodes_iff.mpr (by decide +kernel)
  have hwrapped : Wrapped "aGVsbG8=".toList "aGVs\nbG\r\n 8=\n".toList := by
    have hblanks : "aGVs\nbG\r\n 8=\n".toList.filter (· ∉ blanks) = "aGVsbG8=".toList := by decide
    exact hblanks ▸ wrapped_filter _
  exact ⟨hencodes, hwrapped, body_exact.2.1 greeting "hello" _ _ (.inr rfl) rfl hencodes hwrapped⟩

end GitHubReconciler.Content
