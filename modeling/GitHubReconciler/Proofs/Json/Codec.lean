-- SUMMARY: When reading gives back what was written: laws of codecs (`Codec.Lawful`) and of records built field by field (`Record.Lawful`).
import GitHubReconciler.Json.Codec

/-!
# Lawful codecs

A codec is lawful if reading gives back every value that was written. The law of a record is put
together from those of its fields, as the record itself is. It speaks of fields in any surroundings:
a part of a record reads its own fields back whatever other fields stand beside them, as long as no
two fields of the whole record have the same name.

Since no value is written as `null`, a value that is left out or written as `null` can be told apart
from every other.
-/

namespace GitHubReconciler

variable {α β σ τ : Type}

/-! ## Codecs -/

/-- Reading gives back what was written, and nothing is written as `null`. -/
structure Codec.Lawful (c : Codec α) : Prop where
  decode_encode (x : α) : c.decode (c.encode x) = .ok x
  encode_ne_null (x : α) : c.encode x ≠ .null

theorem mapM_map_eq_ok {f : β → Decoded α} {g : α → β} (h : ∀ x, f (g x) = .ok x) (xs : List α) :
    (xs.map g).mapM f = .ok xs := by
  induction xs with
  | nil => rfl
  | cons x xs ih =>
    rw [List.map_cons, List.mapM_cons, h, ih]
    rfl

namespace Codec

theorem lawful_text : text.Lawful where
  decode_encode _ := rfl
  encode_ne_null _ := Json.noConfusion

theorem lawful_flag : flag.Lawful where
  decode_encode _ := rfl
  encode_ne_null _ := Json.noConfusion

/-- A text is lawful if the value that was written can be made of it. -/
theorem lawful_textOf {ε : Type} {expected : String} {write : α → String}
    {value : String → Except ε α} {message : ε → String} (h : ∀ x, value (write x) = .ok x) :
    (textOf expected write value message).Lawful where
  decode_encode x := by
    simp only [textOf, h]
  encode_ne_null _ := Json.noConfusion

theorem lawful_given {depth : Nat} : (given depth).Lawful where
  decode_encode x := dif_pos x.isNull_eq
  encode_ne_null x hnull := by
    have hgiven := x.isNull_eq
    rw [show x.document = .null from hnull] at hgiven
    cases hgiven

theorem lawful_integer : integer.Lawful where
  decode_encode n := by
    have hbounds : Int64.minValue.toInt ≤ n.toInt ∧ n.toInt ≤ Int64.maxValue.toInt :=
      ⟨n.minValue_le_toInt, n.toInt_le⟩
    simp only [integer]
    rw [if_pos hbounds, Int64.ofInt_toInt]
  encode_ne_null _ := Json.noConfusion

namespace Lawful

variable {c : Codec α}

theorem list (h : c.Lawful) : c.list.Lawful where
  decode_encode := mapM_map_eq_ok h.decode_encode
  encode_ne_null _ := Json.noConfusion

theorem map (h : c.Lawful) : c.map.Lawful where
  decode_encode := mapM_map_eq_ok fun f => by rw [h.decode_encode]; rfl
  encode_ne_null _ := Json.noConfusion

/-- A value that is not `null` reads as itself, and `null` as no value. -/
theorem decode_nullable (h : c.Lawful) (x : α) :
    c.nullable.decode (c.encode x) = .ok (some x) := by
  have hread : c.nullable.decode (c.encode x) = (do return some (← c.decode (c.encode x))) := by
    cases hx : c.encode x with
    | null => exact absurd hx (h.encode_ne_null x)
    | _ => rfl
  rw [hread, h.decode_encode]
  rfl

theorem decode_encode_nullable (h : c.Lawful) (x : Option α) :
    c.nullable.decode (c.nullable.encode x) = .ok x := by
  cases x with
  | none => rfl
  | some x => exact h.decode_nullable x

theorem orDefault (h : c.Lawful) (default : α) : (c.orDefault default).Lawful where
  decode_encode x := by
    change (·.getD default) <$> c.nullable.decode (c.encode x) = _
    rw [h.decode_nullable]
    rfl
  encode_ne_null := h.encode_ne_null

end Lawful

end Codec

/-! ## Fields under their names -/

/-- Under each name of written fields stands what was written for it. -/
theorem Json.lookup_present {entries : List (String × Option Json)}
    (hnames : (entries.map (·.1)).Nodup) {e : String × Option Json} (hmem : e ∈ entries) :
    (Json.present entries).lookup e.1 = e.2 := by
  induction entries with
  | nil => cases hmem
  | cons first rest ih =>
    obtain ⟨name, written⟩ := first
    rw [List.map_cons, List.nodup_cons] at hnames
    obtain ⟨hfresh, hrest⟩ := hnames
    rcases List.mem_cons.mp hmem with rfl | hlater
    · cases written with
      | some value => simp [Json.present]
      | none =>
        -- The field was left out, and no other has its name.
        simp only [Json.present, List.filterMap_cons, Option.map_none, List.lookup_eq_none_iff]
        intro f hf
        obtain ⟨g, hg, heq⟩ := List.mem_filterMap.mp hf
        obtain ⟨value, -, rfl⟩ := Option.map_eq_some_iff.mp heq
        rw [bne_iff_ne]
        rintro rfl
        exact hfresh (List.mem_map.mpr ⟨g, hg, rfl⟩)
    · have hne : (e.1 == name) = false := by
        rw [beq_eq_false_iff_ne]
        rintro rfl
        exact hfresh (List.mem_map.mpr ⟨e, hlater, rfl⟩)
      rw [← ih hrest hlater]
      cases written with
      | some value => simp [Json.present, List.lookup_cons, hne]
      | none => simp [Json.present]

/-- Fields of one name are the same. -/
theorem Json.eq_of_name_eq {entries : List (String × Option Json)}
    (hnames : (entries.map (·.1)).Nodup) {e f : String × Option Json} (he : e ∈ entries)
    (hf : f ∈ entries) (heq : e.1 = f.1) : e = f :=
  Prod.ext heq (by rw [← Json.lookup_present hnames he, ← Json.lookup_present hnames hf, heq])

/-! ## Records -/

namespace Record

/-- The fields of a record that were written from `x` give `get x` when they are read back,
    whatever other fields stand beside them. -/
structure Lawful (r : Record σ α) (get : σ → α) : Prop where
  names_eq (x : σ) : (r.entries x).map (·.1) = r.names
  /-- The value of a field passes the check, and so do fields of other names. -/
  check_eq (x : σ) (name : String) (value : Json) :
    (∀ e ∈ r.entries x, e.1 = name → e.2 = some value) → r.check name value = .ok ()
  build_eq (x : σ) (fields : Fields) :
    fields.absent = .missingField →
    (∀ e ∈ r.entries x, fields.present.lookup e.1 = e.2) → r.build fields = .ok (get x)

theorem Lawful.of_eq {r : Record σ α} {get get' : σ → α} (h : r.Lawful get')
    (heq : ∀ x, get' x = get x) : r.Lawful get :=
  funext heq ▸ h

theorem lawful_nothing (x : α) : (nothing x : Record σ α).Lawful fun _ => x where
  names_eq _ := rfl
  check_eq _ _ _ _ := rfl
  build_eq _ _ _ _ := rfl

/-! ### Single fields -/

/-- A field is lawful if what is written for it reads back, and its default stands for what is left
    out. -/
theorem lawful_field {expected : Json.Reader.Field} {write : σ → Option Json}
    {read : Json → Decoded α} {absent : DecodeFault → Decoded α} {get : σ → α}
    (hread : ∀ x value, write x = some value → read value = .ok (get x))
    (habsent : ∀ x, write x = none → absent (.missingField expected.name) = .ok (get x)) :
    (field expected write read absent).Lawful get where
  names_eq _ := rfl
  check_eq x name value h := by
    by_cases hname : name = expected.name
    · have hwrite : write x = some value := h _ (List.mem_singleton_self _) hname.symm
      simp only [field, if_pos hname, hread x value hwrite]
      rfl
    · simp only [field, if_neg hname]
  build_eq x fields hmissing h := by
    have hlookup : fields.present.lookup expected.name = write x :=
      h _ (List.mem_singleton_self _)
    simp only [field, hlookup]
    cases hwrite : write x with
    | some value => exact hread x value hwrite
    | none =>
      rw [hmissing]
      exact habsent x hwrite

variable {c : Codec α}

theorem lawful_required (h : c.Lawful) (name : String) (get : σ → α) :
    (required name c get).Lawful get := by
  apply lawful_field
  · rintro x _ ⟨⟩
    exact h.decode_encode (get x)
  · rintro x ⟨⟩

theorem lawful_defaulted (h : ∀ x, c.decode (c.encode x) = .ok x) (name : String) (default : α)
    (get : σ → α) : (defaulted name c default get).Lawful get := by
  apply lawful_field
  · rintro x _ ⟨⟩
    exact h (get x)
  · rintro x ⟨⟩

theorem lawful_explicit (h : c.Lawful) (name : String) (get : σ → Option α) :
    (explicit name c get).Lawful get :=
  lawful_defaulted h.decode_encode_nullable name none get

/-- An empty list is left out, and stands for itself. -/
theorem lawful_elements (h : c.Lawful) (name : String) (get : σ → List α) :
    (elements name c get).Lawful get := by
  apply lawful_field
  · intro x value hwrite
    split at hwrite
    · cases hwrite
    · cases hwrite
      exact h.list.decode_encode (get x)
  · intro x hwrite
    split at hwrite
    next hempty => rw [List.isEmpty_iff.mp hempty]
    next => cases hwrite

theorem lawful_optional (h : c.Lawful) (name : String) (get : σ → Option α) :
    (optional name c get).Lawful get := by
  apply lawful_field
  · intro x value hwrite
    obtain ⟨y, hy, rfl⟩ := Option.map_eq_some_iff.mp hwrite
    rw [hy]
    exact h.decode_nullable y
  · intro x hwrite
    rw [Option.map_eq_none_iff.mp hwrite]

theorem lawful_placed (h : c.Lawful) (name : String) (get : σ → Option α) :
    (placed name c get).Lawful get := by
  apply lawful_field
  · intro x value hwrite
    obtain ⟨y, hy, rfl⟩ := Option.map_eq_some_iff.mp hwrite
    rw [hy]
    exact h.decode_nullable y
  · intro x hwrite
    rw [Option.map_eq_none_iff.mp hwrite]

/-! ### Fields together -/

namespace Lawful

variable {r : Record σ (α → β)} {s : Record σ α} {f : σ → α → β} {g : σ → α}

theorem seq (hr : r.Lawful f) (hs : s.Lawful g) : (r <*> s).Lawful fun x => f x (g x) where
  names_eq x := by
    change (r.entries x ++ s.entries x).map (·.1) = (r.fields ++ s.fields).map (·.name)
    rw [List.map_append, List.map_append, hr.names_eq, hs.names_eq]
    rfl
  check_eq x name value h := by
    change (do r.check name value; s.check name value) = _
    rw [hr.check_eq x name value fun e he => h e (List.mem_append_left _ he)]
    exact hs.check_eq x name value fun e he => h e (List.mem_append_right _ he)
  build_eq x fields hmissing h := by
    change (do return (← r.build fields) (← s.build fields)) = _
    rw [hr.build_eq x fields hmissing fun e he => h e (List.mem_append_left _ he),
      hs.build_eq x fields hmissing fun e he => h e (List.mem_append_right _ he)]
    rfl

theorem within (hs : s.Lawful g) (part : τ → σ) : (s.within part).Lawful fun x => g (part x) where
  names_eq x := hs.names_eq (part x)
  check_eq x := hs.check_eq (part x)
  build_eq x := hs.build_eq (part x)

/-! ### Whole records -/

/-- A record reads back its fields among written ones of different names. -/
theorem read_present (hs : s.Lawful g) {entries : List (String × Option Json)}
    (hnames : (entries.map (·.1)).Nodup) {x : σ} (hsub : s.entries x ⊆ entries) :
    s.read ⟨Json.present entries, .missingField⟩ = .ok (g x) := by
  have hcheck : ∀ written, written ⊆ Json.present entries →
      (written.forM fun f => s.check f.1 f.2) = .ok () := by
    intro written hwritten
    induction written with
    | nil => rfl
    | cons field rest ih =>
      obtain ⟨hfield, hrest⟩ := List.cons_subset.mp hwritten
      obtain ⟨e, he, heq⟩ := List.mem_filterMap.mp hfield
      obtain ⟨value, hvalue, rfl⟩ := Option.map_eq_some_iff.mp heq
      have hpass : s.check e.1 value = .ok () := by
        apply hs.check_eq x
        intro d hd hname
        rw [Json.eq_of_name_eq hnames (hsub hd) he hname, hvalue]
      change (do s.check e.1 value; rest.forM fun f => s.check f.1 f.2) = _
      rw [hpass]
      exact ih hrest
  unfold read
  rw [hcheck _ (List.Subset.refl _)]
  exact hs.build_eq x _ rfl fun e he => Json.lookup_present hnames (hsub he)

variable {p : Record α α}

theorem decodeObject_encode (h : p.Lawful id) (hnames : p.names.Nodup) (x : α) :
    p.decodeObject (p.encode x) = .ok x :=
  h.read_present (by rwa [h.names_eq]) (List.Subset.refl _)

/-- A record whose fields have different names is lawful as a codec. -/
theorem codec (h : p.Lawful id) (hnames : p.names.Nodup) : p.codec.Lawful where
  decode_encode := h.decodeObject_encode hnames
  encode_ne_null _ := Json.noConfusion

theorem objectCodec (h : p.Lawful id) (hnames : p.names.Nodup) (expected : String) :
    (p.objectCodec expected).Lawful where
  decode_encode := h.decodeObject_encode hnames
  encode_ne_null _ := Json.noConfusion

/-- A record with two more fields in front, which reading ignores. -/
theorem codec_stamped (h : p.Lawful id) {first second : String}
    (hnames : (first :: second :: p.names).Nodup) (a b : String) :
    ((p.stamped second b).stamped first a).codec.Lawful where
  decode_encode x := by
    refine h.read_present ?_ (List.subset_cons_of_subset _ (List.subset_cons_self _ _))
    change (first :: second :: (p.entries x).map (·.1)).Nodup
    rwa [h.names_eq]
  encode_ne_null _ := Json.noConfusion

end Lawful

end Record

end GitHubReconciler
