-- SUMMARY: Full names are split at their slash without loss (`FullName.parse?_eq_some_iff`), so that a creation from a template asks for the template it was given or for nothing (`reference_split_exact`).
import GitHubReconciler.Proofs.Repository.Writing
import Mathlib.Data.List.TakeDrop
import Mathlib.Data.List.TakeWhile

/-!
# Splitting full names

A text is cut at its first slash (`parse?_ofList`). It is a full name if there is one and none
comes after it, so a text has at most one reading as a full name, and putting the two parts together
again gives the text. Either part may be empty.
-/

namespace GitHubReconciler.Repository

/-! ## Full names and their texts -/

namespace FullName

/-- A full name as it is written. -/
def text (f : FullName) : String :=
  f.owner ++ "/" ++ f.name

variable {text : String} {f : FullName}

theorem toList_text (f : FullName) : f.text.toList = f.owner.toList ++ '/' :: f.name.toList := by
  simp [FullName.text]

/-- A text is cut at its first slash, and refused if there is another one. -/
theorem parse?_ofList {owner rest : List Char} (howner : '/' ∉ owner) :
    parse? (String.ofList (owner ++ '/' :: rest)) =
      if '/' ∈ rest then none else some ⟨String.ofList owner, String.ofList rest⟩ := by
  have hbefore : ∀ c ∈ owner, (c != '/') = true := by
    intro c hc
    rw [bne_iff_ne]
    rintro rfl
    exact howner hc
  unfold parse?
  rw [String.toList_ofList, List.span_eq_takeWhile_dropWhile,
    List.takeWhile_append_of_pos hbefore, List.dropWhile_append_of_pos hbefore]
  simp

/-- A text without a slash is refused. -/
theorem parse?_of_notMem (h : '/' ∉ text.toList) : parse? text = none := by
  have hall : text.toList.dropWhile (· != '/') = [] := by
    rw [List.dropWhile_eq_nil_iff]
    intro c hc
    rw [bne_iff_ne]
    rintro rfl
    exact h hc
  unfold parse?
  rw [List.span_eq_takeWhile_dropWhile, hall]

/-- A text with a slash is one of a part without a slash before it and a part after it. -/
theorem exists_eq_ofList (h : '/' ∈ text.toList) :
    ∃ owner rest, '/' ∉ owner ∧ text = String.ofList (owner ++ '/' :: rest) := by
  obtain ⟨owner, rest, heq, howner⟩ := List.eq_append_cons_of_mem h
  exact ⟨owner, rest, howner, by rw [← heq, String.ofList_toList]⟩

/-- A name is refused as a full name just if it has not exactly one slash. -/
theorem parse?_eq_none_iff : parse? text = none ↔ text.toList.count '/' ≠ 1 := by
  by_cases hslash : '/' ∈ text.toList
  · obtain ⟨owner, rest, howner, rfl⟩ := exists_eq_ofList hslash
    rw [parse?_ofList howner, String.toList_ofList, List.count_append,
      List.count_eq_zero.mpr howner, Nat.zero_add, List.count_cons_self]
    simp [List.count_eq_zero]
  · rw [parse?_of_notMem hslash, List.count_eq_zero.mpr hslash]
    simp

/-- A text is read as the full name that it is the text of, provided that no part of it has a
    slash. -/
theorem parse?_eq_some_iff :
    parse? text = some f ↔ '/' ∉ f.owner.toList ∧ '/' ∉ f.name.toList ∧ f.text = text := by
  constructor
  · intro h
    have hslash : '/' ∈ text.toList := by
      refine Decidable.byContradiction fun hnone => ?_
      cases (parse?_of_notMem hnone).symm.trans h
    obtain ⟨owner, rest, howner, rfl⟩ := exists_eq_ofList hslash
    rw [parse?_ofList howner] at h
    split at h
    next => cases h
    next hrest =>
      cases h
      refine ⟨by rwa [String.toList_ofList], by rwa [String.toList_ofList], ?_⟩
      rw [← String.toList_inj, toList_text, String.toList_ofList, String.toList_ofList,
        String.toList_ofList]
  · rintro ⟨howner, hname, rfl⟩
    rw [← String.ofList_toList (s := f.text), toList_text, parse?_ofList howner, if_neg hname,
      String.ofList_toList, String.ofList_toList]

end FullName

/-! ## Creations from a template -/

variable {now : String} {o : RepositoryObject} {xs : List Exchange} {r' : Resource}
  {template : Reference} {result : Except Failure Bool}

/-- A creation whose template has a full name is one call, for this template. -/
theorem Creating.exists_generate (h : Creating now o xs result r')
    (htemplate : o.desired.template = some template) {f : FullName}
    (hname : FullName.parse? template.name = some f) :
    ∃ answer, xs = [⟨.generateRepository f.owner f.name o.desired.templateRequest, answer⟩] := by
  cases h with
  | refused hplain => cases hplain.symm.trans htemplate
  | created hplain => cases hplain.symm.trans htemplate
  | malformed hsome hnone =>
    cases hsome.symm.trans htemplate
    cases hnone.symm.trans hname
  | ungenerated hsome hfull =>
    cases hsome.symm.trans htemplate
    cases hfull.symm.trans hname
    exact ⟨_, rfl⟩
  | generated hsome hfull =>
    cases hsome.symm.trans htemplate
    cases hfull.symm.trans hname
    exact ⟨_, rfl⟩

/-- A creation whose template has no full name fails without a call. -/
theorem Creating.eq_of_malformed (h : Creating now o xs result r')
    (htemplate : o.desired.template = some template)
    (hname : FullName.parse? template.name = none) :
    xs = [] ∧ result = .error .malformedReference := by
  cases h with
  | refused hplain => cases hplain.symm.trans htemplate
  | created hplain => cases hplain.symm.trans htemplate
  | malformed => exact ⟨rfl, rfl⟩
  | ungenerated hsome hfull =>
    cases hsome.symm.trans htemplate
    cases hname.symm.trans hfull
  | generated hsome hfull =>
    cases hsome.symm.trans htemplate
    cases hname.symm.trans hfull

/-- A text is read as a full name just if it has exactly one slash, and is then the text of the full
    name, whose parts have none. So a creation from a template makes one call, whose two parts are
    the reference to the template, or fails without any if the reference has not exactly one
    slash. -/
theorem reference_split_exact :
    (∀ text, (∃ f, FullName.parse? text = some f) ↔ text.toList.count '/' = 1) ∧
    (∀ text f, FullName.parse? text = some f ↔
      '/' ∉ f.owner.toList ∧ '/' ∉ f.name.toList ∧ f.owner ++ "/" ++ f.name = text) ∧
    ∀ {σ : Type} (world : Dialogue.World Call Call.Answer σ) (w : σ) (o : RepositoryObject)
      (template : Reference) (now : String), o.desired.template = some template →
      let run := (client.converse .create now (.repository o)).run world w
      (template.name.toList.count '/' = 1 ∧
        ∃ (f : FullName) (answer : Call.FromGitHub Remote.Repository),
          f.owner ++ "/" ++ f.name = template.name ∧
          run.exchanges =
            [⟨.generateRepository f.owner f.name o.desired.templateRequest, answer⟩]) ∨
      (template.name.toList.count '/' ≠ 1 ∧ run.exchanges = [] ∧
        run.value.1 = .error .malformedReference) := by
  have hreadable (text : String) :
      (∃ f, FullName.parse? text = some f) ↔ text.toList.count '/' = 1 := by
    rw [← Option.ne_none_iff_exists', Ne, FullName.parse?_eq_none_iff, Ne, Decidable.not_not]
  refine ⟨hreadable, fun _ _ => FullName.parse?_eq_some_iff, ?_⟩
  intro σ world w o template now htemplate run
  obtain ⟨result, hresult, hcreating⟩ :=
    creating_of_generates (Dialogue.generates_run world _ w : Dialogue.Generates _ _ run.value)
  by_cases hcount : template.name.toList.count '/' = 1
  · obtain ⟨f, hname⟩ := (hreadable template.name).mpr hcount
    obtain ⟨answer, hcall⟩ := hcreating.exists_generate htemplate hname
    exact .inl ⟨hcount, f, answer, (FullName.parse?_eq_some_iff.mp hname).2.2, hcall⟩
  · obtain ⟨hcalls, rfl⟩ :=
      hcreating.eq_of_malformed htemplate (FullName.parse?_eq_none_iff.mpr hcount)
    exact .inr ⟨hcount, hcalls, hresult⟩

/-- A declared repository that refers to a template without naming its owner. -/
def unowned : RepositoryObject where
  metadata := { name := some "demo" }
  spec := { forProvider := { owner := "acme", name := "demo", template := some ⟨"/base"⟩ } }

/-- The empty owner is passed on as it is. -/
theorem reference_split_exact_unowned :
    unowned.desired.template = some ⟨"/base"⟩ ∧
    ∃ (f : FullName) (answer : Call.FromGitHub Remote.Repository),
      f.owner ++ "/" ++ f.name = "/base" ∧
      ((client.converse .create "now" (.repository unowned)).run
        (fun c _ => (declined c, ())) ()).exchanges =
        [⟨.generateRepository f.owner f.name unowned.desired.templateRequest, answer⟩] := by
  refine ⟨rfl, ?_⟩
  rcases reference_split_exact.2.2 (fun c _ => (declined c, ())) () unowned ⟨"/base"⟩ "now" rfl with
    ⟨-, hcall⟩ | ⟨hcount, -⟩
  · exact hcall
  · exact absurd (by decide) hcount

end GitHubReconciler.Repository
