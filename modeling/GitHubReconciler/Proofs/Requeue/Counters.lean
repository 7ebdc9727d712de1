-- SUMMARY: A requeue policy counts the transient failures of each resource by itself (`Counts`, `policy_counts`).
import GitHubReconciler.Proofs.Requeue.Backoff
import GitHubReconciler.Proofs.Requeue.Policy
import Mathlib.Data.Finset.Card

/-!
# Counters of requeue policies

For every resource there is a number of transient failures in a row (`streak`), which only the
notices about that resource bear on. All that a policy remembers, and so all that it answers, is
determined by these numbers: it is a finite map that holds, for each resource whose number is not
zero, the backoff after as many steps (`Counts`). One lemma says what a single notice does to that
(`Counts.take`), and `policy_counts` follows by induction on the notices.
-/

namespace GitHubReconciler.Requeue

/-! ## Notices -/

/-- What a policy is told of a resource. -/
inductive Notice where
  | failed (s : Subject) (f : Failure)
  | succeeded (s : Subject)
  | gone (s : Subject)

namespace Notice

def subject : Notice → Subject
  | failed s _ => s
  | succeeded s => s
  | gone s => s

/-- The resource is not failing any more. -/
def isReset : Notice → Bool
  | failed .. => false
  | succeeded _ => true
  | gone _ => true

def isTransient : Notice → Bool
  | failed _ f => !f.isPermanent
  | succeeded _ => false
  | gone _ => false

end Notice

variable {config : Config} {p : Policy} {s : Subject} {ns : List Notice} {n : Notice} {f : Failure}

namespace Policy

/-- The policy after a notice. -/
def take (p : Policy) : Notice → Policy
  | .failed s f => (p.onFailure s.kind s.name f).2.1
  | .succeeded s => (p.onSuccess s.kind s.name).2
  | .gone s => (p.forget s.kind s.name).1

/-- The seconds until the resource is looked at again; nobody asks for those of one that is gone. -/
def answer (p : Policy) : Notice → Option UInt64
  | .failed s f => some (p.onFailure s.kind s.name f).1
  | .succeeded s => some (p.onSuccess s.kind s.name).1
  | .gone _ => none

def takeAll (p : Policy) (ns : List Notice) : Policy :=
  ns.foldl take p

@[simp] theorem takeAll_concat : p.takeAll (ns ++ [n]) = (p.takeAll ns).take n :=
  List.foldl_concat ..

end Policy

/-- The number of transient failures of a resource since it succeeded or was gone last. -/
def streak (ns : List Notice) (s : Subject) : Nat :=
  ((ns.reverse.filter (·.subject = s)).takeWhile (!·.isReset)).countP (·.isTransient)

theorem streak_concat_of_ne (h : n.subject ≠ s) : streak (ns ++ [n]) s = streak ns s := by
  rw [streak, List.reverse_concat, List.filter_cons_of_neg (by simpa using h), streak]

theorem streak_concat_of_eq (h : n.subject = s) :
    streak (ns ++ [n]) s =
      if n.isReset then 0 else streak ns s + if n.isTransient then 1 else 0 := by
  rw [streak, List.reverse_concat, List.filter_cons_of_pos (by simpa using h)]
  by_cases hreset : n.isReset
  · simp [hreset]
  · simp [hreset, List.countP_cons, streak]

/-- A transient failure counts for its resource. -/
theorem streak_failed (h : f.isPermanent = false) :
    streak (ns ++ [.failed s f]) = Function.update (streak ns) s (streak ns s + 1) := by
  funext t
  by_cases hsame : t = s
  · subst hsame
    rw [streak_concat_of_eq (n := .failed t f) (s := t) rfl, Function.update_self]
    simp [Notice.isReset, Notice.isTransient, h]
  · rw [streak_concat_of_ne (Ne.symm hsame), Function.update_of_ne hsame]

/-- A permanent failure does not count. -/
theorem streak_failed_permanent (h : f.isPermanent = true) :
    streak (ns ++ [.failed s f]) = streak ns := by
  funext t
  by_cases hsame : s = t
  · rw [streak_concat_of_eq (n := .failed s f) hsame]
    simp [Notice.isReset, Notice.isTransient, h]
  · exact streak_concat_of_ne hsame

/-- What is not failing any more starts anew. -/
theorem streak_reset (h : n.isReset = true) :
    streak (ns ++ [n]) = Function.update (streak ns) n.subject 0 := by
  funext t
  by_cases hsame : t = n.subject
  · rw [streak_concat_of_eq hsame.symm, if_pos h, hsame, Function.update_self]
  · rw [streak_concat_of_ne (Ne.symm hsame), Function.update_of_ne hsame]

/-- Only the notices about a resource bear on its number. -/
theorem streak_filter : streak (ns.filter (·.subject = s)) s = streak ns s := by
  rw [streak, ← List.filter_reverse, List.filter_filter]
  simp [streak]

/-- A resource with failures to count has been noticed. -/
theorem exists_of_streak_pos (h : 0 < streak ns s) : ∃ n ∈ ns, n.subject = s := by
  obtain ⟨n, hn, -⟩ := List.countP_pos_iff.mp h
  have hmem := List.mem_filter.mp ((List.takeWhile_sublist _).mem hn)
  exact ⟨n, List.mem_reverse.mp hmem.1, by simpa using hmem.2⟩

/-! ## What is remembered -/

/-- What a policy remembers of a resource with so many failures in a row. -/
def remembered (config : Config) : Nat → Option Tracked
  | 0 => none
  | k + 1 => some
      { backoff := (fun b => b.next.2)^[k + 1]
          (.start config.backoffMinMinutes config.backoffMaxMinutes)
        failures := UInt32.ofNat (min (k + 1) (UInt32.size - 1)) }

/-- What a failure goes on from: what is remembered, or a fresh start. -/
def resumed (config : Config) (k : Nat) : Tracked :=
  (remembered config k).getD
    { backoff := .start config.backoffMinMinutes config.backoffMaxMinutes, failures := 0 }

theorem resumed_backoff {k : Nat} :
    (resumed config k).backoff =
      (fun b => b.next.2)^[k] (.start config.backoffMinMinutes config.backoffMaxMinutes) := by
  cases k with
  | zero => rfl
  | succ k => rfl

theorem toNat_resumed_failures {k : Nat} :
    (resumed config k).failures.toNat = min k (UInt32.size - 1) := by
  cases k with
  | zero => rfl
  | succ k =>
    exact UInt32.toNat_ofNat_of_lt' (Nat.lt_of_le_of_lt (Nat.min_le_right _ _) (by decide))

/-- One more failure takes what is remembered one step further. -/
theorem remembered_succ {k : Nat} :
    remembered config (k + 1) = some
      { backoff := (resumed config k).backoff.next.2
        failures := succSat (resumed config k).failures } := by
  have hfailures : UInt32.ofNat (min (k + 1) (UInt32.size - 1)) =
      succSat (resumed config k).failures := by
    rw [← UInt32.toNat_inj, toNat_succSat, toNat_resumed_failures,
      UInt32.toNat_ofNat_of_lt' (Nat.lt_of_le_of_lt (Nat.min_le_right _ _) (by decide))]
    omega
  rw [remembered, hfailures, resumed_backoff, Function.iterate_succ_apply']

/-- The policy counts the failures of resources, and remembers nothing else. -/
structure Counts (config : Config) (p : Policy) (count : Subject → Nat) : Prop where
  config_eq : p.config = config
  nodup : p.keys.Nodup
  plain : ∀ k ∈ p.keys, ∃ s : Subject, s.Plain ∧ s.key = k
  found : ∀ s : Subject, s.Plain → p.find? s.key = remembered config (count s)

theorem counts_new : Counts config (.new config) fun _ => 0 where
  config_eq := rfl
  nodup := List.nodup_nil
  plain := fun _ h => nomatch h
  found := fun _ _ => rfl

namespace Counts

variable {count : Subject → Nat}

theorem erase (h : Counts config p count) (hs : s.Plain) :
    Counts config (p.erase s.key) (Function.update count s 0) where
  config_eq := h.config_eq
  nodup := by
    rw [Policy.keys_erase]
    exact h.nodup.filter _
  plain := by
    intro k hk
    rw [Policy.keys_erase] at hk
    exact h.plain k (List.mem_of_mem_filter hk)
  found := by
    intro t ht
    by_cases hsame : t = s
    · rw [hsame, Policy.find?_erase_self, Function.update_self]
      rfl
    · rw [Policy.find?_erase_of_ne fun hkey => hsame (Subject.eq_of_key_eq ht hs hkey),
        Function.update_of_ne hsame, h.found t ht]

theorem insert {t : Tracked} {m : Nat} (h : Counts config p count) (hs : s.Plain)
    (ht : remembered config m = some t) :
    Counts config (p.insert s.key t) (Function.update count s m) where
  config_eq := h.config_eq
  nodup := by
    rw [Policy.keys_insert]
    exact List.nodup_cons.mpr ⟨by simp, h.nodup.filter _⟩
  plain := by
    intro k hk
    rw [Policy.keys_insert] at hk
    rcases List.mem_cons.mp hk with rfl | hk
    · exact ⟨s, hs, rfl⟩
    · exact h.plain k (List.mem_of_mem_filter hk)
  found := by
    intro u hu
    by_cases hsame : u = s
    · rw [hsame, Policy.find?_insert_self, Function.update_self, ht]
    · rw [Policy.find?_insert_of_ne fun hkey => hsame (Subject.eq_of_key_eq hu hs hkey),
        Function.update_of_ne hsame, h.found u hu]

/-- What the policy goes on from. -/
theorem resumed_eq (h : Counts config p count) (hs : s.Plain) :
    (p.find? s.key).getD p.fresh = resumed config (count s) := by
  rw [h.found s hs, resumed, Policy.fresh, h.config_eq]

theorem toNat_failures (h : Counts config p count) (hs : s.Plain) :
    (p.failures s.kind s.name).toNat = min (count s) (UInt32.size - 1) := by
  have hfailures : p.failures s.kind s.name = (resumed config (count s)).failures := by
    rw [← h.resumed_eq hs, Policy.failures, Subject.key]
    cases p.find? (key s.kind s.name) with
    | none => rfl
    | some t => rfl
  rw [hfailures, toNat_resumed_failures]

/-- The delay after a transient failure. -/
theorem answer_failed (h : Counts config p count) (hs : s.Plain) (hf : f.isPermanent = false) :
    p.answer (.failed s f) = some
      ((Backoff.start config.backoffMinMinutes config.backoffMaxMinutes).output (count s)) := by
  have hdelay : (p.onFailure s.kind s.name f).1 =
      ((p.find? s.key).getD p.fresh).backoff.next.1 := by
    rw [Policy.onFailure, if_neg (by simp [hf])]
    rfl
  rw [Policy.answer, hdelay, h.resumed_eq hs, resumed_backoff, Backoff.output]

theorem take_failed (h : Counts config p count) (hs : s.Plain) (hf : f.isPermanent = false) :
    Counts config (p.take (.failed s f)) (Function.update count s (count s + 1)) := by
  have htake : p.take (.failed s f) = p.insert s.key
      { backoff := ((p.find? s.key).getD p.fresh).backoff.next.2
        failures := succSat ((p.find? s.key).getD p.fresh).failures } := by
    rw [Policy.take, Policy.onFailure, if_neg (by simp [hf])]
    rfl
  rw [htake, h.resumed_eq hs]
  exact h.insert hs remembered_succ

end Counts

/-- A permanent failure changes nothing. -/
theorem Policy.take_failed_permanent (h : f.isPermanent = true) : p.take (.failed s f) = p := by
  rw [Policy.take, Policy.onFailure, if_pos h]

theorem Policy.answer_failed_permanent (h : f.isPermanent = true) :
    p.answer (.failed s f) = some p.config.permanentRequeueSeconds := by
  rw [Policy.answer, Policy.onFailure, if_pos h]

/-- One notice changes what is remembered as it changes the numbers. -/
theorem Counts.take (h : Counts config p (streak ns)) (hn : n.subject.Plain) :
    Counts config (p.take n) (streak (ns ++ [n])) := by
  cases n with
  | failed s f =>
    cases hf : f.isPermanent with
    | false =>
      rw [streak_failed hf]
      exact h.take_failed hn hf
    | true =>
      rw [streak_failed_permanent hf, Policy.take_failed_permanent hf]
      exact h
  | succeeded s =>
    rw [streak_reset rfl]
    exact h.erase hn
  | gone s =>
    rw [streak_reset rfl, Policy.take, Policy.forget_fst]
    exact h.erase hn

/-- After any notices the policy counts the failures of every resource. -/
theorem counts_takeAll (hplain : ∀ n ∈ ns, n.subject.Plain) :
    Counts config ((Policy.new config).takeAll ns) (streak ns) := by
  induction ns using List.reverseRecOn with
  | nil => exact counts_new
  | append_singleton ns n ih =>
    rw [Policy.takeAll_concat]
    refine (ih fun m hm => hplain m (List.mem_append_left _ hm)).take ?_
    exact hplain n (List.mem_append_right _ (List.mem_singleton_self n))

/-- The policy remembers as many resources as have failures to count. -/
theorem Counts.exists_active (h : Counts config p (streak ns))
    (hplain : ∀ n ∈ ns, n.subject.Plain) :
    ∃ active : Finset Subject, (∀ s, s ∈ active ↔ 0 < streak ns s) ∧ p.size = active.card := by
  have hinverse : ∀ k ∈ p.keys, (Subject.ofKey k).Plain ∧ (Subject.ofKey k).key = k := by
    intro k hk
    obtain ⟨s, hs, rfl⟩ := h.plain k hk
    rw [Subject.ofKey_key hs]
    exact ⟨hs, rfl⟩
  have hnodup : (p.keys.map Subject.ofKey).Nodup := by
    refine List.Nodup.map_on (fun k hk l hl heq => ?_) h.nodup
    rw [← (hinverse k hk).2, heq, (hinverse l hl).2]
  have hfound : ∀ s : Subject, s.Plain → (s.key ∈ p.keys ↔ 0 < streak ns s) := by
    intro s hs
    rw [Policy.mem_keys, h.found s hs]
    cases streak ns s with
    | zero => simp [remembered]
    | succ k => simp [remembered]
  refine ⟨(p.keys.map Subject.ofKey).toFinset, fun s => ?_, ?_⟩
  · rw [List.mem_toFinset, List.mem_map]
    constructor
    · rintro ⟨k, hk, rfl⟩
      obtain ⟨hs, hkey⟩ := hinverse k hk
      exact (hfound _ hs).mp (by rwa [hkey])
    · intro hpos
      obtain ⟨n, hn, rfl⟩ := exists_of_streak_pos hpos
      exact ⟨_, (hfound _ (hplain n hn)).mpr hpos, Subject.ofKey_key (hplain n hn)⟩
  · rw [List.toFinset_card_of_nodup hnodup, List.length_map, Policy.length_keys]

/-- Two policies with the same number for a resource give the same answers about it. -/
theorem Counts.answer_eq {q : Policy} {count count' : Subject → Nat} (h : Counts config p count)
    (h' : Counts config q count') (hs : s.Plain) (hsame : count s = count' s)
    (hn : n.subject = s) : p.answer n = q.answer n := by
  cases n with
  | failed t f =>
    obtain rfl : t = s := hn
    cases hf : f.isPermanent with
    | false =>
      rw [h.answer_failed hs hf, h'.answer_failed hs hf, hsame]
    | true =>
      rw [Policy.answer_failed_permanent hf, Policy.answer_failed_permanent hf, h.config_eq,
        h'.config_eq]
  | succeeded s =>
    simp only [Policy.answer, Policy.onSuccess]
    rw [h.config_eq, h'.config_eq]
  | gone s => rfl

/-! ## All notices -/

/-- After any notices about resources whose kinds have no slash, a policy answers as if there were
    a counter of its own for every resource. -/
theorem policy_counts (config : Config) (ns : List Notice)
    (hplain : ∀ n ∈ ns, n.subject.Plain) :
    let p := (Policy.new config).takeAll ns
    let backoff := Backoff.start config.backoffMinMinutes config.backoffMaxMinutes
    (∀ s : Subject, s.Plain →
      (p.failures s.kind s.name).toNat = min (streak ns s) (UInt32.size - 1)) ∧
    (∀ (s : Subject) (f : Failure), s.Plain → f.isPermanent = false →
      p.answer (.failed s f) = some (backoff.output (streak ns s)) ∧
      streak (ns ++ [.failed s f]) s = streak ns s + 1) ∧
    (∀ (s : Subject) (f : Failure), f.isPermanent = true →
      p.answer (.failed s f) = some config.permanentRequeueSeconds ∧
      p.take (.failed s f) = p ∧ streak (ns ++ [.failed s f]) = streak ns) ∧
    (∀ s : Subject, p.answer (.succeeded s) = some config.pollSeconds) ∧
    (∃ active : Finset Subject, (∀ s, s ∈ active ↔ 0 < streak ns s) ∧ p.size = active.card) ∧
    ∀ ms : List Notice, (∀ m ∈ ms, m.subject.Plain) → ∀ s : Subject, s.Plain →
      ms.filter (·.subject = s) = ns.filter (·.subject = s) →
      let q := (Policy.new config).takeAll ms
      q.failures s.kind s.name = p.failures s.kind s.name ∧
        ∀ n : Notice, n.subject = s → q.answer n = p.answer n := by
  intro p backoff
  have hcounts : Counts config p (streak ns) := counts_takeAll hplain
  refine ⟨fun s hs => hcounts.toNat_failures hs, ?_, ?_, ?_, hcounts.exists_active hplain, ?_⟩
  · intro s f hs hf
    refine ⟨hcounts.answer_failed hs hf, ?_⟩
    rw [streak_failed hf, Function.update_self]
  · intro s f hf
    refine ⟨?_, Policy.take_failed_permanent hf, streak_failed_permanent hf⟩
    rw [Policy.answer_failed_permanent hf, hcounts.config_eq]
  · intro s
    simp only [Policy.answer, Policy.onSuccess]
    rw [hcounts.config_eq]
  · intro ms hms s hs hfilter q
    have hother : Counts config q (streak ms) := counts_takeAll hms
    have hsame : streak ms s = streak ns s := by
      rw [← streak_filter, hfilter, streak_filter]
    constructor
    · rw [← UInt32.toNat_inj, hother.toNat_failures hs, hcounts.toNat_failures hs, hsame]
    · intro n hn
      exact hother.answer_eq hcounts hs hsame hn

/-- A repository with a slash in its name has failed twice, and a secret has recovered. The third
    failure of the repository waits for two minutes. -/
theorem policy_counts_slashed :
    let repository : Subject := ⟨"Repository", "team/demo"⟩
    let secret : Subject := ⟨"Secrets", "demo"⟩
    let f : Failure := .secretExtraction "no value"
    let ns := [.failed repository f, .failed secret f, .failed repository f, .succeeded secret]
    let p := (Policy.new {}).takeAll ns
    (p.failures "Repository" "team/demo").toNat = 2 ∧
      p.answer (.failed repository f) = some 120 ∧
      (p.failures "Secrets" "demo").toNat = 0 := by
  intro repository secret f ns p
  have hrepository : repository.Plain := by simp [repository, Subject.Plain]
  have hsecret : secret.Plain := by simp [secret, Subject.Plain]
  have htwice : streak ns repository = 2 := by decide +kernel
  have hnone : streak ns secret = 0 := by decide +kernel
  obtain ⟨hfailures, hdelay, -⟩ :=
    policy_counts {} ns (by simp [ns, Notice.subject, hrepository, hsecret])
  refine ⟨?_, ?_, ?_⟩
  · rw [hfailures repository hrepository, htwice]
    rfl
  · rw [(hdelay repository f hrepository rfl).1, htwice]
    rfl
  · rw [hfailures secret hsecret, hnone]
    rfl

end GitHubReconciler.Requeue
