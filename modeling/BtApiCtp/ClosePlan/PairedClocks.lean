/-
# ClosePlan.PairedClocks -- the times of a plan by two clocks

A plan is built only if both clocks give each deadline nearly the same time after the query
completed, in `float` arithmetic.  Rounding moves a time by little beside it, so that two times far
apart are not both near one lifetime by the other clock (`Near.not_both`).
-/
import BtApiCtp.ClosePlan.Readings
import BtApiCtp.ClosePlan.RowOrder

namespace BtApiCtp.ClosePlan

open Theory Python

variable {platform : Platform} {evidence other : Value} {context : Context}
  {source source' : EvidenceMeta} {utc mono : Int} {x y : ℚ} {fields : Fields} {u : Unit}

/-! ## Lifetimes -/

/-- A lifetime by the monotonic clock is near that by the other one, in seconds as `float`. -/
def Near (utc mono : Int) (x : ℚ) : Prop :=
  roundWith binary64 (utc / 1000000) = .ok x ∧ |x * 1000000000 - mono| ≤ |(mono : ℚ)| / 1000 + 20000

theorem roundWith_near (came : roundWith binary64 x = .ok y) : |y - x| ≤ |x| / 1000 + 1 / 10 ^ 9 := by
  unfold roundWith at came
  split at came
  · cases came
    exact binary64_near ‹_›
  · cases came

theorem near_of_not_apart (near : apartWith binary64 x y = false) : |x - y| ≤ 1 / 100000 := by
  have micro : microsecondWith binary64 ≤ 1 / 500000 := by decide +kernel
  unfold apartWith at near
  cases came : binary64 (x - y) with
  | none => simp [came] at near
  | some d =>
    rw [came] at near
    have close := binary64_near came
    have small : |d| ≤ 1 / 500000 := by
      have within := (le_of_not_gt (of_decide_eq_false near)).trans micro
      split at within
      · rwa [abs_of_neg ‹_›]
      · rwa [abs_of_nonneg (not_lt.mp ‹_›)]
    have parts := abs_sub_abs_le_abs_sub (x - y) d
    rw [abs_sub_comm (x - y) d] at parts
    linarith

theorem near_of_lifetimes (came : lifetimesWith binary64 utc mono = .ok (x, y))
    (close : (!apartWith binary64 x y) = true) : Near utc mono x := by
  simp only [lifetimesWith, bind_eq_ok_iff, pure_eq_ok_iff, Prod.mk.injEq] at came
  obtain ⟨_, first, _, second, rfl, rfl⟩ := came
  refine ⟨first, ?_⟩
  have near := abs_le.mp (near_of_not_apart (by simpa using close))
  have rounded := roundWith_near second
  rw [abs_div, abs_of_pos (by norm_num : (0 : ℚ) < 1000000000), abs_le] at rounded
  rw [abs_le]
  constructor <;> linarith

theorem checkPairedWith_near {message : String}
    (came : checkPairedWith binary64 utc mono message = .ok u) : ∃ x, Near utc mono x := by
  simp only [checkPairedWith, bind_eq_ok_iff, check_eq_ok_iff] at came
  obtain ⟨⟨x, y⟩, ttl, close⟩ := came
  exact ⟨x, near_of_lifetimes ttl close⟩

namespace Near

variable (near : Near utc mono x) (positive : 0 < mono)
include near positive

theorem le (small : x ≤ 6) : mono ≤ 7000000000 := by
  have p : (0 : ℚ) < mono := by exact_mod_cast positive
  have close := near.2
  rw [abs_of_pos p, abs_le] at close
  have bound : (mono : ℚ) ≤ 7000000000 := by linarith
  exact_mod_cast bound

/-- Lifetimes that are far apart are not both near one time. -/
theorem not_both {long : Int} (longer : mono + 400000000 ≤ long)
    (much : mono ≤ 100 * (long - mono)) : ¬ Near utc long y := by
  intro near'
  cases near.1.symm.trans near'.1
  have one := near.2
  have two := near'.2
  have p : (0 : ℚ) < mono := by exact_mod_cast positive
  have l : (mono : ℚ) + 400000000 ≤ long := by exact_mod_cast longer
  have m : (mono : ℚ) ≤ 100 * (long - mono) := by exact_mod_cast much
  rw [abs_of_pos p, abs_le] at one
  rw [abs_of_pos (by linarith : (0 : ℚ) < long), abs_le] at two
  linarith

end Near

/-! ## The query -/

/-- What is read of the times of a query that passed. -/
structure EvidenceMeta.Times (platform : Platform) (evidence : Value) (source : EvidenceMeta) :
    Prop where
  completedUtc : read evidence ["completed_at_utc", "completed_utc"] >>= (parseUtc platform ·
    "query completion" "O3B_CLOCK_INVALID") = .ok source.completedAtUtc
  expiresUtc : read evidence ["expires_at_utc", "source_expiry_utc"] >>= (parseUtc platform ·
    "query expiry" "O3B_CLOCK_INVALID") = .ok source.expiresAtUtc
  completed : clockFrom evidence completedNsNames completedSecondsNames "query completion monotonic" =
    .ok source.completedMonotonicNs
  expires : clockFrom evidence expiresNsNames expiresSecondsNames "query expiry monotonic" =
    .ok source.expiresMonotonicNs
  ordered : source.completedMonotonicNs < source.expiresMonotonicNs
  near : ∃ x ≤ 6, Near (source.expiresAtUtc - source.completedAtUtc)
    (source.expiresMonotonicNs - source.completedMonotonicNs) x

theorem EvidenceMeta.Times.sameUtc (times : source.Times platform evidence)
    (times' : source'.Times platform other)
    (same : ∀ names ∈ [["completed_at_utc", "completed_utc"], ["expires_at_utc", "source_expiry_utc"]],
      read other names = read evidence names) :
    source'.completedAtUtc = source.completedAtUtc ∧ source'.expiresAtUtc = source.expiresAtUtc := by
  have completed := times'.completedUtc
  have expires := times'.expiresUtc
  rw [same _ (by decide), times.completedUtc] at completed
  rw [same _ (by decide), times.expiresUtc] at expires
  exact ⟨(Except.ok.inj completed).symm, (Except.ok.inj expires).symm⟩

theorem times_of_accepted {result : EvidenceMeta × Holdings context.tradingDay}
    (came : extractEvidence platform evidence context = .ok result) :
    result.1.Times platform evidence := by
  obtain ⟨_, _, _, ⟨_, _, _, _, _, timed, _⟩, _⟩ := extractEvidence_eq_ok_iff.mp came
  simp only [queryTimesWith, bind_eq_ok_iff, check_eq_ok_iff, exists_const, pure_eq_ok_iff] at timed
  obtain ⟨completed, readCompleted, expiry, readExpiry, _, completedUtc, parsed, expiresUtc, parsed',
    completedMono, clocked, expiresMono, clocked', domain, _, _, ordered, ⟨x, y⟩, ttl, close, bound,
    rounded, short, made⟩ := timed
  rw [← made]
  have bounded : (roundWith binary64 (maxSourceTtlSeconds + microsecondWith binary64)).toOption.any
      (· ≤ 6) = true := by decide +kernel
  rw [rounded] at bounded
  rw [Bool.and_eq_true, decide_eq_true_iff, decide_eq_true_iff] at ordered
  exact ⟨bind_eq_ok_iff.mpr ⟨_, readCompleted, parsed⟩, bind_eq_ok_iff.mpr ⟨_, readExpiry, parsed'⟩,
    clocked, clocked', ordered.2,
    x, (of_decide_eq_true short).trans (of_decide_eq_true bounded), near_of_lifetimes ttl close⟩

/-! ## Deadlines -/

/-- The two times of a deadline, among the fields of a mapping. -/
def DeadlineIn (platform : Platform) (fields : Fields) (deadline : Int × Int) : Prop :=
  (∃ item, fields.get "expires_at_utc" = some item ∧ readUtc platform item = some deadline.1) ∧
    ∃ label, clockOf (fields.get "expires_monotonic_ns") (fields.get "expires_monotonic") label =
      .ok deadline.2

theorem Policy.Reads.deadlineIn {policy : Policy} {name : String}
    (reads : policy.Reads platform fields) (mem : name ∈ deadlineNames)
    (given : fields.get name ≠ none) :
    ∃ deadline, policy.deadline = some deadline ∧ DeadlineIn platform fields deadline := by
  obtain ⟨⟨aliased, normal, aliases, timed, _⟩, _⟩ := reads
  rw [normalizePolicyDeadline_eq_ok_iff, normalizeProfileAliases_get aliases] at timed
  rcases timed with ⟨absent, _⟩ | ⟨item, utc, mono, found, parsed, clocked, _, same⟩
  · exact absurd ((profileField_deadline mem).symm.trans (absent name mem)) given
  · exact ⟨_, same.symm, ⟨item, found, parsed⟩, _, clocked⟩

/-- The deadline of a mapping, where it has one, passed. -/
def EvidenceMeta.Meets (source : EvidenceMeta) (platform : Platform) (given : Value) : Prop :=
  ∃ fields, Frozen given fields ∧ ∀ name ∈ deadlineNames, fields.get name ≠ none →
    ∃ deadline, DeadlineIn platform fields deadline ∧ source.completedMonotonicNs < deadline.2 ∧
      ∃ x, Near (deadline.1 - source.completedAtUtc) (deadline.2 - source.completedMonotonicNs) x

/-- The times that a plan was built with. -/
theorem deadlines_of_plan {request policy currentContext nowUtc monotonicNow : Value}
    {plan : CtpClosePlan}
    (built : buildCtpClosePlan platform evidence request policy currentContext nowUtc monotonicNow =
      .ok plan) :
    ∃ inputs : Inputs, extractEvidence platform evidence inputs.context =
        .ok (inputs.source, inputs.holdings) ∧
      ∀ given ∈ [request, policy, currentContext], inputs.source.Meets platform given := by
  obtain ⟨inputs, prepared, planned⟩ := bind_eq_ok_iff.mp built
  obtain ⟨current, passed, _, extracted, normalized⟩ := prepareWith_eq_ok_iff.mp prepared
  obtain ⟨_, _, ⟨_, ⟨_, _, _, _, _, _, deadlines, _⟩, _⟩, _⟩ := Inputs.plan_eq_ok_iff.mp planned
  obtain ⟨fields, frozen, reads⟩ := normalizeRequest_eq_ok_iff.mp normalized
  obtain ⟨limits, frozenPolicy, readsPolicy⟩ := validatePolicy_eq_ok_iff.mp passed
  obtain ⟨scope, frozenContext, readsContext⟩ := validateContext_eq_ok_iff.mp current
  simp only [validateDeadlinesWith, checkDeadlineWith, bind_eq_ok_iff, check_eq_ok_iff, exists_const,
    Bool.and_eq_true, decide_eq_true_iff] at deadlines
  obtain ⟨_, _, _, _, _, _, _, _, asked, _, held, _, limited, _⟩ := deadlines
  refine ⟨inputs, extracted, ?_⟩
  simp only [List.forall_mem_cons]
  refine ⟨⟨fields, frozen, fun _ _ _ => ?_⟩, ⟨limits, frozenPolicy, fun name mem given => ?_⟩,
    ⟨scope, frozenContext, fun _ _ _ => ?_⟩, List.forall_mem_nil _⟩
  · exact ⟨(_, _), ⟨utc_of_parsed reads.expiresAtUtc, _, reads.expiresMonotonicNs⟩, asked.1.2,
      checkPairedWith_near asked.2⟩
  · obtain ⟨deadline, same, inside⟩ := readsPolicy.deadlineIn mem given
    simp only [same, checkPolicyDeadlineWith, bind_eq_ok_iff, check_eq_ok_iff, exists_const,
      Bool.and_eq_true, decide_eq_true_iff] at limited
    exact ⟨deadline, inside, limited.1.2, checkPairedWith_near limited.2⟩
  · exact ⟨(_, _), ⟨utc_of_parsed readsContext.expiresAtUtc, _, readsContext.expiresMonotonicNs⟩,
      held.1.2, checkPairedWith_near held.2⟩

end BtApiCtp.ClosePlan
