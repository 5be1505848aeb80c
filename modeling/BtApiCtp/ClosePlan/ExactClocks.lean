/-
# ClosePlan.ExactClocks -- deadlines by two clocks

The planner compares the times that two clocks give to a deadline, with `float` arithmetic.
With exact numbers in its place, the clocks of each deadline agree to a microsecond, and so do the
earliest times by either clock, whichever deadlines these belong to
(`EvidenceMeta.Admits.earliest`).
-/
import BtApiCtp.ClosePlan.RowOrder
import Mathlib.Algebra.Order.Field.Basic
import Mathlib.Algebra.Order.Group.MinMax
import Mathlib.Algebra.Order.Group.Unbundled.Int
import Mathlib.Tactic.Linarith
import Mathlib.Tactic.Ring

namespace BtApiCtp.ClosePlan

open Theory Python

variable {u : Unit} {utc mono : Int} {platform : Platform} {evidence nowUtc monotonicNow : Value}
  {context : Context} {source : EvidenceMeta} {inputs : Inputs} {plan : CtpClosePlan}
  {request : Request} {policy : Policy} {time first now nowMono : Int} {others : List Int}
  {terms : Terms} {requestSha : String}

/-! ## Exact numbers -/

/-- Microseconds of UTC and nanoseconds of the monotonic clock, the same time to a microsecond. -/
def Paired (utcDelta monoDelta : Int) : Prop := |1000 * utcDelta - monoDelta| ≤ 1000

theorem microsecondWith_some : microsecondWith some = 1 / 1000000 := rfl

theorem apartWith_some (x y : ℚ) : apartWith some x y = decide (1 / 1000000 < |x - y|) := by
  simp only [apartWith, microsecondWith_some]
  congr 2
  split
  · rename_i negative
    rw [abs_of_neg negative]
  · rename_i positive
    rw [abs_of_nonneg (not_lt.mp positive)]

theorem not_apart_iff (utcDelta monoDelta : Int) :
    (!apartWith some (utcDelta / 1000000) (monoDelta / 1000000000)) = true ↔
      Paired utcDelta monoDelta := by
  have scaled : (utcDelta / 1000000 - monoDelta / 1000000000 : ℚ) =
      ((1000 * utcDelta - monoDelta : Int) : ℚ) / 1000000000 := by
    push_cast
    ring
  rw [apartWith_some, Bool.not_eq_true', decide_eq_false_iff_not, not_lt, scaled, abs_div,
    ← Int.cast_abs, Paired]
  rw [abs_of_pos (by norm_num : (0 : ℚ) < 1000000000), div_le_iff₀ (by norm_num)]
  norm_num
  exact_mod_cast Iff.rfl

theorem checkPairedWith_eq_ok_iff {utcDelta monoDelta : Int} {message : String} :
    checkPairedWith some utcDelta monoDelta message = .ok u ↔ Paired utcDelta monoDelta := by
  rw [← not_apart_iff]
  exact check_eq_ok_iff

theorem Paired.min {utc' mono' : Int} (paired : Paired utc mono) (paired' : Paired utc' mono') :
    Paired (min utc utc') (min mono mono') := by
  unfold Paired at *
  rw [abs_le] at *
  omega

/-! ## The times of a query -/

/-- What the two clocks say of a query that passed. -/
structure EvidenceMeta.Dated (source : EvidenceMeta) : Prop where
  open_ : source.completedAtUtc < source.expiresAtUtc ∧
    source.completedMonotonicNs < source.expiresMonotonicNs
  paired : Paired (source.expiresAtUtc - source.completedAtUtc)
    (source.expiresMonotonicNs - source.completedMonotonicNs)
  short : source.expiresAtUtc - source.completedAtUtc ≤ 5000001

theorem within_bound_iff (utcDelta : Int) :
    decide ((utcDelta / 1000000 : ℚ) ≤ maxSourceTtlSeconds + microsecondWith some) = true ↔
      utcDelta ≤ 5000001 := by
  have bound : (maxSourceTtlSeconds + microsecondWith some : ℚ) = 5000001 / 1000000 := by
    rw [microsecondWith_some, maxSourceTtlSeconds]
    norm_num
  rw [bound, decide_eq_true_iff, div_le_div_iff_of_pos_right (by norm_num)]
  exact_mod_cast Iff.rfl

theorem queryTimesWith_dated {requestId : Int}
    (came : queryTimesWith some platform evidence context requestId = .ok source) :
    source.Dated := by
  simp only [queryTimesWith, bind_eq_ok_iff, check_eq_ok_iff, exists_const, pure_eq_ok_iff] at came
  obtain ⟨completed, _, expiry, _, _, completedUtc, _, expiresUtc, _, completedMono, _, expiresMono,
    _, domain, _, _, ordered, ⟨utcTtl, monoTtl⟩, ttl, apart, bound, bounded, short, rfl⟩ := came
  cases ttl
  cases bounded
  rw [Bool.and_eq_true, decide_eq_true_iff, decide_eq_true_iff] at ordered
  exact ⟨ordered, (not_apart_iff _ _).mp apart, (within_bound_iff _).mp short⟩

theorem extractEvidenceWith_dated {holdings : Holdings context.tradingDay}
    (came : extractEvidenceWith some platform evidence context = .ok (source, holdings)) :
    source.Dated := by
  obtain ⟨_, _, _, ⟨_, _, _, _, _, timed, _⟩, _⟩ := extractEvidence_eq_ok_iff.mp came
  exact queryTimesWith_dated timed

theorem prepareWith_dated {request policy currentContext : Value}
    (came : prepareWith some platform evidence request policy currentContext = .ok inputs) :
    inputs.source.Dated :=
  extractEvidenceWith_dated (prepareWith_eq_ok_iff.mp came).2.2.2.1

/-! ## The effective deadline -/

/-- The deadlines that are set beside the source's own, by both clocks. -/
def setDeadlines (request : Request) (context : Context) (policy : Policy) : List (Int × Int) :=
  (request.expiresAtUtc, request.expiresMonotonicNs) ::
    (context.expiresAtUtc, context.expiresMonotonicNs) :: policy.deadline.toList

theorem map_setDeadlines (f : Int × Int → Int) :
    [f (request.expiresAtUtc, request.expiresMonotonicNs),
        f (context.expiresAtUtc, context.expiresMonotonicNs)] ++ (policy.deadline.map f).toList =
      (setDeadlines request context policy).map f := by
  unfold setDeadlines
  cases policy.deadline <;> rfl

theorem lt_earliest_iff :
    time < earliest first others ↔ time < first ∧ ∀ other ∈ others, time < other := by
  unfold earliest
  induction others generalizing first with
  | nil => simp
  | cons other others ih => rw [List.foldl_cons, ih, lt_min_iff, List.forall_mem_cons, and_assoc]

theorem earliest_le (mem : time ∈ first :: others) : earliest first others ≤ time := by
  by_contra later
  have bounds := lt_earliest_iff.mp (not_le.mp later)
  exact lt_irrefl time (List.forall_mem_cons.mpr bounds time mem)

theorem earliest_mem (first : Int) (others : List Int) :
    earliest first others ∈ first :: others := by
  unfold earliest
  induction others generalizing first with
  | nil => exact List.mem_cons_self
  | cons other others ih =>
    rcases min_choice first other with same | same
    · rcases List.mem_cons.mp (ih (min first other)) with here | later
      · exact List.mem_cons.mpr (.inl (here.trans same))
      · exact List.mem_cons_of_mem _ (List.mem_cons_of_mem _ later)
    · rcases List.mem_cons.mp (ih (min first other)) with here | later
      · exact List.mem_cons_of_mem _ (List.mem_cons.mpr (.inl (here.trans same)))
      · exact List.mem_cons_of_mem _ (List.mem_cons_of_mem _ later)

theorem earliest_isLeast (first : Int) (others : List Int) :
    IsLeast {time | time ∈ first :: others} (earliest first others) :=
  ⟨earliest_mem first others, fun _ mem => earliest_le mem⟩

/-- A deadline that is still ahead when the query completes, by both clocks alike. -/
structure EvidenceMeta.Admits (source : EvidenceMeta) (deadline : Int × Int) : Prop where
  ahead : source.completedAtUtc < deadline.1 ∧ source.completedMonotonicNs < deadline.2
  paired : Paired (deadline.1 - source.completedAtUtc) (deadline.2 - source.completedMonotonicNs)

theorem EvidenceMeta.Dated.admits (dated : source.Dated) :
    source.Admits (source.expiresAtUtc, source.expiresMonotonicNs) :=
  ⟨dated.open_, dated.paired⟩

/-- Each clock has its own earliest deadline, and the two stay together. -/
theorem EvidenceMeta.Admits.earliest {first : Int × Int} {others : List (Int × Int)}
    (start : source.Admits first) (all : ∀ other ∈ others, source.Admits other) :
    source.Admits
      (earliest first.1 (others.map Prod.fst), earliest first.2 (others.map Prod.snd)) := by
  unfold ClosePlan.earliest
  induction others generalizing first with
  | nil => exact start
  | cons other others ih =>
    rw [List.forall_mem_cons] at all
    have both : source.Admits (min first.1 other.1, min first.2 other.2) := by
      refine ⟨⟨lt_min start.ahead.1 all.1.ahead.1, lt_min start.ahead.2 all.1.ahead.2⟩, ?_⟩
      rw [← min_sub_sub_right, ← min_sub_sub_right]
      exact start.paired.min all.1.paired
    exact ih both all.2

/-- The checks of `_validate_deadlines`, with exact numbers. -/
structure Timed (platform : Platform) (source : EvidenceMeta) (request : Request)
    (context : Context) (policy : Policy) (nowUtc monotonicNow : Value) (now nowMono : Int) :
    Prop where
  utc : parseUtc platform (some nowUtc) "validation now" "O3B_CLOCK_INVALID" = .ok now
  mono : clockNs monotonicNow "validation monotonic" true = .ok nowMono
  completed : source.completedAtUtc ≤ now ∧ source.completedMonotonicNs ≤ nowMono
  normalized : (policy.material.get "expires_at_utc").isSome =
    (policy.material.get "expires_monotonic_ns").isSome
  admitted : ∀ deadline ∈ setDeadlines request context policy, source.Admits deadline
  ahead : ∀ deadline ∈ (source.expiresAtUtc, source.expiresMonotonicNs) ::
    setDeadlines request context policy, now < deadline.1 ∧ nowMono < deadline.2

/-- The earliest deadline by each clock. -/
def effective (source : EvidenceMeta) (deadlines : List (Int × Int)) : Int × Int :=
  (earliest source.expiresAtUtc (deadlines.map Prod.fst),
    earliest source.expiresMonotonicNs (deadlines.map Prod.snd))

theorem checkDeadlineWith_eq_ok_iff {label : String} :
    checkDeadlineWith some source label utc mono = .ok u ↔ source.Admits (utc, mono) := by
  simp only [checkDeadlineWith, bind_eq_ok_iff, check_eq_ok_iff, exists_const,
    checkPairedWith_eq_ok_iff, Bool.and_eq_true, decide_eq_true_iff]
  exact ⟨fun passed => ⟨passed.1, passed.2⟩, fun admits => ⟨admits.1, admits.2⟩⟩

theorem checkPolicyDeadlineWith_eq_ok_iff {deadline : Option (Int × Int)} :
    checkPolicyDeadlineWith some source deadline = .ok u ↔
      ∀ given ∈ deadline.toList, source.Admits given := by
  cases deadline with
  | none => simp [checkPolicyDeadlineWith]
  | some given =>
    simp only [checkPolicyDeadlineWith, bind_eq_ok_iff, check_eq_ok_iff, exists_const,
      checkPairedWith_eq_ok_iff, Bool.and_eq_true, decide_eq_true_iff, Option.toList_some,
      List.forall_mem_singleton]
    exact ⟨fun passed => ⟨passed.1, passed.2⟩, fun admits => ⟨admits.1, admits.2⟩⟩

/-- With a source whose clocks agree, the deadlines need only pass one by one. -/
theorem validateDeadlinesWith_eq_ok_iff (dated : source.Dated) :
    validateDeadlinesWith some platform source request context policy nowUtc monotonicNow =
        .ok (utc, mono, now, nowMono) ↔
      Timed platform source request context policy nowUtc monotonicNow now nowMono ∧
        (utc, mono) = effective source (setDeadlines request context policy) := by
  have utcs : [request.expiresAtUtc, context.expiresAtUtc] ++ (policy.deadline.map Prod.fst).toList =
      (setDeadlines request context policy).map Prod.fst := map_setDeadlines Prod.fst
  have monos : [request.expiresMonotonicNs, context.expiresMonotonicNs] ++
      (policy.deadline.map Prod.snd).toList =
      (setDeadlines request context policy).map Prod.snd := map_setDeadlines Prod.snd
  simp only [validateDeadlinesWith, bind_eq_ok_iff, check_eq_ok_iff, policyCheck, exists_const,
    pure_eq_ok_iff, checkDeadlineWith_eq_ok_iff, checkPolicyDeadlineWith_eq_ok_iff, utcs, monos,
    checkPairedWith_eq_ok_iff, Bool.and_eq_true, decide_eq_true_iff, beq_iff_eq, lt_earliest_iff,
    Prod.mk.injEq]
  constructor
  · rintro ⟨_, parsed, _, clocked, completed, normalized, asked, current, limited, _, _, ahead, rfl,
      rfl, rfl, rfl⟩
    refine ⟨⟨parsed, clocked, completed, normalized, ?_, ?_⟩, rfl⟩
    · exact List.forall_mem_cons.mpr ⟨asked, List.forall_mem_cons.mpr ⟨current, limited⟩⟩
    · simp only [List.forall_mem_map] at ahead
      exact List.forall_mem_cons.mpr ⟨⟨ahead.1.1, ahead.2.1⟩, fun deadline mem =>
        ⟨ahead.1.2 deadline mem, ahead.2.2 deadline mem⟩⟩
  · rintro ⟨timed, rfl, rfl⟩
    have least := dated.admits.earliest timed.admitted
    have admitted := timed.admitted
    simp only [setDeadlines, List.forall_mem_cons] at admitted
    have ahead := timed.ahead
    rw [List.forall_mem_cons] at ahead
    simp only [List.forall_mem_map]
    exact ⟨now, timed.utc, nowMono, timed.mono, timed.completed, timed.normalized, admitted.1,
      admitted.2.1, admitted.2.2,
      ⟨⟨dated.open_.1, fun deadline mem => (timed.admitted deadline mem).ahead.1⟩,
        dated.open_.2, fun deadline mem => (timed.admitted deadline mem).ahead.2⟩, least.paired,
      ⟨⟨ahead.1.1, fun deadline mem => (ahead.2 deadline mem).1⟩, ahead.1.2,
        fun deadline mem => (ahead.2 deadline mem).2⟩, trivial, trivial, rfl, rfl⟩

/-! ## Plans -/

/-- All deadlines of a plan, by both clocks. -/
def Inputs.deadlines (inputs : Inputs) : List (Int × Int) :=
  (inputs.source.expiresAtUtc, inputs.source.expiresMonotonicNs) ::
    setDeadlines inputs.request inputs.context inputs.policy

/-- When a plan expires, and what that has to do with the query and the time. -/
structure Expires (inputs : Inputs) (plan : CtpClosePlan) (now nowMono utc mono : Int) : Prop where
  stated : plan.effectiveExpiry =
    [("expires_at_utc", .str (isoUtc utc)), ("expires_monotonic_ns", .int mono)]
  leastUtc : IsLeast {time | time ∈ inputs.deadlines.map Prod.fst} utc
  leastMono : IsLeast {time | time ∈ inputs.deadlines.map Prod.snd} mono
  completed : inputs.source.completedAtUtc ≤ now ∧ inputs.source.completedMonotonicNs ≤ nowMono
  ahead : now < utc ∧ nowMono < mono
  paired : Paired (utc - inputs.source.completedAtUtc) (mono - inputs.source.completedMonotonicNs)
  shortUtc : utc - inputs.source.completedAtUtc ≤ 5000001
  shortMono : mono - inputs.source.completedMonotonicNs ≤ 5000002000

abbrev Inputs.effective (inputs : Inputs) : Int × Int :=
  ClosePlan.effective inputs.source (setDeadlines inputs.request inputs.context inputs.policy)

theorem Inputs.effective_isLeast (inputs : Inputs) :
    IsLeast {time | time ∈ inputs.deadlines.map Prod.fst} inputs.effective.1 ∧
      IsLeast {time | time ∈ inputs.deadlines.map Prod.snd} inputs.effective.2 :=
  ⟨earliest_isLeast _ _, earliest_isLeast _ _⟩

theorem Cleared.expires (dated : inputs.source.Dated)
    (cleared : Cleared some inputs platform nowUtc monotonicNow terms requestSha)
    (allocated : inputs.allocate platform terms requestSha = .ok plan) :
    ∃ now nowMono utc mono, Timed platform inputs.source inputs.request inputs.context inputs.policy
      nowUtc monotonicNow now nowMono ∧ Expires inputs plan now nowMono utc mono := by
  obtain ⟨_, _, now, nowMono, policySha, version, deadlines, _, _, rfl⟩ := cleared.agreed
  obtain ⟨timed, same⟩ := (validateDeadlinesWith_eq_ok_iff dated).mp deadlines
  cases same
  have admits : inputs.source.Admits inputs.effective := dated.admits.earliest timed.admitted
  have least := inputs.effective_isLeast
  have stated : plan.effectiveExpiry = [("expires_at_utc", .str (isoUtc inputs.effective.1)),
      ("expires_monotonic_ns", .int inputs.effective.2)] := by
    obtain ⟨parts, _, _, sealed_⟩ := Inputs.allocate_eq_ok_iff.mp allocated
    simp only [sealPlan, bind_eq_ok_iff, pure_eq_ok_iff] at sealed_
    obtain ⟨planSha, _, rfl⟩ := sealed_
    rfl
  generalize inputs.effective = soonest at *
  obtain ⟨utc, mono⟩ := soonest
  have short := dated.short
  have paired := abs_le.mp admits.paired
  have soon : utc ≤ inputs.source.expiresAtUtc := least.1.2 List.mem_cons_self
  obtain ⟨inUtc, inMono⟩ := And.intro least.1.1 least.2.1
  obtain ⟨first, among, rfl⟩ := List.mem_map.mp inUtc
  obtain ⟨second, among', rfl⟩ := List.mem_map.mp inMono
  refine ⟨now, nowMono, _, _, timed, stated, least.1, least.2, timed.completed,
    ⟨(timed.ahead first among).1, (timed.ahead second among').2⟩, admits.paired, ?_, ?_⟩
  · omega
  · dsimp only at paired
    omega

end BtApiCtp.ClosePlan
