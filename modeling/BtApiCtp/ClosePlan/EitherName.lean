/-
# ClosePlan.EitherName -- the names that matter

`plan_under_either_name` says when an input with a field under either of its names gives the same
plan, or none under both:

* always, for the names that are resolved (`Aliased`);
* only if no plan is built anyway, for the `version` of a policy, which the planner needs under
  that name, and for seconds as an `int` and as the equal `float`: the `int` counts nanoseconds, and
  no two times so far apart pass;
* only if the digests agree, or no plan is built anyway, for the time of a request, whose seconds
  are hashed.
-/
import BtApiCtp.ClosePlan.Aliases
import Mathlib.Tactic.NormNum

namespace BtApiCtp.ClosePlan

open Theory Python

variable {platform : Platform} {given : Value} {names : List String} {name old new : String}
  {value value' : Value} {time : Int} {fields others : Fields}

/-! ## The names that matter -/

section Plans

variable {evidence request policy currentContext nowUtc monotonicNow : Value} {plan : CtpClosePlan}
  (built : buildCtpClosePlan platform evidence request policy currentContext nowUtc monotonicNow =
    .ok plan)
include built

end Plans

/-! ## Whole seconds -/

variable {evidence other : Value} {n : Int} {nsNames secondsNames : List String}
  {source source' : EvidenceMeta}

/-- A time in seconds before as an `int` and after as the equal `float`, whose decimal may be
rounded.  A query may be completed at zero, which is one time as both. -/
structure WholeSeconds (nsNames secondsNames : List String) (n : Int) (given other : Value) :
    Prop where
  nonzero : nsNames = completedNsNames → n ≠ 0
  rewritten : ∃ name, ∃ shortest : ℚ, ∃ text time, n ≤ 2 * shortest ∧
    OneName nsNames secondsNames n name (.int n) given ∧
    OneName nsNames secondsNames time name (.float (.finite n) shortest text) other ∧
    ∀ key, key ≠ name → getField other key = getField given key

namespace WholeSeconds

variable (whole : WholeSeconds nsNames secondsNames n given other)
include whole

/-- The `int` is another time than the `float`. -/
theorem clocks (distinct : (nsNames ++ secondsNames).Nodup) {label label' : String} {mono mono' : Int}
    (before : clockFrom given nsNames secondsNames label = .ok mono)
    (after : clockFrom other nsNames secondsNames label' = .ok mono') :
    mono = n ∧ 0 ≤ n ∧ 500000000 * n ≤ mono' := by
  obtain ⟨_, name, shortest, text, time, near, one, one', _⟩ := whole
  obtain ⟨nonneg, rfl⟩ := (one.clockFrom_iff distinct label mono).mp before
  obtain ⟨_, rfl⟩ := (one'.clockFrom_iff distinct label' mono').mp after
  refine ⟨rfl, nonneg, ?_⟩
  cases one'.tells with
  | seconds _ same _ =>
    have scaled : (500000000 * mono : ℚ) ≤ mono' := by linarith
    exact_mod_cast scaled

theorem read (kept : ∀ name ∈ names, name ∉ nsNames ++ secondsNames) :
    ClosePlan.read other names = ClosePlan.read given names := by
  obtain ⟨_, name, _, _, _, _, before, _, fields⟩ := whole
  exact read_congr fun key among => fields key fun same => kept key among (same ▸ before.tells.mem)

theorem frozen (frozen : Frozen given fields) (frozen' : Frozen other others) :
    WholeSeconds nsNames secondsNames n fields.toValue others.toValue := by
  obtain ⟨nonzero, name, shortest, text, time, near, before, after, kept⟩ := whole
  refine ⟨nonzero, name, shortest, text, time, near, before.frozen frozen, after.frozen frozen',
    fun key apart => ?_⟩
  rw [getField_toValue, getField_toValue, frozen.get, frozen'.get, kept key apart]

end WholeSeconds

/-- The decimal of a `float` has its sign, so that no time of completion is negative. -/
def Signed (evidence : Value) : Prop :=
  ∀ label mono, clockFrom evidence completedNsNames completedSecondsNames label = .ok mono → 0 ≤ mono

/-- No deadline passes as both. -/
theorem WholeSeconds.not_both_meet (signed : Signed evidence)
    (whole : WholeSeconds ["expires_monotonic_ns"] ["expires_monotonic"] n given other)
    (times : source.Times platform evidence) (times' : source'.Times platform evidence)
    (before : source.Meets platform given) (after : source'.Meets platform other) : False := by
  obtain ⟨fields, frozen, met⟩ := before
  obtain ⟨others, frozen', met'⟩ := after
  have inside := whole.frozen frozen frozen'
  have kept := inside.read (by decide : ∀ name ∈ ["expires_at_utc"], name ∉ _)
  obtain ⟨_, name, _, _, _, _, one, one', _⟩ := inside
  have mem := (by decide : ["expires_monotonic_ns"] ++ ["expires_monotonic"] ⊆ deadlineNames)
    one.tells.mem
  have found := one.found
  have found' := one'.found
  rw [getField_toValue] at found found'
  obtain ⟨deadline, ⟨⟨item, utc, parsed⟩, label, clocked⟩, ahead, x, near⟩ :=
    met name mem (by simp [found])
  obtain ⟨deadline', ⟨⟨item', utc', parsed'⟩, label', clocked'⟩, ahead', x', near'⟩ :=
    met' name mem (by simp [found'])
  rw [read_toValue, read_toValue, utc, utc'] at kept
  cases kept
  rw [← clockFrom_toValue] at clocked clocked'
  obtain ⟨same, positive, long⟩ := (whole.frozen frozen frozen').clocks (by decide) clocked clocked'
  have completed := signed _ _ times.completed
  rw [(times.sameUtc times' fun _ _ => rfl).1, Option.some.inj (parsed'.symm.trans parsed),
    Except.ok.inj (times'.completed.symm.trans times.completed)] at near'
  exact near.not_both (by omega) (by omega) (by omega) near'

/-- No query passes with both. -/
theorem EvidenceClock.not_both (clock : EvidenceClock nsNames secondsNames) (signed : Signed evidence)
    (whole : WholeSeconds nsNames secondsNames n evidence other)
    (times : source.Times platform evidence) (times' : source'.Times platform other) : False := by
  have utc := times.sameUtc times' fun names mem => whole.read (by
    cases clock <;> revert names <;> decide)
  obtain ⟨x, small, near⟩ := times.near
  obtain ⟨x', small', near'⟩ := times'.near
  rw [utc.1, utc.2] at near'
  have ordered := times.ordered
  have ordered' := times'.ordered
  cases clock with
  | completed =>
    obtain ⟨same, _, long⟩ := whole.clocks (by decide) times.completed times'.completed
    have nonzero := whole.nonzero rfl
    have kept := times'.expires
    rw [clockFrom_eq_of_read (whole.read (by decide)) (whole.read (by decide)), times.expires,
      Except.ok.injEq] at kept
    have bound := near'.le (by omega) small'
    exact near'.not_both (by omega) (by omega) (by omega) near
  | expires =>
    obtain ⟨same, positive, long⟩ := whole.clocks (by decide) times.expires times'.expires
    have kept := times'.completed
    rw [clockFrom_eq_of_read (whole.read (by decide)) (whole.read (by decide)), times.completed,
      Except.ok.injEq] at kept
    have completed := signed _ _ times.completed
    exact near.not_both (by omega) (by omega) (by omega) near'

/-- A number of seconds in the inputs before as `int` and after as the equal `float`. -/
inductive Rewritten (evidence : Value) (submission : Submission) : Value → Submission → Prop
  | request {n : Int} {request : Value} (whole : WholeSeconds ["expires_monotonic_ns"]
      ["expires_monotonic"] n submission.request request) :
      Rewritten evidence submission evidence { submission with request }
  | clock {n : Int} {given given' other : Value} {submission' : Submission}
      {nsNames secondsNames : List String}
      (place : ClockAt evidence submission nsNames secondsNames given given' other submission')
      (whole : WholeSeconds nsNames secondsNames n given given') :
      Rewritten evidence submission other submission'

/-- No plan is built from both. -/
theorem Rewritten.not_both {submission submission' : Submission} {nowUtc monotonicNow : Value}
    {plan plan' : CtpClosePlan} (signed : Signed evidence)
    (rewritten : Rewritten evidence submission other submission')
    (built : submission.build platform evidence nowUtc monotonicNow = .ok plan) :
    submission'.build platform other nowUtc monotonicNow ≠ .ok plan' := by
  intro built'
  obtain ⟨inputs, extracted, meets⟩ := deadlines_of_plan built
  obtain ⟨inputs', extracted', meets'⟩ := deadlines_of_plan built'
  have times := times_of_accepted extracted
  have times' := times_of_accepted extracted'
  cases rewritten with
  | request whole =>
    exact whole.not_both_meet signed times times' (meets _ (by simp)) (meets' _ (by simp))
  | clock place whole =>
    cases place with
    | policy | context =>
      exact whole.not_both_meet signed times times' (meets _ (by simp)) (meets' _ (by simp))
    | evidence clock => exact clock.not_both signed whole times times'
    | envelope enclosed =>
      -- the completion time of the envelope is the evidence's, which stays
      obtain ⟨_, _, changed⟩ := enclosed.changed
      have kept := times'.completed
      rw [(changed.sameReads (by decide)).completed, times.completed, Except.ok.injEq] at kept
      obtain ⟨nonzero, _, _, _, _, _, before, after, _⟩ := id whole
      have own := enclosed.completed before extracted
      have own' := enclosed.symm.completed after extracted'
      obtain ⟨_, positive, long⟩ := whole.clocks (by decide)
        ((before.clockFrom_iff (by decide) "" _).mpr ⟨own.1, rfl⟩)
        ((after.clockFrom_iff (by decide) "" _).mpr ⟨own'.1, rfl⟩)
      have := nonzero rfl
      omega

/-- Any number of fields under another of their names. -/
abbrev AliasedAll : Value × Submission → Value × Submission → Prop :=
  Relation.ReflTransGen fun first second => Aliased first.1 first.2 second.1 second.2

theorem AliasedAll.plan {first last : Value × Submission} {nowUtc monotonicNow : Value}
    {plan : CtpClosePlan} (all : AliasedAll first last) :
    first.2.build platform first.1 nowUtc monotonicNow = .ok plan ↔
      last.2.build platform last.1 nowUtc monotonicNow = .ok plan := by
  induction all with
  | refl => rfl
  | tail _ step ih => exact ih.trans ⟨step.plan, step.symm.plan⟩

end BtApiCtp.ClosePlan
