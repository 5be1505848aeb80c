/-
# ClosePlan.Stages -- a plan is built in two stages

`build_ctp_close_plan` first reads its four inputs one by one (`prepare`) and then allocates the
legs of the request to the rows of the evidence (`Inputs.plan`).  `plan_eq_ok_iff` says everything
that the second stage checks, and the results on plans are stated on what the first stage
leaves.
-/
import BtApiCtp.ClosePlan.Allocation

namespace BtApiCtp.ClosePlan

open Theory Python

variable {platform : Platform} {inputs : Inputs}
  {evidence request policy currentContext nowUtc monotonicNow : Value}

/-- Every input passed by itself, and two of them agree. -/
theorem prepareWith_eq_ok_iff {round : ℚ → Option ℚ} :
    prepareWith round platform evidence request policy currentContext = .ok inputs ↔
      validateContext platform evidence currentContext = .ok inputs.context ∧
        validatePolicy platform policy = .ok inputs.policy ∧
        inputs.context.nativeProfile = inputs.policy.nativeProfile ∧
        extractEvidenceWith round platform evidence inputs.context =
          .ok (inputs.source, inputs.holdings) ∧
        normalizeRequest platform request = .ok inputs.request := by
  simp only [prepareWith, bind_eq_ok_iff, pure_eq_ok_iff, scopeCheck, check_eq_ok_iff, beq_iff_eq,
    exists_const]
  constructor
  · rintro ⟨context, current, profile, passed, native, ⟨source, holdings⟩, extracted, wanted,
      normalized, rfl⟩
    exact ⟨current, passed, native, extracted, normalized⟩
  · rintro ⟨current, passed, native, extracted, normalized⟩
    exact ⟨_, current, _, passed, native, _, extracted, _, normalized, rfl⟩

/-- With inputs that passed, the outcome is that of the second stage. -/
theorem buildCtpClosePlan_of_prepare
    (prepared : prepare platform evidence request policy currentContext = .ok inputs) :
    buildCtpClosePlan platform evidence request policy currentContext nowUtc monotonicNow =
      inputs.plan platform nowUtc monotonicNow := by
  change (prepare platform evidence request policy currentContext >>= _) = _
  rw [prepared]
  rfl

/-- What the second stage finds before it allocates. -/
structure Cleared (round : ℚ → Option ℚ) (inputs : Inputs) (platform : Platform)
    (nowUtc monotonicNow : Value) (terms : Terms) (requestSha : String) : Prop where
  exchanges : ∀ leg ∈ inputs.request.legs.items, leg.exchangeId ∈ inputs.policy.exchanges
  agreed : ∃ effectiveUtc effectiveMono now nowMono policySha version,
    validateDeadlinesWith round platform inputs.source inputs.request inputs.context inputs.policy
      nowUtc monotonicNow = .ok (effectiveUtc, effectiveMono, now, nowMono) ∧
    policyDigest platform inputs.policy = .ok policySha ∧
    policyVersion inputs.policy = .ok version ∧
    terms = inputs.terms effectiveUtc effectiveMono policySha version
  digested : requestDigest platform inputs.request = .ok requestSha

theorem Inputs.plan_eq_ok_iff {round : ℚ → Option ℚ} {plan : CtpClosePlan} :
    inputs.planWith round platform nowUtc monotonicNow = .ok plan ↔
      ∃ terms requestSha, Cleared round inputs platform nowUtc monotonicNow terms requestSha ∧
        inputs.allocate platform terms requestSha = .ok plan := by
  simp only [Inputs.planWith, bind_eq_ok_iff, forM_eq_ok_iff, policyCheck, check_eq_ok_iff,
    List.contains_iff_mem, exists_const]
  constructor
  · rintro ⟨exchanges, ⟨utc, mono, now, nowMono⟩, deadlines, policySha, policy, requestSha,
      digested, version, versioned, allocated⟩
    exact ⟨_, requestSha, ⟨exchanges, ⟨utc, mono, now, nowMono, policySha, version, deadlines,
      policy, versioned, rfl⟩, digested⟩, allocated⟩
  · rintro ⟨_, requestSha, ⟨exchanges, ⟨utc, mono, now, nowMono, policySha, version, deadlines,
      policy, versioned, rfl⟩, digested⟩, allocated⟩
    exact ⟨exchanges, (utc, mono, now, nowMono), deadlines, policySha, policy, requestSha, digested,
      version, versioned, allocated⟩

theorem Inputs.allocate_eq_ok_iff {terms : Terms} {requestSha : String} {plan : CtpClosePlan} :
    inputs.allocate platform terms requestSha = .ok plan ↔ ∃ parts, List.Forall₂ (fun leg part =>
            legActions inputs.policy.rowModel terms inputs.holdings.rows leg = .ok part)
          inputs.request.legs.items parts ∧
        (!(parts.flatMap Prod.fst).isEmpty && (parts.flatMap Prod.fst).length ≤ maxActions) = true ∧
        sealPlan platform (unsealedPlan inputs.context inputs.source terms requestSha
          (parts.flatMap Prod.snd).eraseDups) (parts.flatMap Prod.fst) = .ok plan := by
  simp [Inputs.allocate, bind_eq_ok_iff, mapM_eq_ok_iff, check_eq_ok_iff]

end BtApiCtp.ClosePlan
