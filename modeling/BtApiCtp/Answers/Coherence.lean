/-
# Answers.Coherence -- whose callback the evidence quotes

The handlers write the name, error code and flags of every callback that they record, and
then decide which status stands.  `coherent_iff`: the evidence always quotes a callback that
speaks for its status, exactly when no callback on the way was overruled by the status that
stood before it.
-/
import BtApiCtp.Answers.Verdicts
import Mathlib.Data.List.Induction

namespace BtApiCtp.Answers

open Theory Session

variable {kind : Kind}

/-- The name, error code and flags of the evidence are those of a callback, among those that
came in for the request, that speaks for its status. -/
def Backed {kind : Kind} (past : List (Ledger kind × Event kind)) (key : RequestKey)
    (evidence : Evidence) : Prop :=
  ∃ before d entry, (before, Event.callback d) ∈ past ∧ d.current = true ∧
    before.target d.callback = some key ∧ before.entries.lookup key = some entry ∧
    evidence.status = (judge before.scope entry d.callback).status ∧
    evidence.evidenceSource = some d.callback.source ∧
    evidence.errorCode = (rspError d.callback.rspInfo).1 ∧
    evidence.callbackReceived = true ∧
    evidence.evidenceReceived = (judge before.scope entry d.callback).evidenceReceived

/-- No callback yet. -/
def Evidence.Awaiting (evidence : Evidence) : Prop :=
  evidence.status = .unknown ∧ evidence.evidenceSource = none ∧ evidence.errorCode = none ∧
    evidence.callbackReceived = false ∧ evidence.evidenceReceived = false

structure Coherent {kind : Kind} (past : List (Ledger kind × Event kind)) (key : RequestKey)
    (evidence : Evidence) : Prop where
  rejected : evidence.status = .rejected → ∃ code, evidence.errorCode = some code ∧ code ≠ 0
  accepted : evidence.status = .accepted → evidence.errorCode = some 0
  backed : evidence.Awaiting ∨ Backed past key evidence

/-- The callback is overruled by the status that stands, which its own name and code do not
speak for. -/
def Overruled {kind : Kind} (l : Ledger kind) : Event kind → Prop
  | .callback d => ∃ key old new, l.status key = some old ∧ l.verdict key d = some new ∧
      ((old = .rejected ∧ new = .accepted) ∨
        (old = .accepted ∧ new = .unknown ∧
          ¬ (d.callback.source = .response ∧ (rspError d.callback.rspInfo).1 = some 0)))
  | _ => False

section Coherence

variable {kind : Kind} {l : Ledger kind} {past past' : List (Ledger kind × Event kind)}
  {key : RequestKey} {evidence evidence' : Evidence} (cb : Callback kind)

theorem Coherent.mono (more : past ⊆ past') (coherent : Coherent past key evidence) :
    Coherent past' key evidence := by
  refine ⟨coherent.rejected, coherent.accepted, coherent.backed.imp_right ?_⟩
  rintro ⟨before, d, entry, member, rest⟩
  exact ⟨before, d, entry, more member, rest⟩

/-- A reason or a submit code says nothing about a callback. -/
theorem Coherent.congr (coherent : Coherent past key evidence)
    (status : evidence'.status = evidence.status)
    (source : evidence'.evidenceSource = evidence.evidenceSource)
    (code : evidence'.errorCode = evidence.errorCode)
    (came : evidence'.callbackReceived = evidence.callbackReceived)
    (counted : evidence'.evidenceReceived = evidence.evidenceReceived) :
    Coherent past key evidence' := by
  obtain ⟨rejected, accepted, backed⟩ := coherent
  rw [← status, ← code] at rejected accepted
  refine ⟨rejected, accepted, ?_⟩
  simpa only [Evidence.Awaiting, Backed, status, source, code, came, counted] using backed

/-- What a callback that decides says about its error code. -/
theorem judgeFitting_code :
    ((judgeFitting kind cb).status = .rejected →
      ∃ code, (rspError cb.rspInfo).1 = some code ∧ code ≠ 0) ∧
    ((judgeFitting kind cb).status = .accepted →
      (rspError cb.rspInfo).1 = some 0 ∧ cb.source = .response) := by
  unfold judgeFitting
  cases (rspError cb.rspInfo).1 with
  | none => simp
  | some code =>
    by_cases open_ : cb.source = .response ∧ cb.isLast ≠ some true
    · simp [open_]
    · by_cases zero : code = 0
      · cases source : cb.source <;> simp_all
      · simp [open_, zero]

/-- A callback that fits counts as evidence, whatever it says. -/
theorem judgeFitting_received :
    (judgeFitting kind cb).evidenceReceived = true := by
  unfold judgeFitting
  split
  · rfl
  · split
    · rfl
    · split
      · rfl
      · split <;> rfl

theorem judge_code (entry : Entry kind) (scope : Scope) (cb : Callback kind) :
    ((judge scope entry cb).status = .rejected →
      ∃ code, (rspError cb.rspInfo).1 = some code ∧ code ≠ 0) ∧
    ((judge scope entry cb).status = .accepted →
      (rspError cb.rspInfo).1 = some 0 ∧ cb.source = .response) := by
  by_cases fits : entry.Matches scope cb
  · rw [judge_of_matches fits]
    exact judgeFitting_code cb
  · rw [judge_of_not_matches fits]
    constructor <;> (intro decided; cases decided)

variable {entry entry' : Entry kind} {d : Delivery kind}

/-- The callback, if it was not overruled, is what the evidence rests on. -/
theorem coherent_record (current : d.current = true) (found : l.target d.callback = some key)
    (here : l.entries.lookup key = some entry)
    (recorded : entry.record l.scope d.callback d.now = some entry')
    (stands : entry'.evidence.status = (judge l.scope entry d.callback).status) :
    Coherent (past ++ [(l, .callback d)]) key entry'.evidence := by
  obtain ⟨-, -, -, -, -, -, source, came, counted, code, -⟩ := record_eq_some recorded
  obtain ⟨ofRejected, ofAccepted⟩ := judge_code entry l.scope d.callback
  refine ⟨fun rejected => ?_, fun accepted => ?_, .inr ⟨l, d, entry, by simp, current, found, here,
    stands, source, code, came, counted⟩⟩
  · rw [code]
    exact ofRejected (stands ▸ rejected)
  · rw [code]
    exact (ofAccepted (stands ▸ accepted)).1

/-- An acceptance that stands against an undecided response without error is the earlier
response over again. -/
theorem coherent_again (coherent : Coherent past key entry.evidence)
    (fits : entry.Matches l.scope d.callback)
    (recorded : entry.record l.scope d.callback d.now = some entry')
    (accepted : entry.evidence.status = .accepted)
    (undecided : (judgeFitting kind d.callback).status = .unknown)
    (source : d.callback.source = .response) (code : (rspError d.callback.rspInfo).1 = some 0) :
    Coherent past key entry'.evidence := by
  obtain ⟨-, -, -, -, -, -, source', came', counted', code', status'⟩ := record_eq_some recorded
  rw [judge_of_matches fits] at counted' status'
  have stays : entry'.evidence.status = .accepted := by
    rw [status', accepted, undecided]
    rfl
  obtain ⟨idle, -⟩ | ⟨before, d₀, entry₀, member, current, found, here, status, source₀, code₀,
    came, counted⟩ := coherent.backed
  · rw [accepted] at idle
    cases idle
  · -- the callback that the acceptance rested on has the same name, code and flags
    have fits₀ : entry₀.Matches before.scope d₀.callback := by
      by_contra stray
      rw [accepted, judge_of_not_matches stray] at status
      cases status
    have spoke := (judge_code _ _ d₀.callback).2 (status.symm.trans accepted)
    refine ⟨fun rejected => ?_, fun _ => code'.trans code, .inr ⟨before, d₀, entry₀, member,
      current, found, here, stays.trans (accepted.symm.trans status), ?_, ?_, came', ?_⟩⟩
    · rw [stays] at rejected
      cases rejected
    · rw [source', source, spoke.2]
    · rw [code', code, spoke.1]
    · rw [counted', judge_of_matches fits₀, judgeFitting_received, judgeFitting_received]

theorem not_coherent_overruled (fits : entry.Matches l.scope d.callback)
    (recorded : entry.record l.scope d.callback d.now = some entry')
    (overruled : (entry.evidence.status = .rejected ∧
        (judgeFitting kind d.callback).status = .accepted) ∨
      (entry.evidence.status = .accepted ∧ (judgeFitting kind d.callback).status = .unknown ∧
        ¬ (d.callback.source = .response ∧ (rspError d.callback.rspInfo).1 = some 0))) :
    ¬ Coherent past key entry'.evidence := by
  obtain ⟨-, -, -, -, -, -, source, came, -, code, status⟩ := record_eq_some recorded
  rw [judge_of_matches fits] at status
  rintro ⟨ofRejected, ofAccepted, backed⟩
  rcases overruled with ⟨rejected, accepts⟩ | ⟨accepted, undecided, other⟩
  · -- rejected, with the code of an acceptance
    have stays : entry'.evidence.status = .rejected := by
      rw [status, rejected, accepts]
      rfl
    obtain ⟨n, isN, nonzero⟩ := ofRejected stays
    rw [code, ((judgeFitting_code d.callback).2 accepts).1] at isN
    exact nonzero (Option.some.inj isN).symm
  · have stays : entry'.evidence.status = .accepted := by
      rw [status, accepted, undecided]
      rfl
    apply other
    refine ⟨?_, code ▸ ofAccepted stays⟩
    obtain ⟨-, -, -, idle, -⟩ | ⟨before, d₀, entry₀, -, -, -, -, status₀, source₀, -⟩ := backed
    · rw [came] at idle
      cases idle
    · have spoke := (judge_code _ _ d₀.callback).2 (status₀.symm.trans stays)
      rw [source, spoke.2] at source₀
      exact Option.some.inj source₀

/-- Overruled, at the request that the callback is about. -/
theorem overruled_iff (current : d.current = true) (found : l.target d.callback = some key)
    (here : l.entries.lookup key = some entry) :
    Overruled l (.callback d) ↔ entry.Matches l.scope d.callback ∧
      ((entry.evidence.status = .rejected ∧ (judgeFitting kind d.callback).status = .accepted) ∨
        (entry.evidence.status = .accepted ∧ (judgeFitting kind d.callback).status = .unknown ∧
          ¬ (d.callback.source = .response ∧ (rspError d.callback.rspInfo).1 = some 0))) := by
  constructor
  · rintro ⟨k, old, new, was, tells, kinds⟩
    by_cases same : key = k
    · subst same
      by_cases fits : entry.Matches l.scope d.callback
      · simp only [Ledger.verdict, current, found, here, fits, and_self, if_true,
          Option.bind_some, Option.some.injEq] at tells
        simp only [Ledger.status, here, Option.map_some, Option.some.injEq] at was
        rw [← was, ← tells] at kinds
        exact ⟨fits, kinds⟩
      · simp [Ledger.verdict, found, here, fits] at tells
    · simp [Ledger.verdict, found, same] at tells
  · rintro ⟨fits, kinds⟩
    exact ⟨key, _, _, by rw [Ledger.status, here, Option.map_some],
      by simp [Ledger.verdict, current, found, here, fits], kinds⟩

/-- The evidence that a callback leaves is coherent unless the callback was overruled. -/
theorem coherent_recorded_iff (coherent : Coherent past key entry.evidence)
    (current : d.current = true) (found : l.target d.callback = some key)
    (here : l.entries.lookup key = some entry)
    (recorded : entry.record l.scope d.callback d.now = some entry') :
    Coherent (past ++ [(l, .callback d)]) key entry'.evidence ↔ ¬ Overruled l (.callback d) := by
  obtain ⟨free, -, -, -, -, -, -, -, -, -, status⟩ := record_eq_some recorded
  rw [overruled_iff current found here]
  by_cases fits : entry.Matches l.scope d.callback
  · constructor
    · rintro kept ⟨-, kinds⟩
      exact not_coherent_overruled fits recorded kinds kept
    · intro plain
      rw [not_and] at plain
      obtain ⟨notRejected, notAccepted⟩ := not_or.mp (plain fits)
      rw [judge_of_matches fits, settle, if_neg notRejected] at status
      split at status
      · -- what stands is an acceptance, against a response that is the same again
        rename_i kept
        have again := not_not.mp fun other => notAccepted ⟨kept.1, kept.2, other⟩
        exact (coherent_again coherent fits recorded kept.1 kept.2 again.1 again.2).mono
          (List.subset_append_left _ _)
      · exact coherent_record current found here recorded
          (status.trans (by rw [judge_of_matches fits]))
  · -- it does not match: the request is open, and stays so
    have open_ := free.resolve_right fits
    refine iff_of_true (coherent_record current found here recorded ?_) fun both => fits both.1
    rw [status, open_, judge_of_not_matches fits]
    rfl

/-- All evidence of a history is coherent. -/
def AllCoherent (past : List (Ledger kind × Event kind)) (l : Ledger kind) : Prop :=
  ∀ key entry, l.entries.lookup key = some entry → Coherent past key entry.evidence

theorem AllCoherent.update (coherent : AllCoherent past l) (more : past ⊆ past')
    {f : Entry kind → Entry kind} (key : RequestKey)
    (kept : ∀ entry, l.entries.lookup key = some entry → Coherent past' key (f entry).evidence) :
    AllCoherent past' (l.update key f) := by
  intro k entry' here
  rw [Ledger.lookup_update] at here
  split at here
  · rename_i same
    obtain ⟨entry, before, rfl⟩ := Option.map_eq_some_iff.mp here
    rw [same] at before ⊢
    exact kept entry before
  · exact (coherent k entry' here).mono more

/-- One event keeps all evidence coherent unless it is a callback that is overruled. -/
theorem allCoherent_step_iff (coherent : AllCoherent past l) (event : Event kind) :
    AllCoherent (past ++ [(l, event)]) (l.step event) ↔ ¬ Overruled l event := by
  have more : past ⊆ past ++ [(l, event)] := List.subset_append_left _ _
  have still : AllCoherent (past ++ [(l, event)]) l := fun k entry here =>
    (coherent k entry here).mono more
  cases event with
  | submit requestId identity =>
    refine iff_of_true ?_ (by simp [Overruled])
    simp only [Ledger.step, Ledger.submit]
    split
    · split
      · exact still
      · intro k entry here
        simp only [Dict.lookup_insert_eq] at here
        split at here
        · cases here
          exact ⟨by simp, by simp, .inl ⟨rfl, rfl, rfl, rfl, rfl⟩⟩
        · exact still k entry here
    · exact still
  | withdraw key =>
    refine iff_of_true ?_ (by simp [Overruled])
    simp only [Ledger.step, Ledger.withdraw]
    split
    · split
      · intro k entry here
        simp only [Dict.lookup_erase_eq] at here
        split at here
        · cases here
        · exact still k entry here
      · exact still
    · exact still
  | raised key =>
    refine iff_of_true ?_ (by simp [Overruled])
    apply coherent.update more
    intro entry here
    split
    · exact (still key entry here).congr rfl rfl rfl rfl rfl
    · exact still key entry here
  | returned key submitCode =>
    refine iff_of_true ?_ (by simp [Overruled])
    apply coherent.update more
    intro entry here
    exact (still key entry here).congr rfl rfl rfl rfl rfl
  | orderReturn | session scope => exact iff_of_true still (by simp [Overruled])
  | callback d =>
    obtain ⟨same, silent⟩ | ⟨target, entry, entry', current, found, here, recorded, same⟩ :=
      l.deliver_cases d
    · refine iff_of_true ?_ ?_
      · change AllCoherent _ (l.deliver d)
        rcases same with same | same <;> rw [same] <;> exact still
      · rintro ⟨key, old, new, -, said, -⟩
        rw [silent key] at said
        cases said
    · change AllCoherent _ (l.deliver d) ↔ _
      rw [← coherent_recorded_iff (coherent target entry here) current found here recorded, same]
      constructor
      · intro all
        exact all target entry' (by simp [Ledger.lookup_update, here])
      · intro kept
        exact coherent.update more target fun _ _ => kept

end Coherence

theorem Ledger.run_append (l : Ledger kind) (events : List (Event kind)) (event : Event kind) :
    l.run (events ++ [event]) = (l.run events).step event := by
  simp [run]

theorem Ledger.steps_append (events : List (Event kind)) (event : Event kind) :
    ∀ l : Ledger kind, l.steps (events ++ [event]) = l.steps events ++ [(l.run events, event)] := by
  induction events with
  | nil =>
    intro l
    rfl
  | cons e events ih =>
    intro l
    simp [steps, ih, run]

/-- From a client that has sent nothing, through any events: all evidence is coherent all the
way, exactly when no callback on the way was overruled. -/
theorem coherent_iff (kind : Kind) (scope : Scope) (events : List (Event kind)) :
    (∀ seen, seen <+: events →
      AllCoherent (Ledger.steps ⟨scope, ∅, 0⟩ seen) (Ledger.run ⟨scope, ∅, 0⟩ seen)) ↔
    ∀ step ∈ Ledger.steps (⟨scope, ∅, 0⟩ : Ledger kind) events, ¬ Overruled step.1 step.2 := by
  induction events using List.reverseRecOn with
  | nil =>
    refine iff_of_true (fun seen before => ?_) (by simp [Ledger.steps])
    rw [List.prefix_nil.mp before]
    intro key entry here
    cases here
  | append_singleton events event ih =>
    simp only [List.prefix_concat_iff, or_imp, forall_and, forall_eq, Ledger.steps_append,
      List.mem_append, List.mem_singleton, ih]
    rw [and_comm]
    refine and_congr_right fun before => ?_
    have coherent := ih.mpr before events (List.prefix_refl events)
    rw [← allCoherent_step_iff coherent event, Ledger.run_append]

/-- A refused order that gets a response without error stays rejected, with the response's
error code of zero. -/
def acceptedAfterRefusal : List (Event .insert) :=
  [.submit 5 (sampleIdentity .insert),
    .callback (sampleCallback .insert .errorReturn (some 22)),
    .callback (sampleCallback .insert .response (some 0))]

theorem refusal_without_code :
    ∃ entry, (Ledger.run ⟨⟨"f1", 3, "20260917"⟩, ∅, 0⟩ acceptedAfterRefusal).entries.lookup
        (5, "1") = some entry ∧
      entry.evidence.status = .rejected ∧ entry.evidence.errorCode = some 0 ∧
      ¬ Coherent (Ledger.steps ⟨⟨"f1", 3, "20260917"⟩, ∅, 0⟩ acceptedAfterRefusal) (5, "1")
        entry.evidence := by
  refine ⟨_, rfl, rfl, rfl, fun coherent => ?_⟩
  obtain ⟨code, isZero, nonzero⟩ := coherent.rejected rfl
  cases isZero
  exact nonzero rfl

end BtApiCtp.Answers
