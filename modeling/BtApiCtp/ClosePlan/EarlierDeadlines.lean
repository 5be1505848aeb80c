/-
# ClosePlan.EarlierDeadlines -- an earlier deadline never helps

With exact numbers, a plan that is accepted with an earlier deadline is accepted with the later
one too: the later deadline is as well paired, it is further ahead, and what is left to check does
not look at deadlines, apart from digests that somebody claimed and from times with more digits
than the interpreter writes.
-/
import BtApiCtp.ClosePlan.Canonical
import BtApiCtp.ClosePlan.ExactClocks
import BtApiCtp.ClosePlan.Readings

namespace BtApiCtp.ClosePlan

open Theory Python

variable {platform : Platform} {micros : Nat}
  {value given moved evidence nowUtc monotonicNow request : Value} {utc mono n : Int}
  {entries : List (Key × Value)} {fields others material : Fields} {name sha : String} {context : Context}
  {policy : Policy} {part : List RawAction × List Offset} {plan : CtpClosePlan} {seconds : Bool}
  {key : Key} {field code label kind requestSha : String} {aliased : Fields} {source : EvidenceMeta}
  {terms : Terms} {actions : List RawAction} {deadline : Int × Int} {currentContext value' : Value}
  {inputs : Inputs} {wanted : Request}

/-! ## Moving a deadline -/

/-- The field that a deadline's monotonic time is in. -/
def clockName (seconds : Bool) : String :=
  if seconds then "expires_monotonic" else "expires_monotonic_ns"

/-- Two values for a moment of UTC, one earlier than the other. -/
def ShiftedUtc (platform : Platform) (micros : Nat) (given moved : Value) : Prop :=
  ∃ utc, readUtc platform given = some utc ∧ readUtc platform moved = some (utc - micros)

/-- Two values for a time of the monotonic clock. -/
def ShiftedMono (seconds : Bool) (micros : Nat) (given moved : Value) : Prop :=
  ∃ mono, readClock seconds given = some mono ∧ readClock seconds moved = some (mono - 1000 * micros)

/-- The value of a key before and after a deadline was moved by some microseconds. -/
structure MovedValue (platform : Platform) (micros : Nat) (key : Key) (given moved : Value) :
    Prop where
  other : (∀ name ∈ deadlineNames, key ≠ .str name) → given = moved
  utc : key = .str "expires_at_utc" → ShiftedUtc platform micros given moved
  mono : ∀ seconds, key = .str (clockName seconds) → ShiftedMono seconds micros given moved

def MovedEntry (platform : Platform) (micros : Nat) (given moved : Key × Value) : Prop :=
  given.1 = moved.1 ∧ MovedValue platform micros given.1 given.2 moved.2

/-- A mapping before and after its deadline was moved earlier by both clocks. -/
def Moved (platform : Platform) (micros : Nat) (given moved : Value) : Prop :=
  ∃ kind entries entries', given = .mapping kind entries ∧ moved = .mapping kind entries' ∧
    List.Forall₂ (MovedEntry platform micros) entries entries'

/-- The times of a deadline have no more digits than are written. -/
def Legible : Value → Prop
  | .mapping _ entries => ∀ seconds value mono, (.str (clockName seconds), value) ∈ entries →
      readClock seconds value = some mono → (intText mono).isSome = true
  | _ => True

/-! ## Frozen fields -/

theorem snapshot_of_readUtc (parsed : readUtc platform value = some utc) :
    snapshot value = .ok value := by
  cases value with
  | datetime moment => rfl
  | str text => rfl
  | _ => cases parsed

theorem snapshot_of_readClock (clocked : readClock seconds value = some mono) :
    snapshot value = .ok value := by
  cases value with
  | int n => rfl
  | float number shortest text => rfl
  | _ => cases clocked

/-- Only sequences and mappings change when they are frozen, and they are no times. -/
theorem eq_of_snapshot_clock (came : snapshot given = .ok value)
    (clocked : readClock seconds value = some mono) : given = value := by
  cases given with
  | list items | tuple items | mapping kind entries =>
    simp only [snapshot, bind_eq_ok_iff, pure_eq_ok_iff] at came
    obtain ⟨_, _, rfl⟩ := came
    cases clocked
  | _ => exact Except.ok.inj came

/-- A time in some field has no more digits than are written. -/
def LegibleAt (name : String) (value : Value) : Prop :=
  ∀ seconds mono, name = clockName seconds → readClock seconds value = some mono →
    (intText mono).isSome = true

/-- Frozen fields before and after, with times that are written out where that matters. -/
def MovedFields (platform : Platform) (legible : Prop) (micros : Nat) : Fields → Fields → Prop :=
  Alike fun name given moved => (legible → LegibleAt name given) ∧
    MovedValue platform micros (.str name) given moved

/-- A value that stays, or one of the two times of a deadline. -/
theorem MovedValue.cases (value : MovedValue platform micros key given moved) :
    ((∀ name ∈ deadlineNames, key ≠ .str name) ∧ given = moved) ∨
      (key = .str "expires_at_utc" ∧ ShiftedUtc platform micros given moved) ∨
      ∃ seconds, key = .str (clockName seconds) ∧ ShiftedMono seconds micros given moved := by
  by_cases apart : ∀ name ∈ deadlineNames, key ≠ .str name
  · exact .inl ⟨apart, value.other apart⟩
  · simp only [deadlineNames, List.forall_mem_cons, not_and_or, ne_eq, not_not] at apart
    rcases apart with utc | ns | seconds | none
    · exact .inr (.inl ⟨utc, value.utc utc⟩)
    · exact .inr (.inr ⟨false, ns, value.mono false ns⟩)
    · exact .inr (.inr ⟨true, seconds, value.mono true seconds⟩)
    · exact absurd (List.forall_mem_nil _) none

/-- A moved value is frozen like the one it stands for. -/
theorem MovedValue.snapshot {frozen : Value} (value : MovedValue platform micros key given moved)
    (came : ClosePlan.snapshot moved = .ok frozen) :
    ∃ frozen', ClosePlan.snapshot given = .ok frozen' ∧
      MovedValue platform micros key frozen' frozen := by
  rcases value.cases with ⟨apart, rfl⟩ | ⟨_, _, parsed, parsed'⟩ | ⟨_, _, _, clocked, clocked'⟩
  · refine ⟨frozen, came, fun _ => rfl, fun same => ?_, fun seconds same => ?_⟩
    · exact absurd same (apart _ (by decide))
    · exact absurd same (apart _ (by cases seconds <;> decide))
  · rw [snapshot_of_readUtc parsed'] at came
    cases came
    exact ⟨given, snapshot_of_readUtc parsed, value⟩
  · rw [snapshot_of_readClock clocked'] at came
    cases came
    exact ⟨given, snapshot_of_readClock clocked, value⟩

theorem freezes_moved {entries' : List (Key × Value)}
    (moved : List.Forall₂ (MovedEntry platform micros) entries entries')
    (frozen : List.Forall₂ Freezes entries' others) :
    ∃ fields, List.Forall₂ Freezes entries fields ∧
      Alike (fun name => MovedValue platform micros (.str name)) fields others := by
  induction moved generalizing others with
  | nil =>
    cases frozen
    exact ⟨[], .nil, .nil⟩
  | cons head _ ih =>
    obtain ⟨⟨name, value⟩, others, ⟨named, here⟩, there, rfl⟩ :=
      List.forall₂_cons_left_iff.mp frozen
    obtain ⟨first, here', moved⟩ := head.2.snapshot here
    obtain ⟨fields, there', tail⟩ := ih there
    rw [head.1.trans named] at moved
    exact ⟨(name, first) :: fields, .cons ⟨head.1.trans named, here'⟩ there', .cons ⟨rfl, moved⟩ tail⟩

namespace MovedFields

variable {legible : Prop} (earlier : MovedFields platform legible micros fields others)
include earlier

theorem sameBut : SameBut deadlineNames fields others := by
  refine Alike.sameBut earlier fun name given value kept here => here.2.other ?_
  rintro other mem same
  cases same
  exact kept mem

theorem parseUtc
    (parsed : parseUtc platform (others.get "expires_at_utc") field code = .ok utc) :
    ClosePlan.parseUtc platform (fields.get "expires_at_utc") field code = .ok (utc + micros) := by
  rcases Alike.get earlier "expires_at_utc" with ⟨_, none⟩ | ⟨given, value, some, some', here⟩
  · rw [none] at parsed
    cases parsed
  · obtain ⟨time, before, after⟩ := here.2.utc rfl
    rw [some', parseUtc_eq_ok_iff, after] at parsed
    cases parsed
    rw [some, Int.sub_add_cancel, parseUtc_eq_ok_iff]
    exact before

theorem clockOf
    (clocked : clockOf (others.get "expires_monotonic_ns") (others.get "expires_monotonic") label =
      .ok mono) :
    ClosePlan.clockOf (fields.get "expires_monotonic_ns") (fields.get "expires_monotonic") label =
        .ok (mono + 1000 * micros) ∧
      (legible → (intText (mono + 1000 * micros)).isSome = true) := by
  have shifted : ∀ seconds given value, (legible → LegibleAt (clockName seconds) given) ∧
      MovedValue platform micros (.str (clockName seconds)) given value →
      ∀ time, clockNs value label seconds = .ok time →
        clockNs given label seconds = .ok (time + 1000 * micros) ∧
          (legible → (intText (time + 1000 * micros)).isSome = true) := by
    intro seconds given value here time came
    obtain ⟨own, before, after⟩ := here.2.mono seconds rfl
    rw [clockNs_eq_ok_iff, after] at came
    cases came
    rw [Int.sub_add_cancel, clockNs_eq_ok_iff]
    exact ⟨before, fun legible => here.1 legible seconds own rfl before⟩
  change ClosePlan.clockOf (others.get (clockName false)) (others.get (clockName true)) label = _
    at clocked
  change ClosePlan.clockOf (fields.get (clockName false)) (fields.get (clockName true)) label = _ ∧ _
  rcases Alike.get earlier (clockName false) with ⟨ns, ns'⟩ | ⟨_, _, ns, ns', here⟩ <;>
    rcases Alike.get earlier (clockName true) with ⟨seconds, seconds'⟩ | ⟨_, _, seconds, seconds', there⟩ <;>
    rw [ns', seconds'] at clocked <;> rw [ns, seconds]
  · cases clocked
  · exact shifted true _ _ there _ clocked
  · exact shifted false _ _ here _ clocked
  · simp only [ClosePlan.clockOf, bind_eq_ok_iff, pure_eq_ok_iff, check_eq_ok_iff, beq_iff_eq,
      exists_const] at clocked ⊢
    obtain ⟨first, came, second, came', rfl, rfl⟩ := clocked
    have own := shifted false _ _ here _ came
    exact ⟨⟨_, own.1, _, (shifted true _ _ there _ came').1, rfl, rfl⟩, own.2⟩

end MovedFields

/-! ## What is written out -/

theorem writable_of_readUtc (parsed : readUtc platform value = some utc) :
    writable platform value = true := by
  cases value with
  | datetime moment =>
    obtain ⟨offset, known, placed⟩ := Option.bind_eq_some_iff.mp parsed
    simp [writable, Value.everywhere, writableHere, known, placed]
  | str text => rfl
  | _ => cases parsed

theorem writable_of_readClock (clocked : readClock seconds value = some mono)
    (legible : (intText mono).isSome = true) : writable platform value = true := by
  cases value with
  | int n =>
    simp only [readClock, Option.ite_none_right_eq_some, Option.some.injEq] at clocked
    obtain ⟨_, rfl⟩ := clocked
    exact legible
  | float number shortest text =>
    cases number with
    | finite exact => rfl
    | _ => cases clocked
  | _ => cases clocked

/-- Fields that are the same but for times, which are written out. -/
def LaterFields (platform : Platform) : Fields → Fields → Prop :=
  Alike fun name given value => given = value ∨ name ∈ deadlineNames ∧ writable platform given = true

theorem MovedFields.later (moved : MovedFields platform True micros fields others) :
    LaterFields platform fields others := by
  refine Alike.mono moved fun name given value mem here => ?_
  rcases here.2.cases with ⟨_, unmoved⟩ | ⟨named, _, parsed, _⟩ | ⟨seconds, named, _, clocked, _⟩
  · exact .inl unmoved
  · cases named
    exact .inr ⟨by decide, writable_of_readUtc parsed⟩
  · cases named
    exact .inr ⟨by cases seconds <;> decide, writable_of_readClock clocked
      (here.1 trivial seconds _ rfl clocked)⟩

namespace LaterFields

theorem sameBut (later : LaterFields platform fields others) :
    SameBut deadlineNames fields others :=
  Alike.sameBut later fun _ _ _ kept here => here.resolve_right fun timed => kept timed.1

/-- What is written out with the earlier deadline is written out with the later one. -/
theorem writable (later : LaterFields platform fields others)
    (written : ClosePlan.writable platform others.toValue = true) :
    ClosePlan.writable platform fields.toValue = true := by
  rw [writable_toValue_iff] at *
  intro entry mem
  obtain ⟨other, among, _, here⟩ := forall₂_of_mem_left later mem
  rcases here with same | ⟨_, fine⟩
  · rw [same]
    exact written other (List.of_mem_zip among).2
  · exact fine

end LaterFields

/-! ## The inputs with the later deadline -/

def Context.later (context : Context) (micros : Nat) : Context :=
  { context with
    expiresAtUtc := context.expiresAtUtc + micros
    expiresMonotonicNs := context.expiresMonotonicNs + 1000 * micros }

theorem Context.Reads.later {legible : Prop} (moved : MovedFields platform legible micros fields others)
    (reads : context.Reads platform evidence others) :
    (context.later micros).Reads platform evidence fields := by
  have same := moved.sameBut
  refine ⟨fun name mem => ?_, ?_, ?_, ?_, ?_, ?_, ?_, ?_, moved.parseUtc reads.expiresAtUtc,
    (moved.clockOf reads.expiresMonotonicNs).1, reads.evidenceHash, reads.evidenceClock⟩
  · rw [Alike.isSome moved]
    exact reads.complete name mem
  all_goals simp (disch := decide) only [same.get, same.scopeText, reads.accountFingerprint,
    reads.clockDomainId, reads.sessionBindingId, reads.nativeProfile, reads.tradingDay,
    reads.connectionGeneration, reads.evidenceSourceHash, Context.later]

theorem inUtc_of_readUtc (parsed : readUtc platform value = some utc) : InUtc utc := by
  have placed : ∀ moment : Datetime, moment.offset.bind (utcOf moment.wall) = some utc → InUtc utc := by
    intro moment came
    obtain ⟨offset, _, here⟩ := Option.bind_eq_some_iff.mp came
    exact (utcOf_eq_some_iff.mp here).2
  cases value with
  | datetime moment => exact placed moment parsed
  | str text =>
    obtain ⟨moment, _, here⟩ := Option.bind_eq_some_iff.mp parsed
    exact placed moment here
  | _ => cases parsed

theorem MovedValue.same (apart : name ∉ deadlineNames) (value : Value) :
    MovedValue platform micros (.str name) value value := by
  refine ⟨fun _ => rfl, fun here => ?_, fun seconds here => ?_⟩
  · cases here
    exact absurd (by decide) apart
  · cases here
    exact absurd (by cases seconds <;> decide) apart

theorem writable_utcValue {value : Option Value}
    (parsed : parseUtc platform value field code = .ok utc) :
    writable platform (utcValue utc) = true := by
  obtain ⟨_, _, moment⟩ := utc_of_parsed parsed
  exact writable_of_readUtc (utcOf_eq_some_iff.mpr ⟨Int.sub_zero utc, inUtc_of_readUtc moment⟩)

/-- The request with a later deadline. -/
def Request.later (request : Request) (micros : Nat) (material : Fields) : Request :=
  { request with
    expiresAtUtc := request.expiresAtUtc + micros
    expiresMonotonicNs := request.expiresMonotonicNs + 1000 * micros
    material := material }

/-- What the material is brought up to date with is written out. -/
theorem Request.later_entries {request : Request}
    (utc : writable platform (utcValue (request.expiresAtUtc + micros)) = true)
    (mono : (intText (request.expiresMonotonicNs + 1000 * micros)).isSome = true) :
    LaterFields platform (request.later micros []).normalized request.normalized := by
  have utcNamed : "expires_at_utc" ∈ deadlineNames := by decide
  have monoNamed : "expires_monotonic_ns" ∈ deadlineNames := by decide
  exact .cons ⟨rfl, .inl rfl⟩ <| .cons ⟨rfl, .inl rfl⟩ <| .cons ⟨rfl, .inl rfl⟩ <|
    .cons ⟨rfl, .inl rfl⟩ <| .cons ⟨rfl, .inr ⟨utcNamed, utc⟩⟩ <|
    .cons ⟨rfl, .inr ⟨monoNamed, mono⟩⟩ <| .cons ⟨rfl, .inl rfl⟩ <| .cons ⟨rfl, .inl rfl⟩ <|
    .cons ⟨rfl, .inl rfl⟩ .nil

theorem Request.Reads.later {request : Request}
    (moved : MovedFields platform True micros fields others) (reads : request.Reads platform others) :
    ∃ material, (request.later micros material).Reads platform fields ∧
      LaterFields platform material request.material ∧
      (intText (request.later micros material).expiresMonotonicNs).isSome = true := by
  have same := moved.sameBut
  have utc := moved.parseUtc reads.expiresAtUtc
  obtain ⟨mono, legible⟩ := moved.clockOf reads.expiresMonotonicNs
  have written := legible trivial
  have material : LaterFields platform (requestMaterial fields (request.later micros []).normalized)
      request.material := by
    rw [reads.material]
    have popped : LaterFields platform _ _ := Alike.pop moved.later "allocation_priority"
    have updated := popped.update (Request.later_entries (writable_utcValue utc) written)
    exact ((updated.pop _).pop _).pop _
  generalize made : requestMaterial fields (request.later micros []).normalized = own at material
  have kept : SameBut deadlineNames others fields := fun name apart => (same name apart).symm
  have priority := reads.priority
  rw [kept.get (by decide), kept.get (by decide)] at priority
  exact ⟨own, reads.carried (kept.mono (by decide)) priority utc mono made.symm, material, written⟩

/-- The policy with a later deadline, if it has one. -/
def Policy.later (policy : Policy) (micros : Nat) (material : Fields) : Policy :=
  { policy with
    deadline := policy.deadline.map fun deadline => (deadline.1 + micros, deadline.2 + 1000 * micros)
    material := material }

theorem MovedFields.normalizeProfileAlias {canonical alias_ : String}
    (moved : MovedFields platform True micros fields others)
    (apart : canonical ∉ deadlineNames) (apart' : alias_ ∉ deadlineNames)
    (came : normalizeProfileAlias others canonical alias_ = .ok aliased) :
    ∃ aliased', ClosePlan.normalizeProfileAlias fields canonical alias_ = .ok aliased' ∧
      MovedFields platform True micros aliased' aliased := by
  refine normalizeProfileAlias_related
    (R := fun others fields => MovedFields platform True micros fields others)
    moved (moved.sameBut canonical apart) (moved.sameBut alias_ apart')
    (fun value => Alike.set moved ⟨fun _ seconds _ same => ?_, .same apart value⟩)
    (fun _ _ moved => Alike.pop moved _) came
  subst same
  exact absurd (by cases seconds <;> decide) apart

theorem MovedFields.normalizeProfileAliases (moved : MovedFields platform True micros fields others)
    (came : normalizeProfileAliases others = .ok aliased) :
    ∃ aliased', ClosePlan.normalizeProfileAliases fields = .ok aliased' ∧
      MovedFields platform True micros aliased' aliased := by
  simp only [ClosePlan.normalizeProfileAliases, bind_eq_ok_iff] at came ⊢
  obtain ⟨family, first, second⟩ := came
  obtain ⟨family', first', moved⟩ := moved.normalizeProfileAlias (by decide) (by decide) first
  obtain ⟨aliased', second', moved⟩ := moved.normalizeProfileAlias (by decide) (by decide) second
  exact ⟨aliased', ⟨family', first', second'⟩, moved⟩

theorem MovedFields.normalizePolicyDeadline {normal : Fields} {deadline : Option (Int × Int)}
    (moved : MovedFields platform True micros fields others)
    (came : normalizePolicyDeadline platform others = .ok (normal, deadline)) :
    ∃ normal', ClosePlan.normalizePolicyDeadline platform fields =
        .ok (normal', deadline.map fun own => (own.1 + micros, own.2 + 1000 * micros)) ∧
      LaterFields platform normal' normal := by
  have later := moved.later
  rcases normalizePolicyDeadline_eq_ok_iff.mp came with ⟨absent, rfl, rfl⟩ |
    ⟨value, utc, mono, there, parsed, clocked, rfl, rfl⟩
  · refine ⟨fields, normalizePolicyDeadline_eq_ok_iff.mpr (.inl ⟨fun name mem => ?_, rfl, rfl⟩), later⟩
    rw [← Option.isNone_iff_eq_none, ← Option.isSome_eq_false_iff, Alike.isSome moved, absent name mem]
    rfl
  · obtain ⟨clocked, legible⟩ := moved.clockOf clocked
    have written : writable platform (.int (mono + 1000 * micros)) = true := by
      rw [writable_int]
      exact legible trivial
    have known : ClosePlan.parseUtc platform (others.get "expires_at_utc") "" "" = .ok utc :=
      there ▸ parseUtc_eq_ok_iff.mpr parsed
    have parsed := moved.parseUtc known
    obtain ⟨given, here, moment⟩ := utc_of_parsed parsed
    have utcLater : LaterFields platform (fields.set "expires_at_utc" (utcValue (utc + micros)))
        (others.set "expires_at_utc" (utcValue utc)) :=
      Alike.set later (.inr ⟨by decide, writable_utcValue parsed⟩)
    have monoLater : LaterFields platform
        ((fields.set "expires_at_utc" (utcValue (utc + micros))).set "expires_monotonic_ns"
          (.int (mono + 1000 * micros)))
        ((others.set "expires_at_utc" (utcValue utc)).set "expires_monotonic_ns" (.int mono)) :=
      Alike.set utcLater (.inr ⟨by decide, written⟩)
    exact ⟨_, normalizePolicyDeadline_eq_ok_iff.mpr (.inr ⟨given, _, _, here, moment, clocked, rfl,
      rfl⟩), Alike.pop monoLater "expires_monotonic"⟩

theorem Policy.Reads.later (moved : MovedFields platform True micros fields others)
    (reads : policy.Reads platform others) :
    ∃ material, (policy.later micros material).Reads platform fields ∧
      LaterFields platform material policy.material := by
  obtain ⟨⟨aliased, normal, aliases, timed, profile, material⟩, native⟩ := reads
  obtain ⟨aliased', aliases', moved⟩ := moved.normalizeProfileAliases aliases
  obtain ⟨normal', timed', later⟩ := moved.normalizePolicyDeadline timed
  refine ⟨policyMaterial normal', ⟨⟨aliased', normal', aliases', timed', ?_, rfl⟩, native⟩, ?_⟩
  · rw [policyProfile_congr later.sameBut]
    exact profile
  · rw [material]
    exact Alike.pop (Alike.pop later _) _

/-! ## Allocation under other terms -/

section Allocation

variable {tradingDay : String} {rows : List (PositionRow tradingDay)} {leg : Leg}
  {terms other : Terms}

/-- An action, under other terms. -/
def retag (terms : Terms) (action : RawAction) : RawAction :=
  { action with
    sourceHash := terms.sourceHash
    policyId := terms.policyId
    policyVersion := terms.policyVersion
    policySha256 := terms.policySha
    candidateId := terms.request.candidateId
    candidateSha256 := terms.request.candidateSha256
    cycleId := terms.request.cycleId
    executionRole := terms.request.executionRole
    expiresAtUtc := terms.expiryUtc
    expiresMonotonicNs := terms.expiryMono }

/-- The terms of a plan are only noted in its actions, apart from what the request asks for. -/
theorem legActions_retag {rowModel : RowModel}
    (priority : terms.request.priority = other.request.priority)
    (age : terms.request.genericAgeRequest = other.request.genericAgeRequest)
    (came : legActions rowModel other rows leg = .ok part) :
    legActions rowModel terms rows leg = .ok (part.1.map (retag terms), part.2) := by
  cases rowModel with
  | splitByPositionDate =>
    simp only [legActions, splitActions, bind_eq_ok_iff, check_eq_ok_iff, exists_const,
      pure_eq_ok_iff] at came ⊢
    obtain ⟨_, matched, _, split, _, free, enough, drawn, rfl⟩ := came
    rw [priority]
    refine ⟨(), matched, (), split, (), free, enough, drawn, ?_⟩
    simp only [List.map_map]
    rfl
  | combinedTodayAndHistory =>
    simp only [legActions, genericActions, bind_eq_ok_iff, check_eq_ok_iff, exists_const,
      pure_eq_ok_iff] at came ⊢
    obtain ⟨_, matched, row, combined, _, free, enough, today, history, rfl⟩ := came
    rw [age]
    exact ⟨(), matched, row, combined, (), free, enough, today, history, rfl⟩

theorem writable_rawAction_iff {action : RawAction} :
    writable platform action.toValue = true ↔ (intText action.quantity).isSome = true ∧
        writable platform action.ageAllocation.toValue = true ∧
        (intText action.expiresMonotonicNs).isSome = true := by
  have keys : writable platform (.tuple (action.sourceRowKeys.map fun entry =>
      .tuple [.str entry.1, .str entry.2])) = true := by
    simp only [writable_tuple_iff, List.forall_mem_map, List.forall_mem_cons, writable_str, true_and]
    exact fun _ _ => List.forall_mem_nil _
  unfold RawAction.toValue table
  simp [writable_toValue_iff, writable_str, writable_int, keys]

end Allocation

theorem intText_isSome_iff : (intText n).isSome = true ↔ n.natAbs < 10 ^ 4300 := by
  unfold intText
  split
  · rename_i short
    exact iff_of_true rfl short
  · rename_i long
    exact iff_of_false Bool.false_ne_true long

theorem intText_small (small : n.natAbs < 10) : (intText n).isSome = true := by
  have many : 4300 ≠ 0 := by decide
  rw [intText_isSome_iff]
  generalize 4300 = digits at *
  exact small.trans_le (Nat.le_self_pow many 10)

/-- Between numbers that are written, all numbers are. -/
theorem intText_between {low high : Int} (above : low ≤ n) (below : n ≤ high)
    (first : (intText low).isSome = true) (last : (intText high).isSome = true) :
    (intText n).isSome = true := by
  rw [intText_isSome_iff] at *
  generalize 10 ^ 4300 = limit at *
  omega

theorem writable_digestPayload_iff {fees : List Offset} :
    writable platform (digestPayload (unsealedPlan context source terms requestSha fees) actions) =
        true ↔
      (intText source.requestId).isSome = true ∧
        (intText context.connectionGeneration).isSome = true ∧
        (intText terms.expiryMono).isSome = true ∧
        ∀ action ∈ actions, writable platform action.toValue = true := by
  have legs : (intText maxLegs).isSome = true := intText_small (by decide)
  have most : (intText maxActions).isSome = true := intText_small (by decide)
  unfold digestPayload unsealedPlan table
  simp only [writable_toValue_iff, List.forall_mem_cons, writable_str, writable_bool, writable_int,
    writable_list_iff, List.forall_mem_map, legs, most, true_and, List.not_mem_nil,
    IsEmpty.forall_iff, implies_true, and_true, and_assoc]

theorem sealPlan_isOk_iff :
    (∃ sealed_, sealPlan platform plan actions = .ok sealed_) ↔
      writable platform (digestPayload plan actions) = true := by
  rw [← @digest_eq_ok_iff platform _ "O3B_CANONICAL_VALUE_INVALID"]
  simp only [sealPlan, bind_eq_ok_iff, pure_eq_ok_iff]
  constructor
  · rintro ⟨_, sha, digested, rfl⟩
    exact ⟨sha, digested⟩
  · rintro ⟨sha, digested⟩
    exact ⟨_, sha, digested, rfl⟩

/-! ## The second stage with later deadlines -/

/-- Inputs with later deadlines, and with the material that goes with them. -/
def Inputs.relaxed (inputs : Inputs) (forRequest forContext forPolicy : Nat)
    (requestMaterial policyMaterial : Fields) : Inputs where
  context := inputs.context.later forContext
  policy := inputs.policy.later forPolicy policyMaterial
  source := inputs.source
  holdings := inputs.holdings
  request := inputs.request.later forRequest requestMaterial

theorem EvidenceMeta.Admits.later (admits : source.Admits deadline) (micros : Nat) :
    source.Admits (deadline.1 + micros, deadline.2 + 1000 * micros) := by
  obtain ⟨⟨utc, mono⟩, paired⟩ := admits
  unfold Paired at paired
  rw [abs_le] at paired
  refine ⟨⟨?_, ?_⟩, abs_le.mpr ?_⟩ <;> dsimp only <;> omega

theorem requestDigest_later {request : Request}
    (later : LaterFields platform material request.material)
    (unclaimed : request.claimedRequestSha256 = none)
    (digested : requestDigest platform request = .ok sha) :
    ∃ sha, requestDigest platform (request.later micros material) = .ok sha := by
  simp only [requestDigest, bind_eq_ok_iff, pure_eq_ok_iff] at digested ⊢
  obtain ⟨own, came, _⟩ := digested
  obtain ⟨sha', came'⟩ := digest_eq_ok_iff.mpr (later.writable (digest_eq_ok_iff.mp ⟨own, came⟩))
  refine ⟨sha', sha', came', (), ?_, rfl⟩
  rw [show (request.later micros material).claimedRequestSha256 = none from unclaimed]
  rfl

/-- A policy without a claimed digest. -/
def Policy.Unclaimed (policy : Policy) : Prop :=
  policy.material.get "policy_sha256" = none ∧ policy.material.get "policy_digest" = none

theorem policyDigest_later (later : LaterFields platform material policy.material)
    (unclaimed : policy.Unclaimed) (digested : policyDigest platform policy = .ok sha) :
    ∃ sha, policyDigest platform (policy.later micros material) = .ok sha := by
  have first : material.get "policy_sha256" = none :=
    (later.sameBut _ (by decide)).trans unclaimed.1
  have second : material.get "policy_digest" = none :=
    (later.sameBut _ (by decide)).trans unclaimed.2
  simp only [policyDigest, bind_eq_ok_iff, pure_eq_ok_iff] at digested ⊢
  obtain ⟨_, _, own, came, _⟩ := digested
  have popped : LaterFields platform ((material.pop "policy_sha256").pop "policy_digest")
      ((policy.material.pop "policy_sha256").pop "policy_digest") := Alike.pop (Alike.pop later _) _
  obtain ⟨sha', came'⟩ := digest_eq_ok_iff.mpr (popped.writable (digest_eq_ok_iff.mp ⟨own, came⟩))
  refine ⟨sha', none, ?_, sha', came', (), rfl, rfl⟩
  rw [show (policy.later micros material).material = material from rfl, first, second]
  rfl

theorem policyVersion_later {version : String}
    (later : LaterFields platform material policy.material)
    (versioned : policyVersion policy = .ok version) :
    policyVersion (policy.later micros material) = .ok version := by
  unfold policyVersion at *
  rw [show (policy.later micros material).material = material from rfl, later.sameBut _ (by decide)]
  exact versioned

section Relaxed

variable {inputs wider : Inputs} {forRequest forContext forPolicy : Nat}
  {requestMaterial policyMaterial : Fields}
  (wide : inputs.relaxed forRequest forContext forPolicy requestMaterial policyMaterial = wider)

include wide

/-- Each deadline is one of those before, moved later. -/
theorem mem_deadlines_relaxed (mem : deadline ∈ wider.deadlines) :
    ∃ own ∈ inputs.deadlines, ∃ micros : Nat,
      deadline = (own.1 + micros, own.2 + 1000 * micros) := by
  cases wide
  simp only [Inputs.deadlines, setDeadlines, List.mem_cons, Option.mem_toList] at mem ⊢
  rcases mem with rfl | rfl | rfl | limited
  · exact ⟨_, .inl rfl, 0, by simp [Inputs.relaxed]⟩
  · exact ⟨_, .inr (.inl rfl), forRequest, rfl⟩
  · exact ⟨_, .inr (.inr (.inl rfl)), forContext, rfl⟩
  · obtain ⟨own, here, rfl⟩ := Option.map_eq_some_iff.mp limited
    exact ⟨own, .inr (.inr (.inr here)), forPolicy, rfl⟩

theorem Timed.relaxed {now nowMono : Int} (dated : inputs.source.Dated)
    (policyLater : LaterFields platform wider.policy.material inputs.policy.material)
    (timed : Timed platform inputs.source inputs.request inputs.context inputs.policy nowUtc
      monotonicNow now nowMono) :
    Timed platform wider.source wider.request wider.context wider.policy nowUtc monotonicNow now
      nowMono := by
  have admitted := List.forall_mem_cons.mpr ⟨dated.admits, timed.admitted⟩
  have source : wider.source = inputs.source := by
    cases wide
    rfl
  rw [source]
  refine ⟨timed.utc, timed.mono, timed.completed, ?_, fun deadline mem => ?_, fun deadline mem => ?_⟩
  · exact (Alike.isSome policyLater _).trans
      (timed.normalized.trans (Alike.isSome policyLater _).symm)
  · obtain ⟨own, among, micros, rfl⟩ := mem_deadlines_relaxed wide (List.mem_cons_of_mem _ mem)
    exact (admitted own among).later micros
  · rw [← source] at mem
    obtain ⟨own, among, micros, rfl⟩ := mem_deadlines_relaxed wide mem
    obtain ⟨utc, mono⟩ := timed.ahead own among
    exact ⟨by dsimp only; omega, by dsimp only; omega⟩

/-- The effective deadline of the relaxed inputs is as late, and no later than the request's. -/
theorem effective_relaxed : inputs.effective.2 ≤ wider.effective.2 ∧
    wider.effective.2 ≤ wider.request.expiresMonotonicNs := by
  have least := wider.effective_isLeast.2
  constructor
  · obtain ⟨deadline, mem, same⟩ := List.mem_map.mp least.1
    obtain ⟨own, among, micros, rfl⟩ := mem_deadlines_relaxed wide mem
    have before := inputs.effective_isLeast.2.2 (List.mem_map_of_mem among)
    rw [← same]
    dsimp only
    omega
  · exact least.2 (List.mem_cons_of_mem _ List.mem_cons_self)

theorem Inputs.allocate_relaxed {other : Terms} {requestSha' : String}
    (allocated : inputs.allocate platform other requestSha = .ok plan)
    (priority : terms.request.priority = other.request.priority)
    (age : terms.request.genericAgeRequest = other.request.genericAgeRequest)
    (legible : (intText other.expiryMono).isSome = true → (intText terms.expiryMono).isSome = true) :
    ∃ plan, wider.allocate platform terms requestSha' = .ok plan := by
  cases wide
  obtain ⟨parts, each, bounded, sealed_⟩ := Inputs.allocate_eq_ok_iff.mp allocated
  have written := sealPlan_isOk_iff.mp ⟨_, sealed_⟩
  rw [writable_digestPayload_iff] at written
  have actions : (parts.map fun part => (part.1.map (retag terms), part.2)).flatMap Prod.fst =
      (parts.flatMap Prod.fst).map (retag terms) := by
    rw [List.flatMap_map, List.map_flatMap]
  have sealed' : ∃ plan, sealPlan platform (unsealedPlan (inputs.context.later forContext)
      inputs.source terms requestSha' ((parts.map fun part =>
        (part.1.map (retag terms), part.2)).flatMap Prod.snd).eraseDups)
      ((parts.flatMap Prod.fst).map (retag terms)) = .ok plan := by
    rw [sealPlan_isOk_iff, writable_digestPayload_iff]
    refine ⟨written.1, written.2.1, legible written.2.2.1, List.forall_mem_map.mpr fun action mem => ?_⟩
    have own := writable_rawAction_iff.mp (written.2.2.2 action mem)
    exact writable_rawAction_iff.mpr ⟨own.1, own.2.1, legible written.2.2.1⟩
  obtain ⟨plan', sealed'⟩ := sealed'
  refine ⟨plan', Inputs.allocate_eq_ok_iff.mpr ⟨parts.map fun part => (part.1.map (retag terms),
    part.2), List.forall₂_map_right_iff.mpr ?_, ?_, ?_⟩⟩
  · exact each.imp fun leg part came => legActions_retag priority age came
  · rw [actions, List.isEmpty_map, List.length_map]
    exact bounded
  · rw [actions]
    exact sealed'

/-- What is planned with earlier deadlines is planned with later ones. -/
theorem Inputs.planWith_relaxed (dated : inputs.source.Dated)
    (requestLater : LaterFields platform wider.request.material inputs.request.material)
    (policyLater : LaterFields platform wider.policy.material inputs.policy.material)
    (unclaimed : inputs.request.claimedRequestSha256 = none)
    (unclaimed' : inputs.policy.Unclaimed)
    (legible : (intText wider.request.expiresMonotonicNs).isSome = true)
    (came : inputs.planWith some platform nowUtc monotonicNow = .ok plan) :
    ∃ plan, wider.planWith some platform nowUtc monotonicNow = .ok plan := by
  obtain ⟨terms, requestSha, cleared, allocated⟩ := Inputs.plan_eq_ok_iff.mp came
  obtain ⟨_, _, now, nowMono, policySha, version, deadlines, policyDigested, versioned, rfl⟩ :=
    cleared.agreed
  obtain ⟨timed, same⟩ := (validateDeadlinesWith_eq_ok_iff dated).mp deadlines
  cases same
  obtain ⟨after, before⟩ := effective_relaxed wide
  have deadlines' := (validateDeadlinesWith_eq_ok_iff (wide ▸ dated : wider.source.Dated)).mpr
    ⟨timed.relaxed wide dated policyLater, rfl⟩
  have written := fun first => intText_between after before first legible
  cases wide
  obtain ⟨requestSha', digested⟩ := requestDigest_later requestLater unclaimed cleared.digested
  obtain ⟨policySha', policyDigested'⟩ := policyDigest_later policyLater unclaimed' policyDigested
  have cleared' : Cleared some (inputs.relaxed ..) platform nowUtc monotonicNow _ requestSha' :=
    ⟨cleared.exchanges, ⟨_, _, now, nowMono, policySha', version, deadlines', policyDigested',
      policyVersion_later policyLater versioned, rfl⟩, digested⟩
  refine Exists.imp (fun plan' allocated' => Inputs.plan_eq_ok_iff.mpr
    ⟨_, requestSha', cleared', allocated'⟩) ?_
  exact Inputs.allocate_relaxed rfl allocated rfl rfl written

end Relaxed

/-! ## The first stage -/

theorem Moved.frozen {legible : Prop} (shifted : Moved platform micros given moved)
    (written : legible → Legible given) (frozen : Frozen moved others) :
    ∃ fields, Frozen given fields ∧ MovedFields platform legible micros fields others := by
  obtain ⟨kind, entries, entries', rfl, rfl, related⟩ := shifted
  obtain ⟨_, _, same, frozen⟩ := frozen
  cases same
  obtain ⟨fields, frozen', moved⟩ := freezes_moved related (snapshotEntries_eq_ok_iff.mp frozen)
  refine ⟨fields, ⟨kind, entries, rfl, snapshotEntries_eq_ok_iff.mpr frozen'⟩,
    Alike.mono moved fun name value _ mem here => ⟨fun wanted seconds mono named clocked => ?_, here⟩⟩
  obtain ⟨⟨key, given⟩, among, same, came⟩ := forall₂_of_mem_right frozen' mem
  cases same
  cases eq_of_snapshot_clock came clocked
  cases named
  exact written wanted seconds value mono (List.of_mem_zip among).1 clocked

/-! ## Claimed digests -/

/-- Nobody claimed a digest for the request or the policy. -/
def Unclaimed (request policy : Value) : Prop :=
  (∀ name ∈ ["request_sha256", "request_digest"], getField request name = none) ∧
    ∀ name ∈ ["policy_sha256", "policy_digest"], getField policy name = none

theorem unclaimed_request {policy : Value} (unclaimed : Unclaimed request policy)
    (came : normalizeRequest platform request = .ok wanted) :
    wanted.claimedRequestSha256 = none := by
  obtain ⟨fields, frozen, reads⟩ := normalizeRequest_eq_ok_iff.mp came
  have claimed := reads.claimed
  rw [frozen.get_eq_none (unclaimed.1 _ (by decide)), frozen.get_eq_none (unclaimed.1 _ (by decide))]
    at claimed
  exact (Except.ok.inj (claimed : (.ok none : Calc (Option String)) = _)).symm

theorem unclaimed_policy {policy : Value} {profile : Policy}
    (unclaimed : Unclaimed request policy) (came : validatePolicy platform policy = .ok profile) :
    profile.Unclaimed := by
  obtain ⟨fields, frozen, reads⟩ := validatePolicy_eq_ok_iff.mp came
  exact ⟨(reads.get_material (by decide)).trans (frozen.get_eq_none (unclaimed.2 _ (by decide))),
    (reads.get_material (by decide)).trans (frozen.get_eq_none (unclaimed.2 _ (by decide)))⟩

/-! ## Moving one deadline -/

/-- One of the three deadlines is moved earlier, by the same time on both clocks. -/
inductive EarlierDeadline (platform : Platform) : Submission → Submission → Prop
  | request {given moved policy currentContext : Value} {micros : Nat} (legible : Legible given)
      (shifted : Moved platform micros given moved) :
      EarlierDeadline platform ⟨given, policy, currentContext⟩ ⟨moved, policy, currentContext⟩
  | policy {request given moved currentContext : Value} {micros : Nat} (legible : Legible given)
      (shifted : Moved platform micros given moved) :
      EarlierDeadline platform ⟨request, given, currentContext⟩ ⟨request, moved, currentContext⟩
  | context {request policy given moved : Value} {micros : Nat}
      (shifted : Moved platform micros given moved) :
      EarlierDeadline platform ⟨request, policy, given⟩ ⟨request, policy, moved⟩

theorem LaterFields.refl (fields : Fields) : LaterFields platform fields fields :=
  List.forall₂_same.mpr fun _ _ => ⟨rfl, .inl rfl⟩

theorem Request.later_zero (request : Request) : request.later 0 request.material = request := by
  simp [Request.later]

theorem Context.later_zero (context : Context) : context.later 0 = context := by
  simp [Context.later]

theorem Policy.later_zero (policy : Policy) : policy.later 0 policy.material = policy := by
  simp [Policy.later]

/-- A request that has a digest has its monotonic time written out in it. -/
theorem legible_of_requestDigest (came : normalizeRequest platform request = .ok wanted)
    (digested : requestDigest platform wanted = .ok sha) :
    (intText wanted.expiresMonotonicNs).isSome = true := by
  obtain ⟨fields, _, reads⟩ := normalizeRequest_eq_ok_iff.mp came
  simp only [requestDigest, bind_eq_ok_iff] at digested
  obtain ⟨own, came, _⟩ := digested
  have written := writable_toValue_iff.mp (digest_eq_ok_iff.mp ⟨own, came⟩)
  rw [reads.material] at written
  have clocked := written ("expires_monotonic_ns", .int wanted.expiresMonotonicNs)
    (by simp [requestMaterial, Request.normalized, Fields.pop, Fields.mem_set_iff])
  rw [writable_int] at clocked
  exact clocked

theorem buildWith_relaxed {policy : Value} {wider : Inputs} {forRequest forContext forPolicy : Nat}
    {requestMaterial policyMaterial : Fields}
    (wide : inputs.relaxed forRequest forContext forPolicy requestMaterial policyMaterial = wider)
    (unclaimed : Unclaimed request policy)
    (native : inputs.context.nativeProfile = inputs.policy.nativeProfile)
    (extracted : extractEvidenceWith some platform evidence inputs.context =
      .ok (inputs.source, inputs.holdings))
    (planned : inputs.planWith some platform nowUtc monotonicNow = .ok plan)
    (current : validateContext platform evidence currentContext = .ok wider.context)
    (passed : validatePolicy platform policy = .ok wider.policy)
    (normalized : normalizeRequest platform request = .ok wider.request)
    (policyLater : LaterFields platform wider.policy.material inputs.policy.material)
    (requestLater : LaterFields platform wider.request.material inputs.request.material)
    (legible : (intText wider.request.expiresMonotonicNs).isSome = true) :
    ∃ plan, buildWith some platform evidence request policy currentContext nowUtc monotonicNow =
      .ok plan := by
  have unclaimedRequest := unclaimed_request unclaimed normalized
  have unclaimedPolicy : inputs.policy.Unclaimed := by
    have own := unclaimed_policy unclaimed passed
    exact ⟨(policyLater.sameBut _ (by decide)).symm.trans own.1,
      (policyLater.sameBut _ (by decide)).symm.trans own.2⟩
  cases wide
  obtain ⟨plan', planned'⟩ := Inputs.planWith_relaxed rfl (extractEvidenceWith_dated extracted)
    requestLater policyLater unclaimedRequest unclaimedPolicy legible planned
  have prepared := prepareWith_eq_ok_iff.mpr ⟨current, passed, native, extracted, normalized⟩
  exact ⟨plan', bind_eq_ok_iff.mpr ⟨_, prepared, planned'⟩⟩

/-- An earlier deadline never helps. -/
theorem accepted_of_earlier {given moved : Submission}
    (earlier : EarlierDeadline platform given moved)
    (unclaimed : Unclaimed given.request given.policy)
    (accepted : buildWith some platform evidence moved.request moved.policy moved.currentContext
      nowUtc monotonicNow = .ok plan) :
    ∃ plan, buildWith some platform evidence given.request given.policy given.currentContext nowUtc
      monotonicNow = .ok plan := by
  obtain ⟨inputs, prepared, planned⟩ := bind_eq_ok_iff.mp accepted
  obtain ⟨_, _, cleared, _⟩ := Inputs.plan_eq_ok_iff.mp planned
  obtain ⟨current, passed, native, extracted, normalized⟩ := prepareWith_eq_ok_iff.mp prepared
  have legible := legible_of_requestDigest normalized cleared.digested
  cases earlier with
  | request legible' shifted =>
    obtain ⟨others, frozen, reads⟩ := normalizeRequest_eq_ok_iff.mp normalized
    obtain ⟨fields, frozen', moved⟩ := shifted.frozen (fun _ => legible') frozen
    obtain ⟨material, reads, later, written⟩ := reads.later moved
    have normalized := normalizeRequest_eq_ok_iff.mpr ⟨fields, frozen', reads⟩
    rw [← inputs.context.later_zero] at current
    rw [← inputs.policy.later_zero] at passed
    exact buildWith_relaxed rfl unclaimed native extracted planned current passed normalized
      (.refl _) later written
  | policy legible' shifted =>
    obtain ⟨others, frozen, reads⟩ := validatePolicy_eq_ok_iff.mp passed
    obtain ⟨fields, frozen', moved⟩ := shifted.frozen (fun _ => legible') frozen
    obtain ⟨material, reads, later⟩ := reads.later moved
    have passed := validatePolicy_eq_ok_iff.mpr ⟨fields, frozen', reads⟩
    rw [← inputs.context.later_zero] at current
    rw [← inputs.request.later_zero] at normalized legible
    exact buildWith_relaxed rfl unclaimed native extracted planned current passed normalized
      later (.refl _) legible
  | context shifted =>
    obtain ⟨others, frozen, reads⟩ := validateContext_eq_ok_iff.mp current
    obtain ⟨fields, frozen', moved⟩ := shifted.frozen False.elim frozen
    have current := validateContext_eq_ok_iff.mpr ⟨fields, frozen', reads.later moved⟩
    rw [← inputs.policy.later_zero] at passed
    rw [← inputs.request.later_zero] at normalized legible
    exact buildWith_relaxed rfl unclaimed native extracted planned current passed normalized
      (.refl _) (.refl _) legible

/-- **Deadlines**: a plan expires, by each clock, at the earliest of the deadlines, which is still
ahead and at most five seconds and a few microseconds after the query completed, by both clocks
alike; and whoever moved a deadline earlier to get it would have got a plan without that. -/
theorem plan_keeps_deadlines {platform : Platform}
    {evidence request policy currentContext nowUtc monotonicNow : Value} {plan : CtpClosePlan}
    (accepted : buildWith some platform evidence request policy currentContext nowUtc monotonicNow =
      .ok plan) :
    (∃ inputs now nowMono utc mono,
      prepareWith some platform evidence request policy currentContext = .ok inputs ∧
      parseUtc platform (some nowUtc) "validation now" "O3B_CLOCK_INVALID" = .ok now ∧
      clockNs monotonicNow "validation monotonic" true = .ok nowMono ∧
      Expires inputs plan now nowMono utc mono) ∧
    ∀ given, EarlierDeadline platform given ⟨request, policy, currentContext⟩ →
      Unclaimed given.request given.policy →
      ∃ plan, buildWith some platform evidence given.request given.policy given.currentContext nowUtc
        monotonicNow = .ok plan := by
  refine ⟨?_, fun given earlier unclaimed => accepted_of_earlier earlier unclaimed accepted⟩
  obtain ⟨inputs, prepared, planned⟩ := bind_eq_ok_iff.mp accepted
  have dated := prepareWith_dated prepared
  obtain ⟨terms, requestSha, cleared, allocated⟩ := Inputs.plan_eq_ok_iff.mp planned
  obtain ⟨now, nowMono, utc, mono, timed, expires⟩ := cleared.expires dated allocated
  exact ⟨inputs, now, nowMono, utc, mono, prepared, timed.utc, timed.mono, expires⟩

/-! ## Samples -/

/-- A mapping with another deadline: microseconds and nanoseconds after the sample's beginning. -/
def expiringAt (micros nanos : Int) : Value → Value
  | .mapping kind entries => .mapping kind (entries.map fun entry =>
    if entry.1 = .str "expires_at_utc" then
      (entry.1, .datetime ⟨63750000000000000 + micros, some 0⟩)
    else if entry.1 = .str "expires_monotonic_ns" then (entry.1, .int nanos) else entry)
  | value => value

theorem movedValue_utc (shifted : ShiftedUtc platform micros value value') :
    MovedValue platform micros (.str "expires_at_utc") value value' := by
  refine ⟨fun apart => absurd rfl (apart _ (by decide)), fun _ => shifted, fun seconds same => ?_⟩
  exact absurd same (by cases seconds <;> decide)

theorem movedValue_ns (shifted : ShiftedMono false micros value value') :
    MovedValue platform micros (.str "expires_monotonic_ns") value value' := by
  refine ⟨fun apart => absurd rfl (apart _ (by decide)), fun same => ?_, fun seconds same => ?_⟩
  · exact absurd same (by decide)
  · cases seconds with
    | false => exact shifted
    | true => exact absurd same (by decide)

theorem moved_expiringAt {before after : Int} {nanos nanos' : Int}
    (seconds : ∀ entry ∈ entries, entry.1 ≠ .str "expires_monotonic")
    (utc : InUtc (63750000000000000 + before) ∧ InUtc (63750000000000000 + after))
    (shift : before - micros = after ∧ nanos - 1000 * micros = nanos') (positive : 0 ≤ nanos') :
    Moved platform micros (expiringAt before nanos (.mapping kind entries))
      (expiringAt after nanos' (.mapping kind entries)) := by
  obtain ⟨rfl, rfl⟩ := shift
  refine ⟨kind, _, _, rfl, rfl, List.forall₂_map_left_iff.mpr (List.forall₂_map_right_iff.mpr ?_)⟩
  refine List.forall₂_same.mpr fun ⟨key, value⟩ mem => ?_
  unfold MovedEntry
  dsimp only
  split
  · rename_i here
    refine ⟨rfl, here ▸ movedValue_utc ⟨63750000000000000 + before, ?_, ?_⟩⟩
    · exact utcOf_eq_some_iff.mpr ⟨Int.sub_zero _, utc.1⟩
    · rw [Int.add_sub_assoc]
      exact utcOf_eq_some_iff.mpr ⟨Int.sub_zero _, utc.2⟩
  · rename_i notUtc
    split
    · rename_i here
      exact ⟨rfl, here ▸ movedValue_ns ⟨nanos, if_pos (by omega), if_pos positive⟩⟩
    · rename_i notNs
      refine ⟨rfl, fun _ => rfl, fun same => absurd same notUtc, fun seconds' same => ?_⟩
      cases seconds' with
      | false => exact absurd same notNs
      | true => exact absurd same (seconds _ mem)

def monoExpiry (plan : CtpClosePlan) : Option Int :=
  match plan.effectiveExpiry.get "expires_monotonic_ns" with
  | some (.int mono) => some mono
  | _ => none

/-- The monotonic lifetime of the evidence is over the bound of the other clock. -/
def LivesLonger (round : ℚ → Option ℚ) (nanos : Int) : Prop :=
  ∃ inputs plan, prepareWith round samplePlatform (expiringAt 5000001 nanos sampleEvidence)
      (expiringAt 6000000 6000000000 sampleRequest) samplePolicy
      (expiringAt 6000000 6000000000 sampleContext) = .ok inputs ∧
    buildWith round samplePlatform (expiringAt 5000001 nanos sampleEvidence)
      (expiringAt 6000000 6000000000 sampleRequest) samplePolicy
      (expiringAt 6000000 6000000000 sampleContext) (sampleMoment 1) (.int 1000000000) = .ok plan ∧
    ∃ mono, monoExpiry plan = some mono ∧
      5000001000 < mono - inputs.source.completedMonotonicNs

theorem livesLonger {round : ℚ → Option ℚ} {nanos : Int} (beyond : 5000001000 < nanos)
    (known : ((prepareWith round samplePlatform (expiringAt 5000001 nanos sampleEvidence)
      (expiringAt 6000000 6000000000 sampleRequest) samplePolicy
      (expiringAt 6000000 6000000000 sampleContext)).toOption.map fun inputs =>
        (inputs.source.completedMonotonicNs, (inputs.planWith round samplePlatform (sampleMoment 1)
          (.int 1000000000)).toOption.map monoExpiry)) = some (0, some (some nanos))) :
    LivesLonger round nanos := by
  obtain ⟨inputs, prepared, known⟩ := exists_ok_of_map known
  obtain ⟨completed, planned⟩ := Prod.mk.inj known
  obtain ⟨plan, planned, expires⟩ := exists_ok_of_map planned
  refine ⟨inputs, plan, prepared, ?_, nanos, expires, ?_⟩
  · rw [buildWith, prepared]
    exact planned
  · rw [completed]
    omega

/-- The sample, with all its monotonic times later by so much. -/
def later (nanos : Int) : Value → Value
  | .mapping kind entries => .mapping kind (entries.map fun entry =>
    match entry with
    | (.str "completed_monotonic_ns", .int time) => (entry.1, .int (nanos + time))
    | (.str "expires_monotonic_ns", .int time) => (entry.1, .int (nanos + time))
    | _ => entry)
  | value => value

/-- Late enough that the third second has one digit more than the second one. -/
def longUptime : Int := 10 ^ 4300 - 3000000000

/-- With a request that expires after so many seconds. -/
def acceptedLate (seconds : Int) : Bool :=
  (buildWith some samplePlatform (later longUptime sampleEvidence)
    (expiringAt (1000000 * seconds) (longUptime + 1000000000 * seconds) sampleRequest) samplePolicy
    (later longUptime sampleContext) (sampleMoment 1) (.int (longUptime + 1000000000))).isOk

/-- The monotonic clock is compared with the other one only, so that a query may live a
microsecond longer by it; with `float` arithmetic, a nanosecond less than that.  And a deadline
that is too long to be written is refused where an earlier one is not. -/
theorem monotonic_lifetime_longer :
    LivesLonger some 5000002000 ∧ LivesLonger binary64 5000001999 ∧
      buildWith binary64 = buildCtpClosePlan ∧
      acceptedLate 3 = false ∧ acceptedLate 2 = true := by
  refine ⟨?_, ?_, rfl, by decide +kernel, by decide +kernel⟩
  · exact livesLonger (by decide) (by decide +kernel)
  · exact livesLonger (by decide) (by decide +kernel)

/-- The context's deadline moved from the third second to the second one. -/
theorem sample_keeps_deadlines :
    ∃ plan, buildWith some samplePlatform sampleEvidence sampleRequest samplePolicy
        (expiringAt 2000000 2000000000 sampleContext) (sampleMoment 1) (.int 1000000000) = .ok plan ∧
      (∃ inputs now nowMono utc mono, Expires inputs plan now nowMono utc mono) ∧
      ∃ plan, buildWith some samplePlatform sampleEvidence sampleRequest samplePolicy
        (expiringAt 3000000 3000000000 sampleContext) (sampleMoment 1) (.int 1000000000) =
        .ok plan := by
  obtain ⟨plan, built⟩ := exists_ok (x := buildWith some samplePlatform sampleEvidence sampleRequest
    samplePolicy (expiringAt 2000000 2000000000 sampleContext) (sampleMoment 1) (.int 1000000000))
    (by decide +kernel)
  obtain ⟨⟨inputs, now, nowMono, utc, mono, _, _, _, expires⟩, helps⟩ := plan_keeps_deadlines built
  refine ⟨plan, built, ⟨inputs, now, nowMono, utc, mono, expires⟩, ?_⟩
  have shifted : Moved samplePlatform 1000000 (expiringAt 3000000 3000000000 sampleContext)
      (expiringAt 2000000 2000000000 sampleContext) :=
    moved_expiringAt (by decide) (by unfold InUtc; decide) (by decide) (by decide)
  exact helps ⟨sampleRequest, samplePolicy, _⟩ (.context shifted) ⟨by decide, by decide⟩

end BtApiCtp.ClosePlan
