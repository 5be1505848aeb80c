/-
# Cleaner.Steps -- every command keeps the invariant

The programs of the pipeline are walked once, following their text.  The assertion
carried through a command is that no save is outstanding (`Idle`); inside a pull it is
that memory and file agree on every other entry (`Pulling`), because an exception may
leave one entry marked in memory only.
-/
import BtApiCtp.Cleaner.Safety

namespace BtApiCtp.Cleaner

open Theory Collector

variable {P : World → Prop} {E : Failure → World → Prop} {host : Host} {day : Day} {status : Status}
  {files : Option (List FileRecord)} {error : Option String} {now : String}
  {keys : List (Host × Day)} {backend : Backend} {Q : World → Prop}

section Programs

variable {mode : Mode} {ok : KlineConfig → Prop} {α : Type} {s : World}

/-- `p` keeps `Inv` step by step under `Rely`, each step is a `Step`, and it ends in `Q` or,
raising, in `E`. -/
abbrev SafeAt (mode : Mode) (ok : KlineConfig → Prop) (Q : α → World → Prop)
    (E : Failure → World → Prop) (p : Action α) (s : World) : Prop :=
  Prog.Safe (Inv mode) (Rely mode) (Step mode ok) Q E p s

/-- The same, whatever is raised. -/
abbrev SafeTo (mode : Mode) (ok : KlineConfig → Prop) (Q : α → World → Prop) (p : Action α)
    (s : World) : Prop :=
  SafeAt mode ok Q (fun _ _ => True) p s

theorem SafeTo.imp {Q Q' : α → World → Prop} {p : Action α} (safe : SafeTo mode ok Q p s)
    (implies : ∀ a s, Q a s → Q' a s) : SafeTo mode ok Q' p s :=
  safe.mono implies fun _ _ _ => trivial

/-- Interference keeps the assertion. -/
def Stable (mode : Mode) (P : World → Prop) : Prop := ∀ s s', Rely mode s s' → P s → P s'

/-! ## Single steps -/

theorem safe_observe (stable : Stable mode P) (f : World → α) (pre : P s) :
    SafeAt mode ok (fun a s => P s ∧ Inv mode s ∧ a = f s) E (Prog.observe f) s := by
  refine .atomic P pre (stable s) fun _ s' here inv => ⟨inv, .refl _, ?_, nofun⟩
  intro a result
  exact ⟨here, inv, (Except.ok.inj result).symm⟩

theorem safe_reading (stable : Stable mode P) (f : World → α) (raises : ∀ e s, P s → E e s)
    (pre : P s) : SafeAt mode ok (fun a s => P s ∧ Inv mode s ∧ a = f s) E (reading f) s := by
  refine .atomic P pre (stable s) fun c s' here inv => ?_
  cases c.failure with
  | none =>
    refine ⟨inv, .refl _, ?_, nofun⟩
    intro a result
    exact ⟨here, inv, (Except.ok.inj result).symm⟩
  | some failure =>
    refine ⟨inv, .refl _, nofun, ?_⟩
    intro e _
    exact raises e s' here

theorem safe_modify (stable : Stable mode P) {f : World → World}
    (step : ∀ s, P s → Inv mode s → Inv mode (f s) ∧ Step mode ok s (f s) ∧ Q (f s)) (pre : P s) :
    SafeAt mode ok (fun _ => Q) E (Prog.modify f) s := by
  refine .atomic P pre (stable s) fun c s' here inv => ?_
  obtain ⟨kept, lawful, post⟩ := step s' here inv
  refine ⟨kept, lawful, ?_, nofun⟩
  intro _ _
  exact post

theorem safe_mark (stable : Stable mode P) (agree : ∀ s, P s → Agree s host day)
    (may : ∀ s, P s → Inv mode s → MayMark mode s host day status)
    (reported : ∀ s, P s → Inv mode s → (host, day) ∈ s.reported)
    (saves : ∀ s now, P s → Inv mode s → Q (s.saved host day status files error now))
    (raises : ∀ e s now, P s → E e (s.marked host day status files error now)) (pre : P s) :
    SafeAt mode ok (fun _ => Q) E (mark host day status files error) s := by
  refine .atomic P pre (stable s) fun c s' here inv => ?_
  cases c.failure with
  | none =>
    refine ⟨inv.saved (agree s' here) (may s' here inv) (reported s' here inv) rfl rfl rfl rfl rfl
      rfl rfl, .unlogged (Lawful.saved (agree s' here) (may s' here inv) rfl rfl) rfl
        (.saved (agree s' here) (may s' here inv)), ?_, nofun⟩
    intro _ _
    exact saves s' c.now here inv
  | some failure =>
    refine ⟨{ inv with }, .quiet rfl rfl rfl rfl rfl, nofun, ?_⟩
    intro e _
    exact raises e s' c.now here

/-! ## Assertions -/

/-- No save is outstanding and no pull is under way. -/
structure Idle (s : World) : Prop where
  memory : s.memory = s.manifest
  pulling : s.pulling = none

theorem Idle.stable : Stable mode Idle := fun _ _ rely idle =>
  ⟨by rw [rely.memory, rely.manifest, idle.memory], by rw [rely.pulling, idle.pulling]⟩

theorem Idle.agree (idle : Idle s) (host : Host) (day : Day) : Agree s host day :=
  ⟨fun _ _ _ => by rw [idle.memory], by rw [idle.memory]⟩

theorem Idle.saved (idle : Idle s) :
    Idle (s.saved host day status files error now) := ⟨rfl, idle.pulling⟩

/-- The listed host/days are open, and had a report. -/
def Ready (keys : List (Host × Day)) (s : World) : Prop :=
  ∀ key ∈ keys, Open s key.1 key.2 ∧ key ∈ s.reported

theorem Ready.stable (keys : List (Host × Day)) : Stable mode (Ready keys) := by
  intro s s' rely ready key mem
  obtain ⟨isOpen, reported⟩ := ready key mem
  exact ⟨(rely.open_iff key.1 key.2).mpr isOpen, rely.reported key reported⟩

theorem Ready.saved (ready : Ready keys s) (agree : Agree s host day)
    (opens : status ≠ .merged ∧ status ≠ .deleted) :
    Ready keys (s.saved host day status files error now) := by
  intro key mem
  obtain ⟨isOpen, reported⟩ := ready key mem
  refine ⟨?_, reported⟩
  have statuses : (s.saved host day status files error now).manifest.status key.1 key.2 =
      if (key.1, key.2) = (host, day) then some status else s.manifest.status key.1 key.2 :=
    saved_status agree rfl key.1 key.2
  rw [Open, statuses]
  split
  · exact ⟨fun h => opens.1 (Option.some.inj h), fun h => opens.2 (Option.some.inj h)⟩
  · exact isOpen

/-- A pull of `host`/`day` is under way: memory and file may differ on its entry only. -/
structure Pulling (keys : List (Host × Day)) (host : Host) (day : Day) (s : World) : Prop where
  pulling : s.pulling = some (host, day)
  agree : Agree s host day
  ready : Ready keys s

theorem Agree.stable (host : Host) (day : Day) : Stable mode fun s => Agree s host day := by
  intro s s' rely agree
  refine ⟨fun host' day' other => ?_, ?_⟩
  · rw [rely.memory, rely.manifest]
    exact agree.others host' day' other
  · rw [rely.memory, rely.manifest]
    exact agree.stamp

theorem Pulling.stable (keys : List (Host × Day)) (host : Host) (day : Day) :
    Stable mode (Pulling keys host day) := fun s s' rely here =>
  ⟨by rw [rely.pulling, here.pulling], Agree.stable host day s s' rely here.agree,
    Ready.stable keys s s' rely here.ready⟩

theorem Pulling.saved (here : Pulling keys host day s)
    (opens : status ≠ .merged ∧ status ≠ .deleted) :
    Pulling keys host day (s.saved host day status files error now) :=
  ⟨here.pulling, ⟨fun _ _ _ => rfl, rfl⟩, here.ready.saved here.agree opens⟩

theorem Pulling.marked (here : Pulling keys host day s) :
    Pulling keys host day (s.marked host day status files error now) := by
  refine ⟨here.pulling, ⟨fun host' day' other => ?_, ?_⟩, here.ready⟩
  · have kept : (s.marked host day status files error now).memory.entry host' day' =
        s.memory.entry host' day' := Manifest.entry_mark_ne other
    rw [kept]
    exact here.agree.others host' day' other
  · exact klinedAt_mark.trans here.agree.stamp

/-! ## Pull -/

/-- The listing names every remote tick file at its size. -/
def Listed (host : Host) (day : Day) (files : List (DayFile × Nat)) (s : World) : Prop :=
  ∀ exchange instrument file, s.remote.lookup (host, day, .tick exchange instrument) = some file →
    (.tick exchange instrument, file.size) ∈ files

/-- Between the first mark of a pull and the last. -/
structure Fetching (mode : Mode) (keys : List (Host × Day)) (host : Host) (day : Day)
    (files : List (DayFile × Nat)) (s : World) : Prop extends Pulling keys host day s where
  unverified : s.manifest.status host day ≠ some .verified
  listed : mode.settled → Listed host day files s

theorem Pulling.protected (here : Pulling keys host day s) :
    Protected s host day := .inl here.pulling

theorem Fetching.stable (keys : List (Host × Day)) (host : Host) (day : Day)
    (files : List (DayFile × Nat)) : Stable mode (Fetching mode keys host day files) := by
  intro s s' rely here
  refine ⟨Pulling.stable keys host day s s' rely here.toPulling, ?_, ?_⟩
  · rw [rely.manifest]
    exact here.unverified
  · intro settled exchange instrument file found
    rw [rely.remote settled host day exchange instrument here.protected] at found
    exact here.listed settled exchange instrument file found

/-- Staging a file that is the remote's, if it has its size, keeps the invariant while the
day is not verified. -/
theorem Inv.staged (inv : Inv mode s) {file : DayFile} {copy : File}
    (unverified : s.manifest.status host day ≠ some .verified)
    (reported : (host, day) ∈ s.reported)
    (faithful : mode.settled → ∀ source, s.remote.lookup (host, day, file) = some source →
      copy.size = source.size → copy = source) :
    Inv mode { s with staging := s.staging.insert (host, day, file) copy } := by
  refine ⟨inv.1, inv.2, ?_, inv.4, ?_, ?_, inv.7, inv.8⟩
  · intro host' day' file' staged found
    rw [Dict.lookup_insert_eq] at found
    split at found
    · rename_i same
      cases same
      exact reported
    · exact inv.staged_reported host' day' file' staged found
  · intro settled host' day' exchange instrument staged source found inRemote sameSize
    rw [Dict.lookup_insert_eq] at found
    split at found
    · rename_i same
      cases found
      rw [same] at inRemote
      exact faithful settled source inRemote sameSize
    · exact inv.staged_copy settled host' day' exchange instrument staged source found inRemote sameSize
  · intro settled host' day' verified exchange instrument source inRemote
    have kept := inv.verified_staged settled host' day' verified exchange instrument source inRemote
    rw [Dict.lookup_insert_eq, if_neg]
    · exact kept
    · intro same
      cases same
      exact unverified verified

theorem safe_fetchFile {files : List (DayFile × Nat)} (inKeys : (backend.name, day) ∈ keys)
    (file : DayFile) (size : Nat) (pre : Fetching mode keys backend.name day files s) :
    SafeAt mode ok (fun _ => Fetching mode keys backend.name day files)
      (fun _ => Pulling keys backend.name day) (backend.fetchFile day file size) s := by
  refine .atomic _ pre (Fetching.stable keys backend.name day files s) fun c s' here inv => ?_
  have reported := (here.ready _ inKeys).2
  -- every outcome of the copy is the world with another staging tree, or the world itself
  have outcome : ∀ copy : File,
      (mode.settled → ∀ source, s'.remote.lookup (backend.name, day, file) = some source →
        copy.size = source.size → copy = source) →
      Inv mode { s' with staging := s'.staging.insert (backend.name, day, file) copy } :=
    fun copy faithful => inv.staged here.unverified reported faithful
  have moved : ∀ staging, Fetching mode keys backend.name day files { s' with staging } :=
    fun staging => ⟨⟨here.pulling, ⟨here.agree.others, here.agree.stamp⟩, here.ready⟩,
      here.unverified, here.listed⟩
  dsimp only
  split
  · exact ⟨inv, .refl _, fun _ _ => here, nofun⟩
  · cases failed : c.failure with
    | none =>
      cases found : s'.remote.lookup (backend.name, day, file) with
      | none =>
        exact ⟨inv, .refl _, nofun, fun _ _ => here.toPulling⟩
      | some source =>
        refine ⟨outcome source fun _ other same _ => ?_, .quiet rfl rfl rfl rfl rfl,
          fun _ _ => moved _, nofun⟩
        exact Option.some.inj (found.symm.trans same)
    | some failure =>
      refine ⟨?_, .quiet rfl rfl rfl rfl rfl, nofun, fun _ _ => (moved _).toPulling⟩
      change Inv mode { s' with
        staging := backend.brokenCopy s'.staging (backend.name, day, file)
          (s'.remote.lookup (backend.name, day, file)) c.extent failure.message }
      rcases backend.brokenCopy_cases s'.staging (backend.name, day, file)
        (s'.remote.lookup (backend.name, day, file)) c.extent failure.message with
        same | ⟨source, copy, found, shorter, same⟩
      · rw [same]
        exact inv
      · rw [same]
        refine outcome copy fun _ other inRemote sameSize => ?_
        have sourceEq : source = other := Option.some.inj (found.symm.trans inRemote)
        rw [sourceEq] at shorter
        omega

theorem safe_fetchDay {files : List (DayFile × Nat)} (inKeys : (backend.name, day) ∈ keys)
    (pre : Fetching mode keys backend.name day files s) :
    SafeAt mode ok (fun _ => Fetching mode keys backend.name day files)
      (fun _ => Pulling keys backend.name day) (backend.fetchDay day) s := by
  refine .bind (fun listed s' post => ?_)
    (safe_reading (Fetching.stable keys backend.name day files) _ (fun _ _ here => here.toPulling) pre)
  dsimp only
  split
  · exact post.1.toPulling
  · exact .forEach (fun _ => Fetching mode keys backend.name day files)
      (fun file _ _ here => safe_fetchFile inKeys file.1 file.2 here) (fun _ here => here) post.1

theorem status_saved_self :
    (s.saved host day status files error now).manifest.status host day = some status := by
  rw [World.saved, Manifest.status_mark, if_pos rfl]

/-- A verified listing of a day that is being fetched stages all of it. -/
theorem Fetching.stagedAll {files : List (DayFile × Nat)}
    (here : Fetching mode keys host day files s) (inv : Inv mode s)
    (verified : (verifyStagedDay s.staging host day files).ok = true) (settled : mode.settled) :
    StagedAll s host day := by
  intro exchange instrument file found
  obtain ⟨staged, inStaging, sameSize⟩ :=
    staged_of_verified verified (here.listed settled exchange instrument file found)
  have same := inv.staged_copy settled host day exchange instrument staged file inStaging found sameSize
  rw [inStaging, same]

/-- The end of a pull: what it did is on disk. -/
structure Pulled (keys : List (Host × Day)) (host : Host) (day : Day) (s : World) : Prop
    extends Pulling keys host day s where
  memory : s.memory = s.manifest

theorem Pulled.stable (keys : List (Host × Day)) (host : Host) (day : Day) :
    Stable mode (Pulled keys host day) := fun s s' rely here =>
  ⟨Pulling.stable keys host day s s' rely here.toPulling,
    by rw [rely.memory, rely.manifest, here.memory]⟩

theorem safe_markPulling (inKeys : (host, day) ∈ keys)
    (opens : status = .discovered ∨ status = .pulled ∨ status = .failed)
    (pre : Pulling keys host day s) :
    SafeAt mode ok (fun _ s => Pulled keys host day s ∧ s.manifest.status host day = some status)
      (fun _ => Pulling keys host day) (mark host day status files error) s := by
  have notClosed : status ≠ .merged ∧ status ≠ .deleted := by
    rcases opens with rfl | rfl | rfl <;> exact ⟨nofun, nofun⟩
  refine safe_mark (Pulling.stable keys host day) (fun _ here => here.agree) (fun s' here _ => ?_)
    (fun _ here _ => (here.ready _ inKeys).2) (fun s' now here _ => ?_) (fun _ _ _ here => here.marked) pre
  · rcases opens with rfl | rfl | rfl <;> exact (here.ready _ inKeys).1
  · exact ⟨⟨here.saved notClosed, rfl⟩, status_saved_self⟩

theorem safe_pullDaySteps (inKeys : (backend.name, day) ∈ keys)
    (pre : Pulling keys backend.name day s) :
    SafeAt mode ok (fun _ => Pulled keys backend.name day) (fun _ => Pulling keys backend.name day)
      (pullDaySteps backend day) s := by
  refine .bind (fun _ s₁ marked => ?_) (safe_markPulling inKeys (.inl rfl) pre)
  have discovered : s₁.manifest.status backend.name day ≠ some .verified := by
    rw [marked.2]
    exact nofun
  -- the listing is taken while the day is protected, so it stays a listing of the remote
  refine .bind (fun files s₂ listing => ?_)
    (safe_reading (P := fun s => Pulling keys backend.name day s ∧
      s.manifest.status backend.name day ≠ some .verified)
      (fun s s' rely here => ⟨Pulling.stable _ _ _ s s' rely here.1, by
        rw [rely.manifest]; exact here.2⟩)
      _ (fun _ _ here => here.1) ⟨marked.1.toPulling, discovered⟩)
  obtain ⟨⟨pulling, unverified⟩, _, filesEq⟩ := listing
  have fetching : Fetching mode keys backend.name day files s₂ := by
    refine ⟨pulling, unverified, fun _ exchange instrument file found => ?_⟩
    rw [filesEq, mem_dayFiles]
    exact ⟨file, found, rfl⟩
  refine .bind (fun _ s₃ fetched => ?_) (safe_fetchDay inKeys fetching)
  refine .bind (Q := fun _ => Fetching mode keys backend.name day files) (fun _ s₄ fetched => ?_) ?_
  · refine .bind (fun verification s₅ verified => ?_)
      (safe_reading (Fetching.stable keys backend.name day files) _
        (fun _ _ here => here.toPulling) fetched)
    obtain ⟨here, inv, verificationEq⟩ := verified
    split
    · rename_i verifies
      rw [verificationEq] at verifies
      refine safe_mark (P := fun s => Pulling keys backend.name day s ∧
          (mode.settled → StagedAll s backend.name day))
        (fun s s' rely here => ⟨Pulling.stable _ _ _ s s' rely here.1,
          fun settled => rely.stagedAll settled here.1.protected (here.2 settled)⟩)
        (fun _ here => here.1.agree) (fun _ here _ => ⟨(here.1.ready _ inKeys).1, here.2⟩)
        (fun _ here _ => (here.1.ready _ inKeys).2)
        (fun _ _ here _ => ⟨here.1.saved ⟨nofun, nofun⟩, rfl⟩) (fun _ _ _ here => here.1.marked)
        ⟨here.toPulling, here.stagedAll inv verifies⟩
    · exact (safe_markPulling inKeys (.inr (.inr rfl)) here.toPulling).mono
        (fun _ _ post => post.1) (fun _ _ post => post)
  · refine safe_mark (Fetching.stable keys backend.name day files) (fun _ here => here.agree)
      (fun _ here _ => (here.ready _ inKeys).1) (fun _ here _ => (here.ready _ inKeys).2)
      (fun _ _ here _ => ⟨here.toPulling.saved ⟨nofun, nofun⟩, ?_, here.listed⟩)
      (fun _ _ _ here => here.toPulling.marked) fetched
    rw [status_saved_self]
    exact nofun

/-- A pull leaves no save outstanding and the other ready days ready. -/
theorem safe_pullDay (inKeys : (backend.name, day) ∈ keys) (pre : Idle s ∧ Ready keys s) :
    SafeTo mode ok (fun _ s => Idle s ∧ Ready keys s) (pullDay backend day) s := by
  have stable : Stable mode fun s => Idle s ∧ Ready keys s := fun s s' rely here =>
    ⟨Idle.stable s s' rely here.1, Ready.stable keys s s' rely here.2⟩
  refine .bind (Q := fun _ => Pulling keys backend.name day) (fun _ s₁ pulling => ?_)
    (safe_modify stable (fun s here inv => ⟨⟨inv.1, inv.2, inv.3, ?_, inv.5, inv.6, inv.7, inv.8⟩,
      .quiet rfl rfl rfl rfl rfl, rfl,
      ⟨(here.1.agree backend.name day).others, (here.1.agree backend.name day).stamp⟩, here.2⟩) pre)
  · refine .bind (Q := fun _ => Pulled keys backend.name day) (fun _ s₂ pulled => ?_) ?_
    · exact safe_modify (Pulled.stable keys backend.name day)
        (fun s here inv => ⟨⟨inv.1, inv.2, inv.3, nofun, inv.5, inv.6, inv.7, inv.8⟩,
          .quiet rfl rfl rfl rfl rfl, ⟨here.memory, rfl⟩, here.ready⟩) pulled
    · refine .tryCatch (fun failure s₂ here => ?_) (safe_pullDaySteps inKeys pulling)
      exact (safe_markPulling inKeys (.inr (.inr rfl)) here).mono (fun _ _ post => post.1)
        (fun _ _ _ => trivial)
  · intro host' day' same
    cases same
    exact (here.2 _ inKeys).2

end Programs
end BtApiCtp.Cleaner
