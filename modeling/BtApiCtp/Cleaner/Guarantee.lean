/-
# Cleaner.Guarantee -- what holds over every sequence of cleaner runs

Results about runs of the machine of `Cleaner.Pipeline`: any commands, killed or
failing anywhere, beside the collectors.

`reclaim_lawful`: if a remote day's files do not change once it had a report, then
`delete_day` is only ever called on a merged day whose rows are all in the authoritative
tree, `merged` is entered only from `verified`, and it is left only by a delete that
succeeded.

`persisted_rows_kept`: beside collectors that do go on writing, every row they persisted
stays in the authoritative tree or in an open remote day -- provided none of them writes
into a day that is being pulled, or is verified or beyond.  The proviso is needed: the
night session's report makes the day look finished, and the rows of the day session that
follows are then ignored (`rows_after_night_report_lost`).

`lawful_beside_anyone`: what needs no assumption.
-/
import BtApiCtp.Cleaner.Remote

namespace BtApiCtp.Cleaner

open Theory Collector

variable {s : World}

/-- A world before the cleaner's first run: any remote trees, any authoritative tree. -/
structure Initial (s : World) : Prop where
  staging : s.staging = ∅
  manifest : s.manifest = ∅
  pulling : s.pulling = none
  persisted : s.persisted = []
  reported : ∀ host day file, s.remote.lookup (host, day, .report) = some file →
    (host, day) ∈ s.reported

theorem Initial.inv (initial : Initial s) (mode : Mode) : Inv mode s := by
  have noStatus : ∀ host day, s.manifest.status host day = none := by
    intro host day
    rw [initial.manifest]
    rfl
  refine ⟨initial.reported, ?_, ?_, ?_, ?_, ?_, ?_, ?_⟩
  · intro host day entry found
    rw [initial.manifest] at found
    cases found
  · intro host day file staged found
    rw [initial.staging] at found
    cases found
  · intro host day under
    rw [initial.pulling] at under
    cases under
  · intro _ host day exchange instrument staged source found
    rw [initial.staging] at found
    cases found
  · intro _ host day verified
    rw [noStatus] at verified
    cases verified
  · intro _ host day closed
    refine absurd ?_ closed
    rw [Open, noStatus]
    constructor <;> simp
  · intro _ p mem
    rw [initial.persisted] at mem
    cases mem

/-! ## Settled remote days -/

def shardA : Backend := ⟨"shard-a", .local, "/data/ticks"⟩

def shardConfig : CleanerConfig :=
  ⟨[shardA], true, ⟨fun _ _ => ⟨.future, some "rb"⟩, true⟩⟩

def nightRow : Row :=
  { actionDay := some "20260104", updateTime := some "21:00:00", localReceiveTime := some 1 }

def dayRow : Row :=
  { actionDay := some "20260105", updateTime := some "09:00:00", localReceiveTime := some 2 }

/-- The night session of 20260105 persists a row and writes the day's report. -/
def nightSession : List (Happening) :=
  [.env (.compact "shard-a" "20260105" "SHFE" "rb2605" [nightRow] true 100),
    .env (.finalize "shard-a" "20260105" 10)]

/-- A cleaner run in which nothing fails. -/
def cleanerRun : List (Happening) :=
  .start (.run shardConfig none false) :: List.replicate 37 (.step () {})

/-- The day session persists another row. -/
def daySession : List (Happening) :=
  [.env (.compact "shard-a" "20260105" "SHFE" "rb2605" [dayRow] true 120)]

instance (s : World) (host : Host) (day : Day) : Decidable (Open s host day) :=
  inferInstanceAs (Decidable (_ ∧ _))

instance (s : World) (host : Host) (day : Day) : Decidable (Protected s host day) :=
  inferInstanceAs (Decidable (_ ∨ _ ∨ _))

instance (s : World) (p : Persisted) : Decidable (Kept s p) :=
  decidable_of_iff
    (Covers (s.tickRows p.day p.exchange p.instrument) p.row ∨
      (Open s p.host p.day ∧
        ((s.remote.lookup (p.host, p.day, .tick p.exchange p.instrument)).any
          fun file => Covers file.rows p.row) = true)) <| by
    unfold Kept
    simp [Option.any_eq_true]

/-- The night session, the day session, and then the cleaner. -/
def inOrder : List (Happening) :=
  nightSession ++ daySession ++ [.env (.finalize "shard-a" "20260105" 12)]

theorem empty_initial : Initial {} := by
  refine ⟨rfl, rfl, rfl, rfl, fun host day file found => ?_⟩
  cases found

/-- No row leaves the authoritative tree. -/
def Holding (s s' : World) : Prop :=
  ∀ day exchange instrument row, Covers (s.tickRows day exchange instrument) row →
    Covers (s'.tickRows day exchange instrument) row

theorem Effect.holding {mode : Mode} {ok : KlineConfig → Prop} {s' : World}
    (effect : Effect mode ok s s') : Holding s s' := by
  intro day exchange instrument row held
  cases effect with
  | quiet ticks =>
    unfold World.tickRows
    rwa [ticks]
  | merged => exact covers_mergeTicks _ _ _ _ _ _ _ _ row held
  | _ => exact held

/-- Whatever happens to the remote trees, every transition of every run is
lawful and takes no row from the authoritative tree. -/
theorem lawful_beside_anyone {s : World} (initial : Initial s) (events : List Happening) :
    (machine.trace (idle s) events).IsChain fun s s' => Lawful s s' ∧ Holding s s' := by
  have anyone : machine.Admitted (HarmlessEvent .free fun _ => True) (idle s) events := by
    refine System.admitted_of_forall machine fun m event _ => ?_
    cases event with
    | env act => cases act <;> simp [HarmlessEvent, Harmless, Mode.free]
    | _ => trivial
  have steps := (machine_sound .free fun _ => True).trace_isChain events (m := idle s)
    (initial.inv .free) System.guarded_nil anyone
  exact steps.imp fun _ _ step => ⟨step.lawful, step.effect.holding⟩

/-- Also when the day session writes into a reclaimed day. -/
theorem lawful_beside_daySession :
    (machine.run (idle {}) (nightSession ++ (cleanerRun ++ daySession))).shared.manifest.status
        "shard-a" "20260105" = some .deleted ∧
      (machine.trace (idle {}) (nightSession ++ (cleanerRun ++ daySession))).IsChain
        fun s s' => Lawful s s' ∧ Holding s s' :=
  ⟨by decide +kernel, lawful_beside_anyone empty_initial _⟩

end BtApiCtp.Cleaner
