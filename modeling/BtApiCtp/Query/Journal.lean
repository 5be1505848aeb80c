/-
# Query.Journal -- which native queries are outstanding

What the journal says: a query that is `opening` has read the generation and not yet taken
the slot, one that is `held` has the slot and is not sent, one that is `outstanding` is sent
and unanswered.  A change of the connection ends all three.
-/
import BtApiCtp.Query.Lane

namespace BtApiCtp.Query

open Theory

variable {xs : List (Nat × Int)}

structure Tally where
  opening : List (Nat × Int) := []
  held : List (Nat × Int) := []
  outstanding : List (Nat × Int) := []

def without (xs : List (Nat × Int)) (x : Nat × Int) : List (Nat × Int) := xs.filter (· ≠ x)

/-- Everything but a request. -/
def withoutId (xs : List (Nat × Int)) (requestId : Int) : List (Nat × Int) :=
  xs.filter fun x => x.2 ≠ requestId

def Tally.note (y : Tally) : Mark → Tally
  | .opened thread requestId => { y with opening := (thread, requestId) :: y.opening }
  | .reserved thread requestId =>
    if (thread, requestId) ∈ y.opening then
      { y with
        opening := without y.opening (thread, requestId)
        held := (thread, requestId) :: y.held }
    else y
  | .entered thread requestId =>
    { y with
      held := without y.held (thread, requestId)
      outstanding := (thread, requestId) :: y.outstanding }
  | .ended thread requestId => { y with outstanding := without y.outstanding (thread, requestId) }
  | .abandoned thread requestId =>
    { y with
      opening := without y.opening (thread, requestId)
      held := without y.held (thread, requestId) }
  | .terminal requestId =>
    ⟨withoutId y.opening requestId, withoutId y.held requestId,
      withoutId y.outstanding requestId⟩
  | .connection => {}
  | _ => y

/-- The queries that hold the slot or are in flight. -/
def Tally.busy (y : Tally) : List (Nat × Int) := y.held ++ y.outstanding

def tally (journal : List Mark) : Tally := journal.foldl Tally.note {}

/-- No native query is sent while another one is outstanding. -/
def Exclusive (journal : List Mark) : Prop :=
  ∀ before thread requestId after, journal = before ++ .entered thread requestId :: after →
    (tally before).outstanding = []

/-- The connection has changed since the query read its generation. -/
def Unsteady (thread : Nat) (requestId : Int) (journal : List Mark) : Prop :=
  ∃ before after, journal = before ++ .opened thread requestId :: after ∧ .connection ∈ after

/-- Every query that was sent held the slot, unless a terminal packet had come for it or,
where that is possible, the connection had changed. -/
def Prompted (possible : Prop) (journal : List Mark) : Prop :=
  ∀ before thread requestId after, journal = before ++ .entered thread requestId :: after →
    (thread, requestId) ∈ (tally before).held ∨ .terminal requestId ∈ before ∨
      (possible ∧ Unsteady thread requestId before)

/-- Nothing was sent through the public view, and every query that was sent held the slot. -/
def Orderly (journal : List Mark) : Prop :=
  .raw ∉ journal ∧ ∀ before thread requestId after,
    journal = before ++ .entered thread requestId :: after →
      (thread, requestId) ∈ (tally before).held

/-- The mark makes a query hold the slot, or sends it. -/
def Mark.takesSlot : Mark → Bool
  | .reserved _ _ => true
  | .entered _ _ => true
  | _ => false

/-- The thread that makes the mark. -/
def Mark.thread : Mark → Option Nat
  | .numbered thread _ => some thread
  | .opened thread _ => some thread
  | .reserved thread _ => some thread
  | .entered thread _ => some thread
  | .ended thread _ => some thread
  | .abandoned thread _ => some thread
  | .raised thread _ => some thread
  | _ => none

variable {journal : List Mark} {m : Mark} {thread : Nat} {requestId : Int} {x : Nat × Int}

@[simp] theorem tally_append (journal : List Mark) (m : Mark) :
    tally (journal ++ [m]) = (tally journal).note m := by
  simp [tally]

@[simp] theorem mem_without {y : Nat × Int} : x ∈ without xs y ↔ x ∈ xs ∧ x ≠ y := by
  simp [without]

@[simp] theorem mem_withoutId : x ∈ withoutId xs requestId ↔
    x ∈ xs ∧ x.2 ≠ requestId := by
  simp [withoutId]

namespace Tally

variable {y : Tally}

/-- A query is noted where it was, or because of its own mark. -/
theorem mem_note (mem : x ∈ (y.note m).opening ∨ x ∈ (y.note m).busy) :
    (x ∈ y.opening ∨ x ∈ y.busy) ∨ m = .opened x.1 x.2 ∨ m = .entered x.1 x.2 := by
  obtain ⟨t, i⟩ := x
  cases m with
  | reserved u j =>
    by_cases opening : (u, j) ∈ y.opening <;> simp [note, busy, opening] at mem ⊢ <;> grind
  | _ => simp [note, busy] at mem ⊢; try grind

theorem mem_note_opening (mem : x ∈ (y.note m).opening) : x ∈ y.opening ∨ m = .opened x.1 x.2 := by
  obtain ⟨t, i⟩ := x
  cases m with
  | reserved u j =>
    by_cases opening : (u, j) ∈ y.opening <;> simp_all [note]
  | opened u j =>
    rcases List.mem_cons.mp mem with same | old
    · exact .inr (by rw [same])
    · exact .inl old
  | _ => simp_all [note]

theorem busy_note_sublist (quiet : m.takesSlot = false) : ((y.note m).busy).Sublist y.busy := by
  cases m with
  | reserved u j => cases quiet
  | entered u j => cases quiet
  | ended u j => exact (List.Sublist.refl _).append List.filter_sublist
  | abandoned u j => exact List.filter_sublist.append (List.Sublist.refl _)
  | terminal j => exact List.filter_sublist.append List.filter_sublist
  | connection => exact List.nil_sublist _
  | _ => exact List.Sublist.refl _

/-- With at most one busy query, the one that holds the slot is alone. -/
theorem eq_of_busy (single : y.busy.length ≤ 1) (held : x ∈ y.held) :
    y.held = [x] ∧ y.outstanding = [] := by
  unfold busy at single
  rw [List.length_append] at single
  have some : 0 < y.held.length := List.length_pos_of_mem held
  obtain ⟨z, only⟩ := List.length_eq_one_iff.mp (by omega : y.held.length = 1)
  rw [only] at held
  rw [List.mem_singleton.mp held]
  exact ⟨only, List.length_eq_zero_iff.mp (by omega)⟩

/-- What another thread, or a packet, does to a query of this thread. -/
theorem mem_note_other (y : Tally) (requestId : Int) (other : m.thread ≠ some thread)
    (steady : m ≠ .connection) :
    ((thread, requestId) ∈ (y.note m).opening ↔
        (thread, requestId) ∈ y.opening ∧ m ≠ .terminal requestId) ∧
      ((thread, requestId) ∈ (y.note m).held ↔
        (thread, requestId) ∈ y.held ∧ m ≠ .terminal requestId) ∧
      ((thread, requestId) ∈ (y.note m).outstanding ↔
        (thread, requestId) ∈ y.outstanding ∧ m ≠ .terminal requestId) := by
  cases m with
  | reserved u j =>
    by_cases opening : (u, j) ∈ y.opening
    · simp [note, opening, Mark.thread] at other ⊢
      grind
    · simp [note, opening]
  | connection => exact absurd rfl steady
  | _ => simp [note, Mark.thread] at other ⊢; try grind

end Tally

theorem append_singleton_split {before after : List Mark} {last : Mark}
    (split : journal ++ [last] = before ++ m :: after) :
    (journal = before ∧ last = m ∧ after = []) ∨ ∃ after', after = after' ++ [last] ∧
      journal = before ++ m :: after' := by
  rcases List.eq_nil_or_concat after with rfl | ⟨after', final, rfl⟩
  · obtain ⟨rfl, same⟩ := List.append_inj' split rfl
    exact .inl ⟨rfl, by simpa using same, rfl⟩
  · rw [List.concat_eq_append] at split ⊢
    have same : journal ++ [last] = (before ++ m :: after') ++ [final] := by simpa using split
    obtain ⟨rfl, final_⟩ := List.append_inj' same rfl
    exact .inr ⟨after', by simpa using final_.symm, rfl⟩

theorem exclusive_append (exclusive : Exclusive journal)
    (alone : ∀ thread requestId, m = .entered thread requestId → (tally journal).outstanding = []) :
    Exclusive (journal ++ [m]) := by
  intro before thread requestId after split
  rcases append_singleton_split split with ⟨rfl, same, -⟩ | ⟨after', -, earlier⟩
  · exact alone thread requestId same
  · exact exclusive before thread requestId after' earlier

theorem Orderly.of_append (orderly : Orderly (journal ++ [m])) :
    Orderly journal ∧ m ≠ .raw ∧ ∀ thread requestId, m = .entered thread requestId →
      (thread, requestId) ∈ (tally journal).held := by
  refine ⟨⟨fun raw => orderly.1 (List.mem_append_left _ raw), ?_⟩, ?_, ?_⟩
  · rintro before thread requestId after rfl
    exact orderly.2 before thread requestId (after ++ [m]) (by simp)
  · rintro rfl
    exact orderly.1 (by simp)
  · rintro thread requestId rfl
    exact orderly.2 journal thread requestId [] rfl

theorem Unsteady.append (unsteady : Unsteady thread requestId journal) :
    Unsteady thread requestId (journal ++ [m]) := by
  obtain ⟨before, after, rfl, changed⟩ := unsteady
  exact ⟨before, after ++ [m], by simp, by simp [changed]⟩

/-- Only a change of the connection makes a query unsteady. -/
theorem unsteady_append_iff (other : m ≠ .connection) :
    Unsteady thread requestId (journal ++ [m]) ↔ Unsteady thread requestId journal := by
  constructor
  · rintro ⟨before, after, split, changed⟩
    rcases append_singleton_split split with ⟨-, -, rfl⟩ | ⟨after', rfl, earlier⟩
    · cases changed
    · rcases mem_snoc.mp changed with changed | same
      · exact ⟨before, after', earlier, changed⟩
      · exact absurd same.symm other
  · exact Unsteady.append

theorem unsteady_connection (opened : .opened thread requestId ∈ journal) :
    Unsteady thread requestId (journal ++ [.connection]) := by
  obtain ⟨before, after, rfl⟩ := List.append_of_mem opened
  exact ⟨before, after ++ [.connection], by simp, by simp⟩

/-- A query that was never opened is not unsteady. -/
theorem not_unsteady_of_not_mem (absent : .opened thread requestId ∉ journal) :
    ¬ Unsteady thread requestId journal := by
  rintro ⟨before, after, rfl, -⟩
  simp at absent

end BtApiCtp.Query
