/-
# Dispatch.Moves -- what can happen to latches, tickets and the journal

Whatever a section of the authority does, it does to these by the moves listed here, and the
invariant follows from the moves alone: which marks may not come after which, what the latches
say of the journal, and the trail of every ticket.
-/
import BtApiCtp.Dispatch.Calls
import BtApiCtp.Theory.Journal
import Mathlib.Logic.Relation

namespace BtApiCtp.Dispatch

open Python Theory Relation

variable {s s' : Authority} {marks : List Mark} {number : Nat} {ticket : Ticket}
  {journal : List Mark}

/-! ## Marks -/

namespace Mark

/-- The outcome of a dispatch is not known, or the authority is frozen. -/
def isHardLatch : Mark → Bool
  | .froze => true
  | .recorded evidence => evidence.status = .unknown
  | _ => false

def isLatch : Mark → Bool
  | .callbackLatched => true
  | mark => mark.isHardLatch

/-- A scope is admitted, or an arm call passes its check. -/
def isEntry : Mark → Bool
  | .admitted _ => true
  | .armBegan _ => true
  | _ => false

/-- What must not come after what. -/
def Allows (earlier later : Mark) : Prop :=
  (earlier.isLatch = true → later.isEntry = false) ∧
    (earlier.isHardLatch = true → ∀ call, later ≠ .armed call)

/-- An arm that succeeded passed its check. -/
def Needs : Mark → Mark → Prop
  | .armed call, earlier => earlier = .armBegan call
  | _, _ => False

/-- The ticket a mark is about. -/
def ticket? : Mark → Option Nat
  | .admitted ticket => some ticket
  | .returned ticket _ => some ticket
  | .recorded evidence => some (evidence.sequence - 1)
  | .rejected ticket => some ticket
  | .ended ticket => some ticket
  | _ => none

end Mark

/-- What happened to one ticket. -/
def trail (journal : List Mark) (number : Nat) : List Mark :=
  journal.filter fun mark => mark.ticket? = some number

/-- All evidence, in the order in which it was recorded. -/
def evidences (journal : List Mark) : List Evidence :=
  journal.filterMap fun
    | .recorded evidence => some evidence
    | _ => none

/-- How a ticket was finished. -/
inductive Settlement (number : Nat) : List Mark → Prop
  | returned (ticket : Ticket) (value : Value) : Settlement number
      [.returned number value,
        .recorded (Authority.evidenceOf number ticket (Authority.codeOf value) none)]
  | abandoned (ticket : Ticket) (errorType : String) : Settlement number
      [.recorded (Authority.evidenceOf number ticket none (some errorType))]
  | rejected : Settlement number [.rejected number]

/-- The trail of a ticket, by how far its scope has come. -/
def Trailed (number : Nat) (marks : List Mark) : Option Ticket → Prop
  | none => marks = []
  | some ticket =>
    match ticket.finished, ticket.active with
    | false, true => marks = [.admitted number]
    | true, true => ∃ settled, Settlement number settled ∧ marks = .admitted number :: settled
    | true, false => ∃ settled, Settlement number settled ∧
        marks = .admitted number :: settled ++ [.ended number]
    | false, false => False

namespace Authority

/-! ## What can happen -/

/-- Neither frozen nor with an outcome that is not known. -/
def Steady (s : Authority) : Prop :=
  s.latches.frozen = false ∧ s.latches.unknownDispatch = none

def Armable (s : Authority) : Prop := s.Steady ∧ s.observed.ledger.unresolved = false

/-- A ticket whose scope is open and that nobody has finished. -/
def Open (s : Authority) (number : Nat) (ticket : Ticket) : Prop :=
  s.latches.tickets[number]? = some ticket ∧ ticket.active = true ∧ ticket.finished = false

/-- The evidence is recorded, and an outcome that is not known is kept. -/
def record (number : Nat) (evidence : Evidence) (s : Authority) : Authority :=
  let recorded := (s.finishTicket number).appendEvidence evidence
  { recorded with latches := { recorded.latches with
      unknownDispatch :=
        if evidence.status = .unknown then some evidence else s.latches.unknownDispatch } }

/-- The scope of a finished ticket ends. -/
def close (number : Nat) (s : Authority) : Authority :=
  (s.setTicket number fun ticket => { ticket with active := false }).note (.ended number)

/-- What one section can do to latches, tickets and journal. -/
inductive Move : Authority → Authority → Prop
  | quiet {s s' : Authority} (limits : s'.limits = s.limits) (latches : s'.latches = s.latches)
      (ledger : s'.observed.ledger = s.observed.ledger) (journal : s'.journal = s.journal) :
      Move s s'
  | freeze (s : Authority) (reason : String) : Move s (s.freeze reason)
  | latch (s : Authority) (orderRef : Option String) (identityIncomplete : Bool) :
      Move s (s.latchCallbackUnknown orderRef identityIncomplete)
  | began (s : Authority) (call : Nat) (armable : s.Armable) : Move s (s.note (.armBegan call))
  | armed (s : Authority) (call : Nat) (steady : s.Steady) (began : .armBegan call ∈ s.journal) :
      Move s (s.note (.armed call))
  | admitted (s : Authority) (request : ScopeRequest) (identity : Identity) (stateRef : String)
      (target : Option Nat) (armable : s.Armable) :
      Move s (s.openScope request identity stateRef target)
  | returned (s : Authority) (number : Nat) (ticket : Ticket) (value : Value)
      (isOpen : s.Open number ticket) : Move s ((s.note (.returned number value)).record number
        (evidenceOf number ticket (codeOf value) none))
  | abandoned (s : Authority) (number : Nat) (ticket : Ticket) (errorType : String)
      (isOpen : s.Open number ticket) :
      Move s (s.record number (evidenceOf number ticket none (some errorType)))
  | rejected (s : Authority) (number : Nat) (ticket : Ticket) (isOpen : s.Open number ticket) :
      Move s ((s.finishTicket number).note (.rejected number))
  | ended (s : Authority) (number : Nat) (ticket : Ticket)
      (found : s.latches.tickets[number]? = some ticket) (active : ticket.active = true)
      (finished : ticket.finished = true) : Move s (s.close number)

/-! ## The invariant -/

structure Inv (s : Authority) : Prop where
  frozen : ∀ mark ∈ s.journal, mark = .froze → s.latches.frozen = true
  unknown : ∀ evidence, .recorded evidence ∈ s.journal → evidence.status = .unknown →
    s.latches.unknownDispatch.isSome = true
  callback : .callbackLatched ∈ s.journal → s.observed.ledger.unresolved = true
  /-- The published facts follow the ledger. -/
  published : s.observed.ledger.orders ≠ [] ∨ s.observed.ledger.overflow = true →
    s.observed.ledger.unresolved = true
  order : s.journal.Pairwise Mark.Allows
  preceded : Preceded Mark.Needs s.journal
  trails : ∀ number, Trailed number (trail s.journal number) s.latches.tickets[number]?
  history : s.latches.dispatchHistory =
    (evidences s.journal).drop ((evidences s.journal).length - s.limits.historyLimit)

theorem inv_fresh (limits : Limits) : Inv { limits } where
  frozen mark mem := absurd mem List.not_mem_nil
  unknown _ mem := absurd mem List.not_mem_nil
  callback mem := absurd mem List.not_mem_nil
  published some := by simp at some
  order := List.Pairwise.nil
  preceded := preceded_nil
  trails _ := rfl
  history := List.drop_nil.symm

/-- While the authority is steady nothing in the journal is a hard latch. -/
theorem Inv.no_hardLatch (inv : Inv s) (steady : s.Steady) :
    ∀ mark ∈ s.journal, mark.isHardLatch = false := by
  intro mark mem
  cases mark with
  | froze =>
    have frozen := inv.frozen _ mem rfl
    rw [steady.1] at frozen
    cases frozen
  | recorded evidence =>
    refine Bool.eq_false_iff.mpr fun unknown => ?_
    have kept := inv.unknown evidence mem (by simpa [Mark.isHardLatch] using unknown)
    rw [steady.2] at kept
    cases kept
  | _ => rfl

theorem Inv.no_latch (inv : Inv s) (armable : s.Armable) :
    ∀ mark ∈ s.journal, mark.isLatch = false := by
  intro mark mem
  have soft := inv.no_hardLatch armable.1 mark mem
  cases mark with
  | callbackLatched =>
    have latched := inv.callback mem
    rw [armable.2] at latched
    cases latched
  | _ => exact soft

/-! ## Marks that may come after anything -/

/-- No entry and no success of an arm. -/
def Plain (mark : Mark) : Prop := mark.isEntry = false ∧ ∀ call, mark ≠ .armed call

theorem pairwise_append_plain (order : journal.Pairwise Mark.Allows)
    (plain : ∀ mark ∈ marks, Plain mark) : (journal ++ marks).Pairwise Mark.Allows := by
  have allows : ∀ earlier mark, mark ∈ marks → Mark.Allows earlier mark := fun _ mark mem =>
    ⟨fun _ => (plain mark mem).1, fun _ => (plain mark mem).2⟩
  refine List.pairwise_append.mpr ⟨order, ?_, fun earlier _ mark mem => allows earlier mark mem⟩
  exact List.Pairwise.imp_of_mem (fun _ mem _ => allows _ _ mem)
    (List.pairwise_of_forall fun (_ _ : Mark) => trivial)

theorem preceded_append_plain (preceded : Preceded Mark.Needs journal)
    (plain : ∀ mark ∈ marks, Plain mark) : Preceded Mark.Needs (journal ++ marks) := by
  induction marks generalizing journal with
  | nil => simpa using preceded
  | cons mark rest ih =>
    have first : Preceded Mark.Needs (journal ++ [mark]) := by
      refine preceded.snoc fun ⟨earlier, needs⟩ => ?_
      cases mark with
      | armed call => exact absurd rfl ((plain _ List.mem_cons_self).2 call)
      | _ => exact needs.elim
    rw [List.append_cons]
    exact ih first fun other mem => plain other (List.mem_cons_of_mem _ mem)

theorem trail_append (journal marks : List Mark) (number : Nat) :
    trail (journal ++ marks) number = trail journal number ++ trail marks number :=
  List.filter_append ..

theorem trail_eq_nil (other : ∀ mark ∈ marks, mark.ticket? ≠ some number) :
    trail marks number = [] :=
  List.filter_eq_nil_iff.mpr fun mark mem => by simpa using other mark mem

theorem trail_eq_self (about : ∀ mark ∈ marks, mark.ticket? = some number) :
    trail marks number = marks :=
  List.filter_eq_self.mpr fun mark mem => by simpa using about mark mem

theorem evidences_append (journal marks : List Mark) :
    evidences (journal ++ marks) = evidences journal ++ evidences marks :=
  List.filterMap_append ..

/-- The bounded history of a longer list is that of the bounded one. -/
theorem drop_snoc_drop {α : Type} (xs : List α) (x : α) (limit : Nat) (positive : 0 < limit) :
    let kept := xs.drop (xs.length - limit) ++ [x]
    kept.drop (kept.length - limit) = (xs ++ [x]).drop ((xs ++ [x]).length - limit) := by
  have length : (xs.drop (xs.length - limit)).length = min xs.length limit := by
    rw [List.length_drop]
    omega
  have front : ∀ n, n ≤ xs.length → (xs ++ [x]).drop n = xs.drop n ++ [x] := fun n inside =>
    List.drop_append_of_le_length inside
  dsimp only
  rw [List.length_append, List.length_append, length, List.length_singleton]
  rcases Nat.lt_or_ge xs.length limit with short | long
  · rw [Nat.sub_eq_zero_of_le short.le, List.drop_zero]
    rw [Nat.min_eq_left short.le]
  · rw [Nat.min_eq_right long, Nat.add_sub_cancel_left]
    rw [← front _ (Nat.sub_le _ _), List.drop_drop]
    congr 1
    omega

theorem evidenceOf_status (number : Nat) (ticket : Ticket) (code : Option Int)
    (errorType : Option String) : (evidenceOf number ticket code errorType).status = .known ↔
      code = some 0 ∧ errorType = none := by
  unfold evidenceOf
  dsimp only
  split
  · rename_i known
    simp [known]
  · rename_i unknown
    simp [unknown]

/-- After a callback was latched the published facts say so. -/
theorem latch_unresolved {ledger : CallbackLedger}
    (published : ledger.orders ≠ [] ∨ ledger.overflow = true → ledger.unresolved = true)
    (limit : Nat) (orderRef : Option String) (identityIncomplete : Bool) :
    (ledger.latch limit orderRef identityIncomplete).unresolved = true := by
  by_cases fresh : orderRef ∉ ledger.orders ∧ ledger.overflow = false
  · by_cases full : limit ≤ ledger.orders.length
    iterate 2 · simp [CallbackLedger.latch, fresh, full]
  · have latched : ledger.orders ≠ [] ∨ ledger.overflow = true := by
      by_cases overflow : ledger.overflow = true
      · exact .inr overflow
      · have present : orderRef ∈ ledger.orders := by
          by_contra absent
          exact fresh ⟨absent, Bool.eq_false_iff.mpr overflow⟩
        exact .inl (List.ne_nil_of_mem present)
    have unresolved := published latched
    unfold CallbackLedger.latch
    dsimp only
    split
    · simp only [ne_eq, decide_not, Bool.or_eq_true, Bool.not_eq_eq_eq_not, Bool.not_true,
        decide_eq_false_iff_not]
      rcases latched with some | overflow
      · left
        split
        · simp
        · exact some
      · exact .inr (.inl overflow)
    · exact unresolved

variable (inv : Inv s)
include inv

/-- Marks about no ticket leave every trail as it is. -/
theorem Inv.trails_append (about : ∀ mark ∈ marks, mark.ticket? = none) (number : Nat) :
    Trailed number (trail (s.journal ++ marks) number) s.latches.tickets[number]? := by
  have silent : trail marks number = [] :=
    trail_eq_nil fun mark mem => by simp [about mark mem]
  rw [trail_append, silent, List.append_nil]
  exact inv.trails number

/-- Marks about one ticket that changes with them. -/
theorem Inv.trails_modify (found : s.latches.tickets[number]? = some ticket)
    {change : Ticket → Ticket} (about : ∀ mark ∈ marks, mark.ticket? = some number)
    (now : Trailed number (trail s.journal number ++ marks) (some (change ticket))) (other : Nat) :
    Trailed other (trail (s.journal ++ marks) other)
      (s.latches.tickets.modify number change)[other]? := by
  rw [trail_append, List.getElem?_modify]
  by_cases same : number = other
  · subst same
    rw [trail_eq_self about, found]
    simpa using now
  · have silent : trail marks other = [] :=
      trail_eq_nil fun mark mem => by simpa [about mark mem] using same
    rw [silent, List.append_nil]
    simpa [same] using inv.trails other

theorem Inv.open_trail (isOpen : s.Open number ticket) :
    trail s.journal number = [.admitted number] := by
  obtain ⟨found, active, unfinished⟩ := isOpen
  have shape := inv.trails number
  rw [found] at shape
  simpa [Trailed, active, unfinished] using shape

/-- What a settlement makes of a ticket whose scope is open. -/
theorem Inv.trails_settled (isOpen : s.Open number ticket) (settled : Settlement number marks)
    (about : ∀ mark ∈ marks, mark.ticket? = some number) (other : Nat) :
    Trailed other (trail (s.journal ++ marks) other)
      (s.latches.tickets.modify number fun ticket => { ticket with finished := true })[other]? := by
  refine inv.trails_modify isOpen.1 about ?_ other
  rw [inv.open_trail isOpen]
  simpa [Trailed, isOpen.2.1] using settled

/-! ## Every move keeps the invariant -/

theorem Inv.quiet (limits : s'.limits = s.limits) (latches : s'.latches = s.latches)
    (ledger : s'.observed.ledger = s.observed.ledger) (journal : s'.journal = s.journal) :
    Inv s' := by
  refine ⟨?_, ?_, ?_, ?_, ?_, ?_, ?_, ?_⟩
  · rw [journal, latches]
    exact inv.frozen
  · rw [journal, latches]
    exact inv.unknown
  · rw [journal, ledger]
    exact inv.callback
  · rw [ledger]
    exact inv.published
  · rw [journal]
    exact inv.order
  · rw [journal]
    exact inv.preceded
  · rw [journal, latches]
    exact inv.trails
  · rw [journal, latches, limits]
    exact inv.history

theorem Inv.freeze (reason : String) : Inv (s.freeze reason) := by
  unfold Authority.freeze
  split
  · exact inv
  have plain : ∀ mark ∈ [Mark.froze], Plain mark := by simp [Plain, Mark.isEntry]
  refine ⟨fun _ _ _ => rfl, ?_, ?_, inv.published, pairwise_append_plain inv.order plain,
    preceded_append_plain inv.preceded plain, inv.trails_append (by simp [Mark.ticket?]), ?_⟩
  · intro evidence mem
    exact inv.unknown evidence (by simpa [note] using mem)
  · intro mem
    exact inv.callback (by simpa [note] using mem)
  · simpa [note, evidences] using inv.history

theorem Inv.latch (orderRef : Option String) (identityIncomplete : Bool) :
    Inv (s.latchCallbackUnknown orderRef identityIncomplete) := by
  have plain : ∀ mark ∈ [Mark.callbackLatched], Plain mark := by simp [Plain, Mark.isEntry]
  have unresolved := latch_unresolved inv.published s.limits.callbackUnknownLimit orderRef
    identityIncomplete
  refine ⟨?_, ?_, fun _ => unresolved, fun _ => unresolved,
    pairwise_append_plain inv.order plain, preceded_append_plain inv.preceded plain,
    inv.trails_append (by simp [Mark.ticket?]), ?_⟩
  · intro mark mem froze
    subst froze
    exact inv.frozen .froze (by simpa [latchCallbackUnknown, note] using mem) rfl
  · intro evidence mem
    exact inv.unknown evidence (by simpa [latchCallbackUnknown, note] using mem)
  · simpa [latchCallbackUnknown, note, evidences] using inv.history

/-- A move that adds marks and latches nothing but, at most, the outcome it records. -/
theorem Inv.extended (marks : List Mark) (journal : s'.journal = s.journal ++ marks)
    (ledger : s'.observed.ledger = s.observed.ledger)
    (frozen : s'.latches.frozen = s.latches.frozen)
    (kept : s.latches.unknownDispatch.isSome = true → s'.latches.unknownDispatch.isSome = true)
    (soft : ∀ mark ∈ marks, mark.isLatch = true →
      ∃ evidence, mark = .recorded evidence ∧ s'.latches.unknownDispatch.isSome = true)
    (order : (s.journal ++ marks).Pairwise Mark.Allows)
    (preceded : Preceded Mark.Needs (s.journal ++ marks))
    (trails : ∀ number, Trailed number (trail (s.journal ++ marks) number)
      s'.latches.tickets[number]?)
    (history : s'.latches.dispatchHistory = (evidences (s.journal ++ marks)).drop
      ((evidences (s.journal ++ marks)).length - s'.limits.historyLimit)) : Inv s' := by
  refine ⟨?_, ?_, ?_, ?_, journal ▸ order, journal ▸ preceded, journal ▸ trails, journal ▸ history⟩
  · rintro mark mem rfl
    rw [frozen]
    rcases List.mem_append.mp (journal ▸ mem) with before | added
    · exact inv.frozen _ before rfl
    · obtain ⟨evidence, same, -⟩ := soft _ added rfl
      cases same
  · intro evidence mem unknown
    rcases List.mem_append.mp (journal ▸ mem) with before | added
    · exact kept (inv.unknown evidence before unknown)
    · obtain ⟨_, -, latched⟩ := soft _ added (by simp [Mark.isLatch, Mark.isHardLatch, unknown])
      exact latched
  · intro mem
    rw [ledger]
    rcases List.mem_append.mp (journal ▸ mem) with before | added
    · exact inv.callback before
    · obtain ⟨evidence, same, -⟩ := soft _ added rfl
      cases same
  · rw [ledger]
    exact inv.published

/-- Marks without evidence leave the history as it is. -/
theorem Inv.history_append (silent : evidences marks = []) :
    s.latches.dispatchHistory = (evidences (s.journal ++ marks)).drop
        ((evidences (s.journal ++ marks)).length - s.limits.historyLimit) := by
  have same : evidences (s.journal ++ marks) = evidences s.journal := by
    unfold evidences at silent ⊢
    rw [List.filterMap_append, silent, List.append_nil]
  rw [same]
  exact inv.history

theorem Inv.began (call : Nat) (armable : s.Armable) : Inv (s.note (.armBegan call)) := by
  refine inv.extended [.armBegan call] rfl rfl rfl id
    (by simp [Mark.isLatch, Mark.isHardLatch]) ?_ ?_ (inv.trails_append (by simp [Mark.ticket?]))
    (inv.history_append rfl)
  · refine pairwise_snoc.mpr ⟨inv.order, fun earlier mem => ⟨fun latch => ?_, nofun⟩⟩
    rw [inv.no_latch armable earlier mem] at latch
    cases latch
  · exact inv.preceded.snoc fun ⟨_, needs⟩ => needs.elim

theorem Inv.armed (call : Nat) (steady : s.Steady)
    (began : .armBegan call ∈ s.journal) : Inv (s.note (.armed call)) := by
  refine inv.extended [.armed call] rfl rfl rfl id
    (by simp [Mark.isLatch, Mark.isHardLatch]) ?_ ?_ (inv.trails_append (by simp [Mark.ticket?]))
    (inv.history_append rfl)
  · refine pairwise_snoc.mpr ⟨inv.order, fun earlier mem => ⟨fun _ => rfl, fun latch => ?_⟩⟩
    rw [inv.no_hardLatch steady earlier mem] at latch
    cases latch
  · exact inv.preceded.snoc fun _ => ⟨_, began, rfl⟩

theorem Inv.admitted (request : ScopeRequest) (identity : Identity)
    (stateRef : String) (target : Option Nat) (armable : s.Armable) :
    Inv (s.openScope request identity stateRef target) := by
  refine inv.extended [.admitted s.latches.tickets.length] rfl rfl rfl id
    (by simp [Mark.isLatch, Mark.isHardLatch]) ?_ ?_ ?_ (inv.history_append rfl)
  · refine pairwise_snoc.mpr ⟨inv.order, fun earlier mem => ⟨fun latch => ?_, nofun⟩⟩
    rw [inv.no_latch armable earlier mem] at latch
    cases latch
  · exact inv.preceded.snoc fun ⟨_, needs⟩ => needs.elim
  · intro number
    change Trailed number _ (s.latches.tickets ++ [_])[number]?
    have before := inv.trails number
    rw [trail_append]
    by_cases same : number = s.latches.tickets.length
    · subst same
      rw [List.getElem?_eq_none le_rfl] at before
      rw [List.getElem?_append_right le_rfl, Nat.sub_self, show trail s.journal _ = [] from before]
      exact trail_eq_self (by simp [Mark.ticket?])
    · have silent : trail [Mark.admitted s.latches.tickets.length] number = [] :=
        trail_eq_nil (by simpa [Mark.ticket?] using Ne.symm same)
      rw [silent, List.append_nil]
      rcases Nat.lt_or_gt_of_ne same with inside | outside
      · rw [List.getElem?_append_left inside]
        exact before
      · rw [List.getElem?_eq_none (by rw [List.length_append]; exact outside)]
        rw [List.getElem?_eq_none outside.le] at before
        exact before

/-- Recording what a ticket came to. -/
theorem Inv.record (isOpen : s.Open number ticket) (marks : List Mark)
    (evidence : Evidence) (numbered : evidence.sequence = number + 1)
    (settled : Settlement number (marks ++ [.recorded evidence]))
    (returned : ∀ mark ∈ marks, ∃ value, mark = .returned number value) :
    Inv ({ s with journal := s.journal ++ marks }.record number evidence) := by
  have each : ∀ mark ∈ marks ++ [.recorded evidence], Plain mark ∧ mark.ticket? = some number := by
    intro mark mem
    rcases mem_snoc.mp mem with before | rfl
    · obtain ⟨value, rfl⟩ := returned mark before
      exact ⟨⟨rfl, fun _ same => by cases same⟩, rfl⟩
    · exact ⟨⟨rfl, fun _ same => by cases same⟩, by simp [Mark.ticket?, numbered]⟩
  have plain := fun mark mem => (each mark mem).1
  have silent : evidences marks = [] := List.filterMap_eq_nil_iff.mpr fun mark mem => by
    obtain ⟨value, rfl⟩ := returned mark mem
    rfl
  have grown : evidences (s.journal ++ (marks ++ [.recorded evidence])) =
      evidences s.journal ++ [evidence] := by
    rw [evidences_append, evidences_append, silent]
    rfl
  have history : s.latches.dispatchHistory = (evidences s.journal).drop _ := inv.history
  have journal : (({ s with journal := s.journal ++ marks } : Authority).record number
      evidence).journal = s.journal ++ (marks ++ [.recorded evidence]) := List.append_assoc ..
  refine inv.extended (marks ++ [.recorded evidence]) journal rfl rfl ?_ ?_
    (pairwise_append_plain inv.order plain) (preceded_append_plain inv.preceded plain)
    (inv.trails_settled isOpen settled fun mark mem => (each mark mem).2) ?_
  · intro kept
    unfold Authority.record
    dsimp only
    split
    · rfl
    · exact kept
  · intro mark mem latch
    rcases mem_snoc.mp mem with before | rfl
    · obtain ⟨value, rfl⟩ := returned mark before
      cases latch
    · have unknown : evidence.status = .unknown := by
        simpa [Mark.isLatch, Mark.isHardLatch] using latch
      exact ⟨evidence, rfl, by simp [Authority.record, unknown]⟩
  · rw [grown]
    refine Eq.trans ?_ (drop_snoc_drop (evidences s.journal) evidence s.limits.historyLimit
      s.limits.historyPositive)
    rw [← history]
    rfl

theorem Inv.rejected (isOpen : s.Open number ticket) :
    Inv ((s.finishTicket number).note (.rejected number)) := by
  have plain : ∀ mark ∈ [Mark.rejected number], Plain mark := by simp [Plain, Mark.isEntry]
  refine inv.extended [.rejected number] rfl rfl rfl id
    (by simp [Mark.isLatch, Mark.isHardLatch]) (pairwise_append_plain inv.order plain)
    (preceded_append_plain inv.preceded plain) ?_ (inv.history_append rfl)
  exact inv.trails_settled isOpen .rejected (by simp [Mark.ticket?])

theorem Inv.ended (found : s.latches.tickets[number]? = some ticket)
    (active : ticket.active = true) (finished : ticket.finished = true) : Inv (s.close number) := by
  have plain : ∀ mark ∈ [Mark.ended number], Plain mark := by simp [Plain, Mark.isEntry]
  refine inv.extended [.ended number] rfl rfl rfl id
    (by simp [Mark.isLatch, Mark.isHardLatch]) (pairwise_append_plain inv.order plain)
    (preceded_append_plain inv.preceded plain) ?_ (inv.history_append rfl)
  refine inv.trails_modify found (by simp [Mark.ticket?]) ?_
  have before := inv.trails number
  rw [found] at before
  simp only [Trailed, active, finished] at before ⊢
  obtain ⟨settled, how, same⟩ := before
  exact ⟨settled, how, by rw [same]⟩

theorem Inv.move (move : Move s s') : Inv s' := by
  cases move with
  | quiet limits latches ledger journal => exact inv.quiet limits latches ledger journal
  | freeze reason => exact inv.freeze reason
  | latch orderRef identityIncomplete => exact inv.latch orderRef identityIncomplete
  | began call armable => exact inv.began call armable
  | armed call steady began => exact inv.armed call steady began
  | admitted request identity stateRef target armable =>
    exact inv.admitted request identity stateRef target armable
  | returned number ticket value isOpen =>
    exact inv.record isOpen [.returned number value] _ rfl (.returned ticket value) (by simp)
  | abandoned number ticket errorType isOpen =>
    have recorded := inv.record isOpen [] _ rfl (.abandoned ticket errorType) (by simp)
    simpa using recorded
  | rejected number ticket isOpen => exact inv.rejected isOpen
  | ended number ticket found active finished => exact inv.ended found active finished

end Authority

end BtApiCtp.Dispatch
