/-
# Dispatch.OrderStates -- what becomes of an order once its state is recorded

The table of order states forgets the oldest terminal orders beyond `terminal_order_limit` and
nothing else.  So an order that is unknown stays unknown; an order that is terminal is told
apart from a new one as long as fewer than that many other orders were reported terminal since
(`terminal_not_active`), and no longer (`forgotten_terminal_active`): a callback that comes late
then counts it as active again.

An event does to the table what one report does (`step_tabled`); the rest is about the table.
-/
import BtApiCtp.Dispatch.Latching
import Mathlib.Data.List.Perm.Subperm

namespace BtApiCtp.Dispatch

open Python Theory

variable {orderRef : String} {others : List String} {s s' : Authority} {state : OrderState}
  {excess : Nat} {entry : String × OrderState} {a b c : Authority}

/-! ## The table -/

/-- `_order_state`, the one that was moved to the end last. -/
abbrev OrderTable := List (String × OrderState)

variable {back : OrderTable}

namespace OrderTable

def terminals (table : OrderTable) : OrderTable := table.filter (·.2 = .terminal)

/-- A report that is not dropped: the entry is moved to the end, and old terminals go. -/
def move (limit : Nat) (orderRef : String) (state : OrderState) (table : OrderTable) : OrderTable :=
  let moved : OrderTable := table.filter (·.1 ≠ orderRef) ++ [(orderRef, state)]
  Authority.dropTerminals (moved.terminals.length - limit) moved

/-- A report that `_remember_order_state` does not drop. -/
def Heeds (table : OrderTable) (orderRef : String) (state : OrderState) : Prop :=
  orderRef ≠ "" ∧ (table.lookup orderRef = some .unknown → state = .unknown) ∧
    (table.lookup orderRef = some .terminal → state ≠ .active)

def Distinct (table : OrderTable) : Prop := (table.map Prod.fst).Nodup

theorem terminals_append (front back : OrderTable) :
    (front ++ back).terminals = front.terminals ++ back.terminals :=
  List.filter_append ..

theorem lookup_eq_some_iff {table : OrderTable} (distinct : table.Distinct) {orderRef : String}
    {state : OrderState} : table.lookup orderRef = some state ↔ (orderRef, state) ∈ table := by
  induction table with
  | nil => simp
  | cons entry rest ih =>
    obtain ⟨first, firstState⟩ := entry
    obtain ⟨unused, distinct⟩ := List.nodup_cons.mp distinct
    have ih := ih distinct
    by_cases same : orderRef = first
    · subst same
      have absent : (orderRef, state) ∉ rest := fun mem => unused (List.mem_map.mpr ⟨_, mem, rfl⟩)
      simp [absent, eq_comm]
    · have differs : (orderRef == first) = false := by simpa using same
      simp only [List.lookup_cons, differs, ih]
      simp [same]

/-! ## Dropping terminals -/

theorem dropTerminals_cons (excess : Nat) (entry : String × OrderState) (rest : OrderTable) :
    Authority.dropTerminals (excess + 1) (entry :: rest) =
      if entry.2 = .terminal then Authority.dropTerminals excess rest
      else entry :: Authority.dropTerminals (excess + 1) rest :=
  rfl

theorem dropTerminals_sublist (excess : Nat) (table : OrderTable) :
    (Authority.dropTerminals excess table).Sublist table := by
  induction table generalizing excess with
  | nil => exact .slnil
  | cons entry rest ih =>
    cases excess with
    | zero => exact .refl _
    | succ excess =>
      rw [dropTerminals_cons]
      split
      · exact (ih excess).cons _
      · exact (ih (excess + 1)).cons_cons _

/-- Only terminal orders are forgotten. -/
theorem mem_dropTerminals {table : OrderTable} (mem : entry ∈ table)
    (kept : entry.2 ≠ .terminal) : entry ∈ Authority.dropTerminals excess table := by
  induction table generalizing excess with
  | nil => cases mem
  | cons first rest ih =>
    cases excess with
    | zero => exact mem
    | succ excess =>
      rw [dropTerminals_cons]
      have here := List.mem_cons.mp mem
      split
      · rename_i terminal
        have elsewhere : entry ∈ rest := here.resolve_left fun same => kept (same ▸ terminal)
        exact ih elsewhere
      · rcases here with same | elsewhere
        · exact same ▸ List.mem_cons_self
        · exact List.mem_cons_of_mem _ (ih elsewhere)

/-- What stands behind enough older terminals is left as it is. -/
theorem dropTerminals_append (front back : OrderTable) (enough : excess ≤ front.terminals.length) :
    Authority.dropTerminals excess (front ++ back) =
      Authority.dropTerminals excess front ++ back := by
  induction front generalizing excess with
  | nil =>
    have none : excess = 0 := by simpa [terminals] using enough
    subst none
    cases back <;> rfl
  | cons entry rest ih =>
    cases excess with
    | zero => rfl
    | succ excess =>
      rw [List.cons_append, dropTerminals_cons, dropTerminals_cons]
      unfold terminals at enough ih
      split
      · rename_i terminal
        rw [List.filter_cons_of_pos (by simpa using terminal), List.length_cons] at enough
        exact ih (by omega)
      · rename_i other
        rw [List.filter_cons_of_neg (by simpa using other)] at enough
        rw [ih enough, List.cons_append]

/-! ## One report -/

variable {limit : Nat} {orderRef other : String} {state : OrderState} {table : OrderTable}

theorem Distinct.moved (distinct : table.Distinct) :
    Distinct (table.filter (·.1 ≠ orderRef) ++ [(orderRef, state)]) := by
  unfold Distinct
  rw [List.map_append, List.nodup_append]
  refine ⟨distinct.sublist (List.filter_sublist.map _), List.nodup_singleton _, ?_⟩
  intro name mem last isLast same
  obtain ⟨entry, kept, rfl⟩ := List.mem_map.mp mem
  have differs : entry.1 ≠ orderRef := by simpa using (List.mem_filter.mp kept).2
  exact differs (same.trans (List.mem_singleton.mp isLast))

theorem Distinct.move (distinct : table.Distinct) : (table.move limit orderRef state).Distinct :=
  distinct.moved.sublist ((dropTerminals_sublist _ _).map _)

theorem mem_move_self (kept : state ≠ .terminal) :
    (orderRef, state) ∈ table.move limit orderRef state :=
  mem_dropTerminals (List.mem_concat_self) kept

/-- An unknown order stays unknown. -/
theorem unknown_move (distinct : table.Distinct) (heeds : table.Heeds orderRef state)
    (unknown : (other, .unknown) ∈ table) :
    (other, .unknown) ∈ table.move limit orderRef state := by
  by_cases same : other = orderRef
  · subst same
    have absorbed : state = .unknown := heeds.2.1 ((lookup_eq_some_iff distinct).mpr unknown)
    subst absorbed
    exact mem_move_self (by decide)
  · refine mem_dropTerminals (List.mem_append_left _ (List.mem_filter.mpr ⟨unknown, ?_⟩)) (by simp)
    simpa using same

/-- The order is unknown, or terminal with only these terminal orders behind it. -/
def Remembers (table : OrderTable) (orderRef : String) (others : List String) : Prop :=
  (orderRef, .unknown) ∈ table ∨
    ∃ front back : OrderTable, table = front ++ (orderRef, .terminal) :: back ∧
      ∀ entry ∈ back.terminals, entry.1 ∈ others

theorem Remembers.mono {more : List String} (remembers : table.Remembers orderRef others)
    (grown : others ⊆ more) : table.Remembers orderRef more := by
  rcases remembers with unknown | ⟨front, back, split, known⟩
  · exact .inl unknown
  · exact .inr ⟨front, back, split, fun entry mem => grown (known entry mem)⟩

theorem Remembers.not_active (distinct : table.Distinct)
    (remembers : table.Remembers orderRef others) : (orderRef, .active) ∉ table := by
  intro active
  have found := (lookup_eq_some_iff distinct).mpr active
  rcases remembers with unknown | ⟨front, back, split, -⟩
  · simp [(lookup_eq_some_iff distinct).mpr unknown] at found
  · have terminal : (orderRef, OrderState.terminal) ∈ table := by simp [split]
    simp [(lookup_eq_some_iff distinct).mpr terminal] at found

/-- Different orders that are among `others` are at most as many. -/
theorem Distinct.length_le (distinct : back.Distinct) (known : ∀ entry ∈ back, entry.1 ∈ others) :
    back.length ≤ others.dedup.length := by
  have within : back.map Prod.fst ⊆ others.dedup := by
    intro name mem
    obtain ⟨entry, here, rfl⟩ := List.mem_map.mp mem
    exact List.mem_dedup.mpr (known entry here)
  simpa using (distinct.subperm within).length_le

/-- With fewer than `limit` terminals behind it, a terminal order is not forgotten. -/
theorem remembers_dropTerminals {front : OrderTable} (distinct : back.Distinct)
    (known : ∀ entry ∈ back.terminals, entry.1 ∈ others) (few : others.dedup.length < limit) :
    let all : OrderTable := front ++ (orderRef, .terminal) :: back
    Remembers (Authority.dropTerminals (all.terminals.length - limit) all) orderRef others := by
  intro all
  have behind : back.terminals.length ≤ others.dedup.length :=
    Distinct.length_le (distinct.sublist (List.filter_sublist.map _)) known
  have total : all.terminals.length = front.terminals.length + (back.terminals.length + 1) := by
    rw [terminals_append, List.length_append]
    rfl
  rw [dropTerminals_append front _ (by omega)]
  exact .inr ⟨_, back, rfl, known⟩

/-- One report keeps it in mind, if it is itself among `others` where it is terminal. -/
theorem Remembers.move (remembers : table.Remembers other others) (distinct : table.Distinct)
    (heeds : table.Heeds orderRef state)
    (reported : state = .terminal → orderRef ≠ other → orderRef ∈ others)
    (few : others.dedup.length < limit) :
    (table.move limit orderRef state).Remembers other others := by
  rcases remembers with unknown | ⟨front, back, split, known⟩
  · exact .inl (unknown_move distinct heeds unknown)
  by_cases same : orderRef = other
  · subst same
    have terminal : (orderRef, OrderState.terminal) ∈ table := by simp [split]
    have notActive := heeds.2.2 ((lookup_eq_some_iff distinct).mpr terminal)
    cases state with
    | active => exact absurd rfl notActive
    | unknown => exact .inl (mem_move_self (by decide))
    | terminal => exact remembers_dropTerminals List.nodup_nil (by simp [terminals]) few
  · have moved : Distinct (table.filter (·.1 ≠ orderRef) ++ [(orderRef, state)]) := distinct.moved
    unfold OrderTable.move
    have shape : table.filter (·.1 ≠ orderRef) ++ [(orderRef, state)] =
        front.filter (·.1 ≠ orderRef) ++
          (other, .terminal) :: (back.filter (·.1 ≠ orderRef) ++ [(orderRef, state)]) := by
      rw [split, List.filter_append, List.filter_cons_of_pos (by simpa using Ne.symm same)]
      simp
    rw [shape] at moved ⊢
    refine remembers_dropTerminals ?_ ?_ few
    · refine moved.sublist (List.Sublist.map _ ?_)
      exact (List.sublist_cons_self _ _).trans (List.sublist_append_right _ _)
    · intro entry mem
      rw [terminals_append, List.mem_append] at mem
      rcases mem with old | new
      · have here := List.mem_filter.mp old
        exact known entry (List.mem_filter.mpr ⟨(List.mem_filter.mp here.1).1, here.2⟩)
      · obtain ⟨isNew, terminal⟩ := List.mem_filter.mp new
        obtain rfl := List.mem_singleton.mp isNew
        exact reported (by simpa using terminal) same

end OrderTable

/-! ## What an event does to the table -/

namespace Authority

/-- The entries of `execution_facts` with this state. -/
def orderIds (s : Authority) (state : OrderState) : List String :=
  (s.orderState.filter (·.2 = state)).map Prod.fst

theorem mem_orderIds : orderRef ∈ s.orderIds state ↔ (orderRef, state) ∈ s.orderState := by
  unfold orderIds
  simp

/-- One report, of this state of this order, or none. -/
def Tabled (report : String → OrderState → Prop) (s s' : Authority) : Prop :=
  s'.limits = s.limits ∧ (s'.orderState = s.orderState ∨
    ∃ orderRef state, report orderRef state ∧ OrderTable.Heeds s.orderState orderRef state ∧
      s'.orderState = OrderTable.move s.limits.terminalOrderLimit orderRef state s.orderState)

variable {report : String → OrderState → Prop}

theorem Still.tabled (still : Still s s') : Tabled report s s' :=
  ⟨still.limits, .inl still.table⟩

theorem Still.then (first : Still a b) (second : Tabled report b c) : Tabled report a c := by
  refine ⟨second.1.trans first.limits, ?_⟩
  rcases second.2 with same | ⟨orderRef, state, reported, heeds, moved⟩
  · exact .inl (same.trans first.table)
  · rw [first.table] at heeds
    rw [first.limits, first.table] at moved
    exact .inr ⟨orderRef, state, reported, heeds, moved⟩

theorem Tabled.then (first : Tabled report a b) (limits : c.limits = b.limits)
    (table : c.orderState = b.orderState) : Tabled report a c := by
  refine ⟨limits.trans first.1, ?_⟩
  rw [table]
  exact first.2

theorem rememberOrderState_tabled (s : Authority) (reported : report orderRef state) :
    Tabled report s (s.rememberOrderState orderRef state) := by
  unfold rememberOrderState
  dsimp only
  split
  · exact (Still.refl s).tabled
  · rename_i heeded
    simp only [not_or, not_and, not_not] at heeded
    exact ⟨rfl, .inr ⟨orderRef, state, reported, heeded, rfl⟩⟩

/-! ## Tickets -/

/-- A dispatch reports its order active or unknown. -/
def NotTerminal (_ : String) (state : OrderState) : Prop := state ≠ .terminal

/-- Evidence is recorded, and the ticket settled. -/
theorem finishDispatchTicket_tabled (number : Nat) (ticket : Ticket) (code : Option Int)
    (errorType : Option String) (answer : DisarmAnswer) (s : Authority) :
    Tabled NotTerminal s (s.finishDispatchTicket number ticket code errorType answer) ∧
      ∀ other, .rejected other ∈ (s.finishDispatchTicket number ticket code errorType
        answer).journal → .rejected other ∈ s.journal := by
  set evidence := evidenceOf number ticket code errorType with isEvidence
  have recorded : Still s ((s.finishTicket number).appendEvidence evidence) :=
    .noted (.recorded evidence) rfl rfl rfl (by simp)
  unfold finishDispatchTicket
  dsimp only
  rw [← isEvidence]
  split
  · unfold settleKnown
    split
    · refine ⟨recorded.then ((rememberOrderState_tabled _ (by simp [NotTerminal])).then rfl rfl),
        fun other mem => recorded.unrejected other ?_⟩
      rwa [← rememberOrderState_journal]
    · exact ⟨recorded.tabled, recorded.unrejected⟩
  · unfold settleUnknown
    dsimp only
    set latched : Authority := { (s.finishTicket number).appendEvidence evidence with latches := _ }
    have kept : Still s latched := recorded.trans _ _ _ ⟨rfl, rfl, fun _ mem => mem⟩
    have disarmed := Still.tolerant.freezeAndDisarm
      ("native_" ++ ticket.identity.operation.name ++ "_outcome_unknown") answer
      (latched.rememberOrderState ticket.stateRef .unknown)
    refine ⟨kept.then ((rememberOrderState_tabled _ (by simp [NotTerminal])).then disarmed.limits
      disarmed.table), fun other mem => kept.unrejected other ?_⟩
    rw [← rememberOrderState_journal ticket.stateRef .unknown latched]
    exact disarmed.unrejected other mem

theorem recordNativeReturn_tabled (number : Nat) (ticket : Ticket) (value : Value)
    (answer : DisarmAnswer) (s : Authority) :
    Tabled NotTerminal s (recordNativeReturn number ticket value answer s).2 ∧
      ∀ other, .rejected other ∈ (recordNativeReturn number ticket value answer s).2.journal →
        .rejected other ∈ s.journal := by
  unfold recordNativeReturn
  split
  · exact ⟨(Still.refl s).tabled, fun _ mem => mem⟩
  split
  · exact ⟨Still.tabled ⟨rfl, rfl, fun _ mem => mem⟩, fun _ mem => mem⟩
  have noted : Still s (s.note (.returned number value)) :=
    .noted (.returned number value) rfl rfl rfl (by simp)
  obtain ⟨tabled, unrejected⟩ := finishDispatchTicket_tabled number ticket (codeOf value) none
    answer (s.note (.returned number value))
  have finished := And.intro (noted.then tabled)
    fun other mem => noted.unrejected other (unrejected other mem)
  dsimp only
  split
  · exact finished
  · exact finished

/-- A rejection settles nothing else. -/
theorem recordPreDispatchRejection_kept (number : Nat) (ticket : Ticket) (error : Raised)
    (answers : Answers) (s : Authority) :
    let s' := (recordPreDispatchRejection number ticket error answers s).2
    s'.limits = s.limits ∧ s'.orderState = s.orderState := by
  unfold recordPreDispatchRejection
  dsimp only
  split
  · exact ⟨rfl, rfl⟩
  split
  · exact ⟨rfl, rfl⟩
  split
  iterate 2 · exact ⟨rfl, rfl⟩

theorem leaveScope_tabled (number : Nat) (ticket : Ticket) (raised : Option Raised)
    (answers : Answers) (s : Authority) :
    Tabled NotTerminal s (s.leaveScope number ticket raised answers) := by
  have settled : Tabled NotTerminal s (s.settleTicket number ticket raised answers) := by
    unfold settleTicket
    split
    · exact (Still.refl s).tabled
    split
    · exact (finishDispatchTicket_tabled ..).1
    · rename_i error
      have kept := recordPreDispatchRejection_kept number ticket error answers s
      split
      · rename_i rejected came
        rw [came] at kept
        exact ⟨kept.1, .inl kept.2⟩
      · exact (finishDispatchTicket_tabled ..).1
  unfold Authority.leaveScope closeTicket
  cases ticket.target with
  | none | some target => exact settled.then rfl rfl

theorem withTicket_tabled (thread number : Nat) {use : Ticket → Authority → Authority}
    (tabled : ∀ ticket, Tabled report s (use ticket s)) :
    Tabled report s (s.withTicket thread number use) := by
  unfold withTicket
  split
  · split
    · exact tabled _
    · exact (Still.refl s).tabled
  · exact (Still.refl s).tabled

/-! ## Events -/

variable (host : Session.Host)

/-- The order a call or a callback reports terminal. -/
def Event.terminalReport : Event → Option String
  | .call _ (.rememberOrderTerminal orderRef) _ => some orderRef
  | .callback _ payload known session =>
    match observeOrderCallback payload known session with
    | .remembered orderRef .terminal => some orderRef
    | _ => none
  | _ => none

/-- An event reports a terminal state of the order it names only. -/
def Event.Reports (event : Event) (orderRef : String) (state : OrderState) : Prop :=
  state = .terminal → event.terminalReport = some orderRef

theorem Tabled.reports (tabled : Tabled NotTerminal s s') (event : Event) :
    Tabled event.Reports s s' := by
  refine ⟨tabled.1, tabled.2.imp id ?_⟩
  rintro ⟨orderRef, state, other, moved⟩
  exact ⟨orderRef, state, fun terminal => absurd terminal other, moved⟩

theorem perform_tabled (thread : Nat) (answers : Answers) (call : Call) (s : Authority) :
    Tabled (Event.Reports (.call thread call answers)) s (perform host thread answers call s) := by
  by_cases plain : call.plain = true
  · exact (perform_still host thread answers plain s).tabled
  cases call with
  | recordNativeReturn number value =>
    exact withTicket_tabled thread number fun ticket =>
      (recordNativeReturn_tabled number ticket value answers.disarm s).1.reports _
  | recordPreDispatchRejection number error =>
    refine withTicket_tabled thread number fun ticket => ?_
    have kept := recordPreDispatchRejection_kept number ticket error answers s
    exact ⟨kept.1, .inl kept.2⟩
  | leaveScope number raised =>
    refine withTicket_tabled thread number fun ticket => ?_
    split
    · exact (leaveScope_tabled number ticket raised answers s).reports _
    · exact (Still.refl s).tabled
  | rememberOrderTerminal orderRef => exact rememberOrderState_tabled s fun _ => rfl
  | _ => exact absurd rfl plain

/-- An event makes at most one report to the table, a terminal one only of the order it names. -/
theorem step_tabled (event : Event) (s : Authority) :
    Tabled event.Reports s (step host s event) := by
  cases event with
  | call thread call answers =>
    unfold step
    dsimp only
    split
    · exact perform_tabled host thread answers call s
    · exact (Still.refl s).tabled
  | proceed answers =>
    unfold step
    dsimp only
    split
    · have idle : Still s { s with pending := none } := ⟨rfl, rfl, fun _ mem => mem⟩
      exact (idle.trans _ _ _ (resume_still host answers _ _)).tabled
    · exact (Still.refl s).tabled
  | callback thread payload known session =>
    unfold step
    dsimp only
    cases effect : observeOrderCallback payload known session with
    | ignored => exact (Still.refl s).tabled
    | latched orderRef identityIncomplete => exact ⟨rfl, .inl rfl⟩
    | remembered orderRef state =>
      change Tabled _ s (if s.free thread then s.rememberOrderState orderRef state else s)
      split
      · refine rememberOrderState_tabled s fun terminal => ?_
        subst terminal
        simp only [Event.terminalReport, effect]
      · exact (Still.refl s).tabled
  | trackOrderRef orderRef => exact Still.tabled ⟨rfl, rfl, fun _ mem => mem⟩

/-! ## Runs -/

theorem Tabled.distinct (tabled : Tabled report s s')
    (distinct : OrderTable.Distinct s.orderState) : OrderTable.Distinct s'.orderState := by
  rcases tabled.2 with same | ⟨orderRef, state, -, -, moved⟩
  · rwa [same]
  · rw [moved]
    exact distinct.move

theorem Tabled.unknown (tabled : Tabled report s s') (distinct : OrderTable.Distinct s.orderState)
    (unknown : (orderRef, .unknown) ∈ s.orderState) : (orderRef, .unknown) ∈ s'.orderState := by
  rcases tabled.2 with same | ⟨reported, state, -, heeds, moved⟩
  · rwa [same]
  · rw [moved]
    exact OrderTable.unknown_move distinct heeds unknown

variable (events : List Event) (limits : Limits)

theorem foldl_limits (s : Authority) :
    (events.foldl (step host) s).limits = s.limits := by
  induction events generalizing s with
  | nil => rfl
  | cons event rest ih => exact (ih _).trans (step_tabled host event s).1

section Distinct

variable (distinct : OrderTable.Distinct s.orderState)
include distinct

theorem foldl_distinct :
    OrderTable.Distinct (events.foldl (step host) s).orderState := by
  induction events generalizing s with
  | nil => exact distinct
  | cons event rest ih => exact ih ((step_tabled host event s).distinct distinct)

theorem foldl_unknown (unknown : (orderRef, .unknown) ∈ s.orderState) :
    (orderRef, .unknown) ∈ (events.foldl (step host) s).orderState := by
  induction events generalizing s with
  | nil => exact unknown
  | cons event rest ih =>
    have tabled := step_tabled host event s
    exact ih (tabled.distinct distinct) (tabled.unknown distinct unknown)

/-- The other orders that these events report terminal. -/
def terminalReports (orderRef : String) (events : List Event) : List String :=
  (events.filterMap Event.terminalReport).filter (· ≠ orderRef)

theorem foldl_remembers (remembers : OrderTable.Remembers s.orderState orderRef others)
    (reported : terminalReports orderRef events ⊆ others)
    (few : others.dedup.length < s.limits.terminalOrderLimit) :
    OrderTable.Remembers (events.foldl (step host) s).orderState orderRef others := by
  induction events generalizing s with
  | nil => exact remembers
  | cons event rest ih =>
    have tabled := step_tabled host event s
    refine ih (tabled.distinct distinct) ?_ ?_ (by rwa [tabled.1])
    · rcases tabled.2 with same | ⟨moved, state, reports, heeds, became⟩
      · rwa [same]
      · rw [became]
        refine remembers.move distinct heeds (fun terminal other => reported ?_) few
        simp [terminalReports, reports terminal, other]
    · intro name mem
      refine reported ?_
      unfold terminalReports at mem ⊢
      rw [List.filterMap_cons]
      split
      · exact mem
      · rw [List.filter_cons]
        split
        · exact List.mem_cons_of_mem _ mem
        · exact mem

end Distinct

/-- An order becomes terminal by moving to the end of the table. -/
theorem Tabled.becomes_terminal (tabled : Tabled report s s')
    (positive : 0 < s.limits.terminalOrderLimit) (before : (orderRef, .terminal) ∉ s.orderState)
    (after : (orderRef, .terminal) ∈ s'.orderState) :
    OrderTable.Remembers s'.orderState orderRef [] := by
  rcases tabled.2 with same | ⟨moved, state, -, -, became⟩
  · exact absurd (same ▸ after) before
  · rw [became] at after ⊢
    have within := (OrderTable.dropTerminals_sublist _ _).subset after
    rcases mem_snoc.mp within with old | new
    · exact absurd (List.mem_filter.mp old).1 before
    · cases new
      exact OrderTable.remembers_dropTerminals List.nodup_nil (by simp [OrderTable.terminals])
        positive

theorem run_append (events later : List Event) :
    run host limits (events ++ later) = later.foldl (step host) (run host limits events) :=
  List.foldl_append

theorem run_distinct (events : List Event) :
    OrderTable.Distinct (run host limits events).orderState :=
  foldl_distinct host events List.nodup_nil

/-- An order that becomes terminal is not counted as active while fewer than
`terminal_order_limit` other orders are reported terminal. -/
theorem run_terminal (events : List Event) (event : Event)
    (later : List Event) (before : orderRef ∉ (run host limits events).orderIds .terminal)
    (after : orderRef ∈ (run host limits (events ++ [event])).orderIds .terminal)
    (few : (terminalReports orderRef later).dedup.length < limits.terminalOrderLimit) :
    orderRef ∉ (run host limits (events ++ event :: later)).orderIds .active := by
  rw [mem_orderIds] at before after ⊢
  set s := run host limits events with reached
  have bound : s.limits = limits := foldl_limits host events _
  have became : run host limits (events ++ [event]) = step host s event := by
    rw [run_append]
    rfl
  have tabled := step_tabled host event s
  have distinct : OrderTable.Distinct (step host s event).orderState :=
    tabled.distinct (run_distinct host limits events)
  have remembers : OrderTable.Remembers (step host s event).orderState orderRef
      (terminalReports orderRef later) :=
    (tabled.becomes_terminal (by rw [bound]; omega) before (became ▸ after)).mono (by simp)
  have kept := foldl_remembers host later distinct remembers (fun _ mem => mem)
    (by rw [tabled.1, bound]; exact few)
  have ends : run host limits (events ++ event :: later) =
      later.foldl (step host) (step host s event) := by
    rw [run_append]
    rfl
  rw [ends]
  exact kept.not_active (foldl_distinct host later distinct)

/-- Whatever is reported, an order that is unknown stays unknown, and one that becomes terminal
is not counted as active while fewer than `terminal_order_limit` others are reported terminal. -/
theorem recorded_order_states (host : Session.Host) (limits : Limits)
    (events later : List Event) (orderRef : String) :
    (orderRef ∈ (run host limits events).orderIds .unknown →
      orderRef ∈ (run host limits (events ++ later)).orderIds .unknown) ∧
    ∀ event, orderRef ∉ (run host limits events).orderIds .terminal →
      orderRef ∈ (run host limits (events ++ [event])).orderIds .terminal →
      (terminalReports orderRef later).dedup.length < limits.terminalOrderLimit →
      orderRef ∉ (run host limits (events ++ event :: later)).orderIds .active := by
  constructor
  · intro unknown
    rw [mem_orderIds] at unknown ⊢
    rw [run_append]
    exact foldl_unknown host later (run_distinct host limits events) unknown
  · intro event before after few
    exact run_terminal host limits events event later before after few

/-! ## Sample reports -/

def plainHost : Session.Host where
  upper := id

/-- An authority that keeps this many terminal orders. -/
def keeping (terminalOrderLimit : Nat) : Limits where
  allowWrites := true
  historyLimit := 1
  callbackUnknownLimit := 1
  terminalOrderLimit
  cancelTargetLimit := 1
  historyPositive := Nat.one_pos
  callbackPositive := Nat.one_pos

/-- An `OnRtnOrder` for a tracked order. -/
def orderReport (orderRef status : String) : Event :=
  .callback 0 (some { orderRef, status, frontId := none, sessionId := none }) true none

theorem late_report_of_two :
    "1" ∉ (run plainHost (keeping 2)
      ([] ++ orderReport "1" "5" :: [orderReport "2" "0", orderReport "1" "3"])).orderIds .active :=
  (recorded_order_states plainHost (keeping 2) [] [orderReport "2" "0", orderReport "1" "3"] "1").2
    (orderReport "1" "5") (by decide) (by decide) (by decide)

/-- With room for one terminal order, the first of two is forgotten, and a late report that it
is queueing counts it as active. -/
theorem forgotten_terminal_active :
    "1" ∈ (run plainHost (keeping 1) [orderReport "1" "5"]).orderIds .terminal ∧
      "1" ∈ (run plainHost (keeping 1)
        ([orderReport "1" "5"] ++ [orderReport "2" "0", orderReport "1" "3"])).orderIds .active := by
  decide

end Authority

end BtApiCtp.Dispatch
