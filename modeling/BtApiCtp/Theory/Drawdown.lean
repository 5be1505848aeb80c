/-
# Theory.Drawdown -- drawing an amount from stocks in order

`draw` takes what is wanted from a list of stocks, each as far as it goes, and passes over
those that give nothing.  `total` adds up what a ledger of entries has under one key, and
`total_flatten_unique` says where such a total comes from when every owner has written a part
of the ledger.
-/
import Mathlib.Algebra.BigOperators.Group.List.Basic
import Mathlib.Algebra.Ring.Nat

namespace BtApiCtp.Theory.Drawdown

variable {wanted : Nat}

/-! ## Drawing -/

section Draw

variable {α : Type} (capacity : α → Nat)

/-- What is drawn from each stock, and what is still wanted in the end. -/
def draw : Nat → List α → List (α × Nat) × Nat
  | wanted, [] => ([], wanted)
  | wanted, stock :: stocks =>
    let take := min wanted (capacity stock)
    let (draws, remaining) := draw (wanted - take) stocks
    (if take = 0 then draws else (stock, take) :: draws, remaining)

theorem draw_cons (wanted : Nat) (stock : α) (stocks : List α) :
    draw capacity wanted (stock :: stocks) = (if min wanted (capacity stock) = 0 then
          (draw capacity (wanted - min wanted (capacity stock)) stocks).1
        else (stock, min wanted (capacity stock)) ::
          (draw capacity (wanted - min wanted (capacity stock)) stocks).1,
        (draw capacity (wanted - min wanted (capacity stock)) stocks).2) := rfl

theorem mem_draw_cons {stock : α} {stocks : List α} {entry : α × Nat} :
    entry ∈ (draw capacity wanted (stock :: stocks)).1 ↔
      (0 < min wanted (capacity stock) ∧ entry = (stock, min wanted (capacity stock))) ∨
        entry ∈ (draw capacity (wanted - min wanted (capacity stock)) stocks).1 := by
  rw [draw_cons]
  by_cases nothing : min wanted (capacity stock) = 0
  · simp [nothing]
  · have some_ : 0 < min wanted (capacity stock) := Nat.pos_of_ne_zero nothing
    simp only [if_neg nothing, List.mem_cons, some_, true_and]

theorem draw_conserves (wanted : Nat) (stocks : List α) :
    ((draw capacity wanted stocks).1.map Prod.snd).sum + (draw capacity wanted stocks).2 =
      wanted := by
  induction stocks generalizing wanted with
  | nil => simp [draw]
  | cons stock stocks ih =>
    have rest := ih (wanted - min wanted (capacity stock))
    rw [draw_cons]
    by_cases nothing : min wanted (capacity stock) = 0
    · simp only [if_pos nothing]
      omega
    · simp only [if_neg nothing, List.map_cons, List.sum_cons]
      omega

theorem draw_spec {stocks : List α} {entry : α × Nat}
    (drawn : entry ∈ (draw capacity wanted stocks).1) :
    entry.1 ∈ stocks ∧ 0 < entry.2 ∧ entry.2 ≤ capacity entry.1 := by
  induction stocks generalizing wanted with
  | nil => simp [draw] at drawn
  | cons stock stocks ih =>
    rcases (mem_draw_cons capacity).mp drawn with ⟨some_, rfl⟩ | later
    · exact ⟨List.mem_cons_self, some_, Nat.min_le_right _ _⟩
    · obtain ⟨member, bounds⟩ := ih later
      exact ⟨List.mem_cons_of_mem _ member, bounds⟩

/-- Nothing wanted, nothing drawn. -/
theorem draw_zero (stocks : List α) : (draw capacity 0 stocks).1 = [] := by
  induction stocks with
  | nil => rfl
  | cons stock stocks ih => simp [draw_cons, ih]

/-- Something is drawn from a later stock only where the first is used up. -/
theorem draw_in_order {stock : α} {stocks : List α} {entry : α × Nat}
    (later : entry ∈ (draw capacity (wanted - min wanted (capacity stock)) stocks).1) :
    min wanted (capacity stock) = capacity stock := by
  by_contra short
  have all : wanted - min wanted (capacity stock) = 0 := by omega
  rw [all, draw_zero] at later
  exact List.not_mem_nil later

end Draw

/-! ## Totals -/

section Total

variable {β κ : Type} [DecidableEq κ] (key : β → κ) (amount : β → Nat)

/-- What a ledger has under one key. -/
def total (k : κ) (entries : List β) : Nat :=
  ((entries.filter fun entry => key entry = k).map amount).sum

@[simp] theorem total_nil (k : κ) : total key amount k [] = 0 := rfl

theorem total_cons (k : κ) (entry : β) (entries : List β) :
    total key amount k (entry :: entries) =
      (if key entry = k then amount entry else 0) + total key amount k entries := by
  unfold total
  by_cases here : key entry = k <;> simp [here]

@[simp] theorem total_append (k : κ) (first second : List β) :
    total key amount k (first ++ second) =
      total key amount k first + total key amount k second := by
  simp [total]

theorem total_map {γ : Type} (f : γ → β) (k : κ) (entries : List γ) :
    total key amount k (entries.map f) = total (key ∘ f) (amount ∘ f) k entries := by
  simp only [total, List.filter_map, List.map_map]
  rfl

variable {entries : List β}

theorem total_eq_zero {k : κ} (absent : ∀ entry ∈ entries, key entry ≠ k) :
    total key amount k entries = 0 := by
  have nothing : (entries.filter fun entry => key entry = k) = [] :=
    List.filter_eq_nil_iff.mpr fun entry member => by simpa using absent entry member
  rw [total, nothing]
  rfl

theorem total_eq_sum {k : κ} (all : ∀ entry ∈ entries, key entry = k) :
    total key amount k entries = (entries.map amount).sum := by
  have everything : (entries.filter fun entry => key entry = k) = entries :=
    List.filter_eq_self.mpr fun entry member => by simpa using all entry member
  rw [total, everything]

variable {ι ω : Type} {own : ι → ω} {owner : ω} {k : κ} {xs : List ι} {parts : List (List β)}

/-- Where the only owner who may write under a key has written nothing, nobody has. -/
theorem total_flatten_absent
    (written : List.Forall₂ (fun x part => own x ≠ owner → total key amount k part = 0) xs parts)
    (absent : owner ∉ xs.map own) : total key amount k parts.flatten = 0 := by
  induction written with
  | nil => rfl
  | @cons y part ys parts head tail ih =>
    rw [List.map_cons, List.mem_cons, not_or] at absent
    rw [List.flatten_cons, total_append, head (Ne.symm absent.1), ih absent.2]

/-- Where only one owner may write under a key, the total is that of the owner's part. -/
theorem total_flatten_unique
    (written : List.Forall₂ (fun x part => own x ≠ owner → total key amount k part = 0) xs parts)
    (distinct : (xs.map own).Nodup) {x : ι} {part : List β} (member : (x, part) ∈ xs.zip parts)
    (here : own x = owner) : total key amount k parts.flatten = total key amount k part := by
  induction written with
  | nil => simp at member
  | @cons y other ys others head tail ih =>
    obtain ⟨notAgain, restDistinct⟩ := List.nodup_cons.mp distinct
    rw [List.flatten_cons, total_append]
    rcases List.mem_cons.mp member with same | later
    · cases same
      rw [total_flatten_absent key amount tail (here ▸ notAgain), Nat.add_zero]
    · have elsewhere : own y ≠ owner := by
        intro again
        apply notAgain
        exact List.mem_map.mpr ⟨x, (List.of_mem_zip later).1, here.trans again.symm⟩
      rw [head elsewhere, Nat.zero_add]
      exact ih restDistinct later

end Total

/-! ## What was drawn from one stock -/

section TotalDraw

variable {α κ : Type} [DecidableEq κ] {capacity : α → Nat} {key : α → κ}

/-- What was drawn from the stocks with one key. -/
abbrev totalDrawn (key : α → κ) (k : κ) (draws : List (α × Nat)) : Nat :=
  total (fun entry => key entry.1) Prod.snd k draws

theorem totalDrawn_cons (k : κ) (wanted : Nat) (stock : α) (stocks : List α) :
    totalDrawn key k (draw capacity wanted (stock :: stocks)).1 =
      (if key stock = k then min wanted (capacity stock) else 0) +
        totalDrawn key k (draw capacity (wanted - min wanted (capacity stock)) stocks).1 := by
  rw [draw_cons]
  by_cases nothing : min wanted (capacity stock) = 0
  · simp only [if_pos nothing]
    rw [nothing]
    simp
  · simp only [if_neg nothing]
    exact total_cons _ _ _ _ _

theorem totalDrawn_absent {k : κ} {stocks : List α} (absent : ∀ stock ∈ stocks, key stock ≠ k) :
    totalDrawn key k (draw capacity wanted stocks).1 = 0 :=
  total_eq_zero _ _ fun _ drawn => absent _ (draw_spec capacity drawn).1

theorem totalDrawn_head {stock : α} {stocks : List α}
    (distinct : ((stock :: stocks).map key).Nodup) :
    totalDrawn key (key stock) (draw capacity wanted (stock :: stocks)).1 =
      min wanted (capacity stock) := by
  rw [List.map_cons, List.nodup_cons] at distinct
  have others : ∀ other ∈ stocks, key other ≠ key stock := by
    intro other among same
    exact distinct.1 (List.mem_map.mpr ⟨other, among, same⟩)
  rw [totalDrawn_cons, if_pos rfl, totalDrawn_absent others, Nat.add_zero]

theorem totalDrawn_le {stocks : List α} (distinct : (stocks.map key).Nodup) {stock : α}
    (member : stock ∈ stocks) :
    totalDrawn key (key stock) (draw capacity wanted stocks).1 ≤ capacity stock := by
  induction stocks generalizing wanted with
  | nil => cases member
  | cons first stocks ih =>
    rcases List.mem_cons.mp member with rfl | later
    · rw [totalDrawn_head distinct]
      exact Nat.min_le_right _ _
    · rw [List.map_cons, List.nodup_cons] at distinct
      have other : key first ≠ key stock := by
        intro same
        exact distinct.1 (List.mem_map.mpr ⟨stock, later, same.symm⟩)
      rw [totalDrawn_cons, if_neg other, Nat.zero_add]
      exact ih distinct.2 later

end TotalDraw

end BtApiCtp.Theory.Drawdown
