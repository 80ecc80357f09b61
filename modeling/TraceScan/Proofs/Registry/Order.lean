import Mathlib.Data.List.Sort
import TraceScan.Registry

/-!
# The matching order

Grammars are tried by class, then by falling priority, then in the order of their registration. A
registry keeps that order as a list of places; `InOrder` says that the list is the one that its
grammars and classes call for. The main statements on such registries are:

* `perm_order` and `pairwise_order`: the list holds every place once, and it is sorted;
* `pairwise_ordered` and `perm_ordered`: the matching order is sorted, and it holds the registered
  grammars, each as often as it is registered;
* `ordered_reorder_filter`: when some grammars are taken away, the others are tried in the order in
  which they were tried before.
-/

namespace TraceScan

/-! ## Insertion sort and filters -/

section InsertionSort

variable {α : Type} (r : α → α → Prop) [DecidableRel r]

/-- What stands before every element is inserted in front. -/
theorem orderedInsert_eq_cons {a : α} {l : List α} (h : ∀ b ∈ l, r a b) :
    l.orderedInsert r a = a :: l := by
  cases l with
  | nil => rfl
  | cons b l => rw [List.orderedInsert_cons, if_pos (h b (by simp))]

/-- A filter goes past an insertion into a sorted list. -/
theorem filter_orderedInsert [IsTrans α r] (p : α → Bool) (a : α) {l : List α}
    (hl : l.Pairwise r) :
    (l.orderedInsert r a).filter p =
      if p a then (l.filter p).orderedInsert r a else l.filter p := by
  induction l with
  | nil => by_cases hp : p a <;> simp [hp]
  | cons b l ih =>
    rw [List.pairwise_cons] at hl
    by_cases hab : r a b
    · have hfront : ∀ c ∈ (b :: l).filter p, r a c := by
        intro c hc
        rcases List.mem_cons.mp (List.mem_filter.mp hc).1 with rfl | hcl
        · exact hab
        · exact IsTrans.trans a b c hab (hl.1 c hcl)
      rw [List.orderedInsert_cons_of_le r l hab, orderedInsert_eq_cons r hfront,
        List.filter_cons]
    · rw [List.orderedInsert_of_not_le r l hab, List.filter_cons, List.filter_cons, ih hl.2]
      by_cases hpb : p b <;> by_cases hpa : p a <;>
        simp [hpa, hpb, hab]

/-- Filtering and sorting may change places. -/
theorem filter_insertionSort [Std.Total r] [IsTrans α r] (p : α → Bool) (l : List α) :
    (l.insertionSort r).filter p = (l.filter p).insertionSort r := by
  induction l with
  | nil => rfl
  | cons a l ih =>
    rw [List.insertionSort_cons, filter_orderedInsert r p a (List.pairwise_insertionSort r l),
      ih, List.filter_cons]
    by_cases hp : p a <;> simp [hp]

/-- Among elements that may come in either order, an insertion in front of all that it relates to
keeps `t`, if the new element stands in `t` to all others. -/
theorem pairwise_stable_orderedInsert [Std.Total r] [IsTrans α r] {t : α → α → Prop} {a : α}
    {l : List α} (hl : l.Pairwise fun x y => r x y ∧ (r y x → t x y)) (ha : ∀ b ∈ l, t a b) :
    (l.orderedInsert r a).Pairwise fun x y => r x y ∧ (r y x → t x y) := by
  induction l with
  | nil => exact List.pairwise_singleton _ a
  | cons b l ih =>
    obtain ⟨hb, hrest⟩ := List.pairwise_cons.mp hl
    by_cases hab : r a b
    · rw [List.orderedInsert_cons_of_le r l hab]
      refine List.pairwise_cons.mpr ⟨?_, hl⟩
      intro c hc
      refine ⟨?_, fun _ => ha c hc⟩
      rcases List.mem_cons.mp hc with rfl | hcl
      · exact hab
      · exact IsTrans.trans a b c hab (hb c hcl).1
    · rw [List.orderedInsert_of_not_le r l hab]
      refine List.pairwise_cons.mpr ⟨?_, ih hrest fun c hc => ha c (List.mem_cons_of_mem b hc)⟩
      intro c hc
      rcases List.mem_cons.mp ((List.perm_orderedInsert r a l).mem_iff.mp hc) with rfl | hcl
      · exact ⟨(Std.Total.total b c).resolve_right hab, fun hcb => absurd hcb hab⟩
      · exact hb c hcl

/-- **Stability.** Of elements that may come in either order, a sort keeps the order that they have
in the list. -/
theorem pairwise_stable_insertionSort [Std.Total r] [IsTrans α r] {t : α → α → Prop} {l : List α}
    (hl : l.Pairwise t) :
    (l.insertionSort r).Pairwise fun x y => r x y ∧ (r y x → t x y) := by
  induction l with
  | nil => exact List.Pairwise.nil
  | cons a l ih =>
    obtain ⟨ha, hrest⟩ := List.pairwise_cons.mp hl
    rw [List.insertionSort_cons]
    exact pairwise_stable_orderedInsert r (ih hrest)
      fun b hb => ha b ((List.perm_insertionSort r l).mem_iff.mp hb)

end InsertionSort

namespace Registry

variable (r : Registry)

/-! ## Precedence -/

/-- Precedence compares the classes first and the priorities then. -/
theorem precedes_iff {g h : Grammar} :
    r.precedes g h = true ↔ r.rank g.grammarClass < r.rank h.grammarClass ∨
      r.rank g.grammarClass = r.rank h.grammarClass ∧ h.priority ≤ g.priority := by
  simp [precedes]

/-- A grammar that precedes another one is of no later class. -/
theorem rank_le_of_precedes {g h : Grammar} (hgh : r.precedes g h = true) :
    r.rank g.grammarClass ≤ r.rank h.grammarClass := by
  rcases r.precedes_iff.mp hgh with hlt | ⟨heq, -⟩ <;> omega

instance total_precedes : Std.Total fun g h => r.precedes g h = true where
  total g h := by
    simp only [precedes_iff]
    omega

instance isTrans_precedes : IsTrans Grammar fun g h => r.precedes g h = true where
  trans g h k := by
    simp only [precedes_iff]
    omega

instance total_precedes_fst :
    Std.Total fun g h : Grammar × Nat => r.precedes g.1 h.1 = true where
  total g h := r.total_precedes.total g.1 h.1

instance isTrans_precedes_fst :
    IsTrans (Grammar × Nat) fun g h => r.precedes g.1 h.1 = true where
  trans g h k := r.isTrans_precedes.trans g.1 h.1 k.1

/-! ## The order of the places -/

/-- The order of a registry is the one that its grammars and classes call for. -/
def InOrder (r : Registry) : Prop :=
  r.reorder = r

/-- Putting a grammar with its place in front is an ordered insertion. -/
theorem insertOrdered_eq (g : Grammar × Nat) (gs : List (Grammar × Nat)) :
    r.insertOrdered g gs = gs.orderedInsert (fun g h => r.precedes g.1 h.1 = true) g := by
  induction gs with
  | nil => rfl
  | cons h gs ih => rw [insertOrdered, List.orderedInsert_cons, ih]

/-- The order is an insertion sort of the grammars with their places. -/
theorem order_reorder :
    r.reorder.order =
      (r.grammars.zipIdx.insertionSort fun g h => r.precedes g.1 h.1 = true).map Prod.snd := by
  rw [reorder, List.insertionSort, funext fun g => funext (r.insertOrdered_eq g)]

/-- The grammars and the classes alone decide on the order. -/
theorem reorder_congr {r r' : Registry} (hgrammars : r.grammars = r'.grammars)
    (hclasses : r.classOrder = r'.classOrder) : r.reorder = r'.reorder := by
  obtain ⟨grammars, order, classOrder⟩ := r
  obtain ⟨grammars', order', classOrder'⟩ := r'
  obtain rfl : grammars = grammars' := hgrammars
  obtain rfl : classOrder = classOrder' := hclasses
  have horder : (⟨grammars, order, classOrder⟩ : Registry).reorder.order =
      (⟨grammars, order', classOrder⟩ : Registry).reorder.order := by
    rw [order_reorder, order_reorder]
    rfl
  exact congrArg (Registry.mk grammars · classOrder) horder

/-- Setting the order again changes nothing. -/
theorem inOrder_reorder : r.reorder.InOrder :=
  reorder_congr rfl rfl

/-- The grammars at the places of the order, once it is set, are an insertion sort of all. -/
theorem ordered_reorder :
    r.reorder.ordered = r.grammars.insertionSort (fun g h => r.precedes g h = true) := by
  let sorted := r.grammars.zipIdx.insertionSort fun g h => r.precedes g.1 h.1 = true
  have hplace : ∀ g ∈ sorted, r.grammars[g.2]? = some g.1 := by
    intro g hg
    exact List.mem_zipIdx_iff_getElem?.mp ((List.mem_insertionSort _).mp hg)
  calc r.reorder.ordered
      = (sorted.map Prod.snd).filterMap (r.grammars[·]?) := by
        rw [ordered, order_reorder]
        rfl
    _ = sorted.filterMap fun g => some g.1 := by
        rw [List.filterMap_map]
        exact List.filterMap_congr hplace
    _ = sorted.map Prod.fst := by
        rw [← List.filterMap_eq_map]
        rfl
    _ = (r.grammars.zipIdx.map Prod.fst).insertionSort (fun g h => r.precedes g h = true) :=
        List.map_insertionSort _ _ Prod.fst _ fun _ _ _ _ => Iff.rfl
    _ = r.grammars.insertionSort (fun g h => r.precedes g h = true) := by
        rw [List.zipIdx_map_fst]

variable {r}

/-- The order is an insertion sort of the grammars with their places. -/
theorem InOrder.order_eq (hr : r.InOrder) :
    r.order =
      (r.grammars.zipIdx.insertionSort fun g h => r.precedes g.1 h.1 = true).map Prod.snd := by
  rw [← order_reorder, hr]

/-- **Places.** The order holds the place of every grammar, each once. -/
theorem InOrder.perm_order (hr : r.InOrder) : r.order.Perm (List.range r.grammars.length) := by
  rw [hr.order_eq]
  have hperm := (List.perm_insertionSort (fun g h => r.precedes g.1 h.1 = true)
    r.grammars.zipIdx).map Prod.snd
  rwa [List.zipIdx_map_snd, ← List.range_eq_range'] at hperm

/-- Whether the grammar at place `i` is tried before the one at place `j`: its class has the lower
rank, or within one class it has the higher priority, or with equal priority it was registered
first. -/
def TriedBefore (r : Registry) (i j : Nat) : Prop :=
  ∃ g h, r.grammars[i]? = some g ∧ r.grammars[j]? = some h ∧
    (r.rank g.grammarClass < r.rank h.grammarClass ∨
      r.rank g.grammarClass = r.rank h.grammarClass ∧
        (h.priority < g.priority ∨ h.priority = g.priority ∧ i < j))

/-- **Order.** The places are sorted by class, then by falling priority, then by registration. -/
theorem InOrder.pairwise_order (hr : r.InOrder) : r.order.Pairwise r.TriedBefore := by
  rw [hr.order_eq, List.pairwise_map]
  have hrise : r.grammars.zipIdx.Pairwise fun g h => g.2 < h.2 := by
    rw [← List.pairwise_map, List.zipIdx_map_snd]
    exact List.pairwise_lt_range'
  refine (pairwise_stable_insertionSort _ hrise).imp_of_mem ?_
  rintro ⟨g, i⟩ ⟨h, j⟩ hg hh ⟨hgh, hstable⟩
  have hi := List.mem_zipIdx_iff_getElem?.mp ((List.mem_insertionSort _).mp hg)
  have hj := List.mem_zipIdx_iff_getElem?.mp ((List.mem_insertionSort _).mp hh)
  refine ⟨g, h, hi, hj, ?_⟩
  simp only [precedes_iff] at hgh hstable
  omega

/-! ## The order of all grammars -/

/-- The matching order is an insertion sort of the registered grammars. -/
theorem InOrder.ordered_eq_insertionSort (hr : r.InOrder) :
    r.ordered = r.grammars.insertionSort (fun g h => r.precedes g h = true) := by
  rw [← ordered_reorder, hr]

/-- **Sortedness.** A grammar precedes all that are tried after it. -/
theorem InOrder.pairwise_ordered (hr : r.InOrder) :
    r.ordered.Pairwise fun g h => r.precedes g h = true := by
  rw [hr.ordered_eq_insertionSort]
  exact List.pairwise_insertionSort _ _

/-- **Completeness.** The matching order holds the registered grammars, each as often. -/
theorem InOrder.perm_ordered (hr : r.InOrder) : r.ordered.Perm r.grammars := by
  rw [hr.ordered_eq_insertionSort]
  exact List.perm_insertionSort _ _

/-- The grammars that are tried are the registered ones. -/
theorem InOrder.mem_ordered (hr : r.InOrder) {g : Grammar} : g ∈ r.ordered ↔ g ∈ r.grammars :=
  hr.perm_ordered.mem_iff

/-- The classes of the matching order rise in rank. -/
theorem InOrder.pairwise_rank_ordered (hr : r.InOrder) :
    r.ordered.Pairwise fun g h => r.rank g.grammarClass ≤ r.rank h.grammarClass :=
  hr.pairwise_ordered.imp r.rank_le_of_precedes

/-- **Removal.** The grammars that pass a filter are tried in the order in which they were tried
among all. -/
theorem InOrder.ordered_reorder_filter (hr : r.InOrder) (p : Grammar → Bool) :
    ({ r with grammars := r.grammars.filter p } : Registry).reorder.ordered =
      r.ordered.filter p := by
  rw [ordered_reorder, hr.ordered_eq_insertionSort, filter_insertionSort]
  rfl

end Registry

end TraceScan
