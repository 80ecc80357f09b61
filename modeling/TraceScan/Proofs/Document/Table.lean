import Mathlib.Data.List.Forall2
import TraceScan.Config.Document

/-!
# Reading tables

What is read from a table depends on nothing but what stands under the names that are asked for:
not on the order of the fields, and not on fields of other names. An optional value that is absent
may be left out of a table or stand in it as null (`Gives`), and is read alike.
-/

namespace TraceScan.Document

/-! ## Fields -/

/-- A field that is asked for is found among the known ones as among all. -/
theorem lookup_filter_contains {names : List String} {name : String} (hname : name ∈ names)
    (fields : List (String × Document)) :
    (fields.filter fun f => names.contains f.1).lookup name = fields.lookup name := by
  induction fields with
  | nil => rfl
  | cons f fields ih =>
    rw [List.filter_cons]
    by_cases hf : name = f.1
    · -- the field that is asked for is known, and so comes first in both
      have hcontains : names.contains f.1 = true := by simpa [← hf] using hname
      rw [if_pos hcontains, hf, List.lookup_cons_self, List.lookup_cons_self]
    · have hne : (name == f.1) = false := by simpa using hf
      rw [List.lookup_cons, hne, ← ih]
      split
      · rw [List.lookup_cons, hne]
      · rfl

/-- Whether a document is a table without repeated names, of whose fields something is true. -/
def HasFields (d : Document) (P : List (String × Document) → Prop) : Prop :=
  ∃ fields, d = .table fields ∧ (fields.map Prod.fst).Nodup ∧ P fields

/-- The fields of a table without repeated names are found by their names. -/
theorem HasFields.exists_toFields? {d : Document} {P : List (String × Document) → Prop}
    (h : d.HasFields P) (positional : Bool) (names : List String) :
    ∃ fields known, P fields ∧ toFields? positional names d = some known ∧
      ∀ name ∈ names, known.lookup name = fields.lookup name := by
  obtain ⟨fields, rfl, hdistinct, hfields⟩ := h
  have hknown : ((fields.filter fun f => names.contains f.1).map Prod.fst).Nodup :=
    hdistinct.sublist (List.filter_sublist.map _)
  exact ⟨fields, _, hfields, by rw [toFields?, if_pos hknown],
    fun name hname => lookup_filter_contains hname fields⟩

section Fields

variable {α : Type} {fields : List (String × Document)} {name : String} {d : Document}
  {view? : Document → Option α} {a default : α}

/-- A field that must be there is taken by its view. -/
theorem required?_eq_some (h : fields.lookup name = some d) (hview : view? d = some a) :
    required? fields name view? = some a := by
  rw [required?, h, Option.bind_some, hview]

/-- A field that is there is taken by its view. -/
theorem field?_eq_some (h : fields.lookup name = some d) (hview : view? d = some a) :
    field? fields name view? default = some a := by
  rw [field?, h]
  exact hview

end Fields

/-! ## Optional values -/

/-- Whether an optional value is what stands under a name, where `f` writes it. If it is absent,
nothing stands there, or null does. -/
def Gives {α : Type} (f : α → Document) (a : Option α) (slot : Option Document) : Prop :=
  slot = a.map f ∨ slot = some (option f a)

/-- An optional value is read from a table that gives it. -/
theorem Gives.field?_eq {α : Type} {f : α → Document} {a : Option α} {slot : Option Document}
    (h : Gives f a slot) {fields : List (String × Document)} {name : String}
    (hlookup : fields.lookup name = slot) {view? : Document → Option α}
    (hview : ∀ x ∈ a, (f x).isNull = false ∧ view? (f x) = some x) :
    field? fields name (toOption? view?) none = some a := by
  subst hlookup
  cases a with
  | none =>
    rw [field?]
    rcases h with h | h
    · rw [h]
      rfl
    · rw [h]
      rfl
  | some x =>
    obtain ⟨hnull, hx⟩ := hview x rfl
    have hlookup : fields.lookup name = some (f x) := h.elim id id
    refine field?_eq_some hlookup ?_
    rw [toOption?, hnull, hx]
    rfl

/-! ## Numbers and lists -/

/-- A number in range is read. -/
theorem toNatUpTo?_nat {largest n : Nat} (h : n ≤ largest) :
    toNatUpTo? largest (.nat n) = some n := by
  simp [toNatUpTo?, nat, toNat?, h]

/-- A word in range is read. -/
theorem toWord?_nat {n : Nat} (h : n ≤ Text.largest64) : toWord? (.nat n) = some n :=
  toNatUpTo?_nat h

/-- What is made of each element of a list is related to it, if it is so one by one. -/
theorem forall₂_map {α β : Type} {R : α → β → Prop} {f : α → β} {l : List α}
    (h : ∀ a ∈ l, R a (f a)) : List.Forall₂ R l (l.map f) := by
  rw [List.forall₂_map_right_iff]
  exact List.forall₂_same.mpr h

/-- A list is read when each of its items is read as what it describes. -/
theorem toListOf?_list {α : Type} {view? : Document → Option α} {R : α → Document → Prop}
    {l : List α} {items : List Document} (h : List.Forall₂ R l items)
    (hview : ∀ a ∈ l, ∀ d, R a d → view? d = some a) : toListOf? view? (.list items) = some l := by
  rw [toListOf?, toList?, Option.bind_some]
  induction h with
  | nil => rfl
  | @cons a d l items ha _ ih =>
    obtain ⟨hd, hrest⟩ := List.forall_mem_cons.mp hview
    rw [List.mapM_cons, hd d ha, ih hrest]
    rfl

/-- A list of written values is read when each of them is. -/
theorem toListOf?_map {α : Type} {view? : Document → Option α} {f : α → Document} {l : List α}
    (h : ∀ a ∈ l, view? (f a) = some a) : toListOf? view? (.list (l.map f)) = some l := by
  have hmap : List.Forall₂ (fun a d => d = f a) l (l.map f) := forall₂_map fun _ _ => rfl
  refine toListOf?_list hmap ?_
  rintro a ha _ rfl
  exact h a ha

/-- A list of texts is read. -/
theorem toListOf?_texts (l : List String) : toListOf? toText? (texts l) = some l :=
  toListOf?_map fun _ _ => rfl

end TraceScan.Document
