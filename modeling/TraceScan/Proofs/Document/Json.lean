import TraceScan.Proofs.Document.Json.Scalar

/-!
# Reading what was written as JSON

A document without unquoted scalars is spelled by many texts, which differ in the blanks between
its parts: `Spells` says which. The reader takes each of them for the document that it spells
(`read?_of_spells`), whatever characters stand in its texts and names. The two writers spell the
documents that they are given, in one line (`spells_compact`) and indented (`spells_pretty`).
-/

namespace TraceScan

namespace Document

/-! ## Values -/

/-- Whether a document has no scalars but texts in quotes, integers, switches and null, so that a
text in JSON tells it from all others. -/
inductive IsValue : Document → Prop
  | null : IsValue .null
  | bool (b : Bool) : IsValue (.bool b)
  | int (n : Int) : IsValue (.int n)
  | text (s : String) : IsValue (.text s)
  | list {items : List Document} (h : ∀ d ∈ items, IsValue d) : IsValue (.list items)
  | table {fields : List (String × Document)} (h : ∀ f ∈ fields, IsValue f.2) :
    IsValue (.table fields)

section IsValue

variable {α : Type} {f : α → Document} {a : Option α}

attribute [simp] IsValue.null IsValue.bool IsValue.int IsValue.text

@[simp]
theorem isValue_nat (n : Nat) : (nat n).IsValue :=
  .int n

@[simp]
theorem isValue_list {items : List Document} : (list items).IsValue ↔ ∀ d ∈ items, d.IsValue :=
  ⟨fun h => by cases h; assumption, .list⟩

@[simp]
theorem isValue_table {fields : List (String × Document)} :
    (table fields).IsValue ↔ ∀ f ∈ fields, f.2.IsValue :=
  ⟨fun h => by cases h; assumption, .table⟩

@[simp]
theorem isValue_texts (l : List String) : (texts l).IsValue := by
  simp [texts]

@[simp]
theorem isValue_option : (option f a).IsValue ↔ ∀ x, a = some x → (f x).IsValue := by
  cases a <;> simp [option]

@[simp]
theorem isValue_tableOf {fields : List (Option (String × Document))} :
    (tableOf fields).IsValue ↔ ∀ f ∈ fields, ∀ p ∈ f, p.2.IsValue := by
  simp only [tableOf, isValue_table, List.mem_filterMap, id_eq, Option.mem_def]
  exact ⟨fun h f hf p hp => h p ⟨f, hf, hp⟩, fun h p ⟨f, hf, hp⟩ => h f hf p hp⟩

@[simp]
theorem isValue_of_fieldIf {name : String} :
    (∀ n d, fieldIf name f a = some (n, d) → d.IsValue) ↔ ∀ x, a = some x → (f x).IsValue := by
  cases a <;> simp [fieldIf]

end IsValue

end Document

namespace Json

/-! ## Spelling -/

/-- Whether nothing but blanks stands between two parts of a document. -/
def Blank (gap : List Char) : Prop :=
  ∀ c ∈ gap, isSpace c = true

/-- Two parts may stand without a gap. -/
theorem blank_nil : Blank [] := by
  rintro c ⟨⟩

/-- Blanks are passed over. -/
theorem skipSpace_append {gap : List Char} (h : Blank gap) (s : List Char) :
    skipSpace (gap ++ s) = skipSpace s :=
  List.dropWhile_append_of_pos h

/-- A character that is no blank is not passed over. -/
theorem skipSpace_cons {c : Char} (hc : isSpace c = false) (s : List Char) :
    skipSpace (c :: s) = c :: s := by
  rw [skipSpace, List.dropWhile_cons_of_neg (by simp [hc])]

/-- A blank can belong to no number. -/
theorem stops_of_isSpace {c : Char} (h : isSpace c = true) : Stops c := by
  simp only [isSpace, Bool.or_eq_true, beq_iff_eq] at h
  rcases h with ((rfl | rfl) | rfl) | rfl <;> exact ⟨by decide, by decide, by decide, by decide⟩

/-- A mark that stands behind a value can belong to no number. -/
theorem ends_cons_of_mem {c : Char} (h : c ∈ [',', ']', '\x7d']) (rest : List Char) :
    Ends (c :: rest) := by
  simp only [List.mem_cons, List.not_mem_nil, or_false] at h
  rintro _ ⟨⟩
  rcases h with rfl | rfl | rfl <;> exact ⟨by decide, by decide, by decide, by decide⟩

/-- What a number may be followed by may have blanks in front. -/
theorem Blank.ends_append {gap : List Char} (h : Blank gap) {rest : List Char}
    (hrest : Ends rest) : Ends (gap ++ rest) := by
  cases gap with
  | nil => exact hrest
  | cons a gap =>
    rintro _ ⟨⟩
    exact stops_of_isSpace (h a List.mem_cons_self)

/-- What a text may spell: a document, or the items of a list or the fields of a table up to its
end. -/
inductive Part where
  | value (d : Document)
  | items (l : List Document)
  | fields (l : List (String × Document))

/-- Whether a text spells a part of a document, with any blanks around and between the parts of it,
but none behind it. -/
inductive Spells : Part → List Char → Prop
  | null : Spells (.value .null) (scalar .null)
  | bool (b : Bool) : Spells (.value (.bool b)) (scalar (.bool b))
  | int (n : Int) : Spells (.value (.int n)) (scalar (.int n))
  | text (s : String) : Spells (.value (.text s)) (scalar (.text s))
  | blank {d : Document} {gap s : List Char} (hgap : Blank gap) (h : Spells (.value d) s) :
    Spells (.value d) (gap ++ s)
  | emptyList {gap : List Char} (hgap : Blank gap) :
    Spells (.value (.list [])) ('[' :: (gap ++ [']']))
  | list {l : List Document} {s : List Char} (h : Spells (.items l) s) :
    Spells (.value (.list l)) ('[' :: s)
  | emptyTable {gap : List Char} (hgap : Blank gap) :
    Spells (.value (.table [])) ('\x7b' :: (gap ++ ['\x7d']))
  | table {l : List (String × Document)} {s : List Char} (h : Spells (.fields l) s) :
    Spells (.value (.table l)) ('\x7b' :: s)
  | lastItem {d : Document} {s gap : List Char} (h : Spells (.value d) s) (hgap : Blank gap) :
    Spells (.items [d]) (s ++ (gap ++ [']']))
  | item {d : Document} {l : List Document} {s gap t : List Char} (h : Spells (.value d) s)
    (hgap : Blank gap) (ht : Spells (.items l) t) :
    Spells (.items (d :: l)) (s ++ (gap ++ ',' :: t))
  | lastField {name : String} {d : Document} {lead mid s gap : List Char} (hlead : Blank lead)
    (hmid : Blank mid) (h : Spells (.value d) s) (hgap : Blank gap) :
    Spells (.fields [(name, d)])
      (lead ++ (quote name ++ (mid ++ ':' :: (s ++ (gap ++ ['\x7d'])))))
  | field {name : String} {d : Document} {l : List (String × Document)}
    {lead mid s gap t : List Char} (hlead : Blank lead) (hmid : Blank mid)
    (h : Spells (.value d) s) (hgap : Blank gap) (ht : Spells (.fields l) t) :
    Spells (.fields ((name, d) :: l))
      (lead ++ (quote name ++ (mid ++ ':' :: (s ++ (gap ++ ',' :: t)))))

/-! ## Reading -/

/-- Whether the reader takes a text for a part of a document, whatever follows it. -/
def Reads (fuel : Nat) : Part → List Char → Prop
  | .value d, s => ∀ rest, Ends rest → readValue fuel (s ++ rest) = some (d, rest)
  | .items l, s => ∀ rest, readItems fuel (s ++ rest) = some (l, rest)
  | .fields l, s => ∀ rest, readFields fuel (s ++ rest) = some (l, rest)

/-- There is some fuel to read a text with. -/
theorem exists_fuel_eq {s : List Char} {fuel : Nat} (hfuel : s.length ≤ fuel) (hs : s ≠ []) :
    ∃ n, fuel = n + 1 :=
  Nat.exists_eq_add_one_of_ne_zero
    (Nat.ne_zero_of_lt (Nat.lt_of_lt_of_le (List.length_pos_iff.mpr hs) hfuel))

section Steps

variable {fuel : Nat} {d : Document} {items : List Document} {fields : List (String × Document)}
  {name : String} {lead mid gap s t rest : List Char}

/-- Blanks in front of a value make no difference. -/
theorem readValue_blank (hgap : Blank gap) :
    readValue fuel (gap ++ s) = readValue fuel s := by
  cases fuel with
  | zero => rfl
  | succ fuel => rw [readValue, readValue, skipSpace_append hgap]

/-- A list without items is read. -/
theorem readValue_emptyList (hgap : Blank gap) :
    readValue (fuel + 1) ('[' :: (gap ++ ']' :: rest)) = some (.list [], rest) := by
  rw [readValue, skipSpace_cons rfl]
  simp only [skipSpace_append hgap, skipSpace_cons (show isSpace ']' = false from rfl)]

/-- No list goes on with its end. -/
theorem readItems_eq_none (h : skipSpace s = ']' :: rest) : readItems fuel s = none := by
  rcases fuel with _ | _ | fuel
  · rfl
  · rfl
  · -- an item would have to start with the bracket
    have hvalue : readValue (fuel + 1) s = none := by
      rw [readValue, h]
      rfl
    rw [readItems, hvalue]
    rfl

/-- A list is read when its items are. -/
theorem readValue_list (h : readItems fuel s = some (items, rest)) :
    readValue (fuel + 1) ('[' :: s) = some (.list items, rest) := by
  rw [readValue, skipSpace_cons rfl]
  simp only
  split
  · next hclose =>
    rw [readItems_eq_none hclose] at h
    cases h
  · rw [h]
    rfl

/-- A table without fields is read. -/
theorem readValue_emptyTable (hgap : Blank gap) :
    readValue (fuel + 1) ('\x7b' :: (gap ++ '\x7d' :: rest)) = some (.table [], rest) := by
  rw [readValue, skipSpace_cons rfl]
  simp only [skipSpace_append hgap, skipSpace_cons (show isSpace '\x7d' = false from rfl)]

/-- No table goes on with its end. -/
theorem readFields_eq_none (h : skipSpace s = '\x7d' :: rest) : readFields fuel s = none := by
  cases fuel with
  | zero => rfl
  | succ fuel => rw [readFields, h]; rfl

/-- A table is read when its fields are. -/
theorem readValue_table (h : readFields fuel s = some (fields, rest)) :
    readValue (fuel + 1) ('\x7b' :: s) = some (.table fields, rest) := by
  rw [readValue, skipSpace_cons rfl]
  simp only
  split
  · next hclose =>
    rw [readFields_eq_none hclose] at h
    cases h
  · rw [h]
    rfl

/-- The last item of a list is read with the end of the list. -/
theorem readItems_last (h : readValue fuel s = some (d, gap ++ ']' :: rest)) (hgap : Blank gap) :
    readItems (fuel + 1) s = some ([d], rest) := by
  rw [readItems, h]
  simp only [Option.bind_eq_bind, Option.bind_some, skipSpace_append hgap,
    skipSpace_cons (show isSpace ']' = false from rfl)]
  rfl

/-- An item is read with the items behind it. -/
theorem readItems_cons (h : readValue fuel s = some (d, gap ++ ',' :: t)) (hgap : Blank gap)
    (ht : readItems fuel t = some (items, rest)) :
    readItems (fuel + 1) s = some (d :: items, rest) := by
  rw [readItems, h]
  simp only [Option.bind_eq_bind, Option.bind_some, skipSpace_append hgap,
    skipSpace_cons (show isSpace ',' = false from rfl), ht]
  rfl

/-- The last field of a table is read with the end of the table. -/
theorem readFields_last (hlead : Blank lead) (hmid : Blank mid)
    (h : readValue fuel s = some (d, gap ++ '\x7d' :: rest)) (hgap : Blank gap) :
    readFields (fuel + 1) (lead ++ (quote name ++ (mid ++ ':' :: s))) =
      some ([(name, d)], rest) := by
  rw [readFields, skipSpace_append hlead, quote_append, skipSpace_cons rfl]
  simp only [readQuoted_quote, skipSpace_append hmid, skipSpace_append hgap,
    skipSpace_cons (show isSpace ':' = false from rfl),
    skipSpace_cons (show isSpace '\x7d' = false from rfl), Option.bind_eq_bind, Option.bind_some,
    h, String.ofList_toList]
  rfl

/-- A field is read with the fields behind it. -/
theorem readFields_cons (hlead : Blank lead) (hmid : Blank mid)
    (h : readValue fuel s = some (d, gap ++ ',' :: t)) (hgap : Blank gap)
    (ht : readFields fuel t = some (fields, rest)) :
    readFields (fuel + 1) (lead ++ (quote name ++ (mid ++ ':' :: s))) =
      some ((name, d) :: fields, rest) := by
  rw [readFields, skipSpace_append hlead, quote_append, skipSpace_cons rfl]
  simp only [readQuoted_quote, skipSpace_append hmid, skipSpace_append hgap,
    skipSpace_cons (show isSpace ':' = false from rfl),
    skipSpace_cons (show isSpace ',' = false from rfl), Option.bind_eq_bind, Option.bind_some,
    h, ht, String.ofList_toList]
  rfl

end Steps

/-- **Parts.** The reader takes a text for each part of a document that it spells. -/
theorem Spells.reads {p : Part} {s : List Char} (h : Spells p s) {fuel : Nat}
    (hfuel : s.length ≤ fuel) : Reads fuel p s := by
  -- on the spelling; the fuel is no less than what is left to be read
  induction h generalizing fuel with
  | null =>
    obtain ⟨fuel, rfl⟩ := exists_fuel_eq hfuel (by decide)
    exact fun rest _ => rfl
  | bool b =>
    obtain ⟨fuel, rfl⟩ := exists_fuel_eq hfuel (by cases b <;> decide)
    intro rest _
    cases b <;> rfl
  | int n =>
    obtain ⟨fuel, rfl⟩ := exists_fuel_eq hfuel (toString_int_ne_nil n)
    exact fun rest hrest => readValue_int fuel n hrest
  | text s =>
    obtain ⟨fuel, rfl⟩ := exists_fuel_eq hfuel (List.cons_ne_nil _ _)
    exact fun rest _ => readValue_text fuel s rest
  | @blank d gap s hgap _ ih =>
    rw [List.length_append] at hfuel
    intro rest hrest
    rw [List.append_assoc, readValue_blank hgap]
    exact ih (by omega) rest hrest
  | emptyList hgap =>
    obtain ⟨fuel, rfl⟩ := exists_fuel_eq hfuel (List.cons_ne_nil _ _)
    intro rest _
    rw [List.cons_append, List.append_assoc]
    exact readValue_emptyList hgap
  | list _ ih =>
    obtain ⟨fuel, rfl⟩ := exists_fuel_eq hfuel (List.cons_ne_nil _ _)
    exact fun rest _ => readValue_list (ih (Nat.le_of_succ_le_succ hfuel) rest)
  | emptyTable hgap =>
    obtain ⟨fuel, rfl⟩ := exists_fuel_eq hfuel (List.cons_ne_nil _ _)
    intro rest _
    rw [List.cons_append, List.append_assoc]
    exact readValue_emptyTable hgap
  | table _ ih =>
    obtain ⟨fuel, rfl⟩ := exists_fuel_eq hfuel (List.cons_ne_nil _ _)
    exact fun rest _ => readValue_table (ih (Nat.le_of_succ_le_succ hfuel) rest)
  | @lastItem d s gap _ hgap ih =>
    simp only [List.length_append, List.length_singleton] at hfuel
    obtain ⟨fuel, rfl⟩ := Nat.exists_eq_add_one_of_ne_zero (show fuel ≠ 0 by omega)
    intro rest
    have hends := hgap.ends_append (ends_cons_of_mem (c := ']') (by simp) rest)
    have hvalue := ih (show s.length ≤ fuel by omega) _ hends
    rw [List.append_assoc, List.append_assoc]
    exact readItems_last hvalue hgap
  | @item d l s gap t _ hgap _ ih iht =>
    simp only [List.length_append, List.length_cons] at hfuel
    obtain ⟨fuel, rfl⟩ := Nat.exists_eq_add_one_of_ne_zero (show fuel ≠ 0 by omega)
    intro rest
    have hends := hgap.ends_append (ends_cons_of_mem (c := ',') (by simp) (t ++ rest))
    have hvalue := ih (show s.length ≤ fuel by omega) _ hends
    rw [List.append_assoc, List.append_assoc]
    exact readItems_cons hvalue hgap (iht (by omega) rest)
  | @lastField name d lead mid s gap hlead hmid _ hgap ih =>
    simp only [List.length_append, List.length_cons, List.length_nil] at hfuel
    obtain ⟨fuel, rfl⟩ := Nat.exists_eq_add_one_of_ne_zero (show fuel ≠ 0 by omega)
    intro rest
    have hends := hgap.ends_append (ends_cons_of_mem (c := '\x7d') (by simp) rest)
    have hvalue := ih (show s.length ≤ fuel by omega) _ hends
    simp only [List.append_assoc, List.cons_append, List.nil_append]
    exact readFields_last hlead hmid hvalue hgap
  | @field name d l lead mid s gap t hlead hmid _ hgap _ ih iht =>
    simp only [List.length_append, List.length_cons] at hfuel
    obtain ⟨fuel, rfl⟩ := Nat.exists_eq_add_one_of_ne_zero (show fuel ≠ 0 by omega)
    intro rest
    have hends := hgap.ends_append (ends_cons_of_mem (c := ',') (by simp) (t ++ rest))
    have hvalue := ih (show s.length ≤ fuel by omega) _ hends
    simp only [List.append_assoc, List.cons_append]
    exact readFields_cons hlead hmid hvalue hgap (iht (by omega) rest)

/-- **Reading.** A text that spells a document, with any blanks behind it, is read as this
document. -/
theorem read?_of_spells {d : Document} {s gap : List Char} (h : Spells (.value d) s)
    (hgap : Blank gap) : read? (String.ofList (s ++ gap)) = some d := by
  have hends : Ends gap := by
    have happend := hgap.ends_append ends_nil
    rwa [List.append_nil] at happend
  have hvalue : readValue ((s ++ gap).length + 1) (s ++ gap) = some (d, gap) := by
    refine h.reads ?_ gap hends
    rw [List.length_append]
    omega
  have hspace : skipSpace gap = [] := by
    rw [← List.append_nil gap, skipSpace_append hgap]
    rfl
  rw [read?, String.toList_ofList, hvalue]
  simp only [Option.bind_eq_bind, Option.bind_some, hspace, List.isEmpty_nil, if_true]

/-! ## Writing -/

/-- Items that are written one behind the other, with commas between them, spell the items of a
list. -/
theorem spells_items {write : Document → List Char} {tail : List Document → List Char}
    {gap : List Char} (hgap : Blank gap) (hnil : tail [] = gap ++ [']'])
    (hcons : ∀ d rest, tail (d :: rest) = ',' :: (write d ++ tail rest)) {d : Document}
    {rest : List Document} (h : ∀ x ∈ d :: rest, Spells (.value x) (write x)) :
    Spells (.items (d :: rest)) (write d ++ tail rest) := by
  induction rest generalizing d with
  | nil =>
    rw [hnil]
    exact .lastItem (h d List.mem_cons_self) hgap
  | cons e rest ih =>
    obtain ⟨hd, hrest⟩ := List.forall_mem_cons.mp h
    rw [hcons]
    exact .item hd blank_nil (ih hrest)

/-- Fields that are written one behind the other, with commas between them, spell the fields of a
table. -/
theorem spells_fields {write : Document → List Char} {tail : List (String × Document) → List Char}
    {lead gap : List Char} (hlead : Blank lead) (hgap : Blank gap)
    (hnil : tail [] = gap ++ ['\x7d'])
    (hcons : ∀ f rest, tail (f :: rest) =
      ',' :: (lead ++ (quote f.1 ++ ':' :: (write f.2 ++ tail rest))))
    {f : String × Document} {rest : List (String × Document)}
    (h : ∀ x ∈ f :: rest, Spells (.value x.2) (write x.2)) :
    Spells (.fields (f :: rest)) (lead ++ (quote f.1 ++ ':' :: (write f.2 ++ tail rest))) := by
  induction rest generalizing f with
  | nil =>
    rw [hnil]
    exact .lastField hlead blank_nil (h f List.mem_cons_self) hgap
  | cons g rest ih =>
    obtain ⟨hf, hrest⟩ := List.forall_mem_cons.mp h
    rw [hcons]
    exact .field hlead blank_nil hf blank_nil (ih hrest)

/-- What is written in one line spells the document. -/
theorem spells_compact {d : Document} (h : d.IsValue) : Spells (.value d) (compact d) := by
  induction h with
  | null => exact .null
  | bool b => exact .bool b
  | int n => exact .int n
  | text s => exact .text s
  | @list items _ ih =>
    cases items with
    | nil => exact .emptyList blank_nil
    | cons d rest => exact .list (spells_items blank_nil rfl (fun _ _ => rfl) ih)
  | @table fields _ ih =>
    cases fields with
    | nil => exact .emptyTable blank_nil
    | cons f rest => exact .table (spells_fields blank_nil blank_nil rfl (fun _ _ => rfl) ih)

/-- A new line is blank. -/
theorem blank_newLine (depth : Nat) : Blank (newLine depth) := by
  rintro c hc
  rcases List.mem_cons.mp hc with rfl | hc
  · rfl
  · rw [(List.mem_replicate.mp hc).2]
    rfl

/-- What is written with indentation spells the document. -/
theorem spells_pretty {d : Document} (h : d.IsValue) (depth : Nat) :
    Spells (.value d) (prettyAt depth d) := by
  induction h generalizing depth with
  | null => exact .null
  | bool b => exact .bool b
  | int n => exact .int n
  | text s => exact .text s
  | @list items _ ih =>
    cases items with
    | nil => exact .emptyList blank_nil
    | cons d rest =>
      exact .list (@spells_items (fun x => newLine (depth + 1) ++ prettyAt (depth + 1) x)
        (prettyItems depth) _ (blank_newLine depth) rfl (fun _ _ => rfl) _ _
        fun x hx => .blank (blank_newLine _) (ih x hx (depth + 1)))
  | @table fields _ ih =>
    cases fields with
    | nil => exact .emptyTable blank_nil
    | cons f rest =>
      -- the blank behind a colon belongs to the value
      have hcons : ∀ f rest, prettyFields depth (f :: rest) = ',' :: (newLine (depth + 1) ++
          (quote f.1 ++ ':' :: (' ' :: prettyAt (depth + 1) f.2 ++ prettyFields depth rest))) := by
        intro f rest
        rw [prettyFields, List.append_assoc, List.cons_append]
      have hspace : Blank [' '] := by simp [Blank, isSpace]
      rw [prettyAt, List.append_assoc]
      exact .table (@spells_fields (fun x => ' ' :: prettyAt (depth + 1) x) (prettyFields depth)
        _ _ (blank_newLine _) (blank_newLine depth) rfl hcons _ _
        fun x hx => .blank hspace (ih x hx (depth + 1)))

/-- **One line.** A document is read back from the line that it is written as. -/
theorem read?_render {d : Document} (h : d.IsValue) : read? (render d) = some d := by
  have hread := read?_of_spells (spells_compact h) blank_nil
  rwa [List.append_nil] at hread

/-- **Indentation.** A document is read back from the indented text that it is written as. -/
theorem read?_renderPretty {d : Document} (h : d.IsValue) : read? (renderPretty d) = some d := by
  have hread := read?_of_spells (spells_pretty h 0) blank_nil
  rwa [List.append_nil] at hread

/-! ## Lines -/

/-- The items of a list hold no line break if none of them does. -/
theorem newline_not_mem_compactItems {items : List Document}
    (h : ∀ d ∈ items, '\n' ∉ compact d) : '\n' ∉ compactItems items := by
  induction items with
  | nil => decide
  | cons d rest ih =>
    obtain ⟨hd, hrest⟩ := List.forall_mem_cons.mp h
    simp [compactItems, hd, ih hrest]

/-- The fields of a table hold no line break if none of them does. -/
theorem newline_not_mem_compactFields {fields : List (String × Document)}
    (h : ∀ f ∈ fields, '\n' ∉ compact f.2) : '\n' ∉ compactFields fields := by
  induction fields with
  | nil => decide
  | cons f rest ih =>
    obtain ⟨hf, hrest⟩ := List.forall_mem_cons.mp h
    simp [compactFields, hf, newline_not_mem_quote, ih hrest]

/-- **No line breaks.** A document in one line holds no line break. -/
theorem newline_not_mem_compact {d : Document} (h : d.IsValue) : '\n' ∉ compact d := by
  induction h with
  | null => decide
  | bool b => cases b <;> decide
  | int n => exact newline_not_mem_toString n
  | text s => exact newline_not_mem_quote s
  | @list items _ ih =>
    cases items with
    | nil => decide
    | cons d rest =>
      obtain ⟨hd, hrest⟩ := List.forall_mem_cons.mp ih
      simp [compact, hd, newline_not_mem_compactItems hrest]
  | @table fields _ ih =>
    cases fields with
    | nil => decide
    | cons f rest =>
      obtain ⟨hf, hrest⟩ := List.forall_mem_cons.mp ih
      simp [compact, hf, newline_not_mem_quote, newline_not_mem_compactFields hrest]

end Json

end TraceScan
