import TraceScan.Config.File
import TraceScan.Proofs.Document.Json
import TraceScan.Proofs.Document.Table

/-!
# Configurations as documents

A configuration without hooks, the numbers of which are in range, is read from each document that
describes it: the fields of a table may stand in any order and between fields of other names, and an
optional value that is absent may be left out or be null. The document that a configuration is
written as is one of these, so that a configuration is read from the JSON that it is written as.
-/

namespace TraceScan

open Document (Gives)

/-! ## Rules -/

/-- Whether the groups of a rule are in range. -/
structure Rule.Fits (rule : Rule) : Prop where
  path : ∀ n ∈ rule.pathGroup, n ≤ Text.largest64
  line : ∀ n ∈ rule.lineGroup, n ≤ Text.largest64
  column : ∀ n ∈ rule.columnGroup, n ≤ Text.largest64
  context : ∀ n ∈ rule.contextGroup, n ≤ Text.largest64

/-- Whether the fields of a table describe a rule. -/
structure Rule.DescribedBy (rule : Rule) (fields : List (String × Document)) : Prop where
  pattern : fields.lookup "pattern" = some (.text rule.pattern)
  path : Gives .nat rule.pathGroup (fields.lookup "path_group")
  line : Gives .nat rule.lineGroup (fields.lookup "line_group")
  column : Gives .nat rule.columnGroup (fields.lookup "column_group")
  context : Gives .nat rule.contextGroup (fields.lookup "context_group")

/-- A rule is read from each document that describes it. -/
theorem Rule.ofDocument?_eq_some {rule : Rule} (hfits : rule.Fits) {d : Document}
    (hd : d.HasFields rule.DescribedBy) (positional : Bool) :
    Rule.ofDocument? positional d = some rule := by
  obtain ⟨fields, known, h, hknown, hlookup⟩ := hd.exists_toFields? positional Rule.fieldNames
  have hgroup : ∀ {a : Option Nat} {name : String}, name ∈ Rule.fieldNames →
      (∀ n ∈ a, n ≤ Text.largest64) → Gives .nat a (fields.lookup name) →
      Document.field? known name (Document.toOption? Document.toWord?) none = some a := by
    intro a name hname ha hgives
    exact hgives.field?_eq (hlookup name hname) fun n hn => ⟨rfl, Document.toWord?_nat (ha n hn)⟩
  have hpattern : Document.required? known "pattern" Document.toText? = some rule.pattern :=
    Document.required?_eq_some ((hlookup _ (by decide)).trans h.pattern) rfl
  simp only [Rule.ofDocument?, hknown, hpattern, hgroup (by decide) hfits.path h.path,
    hgroup (by decide) hfits.line h.line, hgroup (by decide) hfits.column h.column,
    hgroup (by decide) hfits.context h.context, Option.bind_eq_bind, Option.bind_some,
    Option.pure_def]

/-- A rule is described by the document that it is written as. -/
theorem Rule.hasFields_toDocument (rule : Rule) :
    rule.toDocument.HasFields rule.DescribedBy := by
  obtain ⟨pattern, path, line, column, context⟩ := rule
  refine ⟨_, rfl, ?_⟩
  cases column <;> cases context <;>
    exact ⟨by simp [Document.fieldIf], rfl, .inr rfl, .inr rfl, .inl rfl, .inl rfl⟩

/-! ## Definitions -/

/-- Whether a document can hold all of a definition: its numbers are in range, and it has no
hooks. -/
structure Definition.Fits (d : Definition) : Prop where
  rules : ∀ rule ∈ d.rules, rule.Fits
  priority : Int32.minValue.toInt ≤ d.priority ∧ d.priority ≤ Int32.maxValue.toInt
  resolvePath : d.resolvePath = none
  contextMatch : d.contextMatch = none

/-- Whether the fields of a table describe a definition. -/
structure Definition.DescribedBy (d : Definition) (fields : List (String × Document)) : Prop where
  name : fields.lookup "name" = some (.text d.name)
  description : Gives .text d.description (fields.lookup "description")
  rules : ∃ items, fields.lookup "patterns" = some (.list items) ∧
    List.Forall₂ (fun rule item => item.HasFields rule.DescribedBy) d.rules items
  priority : fields.lookup "priority" = some (.int d.priority)
  isCustom : fields.lookup "is_custom" = some (.bool d.isCustom)

/-- A definition is read from each document that describes it. -/
theorem Definition.ofDocument?_eq_some {d : Definition} (hfits : d.Fits) {doc : Document}
    (hdoc : doc.HasFields d.DescribedBy) (positional : Bool) :
    Definition.ofDocument? positional doc = some d := by
  obtain ⟨fields, known, h, hknown, hlookup⟩ :=
    hdoc.exists_toFields? positional Definition.fieldNames
  have hname : Document.field? known "name" Document.toText? "" = some d.name :=
    Document.field?_eq_some ((hlookup _ (by decide)).trans h.name) rfl
  have hdescription : Document.field? known "description"
      (Document.toOption? Document.toText?) none = some d.description :=
    h.description.field?_eq (hlookup _ (by decide)) fun _ _ => ⟨rfl, rfl⟩
  have hrules : Document.field? known "patterns"
      (Document.toListOf? (Rule.ofDocument? positional)) [] = some d.rules := by
    obtain ⟨items, hitems, hwritten⟩ := h.rules
    refine Document.field?_eq_some ((hlookup _ (by decide)).trans hitems) ?_
    refine Document.toListOf?_list hwritten fun rule hrule item hitem => ?_
    exact Rule.ofDocument?_eq_some (hfits.rules rule hrule) hitem positional
  have hpriority : Document.field? known "priority"
      (Document.toIntIn? Int32.minValue.toInt Int32.maxValue.toInt) 0 = some d.priority := by
    refine Document.field?_eq_some ((hlookup _ (by decide)).trans h.priority) ?_
    simp only [Document.toIntIn?, Document.toInt?, Option.filter, hfits.priority, and_self,
      decide_true, if_true]
  have hcustom : Document.field? known "is_custom" Document.toBool? false = some d.isCustom :=
    Document.field?_eq_some ((hlookup _ (by decide)).trans h.isCustom) rfl
  -- what is read has no hooks, and neither has the definition
  obtain ⟨name, description, rules, priority, isCustom, resolvePath, contextMatch⟩ := d
  obtain rfl : resolvePath = none := hfits.resolvePath
  obtain rfl : contextMatch = none := hfits.contextMatch
  simp only [Definition.ofDocument?, hknown, hname, hdescription, hrules, hpriority, hcustom,
    Option.bind_eq_bind, Option.bind_some, Option.pure_def]

/-- A definition is described by the document that it is written as. -/
theorem Definition.hasFields_toDocument (d : Definition) :
    d.toDocument.HasFields d.DescribedBy := by
  obtain ⟨name, description, rules, priority, isCustom, resolvePath, contextMatch⟩ := d
  have hrules : List.Forall₂ (fun rule item => item.HasFields rule.DescribedBy) rules
      (rules.map Rule.toDocument) :=
    Document.forall₂_map fun rule _ => rule.hasFields_toDocument
  refine ⟨_, rfl, ?_⟩
  cases description <;>
    exact ⟨by simp [Document.fieldIf], rfl, .inl rfl, ⟨_, rfl, hrules⟩, rfl, rfl⟩

/-! ## Configurations -/

/-- Whether a document can hold all of a configuration. -/
structure Config.Fits (c : Config) : Prop where
  bufferSize : c.bufferSize ≤ Text.largest64
  customGrammars : ∀ d ∈ c.customGrammars, d.Fits
  contextWindow : c.contextWindow ≤ Text.largest64
  nearestRange : c.nearestRange ≤ Text.largest64

/-- Whether the fields of a table describe a configuration. -/
structure Config.DescribedBy (c : Config) (fields : List (String × Document)) : Prop where
  enabled : fields.lookup "enabled" = some (.bool c.enabled)
  bufferSize : fields.lookup "buffer_size" = some (.nat c.bufferSize)
  languages : fields.lookup "languages" = some (.texts c.languages)
  customGrammars : ∃ items, fields.lookup "custom_parsers" = some (.list items) ∧
    List.Forall₂ (fun g item => item.HasFields g.DescribedBy) c.customGrammars items
  classOrder : fields.lookup "parser_order" =
    some (.list (c.classOrder.map fun k => .text k.label))
  contextWindow : fields.lookup "context_window" = some (.nat c.contextWindow)
  wrapNavigation : fields.lookup "wrap_navigation" = some (.bool c.wrapNavigation)
  nearestRange : fields.lookup "nearest_range" = some (.nat c.nearestRange)

/-- A class is read from its name. -/
theorem GrammarClass.ofDocument?_label (k : GrammarClass) :
    GrammarClass.ofDocument? (.text k.label) = some k := by
  cases k <;> rfl

/-- A configuration is read from each document that describes it. -/
theorem Config.ofDocument?_eq_some {c : Config} (hfits : c.Fits) {d : Document}
    (hd : d.HasFields c.DescribedBy) (positional : Bool) :
    Config.ofDocument? positional d = some c := by
  obtain ⟨fields, known, h, hknown, hlookup⟩ := hd.exists_toFields? positional Config.fieldNames
  have hbool : ∀ {b default : Bool} {name : String}, name ∈ Config.fieldNames →
      fields.lookup name = some (.bool b) →
      Document.field? known name Document.toBool? default = some b :=
    fun hname hb => Document.field?_eq_some ((hlookup _ hname).trans hb) rfl
  have hword : ∀ {n default : Nat} {name : String}, name ∈ Config.fieldNames →
      n ≤ Text.largest64 → fields.lookup name = some (.nat n) →
      Document.field? known name Document.toWord? default = some n :=
    fun hname hn hlookup' =>
      Document.field?_eq_some ((hlookup _ hname).trans hlookup') (Document.toWord?_nat hn)
  have hlanguages : Document.field? known "languages" (Document.toListOf? Document.toText?) [] =
      some c.languages :=
    Document.field?_eq_some ((hlookup _ (by decide)).trans h.languages)
      (Document.toListOf?_texts _)
  have hgrammars : Document.field? known "custom_parsers"
      (Document.toListOf? (Definition.ofDocument? positional)) [] = some c.customGrammars := by
    obtain ⟨items, hitems, hwritten⟩ := h.customGrammars
    refine Document.field?_eq_some ((hlookup _ (by decide)).trans hitems) ?_
    refine Document.toListOf?_list hwritten fun g hg item hitem => ?_
    exact Definition.ofDocument?_eq_some (hfits.customGrammars g hg) hitem positional
  have horder : Document.field? known "parser_order"
      (Document.toListOf? GrammarClass.ofDocument?) [.custom, .builtin] = some c.classOrder :=
    Document.field?_eq_some ((hlookup _ (by decide)).trans h.classOrder)
      (Document.toListOf?_map fun k _ => k.ofDocument?_label)
  simp only [Config.ofDocument?, Config.ofDocumentWith?, hknown, hlanguages, hgrammars, horder,
    hbool (by decide) h.enabled, hword (by decide) hfits.bufferSize h.bufferSize,
    hword (by decide) hfits.contextWindow h.contextWindow, hbool (by decide) h.wrapNavigation,
    hword (by decide) hfits.nearestRange h.nearestRange, Option.bind_eq_bind, Option.bind_some,
    Option.pure_def]

/-- A configuration is described by the document that it is written as. -/
theorem Config.hasFields_toDocument (c : Config) : c.toDocument.HasFields c.DescribedBy := by
  have hgrammars : List.Forall₂ (fun g item => item.HasFields g.DescribedBy) c.customGrammars
      (c.customGrammars.map Definition.toDocument) :=
    Document.forall₂_map fun g _ => g.hasFields_toDocument
  exact ⟨_, rfl, by simp, rfl, rfl, rfl, ⟨_, rfl, hgrammars⟩, rfl, rfl, rfl, rfl⟩

/-- A configuration is written without unquoted scalars. -/
theorem Config.isValue_toDocument (c : Config) : c.toDocument.IsValue := by
  simp [toDocument, Definition.toDocument, Rule.toDocument]

/-! ## JSON -/

/-- **Reading.** A configuration is read from each text in JSON for a document that describes
it. -/
theorem Config.read_json {c : Config} (hfits : c.Fits) {d : Document}
    (hd : d.HasFields c.DescribedBy) {text : String} (htext : Json.read? text = some d) :
    Config.read .json text = .ok c := by
  rw [Config.read, htext, Option.bind_some, Config.ofDocument?_eq_some hfits hd]

end TraceScan
