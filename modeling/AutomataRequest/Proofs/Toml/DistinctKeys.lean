import AutomataRequest.Toml.Document
import Mathlib.Data.List.Nodup
import Mathlib.Tactic.SplitIfs

/-!
# No key comes twice

A table takes a key only where the key is new, whichever notation the table is written in and
however its entries come about: by lines under a header, by dotted keys, inside braces, or when a
header takes an implied table up again. So in a document that is well formed every table, at any
depth, has its keys once.
-/

namespace AutomataRequest.Toml

/-- The texts of the keys, in the order in which they were written. -/
def Entries.names (entries : Entries) : List String := entries.map fun entry => entry.1.text

/-- Every table inside a value has its keys once. -/
inductive Node.Distinct : Node → Prop
  | scalar {value : Scalar} {span : Span} : Distinct (.scalar value span)
  | array {items : List Node} {span : Span} (each : ∀ item ∈ items, Distinct item) :
      Distinct (.array items span)
  | table {inlined : Bool} {origin : Origin} {span : Option Span} {entries : Entries}
      (once : entries.names.Nodup) (each : ∀ entry ∈ entries, Distinct entry.2) :
      Distinct (.table inlined origin span entries)
  | tables {items : List Node} {span : Option Span} (each : ∀ item ∈ items, Distinct item) :
      Distinct (.tables items span)

/-- The keys come once, and so do those of every table inside. -/
structure Entries.Distinct (entries : Entries) : Prop where
  once : entries.names.Nodup
  each : ∀ entry ∈ entries, entry.2.Distinct

theorem Node.Distinct.inner {inlined : Bool} {origin : Origin} {span : Option Span}
    {entries : Entries} (distinct : Distinct (.table inlined origin span entries)) :
    entries.Distinct := by
  cases distinct with
  | table once each => exact ⟨once, each⟩

theorem Node.Distinct.items {items : List Node} {span : Option Span}
    (distinct : Distinct (.tables items span)) : ∀ item ∈ items, item.Distinct := by
  cases distinct with
  | tables each => exact each

namespace Entries

variable {entries : Entries} {name : String} {key : Key} {node : Node}

theorem Distinct.toNode (distinct : entries.Distinct) (inlined : Bool) (origin : Origin)
    (span : Option Span) : Node.Distinct (.table inlined origin span entries) :=
  .table distinct.once distinct.each

theorem distinct_nil : Distinct [] := by
  refine ⟨List.nodup_nil, ?_⟩
  intro entry member
  cases member

theorem find_eq_none_iff : entries.find? name = none ↔ name ∉ entries.names := by
  simp [find?, names, List.find?_eq_none]

theorem mem_of_find (found : entries.find? name = some node) :
    ∃ key, (key, node) ∈ entries ∧ key.text = name := by
  rw [find?, Option.map_eq_some_iff] at found
  obtain ⟨⟨key, _⟩, found, rfl⟩ := found
  exact ⟨key, List.mem_of_find?_eq_some found, by simpa using List.find?_some found⟩

theorem Distinct.of_find (distinct : entries.Distinct)
    (found : entries.find? name = some node) : node.Distinct := by
  obtain ⟨key, member, _⟩ := mem_of_find found
  exact distinct.each _ member

theorem names_replace : (entries.replace name node).names = entries.names := by
  rw [names, replace, List.map_map]
  apply List.map_congr_left
  intro entry _
  simp only [Function.comp_apply]
  split <;> rfl

theorem Distinct.replace (distinct : entries.Distinct) (nodeDistinct : node.Distinct) :
    (entries.replace name node).Distinct := by
  constructor
  · rw [names_replace]
    exact distinct.once
  intro entry member
  obtain ⟨old, isOld, rfl⟩ := List.mem_map.mp member
  split
  · exact nodeDistinct
  · exact distinct.each old isOld

theorem Distinct.remove (distinct : entries.Distinct) : (entries.remove name).Distinct := by
  refine ⟨?_, fun entry member => distinct.each entry (List.mem_filter.mp member).1⟩
  exact distinct.once.sublist (List.filter_sublist.map _)

theorem Distinct.append (distinct : entries.Distinct) (isNew : entries.find? key.text = none)
    (nodeDistinct : node.Distinct) : Distinct (entries ++ [(key, node)]) := by
  rw [find_eq_none_iff] at isNew
  constructor
  · rw [names, List.map_append]
    refine List.nodup_append.mpr ⟨distinct.once, List.nodup_singleton _, ?_⟩
    rintro name member _ isLast rfl
    rw [List.map_singleton, List.mem_singleton] at isLast
    exact isNew (isLast ▸ member)
  · intro entry member
    rcases List.mem_append.mp member with isOld | isLast
    · exact distinct.each entry isOld
    · rw [List.mem_singleton.mp isLast]
      exact nodeDistinct

theorem Distinct.add {after : Entries} (distinct : entries.Distinct)
    (nodeDistinct : node.Distinct) (added : entries.add? key node = some after) :
    after.Distinct := by
  unfold add? at added
  split_ifs at added with isTaken
  cases added
  exact distinct.append (by simpa using isTaken) nodeDistinct

section

variable {Result : Type} {inlined dotted : Bool}
  {change : Origin → Entries → Option (Entries × Result)} {Good : Result → Prop}

/-- A change of one table keeps its keys apart, and what else comes of it is good. -/
def Keeps (change : Origin → Entries → Option (Entries × Result)) (Good : Result → Prop) : Prop :=
  ∀ origin entries after result, Distinct entries →
    change origin entries = some (after, result) → Distinct after ∧ Good result

/-- What is kept at the end of a path is kept along the path. -/
theorem Keeps.alter (keeps : Keeps change Good) (path : List Key) :
    Keeps (Entries.alter inlined dotted change path) Good := by
  induction path with
  | nil =>
      intro origin entries after result distinct altered
      rw [Entries.alter] at altered
      exact keeps origin entries after result distinct altered
  | cons key path ih =>
      intro origin entries after result distinct altered
      rw [Entries.alter] at altered
      split at altered
      · -- The table is made on the way.
        rename_i isNew
        simp only [Option.bind_eq_bind, Option.bind_eq_some_iff, Option.some.injEq,
          Prod.mk.injEq, Prod.exists] at altered
        obtain ⟨inner, _, entered, rfl, rfl⟩ := altered
        obtain ⟨innerDistinct, good⟩ := ih _ _ _ _ distinct_nil entered
        exact ⟨distinct.append isNew (innerDistinct.toNode _ _ _), good⟩
      · rename_i found
        split_ifs at altered
        simp only [Option.bind_eq_bind, Option.bind_eq_some_iff, Option.some.injEq,
          Prod.mk.injEq, Prod.exists] at altered
        obtain ⟨inner, _, entered, rfl, rfl⟩ := altered
        obtain ⟨innerDistinct, good⟩ := ih _ _ _ _ (distinct.of_find found).inner entered
        exact ⟨distinct.replace (innerDistinct.toNode _ _ _), good⟩
      · -- The last of the tables with one header is the one that is entered.
        rename_i items span found
        split at altered
        · rename_i inlinedThere _ itemSpan last before isLast
          simp only [Option.bind_eq_bind, Option.bind_eq_some_iff, Option.some.injEq,
            Prod.mk.injEq, Prod.exists] at altered
          obtain ⟨inner, _, entered, rfl, rfl⟩ := altered
          have each := (distinct.of_find found).items
          have eachReversed : ∀ item ∈ items.reverse, item.Distinct :=
            fun item member => each item (List.mem_reverse.mp member)
          rw [isLast] at eachReversed
          have lastDistinct := (eachReversed _ List.mem_cons_self).inner
          obtain ⟨innerDistinct, good⟩ := ih _ _ _ _ lastDistinct entered
          refine ⟨distinct.replace (.tables ?_), good⟩
          intro item member
          rcases List.mem_append.mp member with isBefore | isItem
          · exact eachReversed item (List.mem_cons_of_mem _ (List.mem_reverse.mp isBefore))
          · rw [List.mem_singleton.mp isItem]
            exact innerDistinct.toNode _ _ _
        · cases altered
      · cases altered

end

/-- A change with nothing else to show for it. -/
theorem keeps_of_plain {change : Origin → Entries → Option Entries}
    (keeps : ∀ origin entries after, Distinct entries → change origin entries = some after →
      Distinct after) :
    Keeps (fun origin entries => (change origin entries).map (·, ())) (fun _ => True) := by
  intro origin entries after _ distinct changed
  obtain ⟨_, isChanged, same⟩ := Option.map_eq_some_iff.mp changed
  cases same
  exact ⟨keeps _ _ _ distinct isChanged, trivial⟩

theorem Distinct.addAt {inlined : Bool} {path : List Key} {origin : Origin} {after : Entries}
    (distinct : entries.Distinct) (nodeDistinct : node.Distinct)
    (added : entries.addAt? inlined path key node origin = some after) : after.Distinct := by
  obtain ⟨⟨_, _⟩, altered, rfl⟩ := Option.map_eq_some_iff.mp added
  have keeps : Keeps (fun origin inner =>
      if (origin == .dotted) == path.isEmpty then none
      else (inner.add? key node).map (·, ())) (fun _ => True) := by
    intro origin inner after _ innerDistinct changed
    dsimp only at changed
    split_ifs at changed
    obtain ⟨_, isAdded, same⟩ := Option.map_eq_some_iff.mp changed
    cases same
    exact ⟨innerDistinct.add nodeDistinct isAdded, trivial⟩
  exact (keeps.alter path _ _ _ _ distinct altered).1

end Entries

/-! Values. -/

/-- A reader of values whose tables have their keys once. -/
def ReadsDistinct (read : Cursor → Option (Node × Cursor)) : Prop :=
  ∀ cursor node next, read cursor = some (node, next) → node.Distinct

theorem distinct_of_scalar (value : Scalar) (start next : Cursor) :
    (Node.ofScalar value start next).Distinct := .scalar

section

variable {read : Cursor → Option (Node × Cursor)}

theorem distinct_elements (reads : ReadsDistinct read) {bound : Nat} {cursor next : Cursor}
    {items : List Node} (isRead : readElements read bound cursor = some (items, next)) :
    ∀ item ∈ items, item.Distinct := by
  induction bound generalizing cursor items next with
  | zero => cases isRead
  | succ bound ih =>
      rw [readElements] at isRead
      split at isRead
      · cases isRead
        intro item member
        cases member
      · simp only [Option.bind_eq_bind, Option.bind_eq_some_iff, Prod.exists] at isRead
        obtain ⟨node, after, readNode, isRead⟩ := isRead
        have nodeDistinct := reads _ _ _ readNode
        split at isRead
        · simp only [Option.bind_eq_some_iff, Option.some.injEq, Prod.mk.injEq,
            Prod.exists] at isRead
          obtain ⟨nodes, _, readNodes, rfl, rfl⟩ := isRead
          intro item member
          rcases List.mem_cons.mp member with rfl | later
          · exact nodeDistinct
          · exact ih readNodes item later
        · cases isRead
          intro item member
          rw [List.mem_singleton.mp member]
          exact nodeDistinct
        · cases isRead

theorem distinct_inline_entries (reads : ReadsDistinct read) {bound : Nat}
    {cursor next : Cursor} {entries after : Entries} (distinct : entries.Distinct)
    (isRead : readInlineEntries read bound entries cursor = some (after, next)) :
    after.Distinct := by
  induction bound generalizing cursor entries with
  | zero => cases isRead
  | succ bound ih =>
      simp only [readInlineEntries, Option.bind_eq_bind, Option.bind_eq_some_iff,
        Prod.exists] at isRead
      obtain ⟨path, key, _, _, _, _, node, _, readNode, longer, added, isRead⟩ := isRead
      have longerDistinct := distinct.addAt (reads _ _ _ readNode) added
      split at isRead
      · exact ih longerDistinct isRead
      · cases isRead
        exact longerDistinct
      · cases isRead

theorem distinct_inline_table (reads : ReadsDistinct read) {cursor next : Cursor}
    {entries : Entries} (isRead : readInlineTable read cursor = some (entries, next)) :
    entries.Distinct := by
  simp only [readInlineTable] at isRead
  split at isRead
  · cases isRead
    exact Entries.distinct_nil
  · exact distinct_inline_entries reads Entries.distinct_nil isRead

end

theorem distinct_literal {literal : String} {value : Scalar} :
    ReadsDistinct (readLiteral literal value) := by
  intro cursor node next isRead
  simp only [readLiteral, Option.bind_eq_bind, Option.bind_eq_some_iff, Option.some.injEq,
    Prod.mk.injEq] at isRead
  obtain ⟨_, _, rfl, _⟩ := isRead
  exact distinct_of_scalar _ _ _

theorem distinct_numeric : ReadsDistinct readNumeric := by
  intro cursor node next isRead
  unfold readNumeric at isRead
  split at isRead
  · cases isRead
    exact distinct_of_scalar _ _ _
  · cases isRead
  · simp only [Option.bind_eq_bind, Option.bind_eq_some_iff, Option.some.injEq, Prod.mk.injEq,
      Prod.exists] at isRead
    obtain ⟨_, _, _, rfl, _⟩ := isRead
    exact distinct_of_scalar _ _ _

/-- The step of the induction: arrays and inline tables leave fewer levels for what is inside. -/
theorem distinct_value_of_inner {levels : Nat}
    (inner : ∀ fewer, levels = fewer + 1 → ReadsDistinct (readValue fewer)) :
    ReadsDistinct (readValue levels) := by
  intro cursor node next isRead
  rw [readValue.eq_def] at isRead
  split at isRead
  · -- A string.
    simp only [Option.bind_eq_bind, Option.bind_eq_some_iff, Option.some.injEq, Prod.mk.injEq,
      Prod.exists] at isRead
    obtain ⟨_, _, _, rfl, _⟩ := isRead
    exact distinct_of_scalar _ _ _
  · simp only [Option.bind_eq_bind, Option.bind_eq_some_iff, Option.some.injEq, Prod.mk.injEq,
      Prod.exists] at isRead
    obtain ⟨_, _, _, rfl, _⟩ := isRead
    exact distinct_of_scalar _ _ _
  · -- An array.
    split at isRead
    · cases isRead
    · simp only [Option.bind_eq_bind, Option.bind_eq_some_iff, Option.some.injEq, Prod.mk.injEq,
        Prod.exists] at isRead
      obtain ⟨items, _, readItems, rfl, _⟩ := isRead
      exact .array (distinct_elements (inner _ rfl) readItems)
  · -- An inline table.
    split at isRead
    · cases isRead
    · simp only [Option.bind_eq_bind, Option.bind_eq_some_iff, Option.some.injEq, Prod.mk.injEq,
        Prod.exists] at isRead
      obtain ⟨entries, _, readTable, rfl, _⟩ := isRead
      exact (distinct_inline_table (inner _ rfl) readTable).toNode _ _ _
  · exact distinct_literal _ _ _ isRead
  · exact distinct_literal _ _ _ isRead
  · exact distinct_numeric _ _ _ isRead
  · exact distinct_numeric _ _ _ isRead
  · exact distinct_numeric _ _ _ isRead
  · exact distinct_numeric _ _ _ isRead
  · split_ifs at isRead
    exact distinct_numeric _ _ _ isRead
  · cases isRead

theorem distinct_value (levels : Nat) : ReadsDistinct (readValue levels) := by
  induction levels with
  | zero =>
      apply distinct_value_of_inner
      intro fewer impossible
      cases impossible
  | succ levels ih =>
      apply distinct_value_of_inner
      rintro fewer same
      cases same
      exact ih

/-! Documents. -/

namespace Builder

/-- The tables that are complete and the open one have their keys once. -/
structure Distinct (builder : Builder) : Prop where
  root : builder.root.Distinct
  current : builder.current.entries.Distinct

theorem start_distinct : start.Distinct := ⟨Entries.distinct_nil, Entries.distinct_nil⟩

variable {builder after : Builder}

theorem Distinct.close {entries : Entries} (distinct : builder.Distinct)
    (closed : builder.close = some entries) : entries.Distinct := by
  have nodeDistinct : builder.current.toNode.Distinct := distinct.current.toNode _ _ _
  unfold Builder.close at closed
  split at closed
  · cases closed
    exact distinct.current
  · rename_i key _
    obtain ⟨⟨_, _⟩, altered, rfl⟩ := Option.map_eq_some_iff.mp closed
    refine ((Entries.keeps_of_plain ?_).alter _ _ _ _ _ distinct.root altered).1
    intro _ entries after entriesDistinct joined
    dsimp only at joined
    split_ifs at joined
    · split at joined
      · rename_i items span found
        cases joined
        apply entriesDistinct.replace
        refine .tables ?_
        intro item member
        rcases List.mem_append.mp member with isOld | isLast
        · exact (entriesDistinct.of_find found).items item isOld
        · rw [List.mem_singleton.mp isLast]
          exact nodeDistinct
      · cases joined
    · exact entriesDistinct.add nodeDistinct joined

theorem Distinct.openTable {path : List Key} {key : Key} {span : Span}
    (distinct : builder.Distinct) (opened : builder.openTable path key span = some after) :
    after.Distinct := by
  simp only [Builder.openTable, Option.bind_eq_bind, Option.bind_eq_some_iff,
    Option.some.injEq, Prod.exists] at opened
  obtain ⟨root, closed, rest, inner, altered, rfl⟩ := opened
  have both : rest.Distinct ∧ inner.Distinct := by
    refine Entries.Keeps.alter ?_ path _ _ _ _ (distinct.close closed) altered
    intro _ entries after taken entriesDistinct takenUp
    dsimp only at takenUp
    split at takenUp
    · cases takenUp
      exact ⟨entriesDistinct, Entries.distinct_nil⟩
    · rename_i found
      cases takenUp
      exact ⟨entriesDistinct.remove, (entriesDistinct.of_find found).inner⟩
    · cases takenUp
  exact ⟨both.1, both.2⟩

theorem Distinct.openElement {path : List Key} {key : Key} {span : Span}
    (distinct : builder.Distinct) (opened : builder.openElement path key span = some after) :
    after.Distinct := by
  simp only [Builder.openElement, Option.bind_eq_bind, Option.bind_eq_some_iff,
    Option.some.injEq, Prod.exists] at opened
  obtain ⟨root, closed, rest, _, altered, rfl⟩ := opened
  refine ⟨((Entries.keeps_of_plain ?_).alter _ _ _ _ _ (distinct.close closed) altered).1,
    Entries.distinct_nil⟩
  intro _ entries after entriesDistinct made
  split at made
  · rename_i isNew
    cases made
    refine entriesDistinct.append isNew (.tables ?_)
    intro item member
    cases member
  · cases made
    exact entriesDistinct
  · cases made

theorem Distinct.readHeader {cursor next : Cursor} (distinct : builder.Distinct)
    (isRead : builder.readHeader cursor = some (after, next)) : after.Distinct := by
  unfold Builder.readHeader at isRead
  split at isRead
  · simp only [Option.bind_eq_bind, Option.bind_eq_some_iff, Option.some.injEq, Prod.mk.injEq,
      Prod.exists] at isRead
    obtain ⟨_, _, _, _, _, _, _, opened, _, _, rfl, _⟩ := isRead
    exact distinct.openElement opened
  · simp only [Option.bind_eq_bind, Option.bind_eq_some_iff, Option.some.injEq, Prod.mk.injEq,
      Prod.exists] at isRead
    obtain ⟨_, _, _, _, _, _, _, opened, _, _, rfl, _⟩ := isRead
    exact distinct.openTable opened

theorem Distinct.readEntry {cursor next : Cursor} (distinct : builder.Distinct)
    (isRead : builder.readEntry cursor = some (after, next)) : after.Distinct := by
  simp only [Builder.readEntry, OpenTable.add?, Option.bind_eq_bind, Option.bind_eq_some_iff,
    Option.some.injEq, Prod.mk.injEq, Prod.exists] at isRead
  obtain ⟨_, _, _, _, _, _, node, _, readNode, _, ⟨entries, added, rfl⟩, _, _, rfl, _⟩ := isRead
  exact ⟨distinct.root, distinct.current.addAt (distinct_value _ _ _ _ readNode) added⟩

/-- Line by line, no key comes twice. -/
theorem Distinct.readLines {bound : Nat} {cursor : Cursor} (distinct : builder.Distinct)
    (isRead : builder.readLines bound cursor = some after) : after.Distinct := by
  induction bound generalizing builder cursor with
  | zero => cases isRead
  | succ bound ih =>
      rw [Builder.readLines] at isRead
      split at isRead
      · cases isRead
        exact distinct
      · simp only [Option.bind_eq_bind, Option.bind_eq_some_iff] at isRead
        obtain ⟨_, _, isRead⟩ := isRead
        exact ih distinct isRead
      · simp only [Option.bind_eq_bind, Option.bind_eq_some_iff, Prod.exists] at isRead
        obtain ⟨_, _, header, isRead⟩ := isRead
        exact ih (distinct.readHeader header) isRead
      · simp only [Option.bind_eq_bind, Option.bind_eq_some_iff] at isRead
        obtain ⟨_, _, isRead⟩ := isRead
        exact ih distinct isRead
      · simp only [Option.bind_eq_bind, Option.bind_eq_some_iff] at isRead
        obtain ⟨_, _, isRead⟩ := isRead
        exact ih distinct isRead
      · simp only [Option.bind_eq_bind, Option.bind_eq_some_iff, Prod.exists] at isRead
        obtain ⟨_, _, entry, isRead⟩ := isRead
        exact ih (distinct.readEntry entry) isRead

end Builder

/-- In a document that is well formed, no table has a key twice. -/
theorem distinct_document {text : String} {entries : Entries}
    (isRead : readDocument text = some entries) : entries.Distinct := by
  simp only [readDocument, Option.bind_eq_bind, Option.bind_eq_some_iff] at isRead
  obtain ⟨builder, readAll, closed⟩ := isRead
  exact (Builder.start_distinct.readLines readAll).close closed

end AutomataRequest.Toml
