import AutomataRequest.Proofs.ProgramLine
import AutomataRequest.Proofs.Toml.DistinctKeys
import Mathlib.Data.List.Perm.Basic

/-!
# What a configuration may say

A document is a configuration exactly if it has no keys but those that are known, a program that
is not blank and a profile that exists, each of which it may leave out. Nothing else about the
document matters: not the order of its keys, not the notation of its tables, not where they stand.
-/

namespace AutomataRequest

namespace Toml.Entries

/-- The entries of the table under a name, however the table is written; none if the name is
missing. -/
inductive HasTable (entries : Entries) (name : String) : Entries → Prop
  | missing (isMissing : name ∉ entries.names) : HasTable entries name []
  | written {key : Key} {inlined : Bool} {origin : Origin} {span : Option Span} {inner : Entries}
      (member : (key, .table inlined origin span inner) ∈ entries) (isNamed : key.text = name) :
      HasTable entries name inner

/-- The string under a name, if the name is there. -/
inductive HasText (entries : Entries) (name : String) : Option String → Prop
  | missing (isMissing : name ∉ entries.names) : HasText entries name none
  | written {key : Key} {value : String} {span : Span}
      (member : (key, .scalar (.string value) span) ∈ entries) (isNamed : key.text = name) :
      HasText entries name (some value)

variable {entries rest inner : Entries} {name : String} {key : Key} {node : Node}
  {text : Option String}

theorem names_cons : names ((key, node) :: rest) = key.text :: rest.names := rfl

theorem mem_names_of_mem (member : (key, node) ∈ entries) : key.text ∈ entries.names :=
  List.mem_map_of_mem member

theorem hasTable_nil_iff : HasTable [] name inner ↔ inner = [] := by
  constructor
  · intro has
    cases has with
    | missing => rfl
    | written member => cases member
  · rintro rfl
    exact .missing List.not_mem_nil

theorem hasText_nil_iff : HasText [] name text ↔ text = none := by
  constructor
  · intro has
    cases has with
    | missing => rfl
    | written member => cases member
  · rintro rfl
    exact .missing List.not_mem_nil

/-- The first entry is the table, and what follows has none of its name. -/
theorem HasTable.head (has : HasTable ((key, node) :: rest) key.text inner)
    (once : (names ((key, node) :: rest)).Nodup) :
    (∃ inlined origin span, node = .table inlined origin span inner) ∧
      HasTable rest key.text [] := by
  have unique : key.text ∉ rest.names := (List.nodup_cons.mp once).1
  refine ⟨?_, .missing unique⟩
  cases has with
  | missing isMissing => exact absurd List.mem_cons_self isMissing
  | written member isNamed =>
      rcases List.mem_cons.mp member with same | later
      · cases same
        exact ⟨_, _, _, rfl⟩
      · exact absurd (isNamed ▸ mem_names_of_mem later) unique

theorem HasTable.tail (has : HasTable ((key, node) :: rest) name inner)
    (other : key.text ≠ name) : HasTable rest name inner := by
  cases has with
  | missing isMissing =>
      exact .missing fun member => isMissing (List.mem_cons_of_mem _ member)
  | written member isNamed =>
      rcases List.mem_cons.mp member with same | later
      · cases same
        exact absurd isNamed other
      · exact .written later isNamed

theorem HasTable.names_nodup (has : entries.HasTable name inner) (distinct : entries.Distinct) :
    inner.names.Nodup := by
  cases has with
  | missing => exact List.nodup_nil
  | written member => exact (distinct.each _ member).inner.once

/-- An entry alone is a string if its name has one. -/
theorem HasText.alone (has : HasText [(key, node)] key.text text) :
    ∃ value span, node = .scalar (.string value) span ∧ text = some value := by
  cases has with
  | missing isMissing => exact absurd List.mem_cons_self isMissing
  | written member =>
      cases List.mem_singleton.mp member
      exact ⟨_, _, rfl, rfl⟩

/-- With no name but one, which comes once, there is no more than one entry. -/
theorem only_name_iff (once : entries.names.Nodup) :
    entries.names ⊆ [name] ↔
      entries = [] ∨ ∃ key node, entries = [(key, node)] ∧ key.text = name := by
  constructor
  · intro only
    have named (entry : Key × Node) (member : entry ∈ entries) : entry.1.text = name :=
      List.mem_singleton.mp (only (List.mem_map_of_mem member))
    match entries, named, once with
    | [], _, _ => exact .inl rfl
    | [(key, node)], named, _ => exact .inr ⟨key, node, rfl, named _ List.mem_cons_self⟩
    | first :: second :: rest, named, once =>
        have same : first.1.text = second.1.text :=
          (named first (by simp)).trans (named second (by simp)).symm
        simp [names, same] at once
  · rintro (rfl | ⟨key, node, rfl, rfl⟩)
    · exact List.nil_subset _
    · exact List.Subset.refl _

end Toml.Entries

namespace Toml.Field

variable {Structure : Type} {field : Field Structure} {fields : List (Field Structure)}
  {value after : Structure} {key : Key} {node : Node} {rest : Entries}

/-- The entries in front are fitted first, by the field of their name. -/
theorem fit_entries_cons_ok_iff :
    fitEntries fields value ((key, node) :: rest) = .ok after ↔
      ∃ field next, fields.find? (fun field => field.name == key.text) = some field ∧
        field.fit value node = .ok next ∧ fitEntries fields next rest = .ok after := by
  rw [fitEntries]
  cases fields.find? fun field => field.name == key.text with
  | none => simp
  | some field =>
      simp only [Option.some.injEq, exists_and_left, exists_eq_left']
      cases field.fit value node with
      | error misfit => simp
      | ok next => simp

theorem find_one {other : Field Structure} {name : String}
    (found : [field].find? (fun field => field.name == name) = some other) :
    name = field.name ∧ other = field := by
  have isNamed := List.find?_some found
  cases List.mem_singleton.mp (List.mem_of_find?_eq_some found)
  exact ⟨(beq_iff_eq.mp isNamed).symm, rfl⟩

/-- The table of one field has no other key, and the field fits the string that is there. -/
theorem fit_one_text_ok_iff {entries : Entries} {text : Option String} {Means : String → Prop}
    (means : ∀ given span,
      field.fit value (.scalar (.string given) span) = .ok after ↔ Means given)
    (once : entries.names.Nodup) (hasText : entries.HasText field.name text) :
    fitEntries [field] value entries = .ok after ↔
      entries.names ⊆ [field.name] ∧ text.elim (after = value) Means := by
  rw [Entries.only_name_iff once]
  constructor
  · intro fits
    cases entries with
    | nil =>
        cases Entries.hasText_nil_iff.mp hasText
        cases fits
        exact ⟨.inl rfl, rfl⟩
    | cons entry rest =>
        obtain ⟨key, node⟩ := entry
        obtain ⟨_, next, found, fitsFirst, fitsRest⟩ := fit_entries_cons_ok_iff.mp fits
        obtain ⟨isNamed, rfl⟩ := find_one found
        have restNil : rest = [] := by
          cases rest with
          | nil => rfl
          | cons second rest =>
              obtain ⟨_, _, foundAgain, _⟩ := fit_entries_cons_ok_iff.mp fitsRest
              have twice := isNamed.trans (find_one foundAgain).1.symm
              simp [Entries.names, twice] at once
        cases restNil
        cases fitsRest
        rw [← isNamed] at hasText
        obtain ⟨given, span, rfl, rfl⟩ := hasText.alone
        exact ⟨.inr ⟨key, _, rfl, isNamed⟩, (means given span).mp fitsFirst⟩
  · rintro ⟨rfl | ⟨key, node, rfl, isNamed⟩, meant⟩
    · cases Entries.hasText_nil_iff.mp hasText
      cases meant
      rfl
    · rw [← isNamed] at hasText
      obtain ⟨given, span, rfl, rfl⟩ := hasText.alone
      refine fit_entries_cons_ok_iff.mpr ⟨field, after, ?_, (means given span).mpr meant, rfl⟩
      simp [isNamed]

end Toml.Field

namespace Config

open Toml (Entries)

/-- What a document sets, where it sets the program and the profile to strings: the entries of
its two tables, and the strings. -/
structure Sets (entries tool logging : Entries) (program profile : Option String) : Prop where
  hasTool : entries.HasTable "tool" tool
  hasLogging : entries.HasTable "logging" logging
  hasProgram : tool.HasText "program" program
  hasProfile : logging.HasText "profile" profile

/-- No key is unknown, neither of the document nor of its two tables. -/
@[mk_iff known_keys_iff]
structure KnownKeys (entries tool logging : Entries) : Prop where
  sections : entries.names ⊆ ["tool", "logging"]
  toolKeys : tool.names ⊆ ["program"]
  loggingKeys : logging.names ⊆ ["profile"]

/-- What is set takes the place of what was there before. -/
@[mk_iff overrides_iff]
structure Overrides (config : Config) (program profile : Option String) (after : Config) :
    Prop where
  program : after.program = program.getD config.program
  profile : after.profile.map Profile.name = profile.or (config.profile.map Profile.name)

theorem choose_profile_ok_iff (span : Option Toml.Span) {given : String} {profile : Profile} :
    Toml.choose Profile.all Profile.name given span = .ok profile ↔ profile.name = given := by
  constructor
  · intro chosen
    rw [Toml.choose] at chosen
    split at chosen
    · rename_i found
      cases chosen
      simpa using List.find?_some found
    · cases chosen
  · rintro rfl
    cases profile <;> rfl

theorem name_of_profile_iff {given : String} :
    (∃ profile : Profile, profile.name = given) ↔
      given ∈ ["development", "production", "test"] := by
  constructor
  · rintro ⟨profile, rfl⟩
    cases profile <;> simp [Profile.name]
  · intro known
    simp only [List.mem_cons, List.not_mem_nil, or_false] at known
    rcases known with rfl | rfl | rfl
    · exact ⟨.development, rfl⟩
    · exact ⟨.production, rfl⟩
    · exact ⟨.test, rfl⟩

theorem profile_name_injective : Function.Injective Profile.name := by
  intro profile profile' same
  cases profile <;> cases profile' <;> simp_all [Profile.name]

variable {entries tool logging : Entries} {program profile : Option String}
  {config after : Config}

theorem same_profile_iff :
    after.profile.map Profile.name = config.profile.map Profile.name ↔
      after.profile = config.profile :=
  (Option.map_injective profile_name_injective).eq_iff

theorem overrides_program_iff :
    Overrides config program none after ↔
      program.elim (after = config) fun given => after = { config with program := given } := by
  rw [overrides_iff, Option.none_or, same_profile_iff]
  cases after
  cases config
  cases program <;> simp

theorem overrides_profile_iff :
    Overrides config none profile after ↔
      profile.elim (after = config) fun given =>
        ∃ named : Profile, after = { config with profile := some named } ∧ named.name = given := by
  rw [overrides_iff]
  cases profile with
  | none =>
      rw [Option.none_or, same_profile_iff]
      cases after
      cases config
      simp
  | some given =>
      cases after
      cases config
      simp [and_assoc]

theorem fit_tool_ok_iff (once : tool.names.Nodup) (hasProgram : tool.HasText "program" program) :
    Toml.Field.fitEntries toolFields config tool = .ok after ↔
      tool.names ⊆ ["program"] ∧ Overrides config program none after := by
  rw [overrides_program_iff]
  refine Toml.Field.fit_one_text_ok_iff ?_ once hasProgram
  intro given span
  exact ⟨fun fits => (Except.ok.inj fits).symm, fun same => congrArg Except.ok same.symm⟩

theorem fit_logging_ok_iff (once : logging.names.Nodup)
    (hasProfile : logging.HasText "profile" profile) :
    Toml.Field.fitEntries loggingFields config logging = .ok after ↔
      logging.names ⊆ ["profile"] ∧ Overrides config none profile after := by
  rw [overrides_profile_iff]
  refine Toml.Field.fit_one_text_ok_iff ?_ once hasProfile
  intro given span
  simp only [← choose_profile_ok_iff (some span)]
  cases chosen : Toml.choose Profile.all Profile.name given (some span) with
  | error misfit => simp [Toml.Node.fitChoice, chosen]
  | ok named => simp [Toml.Node.fitChoice, chosen, eq_comm]

theorem overrides_program_first_iff :
    (∃ next, Overrides config program none next ∧ Overrides next none profile after) ↔
      Overrides config program profile after := by
  constructor
  · rintro ⟨next, first, second⟩
    refine ⟨second.program.trans first.program, ?_⟩
    rw [second.profile, first.profile, Option.none_or]
  · rintro ⟨newProgram, newProfile⟩
    exact ⟨{ config with program := after.program }, ⟨newProgram, rfl⟩, ⟨rfl, newProfile⟩⟩

theorem overrides_profile_first_iff :
    (∃ next, Overrides config none profile next ∧ Overrides next program none after) ↔
      Overrides config program profile after := by
  constructor
  · rintro ⟨next, first, second⟩
    refine ⟨?_, second.profile.trans first.profile⟩
    rw [second.program, first.program, Option.getD_none]
  · rintro ⟨newProgram, newProfile⟩
    exact ⟨{ config with profile := after.profile }, ⟨rfl, newProfile⟩, ⟨newProgram, rfl⟩⟩

section

variable {key : Toml.Key} {rest inner : Entries} {inlined : Bool} {origin : Toml.Origin}
  {span : Option Toml.Span}

theorem fit_tool_first_iff (isNamed : key.text = "tool") :
    Toml.Field.fitEntries sections config ((key, .table inlined origin span inner) :: rest) =
        .ok after ↔
      ∃ next, Toml.Field.fitEntries toolFields config inner = .ok next ∧
        Toml.Field.fitEntries sections next rest = .ok after := by
  rw [Toml.Field.fit_entries_cons_ok_iff, isNamed]
  simp [sections, Toml.Field.fitStructure]

theorem fit_logging_first_iff (isNamed : key.text = "logging") :
    Toml.Field.fitEntries sections config ((key, .table inlined origin span inner) :: rest) =
        .ok after ↔
      ∃ next, Toml.Field.fitEntries loggingFields config inner = .ok next ∧
        Toml.Field.fitEntries sections next rest = .ok after := by
  rw [Toml.Field.fit_entries_cons_ok_iff, isNamed]
  simp [sections, Toml.Field.fitStructure]

end

/-- The tables are fitted one after the other, in the order in which they come. -/
theorem fit_sections_ok_iff (once : entries.names.Nodup) (onceTool : tool.names.Nodup)
    (onceLogging : logging.names.Nodup) (sets : Sets entries tool logging program profile) :
    Toml.Field.fitEntries sections config entries = .ok after ↔
      KnownKeys entries tool logging ∧ Overrides config program profile after := by
  induction entries generalizing config tool logging program profile with
  | nil =>
      obtain ⟨hasTool, hasLogging, hasProgram, hasProfile⟩ := sets
      cases Entries.hasTable_nil_iff.mp hasTool
      cases Entries.hasTable_nil_iff.mp hasLogging
      cases Entries.hasText_nil_iff.mp hasProgram
      cases Entries.hasText_nil_iff.mp hasProfile
      have known : KnownKeys [] [] [] :=
        ⟨List.nil_subset _, List.nil_subset _, List.nil_subset _⟩
      rw [overrides_program_iff]
      exact ⟨fun fits => ⟨known, (Except.ok.inj fits).symm⟩, fun same => congrArg _ same.2.symm⟩
  | cons entry rest ih =>
      obtain ⟨key, node⟩ := entry
      obtain ⟨hasTool, hasLogging, hasProgram, hasProfile⟩ := sets
      have onceRest : (Entries.names rest).Nodup := (List.nodup_cons.mp once).2
      have onceNothing : (Entries.names []).Nodup := List.nodup_nil
      have noText (name : String) : Entries.HasText [] name none :=
        Entries.hasText_nil_iff.mpr rfl
      rw [known_keys_iff, Entries.names_cons, List.cons_subset]
      by_cases isTool : key.text = "tool"
      · -- The other table is all that is left.
        have otherName : key.text ≠ "logging" := by simp [isTool]
        obtain ⟨⟨inlined, origin, span, rfl⟩, noTool⟩ := (isTool ▸ hasTool).head once
        have setsRest : Sets rest [] logging none profile :=
          ⟨isTool ▸ noTool, hasLogging.tail otherName, noText _, hasProfile⟩
        have later (next : Config) :
            Toml.Field.fitEntries sections next rest = .ok after ↔
              KnownKeys rest [] logging ∧ Overrides next none profile after :=
          ih onceRest onceNothing onceLogging setsRest
        rw [fit_tool_first_iff isTool, ← overrides_program_first_iff]
        simp only [fit_tool_ok_iff onceTool hasProgram, later, known_keys_iff]
        simp [isTool]
        tauto
      · by_cases isLogging : key.text = "logging"
        · obtain ⟨⟨inlined, origin, span, rfl⟩, noLogging⟩ := (isLogging ▸ hasLogging).head once
          have setsRest : Sets rest tool [] program none :=
            ⟨hasTool.tail isTool, isLogging ▸ noLogging, hasProgram, noText _⟩
          have later (next : Config) :
              Toml.Field.fitEntries sections next rest = .ok after ↔
                KnownKeys rest tool [] ∧ Overrides next program none after :=
            ih onceRest onceTool onceNothing setsRest
          rw [fit_logging_first_iff isLogging, ← overrides_profile_first_iff]
          simp only [fit_logging_ok_iff onceLogging hasProfile, later, known_keys_iff]
          simp [isLogging]
          tauto
        · have unknown : key.text ∉ ["tool", "logging"] := by simp [isTool, isLogging]
          rw [Toml.Field.fit_entries_cons_ok_iff]
          simp [sections, isTool, isLogging, Ne.symm isTool, Ne.symm isLogging]

theorem of_text_ok_iff {text : String} (isRead : Toml.readDocument text = some entries) :
    ofText text = .ok config ↔
      Toml.Field.fitEntries sections {} entries = .ok config ∧ config.NamesProgram := by
  rw [ofText, isRead, names_program_iff]
  simp only [ofEntries]
  cases Toml.Field.fitEntries sections {} entries with
  | error misfit => simp
  | ok fitted =>
      by_cases same : fitted = config
      · cases same
        simp
      · cases blank : Text.isAllBlank fitted.program <;> simp [same, blank]

theorem set_program_not_blank_iff (isSet : config.program = program.getD defaultProgram) :
    config.NamesProgram ↔
      ∀ given ∈ program, ∃ char ∈ given.toList, Text.isBlank char = false := by
  cases program with
  | none =>
      have default : config.NamesProgram ↔ ({} : Config).NamesProgram := by
        rw [NamesProgram, isSet, NamesProgram]
        rfl
      simp [default, default_names_program]
  | some given => simp [NamesProgram, isSet]

/-- The configuration of a document, with what it leaves out. -/
theorem set_config_iff {text : String} (isRead : Toml.readDocument text = some entries)
    (sets : Sets entries tool logging program profile) :
    ofText text = .ok config ↔
      KnownKeys entries tool logging ∧
        (∀ given ∈ program, ∃ char ∈ given.toList, Text.isBlank char = false) ∧
        config.program = program.getD defaultProgram ∧
        config.profile.map Profile.name = profile := by
  have distinct := Toml.distinct_document isRead
  have onceTool := sets.hasTool.names_nodup distinct
  have onceLogging := sets.hasLogging.names_nodup distinct
  rw [of_text_ok_iff isRead, fit_sections_ok_iff distinct.once onceTool onceLogging sets,
    overrides_iff]
  have plain : profile.or (({} : Config).profile.map Profile.name) = profile := Option.or_none
  rw [plain]
  constructor
  · rintro ⟨⟨known, isProgram, isProfile⟩, notBlank⟩
    exact ⟨known, (set_program_not_blank_iff isProgram).mp notBlank, isProgram, isProfile⟩
  · rintro ⟨known, notBlank, isProgram, isProfile⟩
    exact ⟨⟨known, isProgram, isProfile⟩, (set_program_not_blank_iff isProgram).mpr notBlank⟩

/-- The same keys in the document and in its two tables, in any order, and the same strings. -/
def SameSettings (entries entries' : Entries) : Prop :=
  ∃ tool tool' logging logging' program profile,
    Sets entries tool logging program profile ∧ Sets entries' tool' logging' program profile ∧
      entries.names.Perm entries'.names ∧ tool.names.Perm tool'.names ∧
      logging.names.Perm logging'.names

/-- A document whose two tables are tables and whose two settings are strings is accepted exactly
if it has no unknown key, a program that is not blank and a profile that exists, as far as it sets
them; what it sets is taken as it is, and what it leaves out has its default. What is refused is
an invalid configuration. Neither the order of the keys matters nor the notation of the tables.
And whatever the text, the program of a configuration is not blank. -/
theorem configuration_schema :
    (∀ text entries tool logging program profile,
      Toml.readDocument text = some entries → Sets entries tool logging program profile →
      ((∃ config, ofText text = .ok config) ↔
        entries.names ⊆ ["tool", "logging"] ∧ tool.names ⊆ ["program"] ∧
        logging.names ⊆ ["profile"] ∧
        (∀ given ∈ program, ∃ char ∈ given.toList, Text.isBlank char = false) ∧
        ∀ given ∈ profile, given ∈ ["development", "production", "test"]) ∧
      ∀ config, ofText text = .ok config →
        config.program = program.getD "vata" ∧ config.profile.map Profile.name = profile) ∧
    (∀ text cause, ofText text = .error cause →
      ∃ message, cause.fault = .invalidConfig message) ∧
    (∀ text text' entries entries', Toml.readDocument text = some entries →
      Toml.readDocument text' = some entries' → SameSettings entries entries' →
      ∀ config, ofText text = .ok config ↔ ofText text' = .ok config) ∧
    ∀ text config, ofText text = .ok config → config.NamesProgram := by
  refine ⟨?_, ?_, ?_, ?_⟩
  · intro text entries tool logging program profile isRead sets
    refine ⟨?_, fun config isParsed => ((set_config_iff isRead sets).mp isParsed).2.2⟩
    constructor
    · rintro ⟨config, isParsed⟩
      obtain ⟨⟨sections, toolKeys, loggingKeys⟩, notBlank, _, isProfile⟩ :=
        (set_config_iff isRead sets).mp isParsed
      refine ⟨sections, toolKeys, loggingKeys, notBlank, ?_⟩
      rintro given rfl
      obtain ⟨named, _, isName⟩ := Option.map_eq_some_iff.mp isProfile
      exact name_of_profile_iff.mp ⟨named, isName⟩
    · rintro ⟨sections, toolKeys, loggingKeys, notBlank, isProfile⟩
      have named : ∃ named : Option Profile, named.map Profile.name = profile := by
        cases profile with
        | none => exact ⟨none, rfl⟩
        | some given =>
            obtain ⟨named, isName⟩ := name_of_profile_iff.mpr (isProfile given rfl)
            exact ⟨some named, congrArg some isName⟩
      obtain ⟨named, isNamed⟩ := named
      exact ⟨⟨program.getD defaultProgram, named⟩, (set_config_iff isRead sets).mpr
        ⟨⟨sections, toolKeys, loggingKeys⟩, notBlank, rfl, isNamed⟩⟩
  · intro text cause _
    exact ⟨cause.message, rfl⟩
  · rintro text text' entries entries' isRead isRead'
      ⟨tool, tool', logging, logging', program, profile, sets, sets', sections, toolKeys,
        loggingKeys⟩ config
    have known : KnownKeys entries tool logging ↔ KnownKeys entries' tool' logging' := by
      rw [known_keys_iff, known_keys_iff, sections.subset_congr_left,
        toolKeys.subset_congr_left, loggingKeys.subset_congr_left]
    rw [set_config_iff isRead sets, set_config_iff isRead' sets', known]
  · intro text config isParsed
    exact parsed_names_program isParsed

def headersText : String := "[tool]\nprogram = ' my vata'\n\n[logging]\nprofile = \"test\"\n"

def headersEntries : Entries :=
  [(⟨"tool", ⟨1, 5⟩⟩, .table false .written (some ⟨0, 27⟩)
      [(⟨"program", ⟨7, 14⟩⟩, .scalar (.string " my vata") ⟨17, 27⟩)]),
    (⟨"logging", ⟨30, 37⟩⟩, .table false .written (some ⟨29, 55⟩)
      [(⟨"profile", ⟨39, 46⟩⟩, .scalar (.string "test") ⟨49, 55⟩)])]

/-- The same settings, in the other order and in other notations. -/
def compactText : String := "logging = \x7bprofile = 'test'\x7d\ntool.program = \" my vata\"\n"

def compactEntries : Entries :=
  [(⟨"logging", ⟨0, 7⟩⟩, .table true .written (some ⟨10, 28⟩)
      [(⟨"profile", ⟨11, 18⟩⟩, .scalar (.string "test") ⟨21, 27⟩)]),
    (⟨"tool", ⟨29, 33⟩⟩, .table false .dotted none
      [(⟨"program", ⟨34, 41⟩⟩, .scalar (.string " my vata") ⟨44, 54⟩)])]

/-- Headers, an inlined table and a dotted key set the same, and the blank stays. -/
theorem compact_configuration_like_headers :
    ofText headersText = .ok ⟨" my vata", some .test⟩ ∧
      ofText compactText = .ok ⟨" my vata", some .test⟩ := by
  have headersRead : Toml.readDocument headersText = some headersEntries := rfl
  have compactRead : Toml.readDocument compactText = some compactEntries := rfl
  have headersSets : Sets headersEntries _ _ (some " my vata") (some "test") :=
    { hasTool := .written (.head _) rfl
      hasLogging := .written (.tail _ (.head _)) rfl
      hasProgram := .written (.head _) rfl
      hasProfile := .written (.head _) rfl }
  have compactSets : Sets compactEntries _ _ (some " my vata") (some "test") :=
    { hasTool := .written (.tail _ (.head _)) rfl
      hasLogging := .written (.head _) rfl
      hasProgram := .written (.head _) rfl
      hasProfile := .written (.head _) rfl }
  have same : SameSettings headersEntries compactEntries :=
    ⟨_, _, _, _, _, _, headersSets, compactSets, .swap _ _ _, .refl _, .refl _⟩
  obtain ⟨schema, _, alike, _⟩ := configuration_schema
  have accepted : ∃ config, ofText headersText = .ok config := by
    refine (schema _ _ _ _ _ _ headersRead headersSets).1.mpr ⟨?_, ?_, ?_, ?_, ?_⟩
    · decide
    · decide
    · decide
    · intro given isGiven
      cases isGiven
      exact ⟨'m', by simp, rfl⟩
    · intro given isGiven
      cases isGiven
      simp
  obtain ⟨config, isParsed⟩ := accepted
  obtain ⟨isProgram, isProfile⟩ := (schema _ _ _ _ _ _ headersRead headersSets).2 config isParsed
  have isTest : config.profile = some .test :=
    Option.map_injective profile_name_injective isProfile
  have isConfig : config = ⟨" my vata", some .test⟩ := by
    cases config
    simp_all
  cases isConfig
  exact ⟨isParsed, (alike _ _ _ _ headersRead compactRead same _).mp isParsed⟩

end Config

end AutomataRequest
