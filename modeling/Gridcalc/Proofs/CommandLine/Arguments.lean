import Gridcalc.CommandLine.Args
import Gridcalc.Proofs.Sheet.Text

/-! # Arguments in any arrangement

A command line is a list of groups: an option in one of its spellings with its value, or the sheet
file (`Args.Group`).  Reading one group takes in what it gives and leaves the words behind it alone,
whatever its value looks like (`Args.readFrom_group`).  So groups are read one after the other
(`Args.readFrom_groups`), and of an option that is given several times the last one counts, except
that all edits count, in their order.

An arrangement of some arguments gives each option once and the edits in their order
(`Args.Arranged`).  However the groups are mixed, the same arguments are read
(`Args.parse_arranged`).
-/
namespace Gridcalc

/-- The words that name an option. -/
def OptionName.spellings : OptionName → List String
  | .command => ["-c", "--command"]
  | .set => ["-s", "--set"]
  | .output => ["-o", "--output"]
  | .config => ["--config"]

attribute [ext] Args

namespace Args
variable {args : Args} {word value : String} {name : OptionName} {rest : List String}

/-- **A part of a command line**: the sheet file, or an option, in one of its spellings, with its
value. -/
inductive Group where
  | file (path : String)
  | option (name : OptionName) (spelling : { word : String // word ∈ name.spellings })
      (value : String)

namespace Group

/-- The words of a group. -/
def words : Group → List String
  | file path => [path]
  | option _ spelling value => [spelling, value]

/-- The sheet file that a group names. -/
def file? : Group → Option String
  | file path => some path
  | option .. => none

/-- The value that a group gives to an option. -/
def value? (name : OptionName) : Group → Option String
  | file _ => none
  | option other _ value => if other = name then some value else none

end Group

/-- The values that the options have, as they are written. -/
def values (args : Args) : OptionName → List String
  | .command => args.command.toList
  | .set => args.edits.map fun edit => edit.1 ++ "=" ++ edit.2
  | .output => args.output.toList
  | .config => args.config.toList

/-- **An arrangement of arguments**: groups in any order that name the sheet file and give each
option the values it has, the edits in their order. -/
structure Arranged (args : Args) (groups : List Group) : Prop where
  file : groups.filterMap Group.file? = args.file.toList
  options : ∀ name, groups.filterMap (Group.value? name) = args.values name

/-- A word that can name a file: a dash alone, or one that does not begin with a dash. -/
def IsPath (word : String) : Prop := word = "-" ∨ word.toList.head? ≠ some '-'

/-- A text that can name the cell of an edit: it has no equals sign and no blanks around it. -/
def IsCellText (cell : String) : Prop := Text.trim cell = cell ∧ '=' ∉ cell.toList

instance : Decidable (IsPath word) := inferInstanceAs (Decidable (_ ∨ _))

instance : Decidable (IsCellText word) := inferInstanceAs (Decidable (_ ∧ _))

/-! ### One word -/

/-- The spellings of an option name it, and are neither a call for help nor a path. -/
theorem spelling_facts (name : OptionName) : ∀ word ∈ name.spellings,
    option? word = some name ∧ isHelp word = false ∧ ¬ IsPath word := by
  cases name <;> decide

theorem mem_spellings_of_option? (h : option? word = some name) : word ∈ name.spellings := by
  unfold option? at h
  split_ifs at h with hcommand hset houtput hconfig
  · obtain rfl := Option.some.inj h
    simpa [OptionName.spellings] using hcommand
  · obtain rfl := Option.some.inj h
    simpa [OptionName.spellings] using hset
  · obtain rfl := Option.some.inj h
    simpa [OptionName.spellings] using houtput
  · obtain rfl := Option.some.inj h
    simpa [OptionName.spellings] using hconfig

theorem option?_of_isPath (h : IsPath word) : option? word = none := by
  cases hname : option? word with
  | none => rfl
  | some name => exact absurd h (spelling_facts name word (mem_spellings_of_option? hname)).2.2

theorem isHelp_of_isPath (h : IsPath word) : isHelp word = false := by
  refine Bool.eq_false_iff.mpr fun hhelp => ?_
  simp only [isHelp, Bool.or_eq_true, beq_iff_eq] at hhelp
  rcases hhelp with rfl | rfl
  · exact absurd h (by decide)
  · exact absurd h (by decide)

theorem isDashed_of_isPath (h : IsPath word) : isDashed word = false := by
  unfold isDashed
  split
  · rename_i hword
    rcases h with rfl | h
    · cases hword
    · exact absurd (by rw [hword]; rfl) h
  · rfl

/-- **An edit is cut where its cell ends,** whatever is entered. -/
theorem edit?_of_isCellText {cell : String} (h : IsCellText cell) (input : String) :
    edit? (cell ++ "=" ++ input) = some (cell, input) := by
  obtain ⟨htrim, hequals⟩ := h
  have hlist : (cell ++ "=" ++ input).toList = cell.toList ++ '=' :: input.toList := by
    simp
  rw [edit?, hlist, Text.cutAt_append hequals, Option.map_some]
  show some (String.ofList (Text.trimChars cell.toList), String.ofList input.toList) = _
  rw [Text.trimChars_toList htrim, String.ofList_toList, String.ofList_toList]

/-! ### One group -/

/-- The arguments with what a group gives.  A value that is no edit gives none. -/
def add (args : Args) : Group → Args
  | .file path => { args with file := some path }
  | .option .command _ value => { args with command := some value }
  | .option .set _ value => { args with edits := args.edits ++ (edit? value).toList }
  | .option .output _ value => { args with output := some value }
  | .option .config _ value => { args with config := some value }

/-- A group that can be read: its path is one, or its edit is one. -/
def Group.Legible : Group → Prop
  | .file path => IsPath path
  | .option name _ value => name = .set → (edit? value).isSome = true

theorem file_add (args : Args) (group : Group) :
    (args.add group).file = group.file?.or args.file := by
  cases group with
  | file path => rfl
  | option name spelling value => cases name <;> rfl

/-- The value of an option that has one at most.  The edits are kept apart. -/
def single (name : OptionName) (args : Args) : Option String :=
  match name with
  | .command => args.command
  | .output => args.output
  | .config => args.config
  | .set => none

theorem single_add (hname : name ≠ .set) (args : Args) (group : Group) :
    (args.add group).single name = (group.value? name).or (args.single name) := by
  cases group with
  | file path => cases name <;> rfl
  | option other spelling value =>
    cases name with
    | set => exact absurd rfl hname
    | command => cases other <;> rfl
    | output => cases other <;> rfl
    | config => cases other <;> rfl

theorem readFrom_word (hhelp : isHelp word = false) (hname : option? word = none)
    (args : Args) (rest : List String) :
    args.readFrom (word :: rest) = (args.setFile word).bind fun args => args.readFrom rest := by
  cases rest with
  | nil =>
    simp only [readFrom, hhelp, hname, Bool.false_eq_true, if_false]
    cases args.setFile word <;> rfl
  | cons value rest =>
    simp only [readFrom, hhelp, hname, Bool.false_eq_true, if_false]
    rfl

theorem readFrom_option (h : word ∈ name.spellings) (args : Args) (value : String)
    (rest : List String) : args.readFrom (word :: value :: rest) =
      (args.setOption name value).bind fun args => args.readFrom rest := by
  obtain ⟨hname, hhelp, -⟩ := spelling_facts name word h
  simp only [readFrom, hhelp, hname, Bool.false_eq_true, if_false]
  rfl

theorem setOption_eq_add (spelling : { word : String // word ∈ name.spellings })
    (h : name = .set → (edit? value).isSome = true) :
    args.setOption name value = .ok (args.add (.option name spelling value)) := by
  cases name with
  | set =>
    obtain ⟨edit, hedit⟩ := Option.isSome_iff_exists.mp (h rfl)
    rw [setOption, add, hedit]
    rfl
  | command => rfl
  | output => rfl
  | config => rfl

/-- **Reading a group takes in what it gives,** and goes on with the words behind it.  A second
sheet file would be refused. -/
theorem readFrom_group {group : Group} (h : group.Legible)
    (hfile : group.file?.isSome = true → args.file = none) (rest : List String) :
    args.readFrom (group.words ++ rest) = (args.add group).readFrom rest := by
  cases group with
  | file path =>
    have hset : args.setFile path = .ok (args.add (.file path)) := by
      rw [setFile, isDashed_of_isPath h, hfile rfl]
      rfl
    show args.readFrom (path :: rest) = _
    rw [readFrom_word (isHelp_of_isPath h) (option?_of_isPath h), hset]
    rfl
  | option name spelling value =>
    show args.readFrom (spelling :: value :: rest) = _
    rw [readFrom_option spelling.property, setOption_eq_add spelling h]
    rfl

/-! ### All groups -/

/-- **Groups are read one after the other,** if at most one of them names the sheet file. -/
theorem readFrom_groups : ∀ (groups : List Group) (args : Args),
    (∀ group ∈ groups, group.Legible) →
    (args.file.toList ++ groups.filterMap Group.file?).length ≤ 1 →
    args.readFrom (groups.flatMap Group.words) = .ok (some (groups.foldl add args))
  | [], _, _, _ => rfl
  | group :: rest, args, hlegible, hfile => by
    obtain ⟨hgroup, hrest⟩ := List.forall_mem_cons.mp hlegible
    have hnone : group.file?.isSome = true → args.file = none := by
      intro hsome
      obtain ⟨path, hpath⟩ := Option.isSome_iff_exists.mp hsome
      cases hargs : args.file with
      | none => rfl
      | some other => simp [hargs, hpath] at hfile
    -- The file that a group names counts with those that are still to come.
    have hadd : ((args.add group).file.toList ++ rest.filterMap Group.file?).length ≤ 1 := by
      rw [file_add]
      cases group with
      | file path =>
        rw [hnone rfl] at hfile
        exact hfile
      | option name spelling value => exact hfile
    rw [List.flatMap_cons, readFrom_group hgroup hnone, List.foldl_cons]
    exact readFrom_groups rest (args.add group) hrest hadd

section Field
variable {field : Args → Option String} {given : Group → Option String}
  (hadd : ∀ args group, field (args.add group) = (given group).or (field args))
include hadd

/-- **Of several groups that give a field the last one counts.** -/
theorem field_foldl_add (groups : List Group) (args : Args) :
    field (groups.foldl add args) = ((groups.filterMap given).getLast?).or (field args) := by
  induction groups generalizing args with
  | nil => rfl
  | cons group rest ih =>
    rw [List.foldl_cons, ih, hadd]
    cases hgiven : given group with
    | none => rw [List.filterMap_cons_none hgiven, Option.none_or]
    | some value =>
      rw [List.filterMap_cons_some hgiven, List.getLast?_cons]
      cases (rest.filterMap given).getLast? <;> rfl

/-- A field that groups give at most once is what they give. -/
theorem field_of_groups {groups : List Group} (hempty : field {} = none)
    (hgiven : groups.filterMap given = (field args).toList) :
    field (groups.foldl add {}) = field args := by
  rw [field_foldl_add hadd, hgiven, hempty]
  cases field args <;> rfl

end Field

/-- All edits count, in their order. -/
theorem edits_foldl_add (groups : List Group) (args : Args) :
    (groups.foldl add args).edits =
      args.edits ++ (groups.filterMap (Group.value? .set)).filterMap edit? := by
  induction groups generalizing args with
  | nil => exact (List.append_nil _).symm
  | cons group rest ih =>
    rw [List.foldl_cons, ih]
    cases group with
    | file path => rfl
    | option name spelling value =>
      cases name with
      | set => cases h : edit? value <;> simp [add, Group.value?, h]
      | command => rfl
      | output => rfl
      | config => rfl

/-! ### Arrangements -/

/-- All groups of an arrangement can be read. -/
theorem Arranged.legible {groups : List Group} (h : args.Arranged groups)
    (hfile : ∀ path ∈ args.file, IsPath path) (hedits : ∀ edit ∈ args.edits, IsCellText edit.1) :
    ∀ group ∈ groups, group.Legible := by
  intro group hgroup
  cases group with
  | file path =>
    have hpath : path ∈ groups.filterMap Group.file? := List.mem_filterMap.mpr ⟨_, hgroup, rfl⟩
    rw [h.file] at hpath
    exact hfile path (Option.mem_toList.mp hpath)
  | option name spelling value =>
    rintro rfl
    have hvalue : value ∈ groups.filterMap (Group.value? .set) :=
      List.mem_filterMap.mpr ⟨_, hgroup, rfl⟩
    rw [h.options] at hvalue
    obtain ⟨edit, hedit, rfl⟩ := List.mem_map.mp hvalue
    rw [edit?_of_isCellText (hedits edit hedit)]
    rfl

/-- Edits come back from how they are written. -/
theorem filterMap_edit? {edits : List (String × String)} (h : ∀ edit ∈ edits, IsCellText edit.1) :
    (edits.map fun edit => edit.1 ++ "=" ++ edit.2).filterMap edit? = edits := by
  rw [List.filterMap_map]
  calc edits.filterMap (edit? ∘ fun edit => edit.1 ++ "=" ++ edit.2)
      = edits.filterMap some :=
        List.filterMap_congr fun edit hedit => edit?_of_isCellText (h edit hedit) edit.2
    _ = edits := List.filterMap_some

/-- **Arguments are read from any of their arrangements.**  The groups may be mixed in any way and
each option may have either spelling.  No value is taken for an option or an option for a value,
whatever the values are: only the file may not look like an option, and the cell of an edit has to
end at the first equals sign. -/
theorem parse_arranged (args : Args) (groups : List Group)
    (hfile : ∀ path ∈ args.file, IsPath path) (hedits : ∀ edit ∈ args.edits, IsCellText edit.1)
    (h : args.Arranged groups) : parse (groups.flatMap Group.words) = .ok (some args) := by
  have hone : (({} : Args).file.toList ++ groups.filterMap Group.file?).length ≤ 1 := by
    rw [h.file]
    cases args.file with
    | none => exact Nat.zero_le 1
    | some path => exact Nat.le_refl 1
  -- Only the edits are taken in as a list; of all else one value is left.
  have hargs : groups.foldl add {} = args := by
    refine Args.ext (field_of_groups file_add rfl h.file)
      (field_of_groups (single_add (by decide)) rfl (h.options .command)) ?_
      (field_of_groups (single_add (by decide)) rfl (h.options .output))
      (field_of_groups (single_add (by decide)) rfl (h.options .config))
    rw [edits_foldl_add, h.options]
    exact filterMap_edit? hedits
  rw [parse, readFrom_groups groups {} (h.legible hfile hedits) hone, hargs]

/-- Arguments whose values look like options, are empty, or have several equals signs. -/
def deceptive : Args where
  file := some "-"
  command := some "-h"
  edits := [("A1", "=B1=2"), ("", "--set")]
  output := some "--config"
  config := some ""

/-- The edits are divided by other options, and the file stands in the middle. -/
def deceptiveGroups : List Group :=
  [.option .set ⟨"--set", by decide⟩ "A1==B1=2", .option .output ⟨"-o", by decide⟩ "--config",
    .file "-", .option .command ⟨"--command", by decide⟩ "-h",
    .option .set ⟨"-s", by decide⟩ "=--set", .option .config ⟨"--config", by decide⟩ ""]

theorem deceptive_parse :
    parse ["--set", "A1==B1=2", "-o", "--config", "-", "--command", "-h", "-s", "=--set",
      "--config", ""] = .ok (some deceptive) := by
  have harranged : deceptive.Arranged deceptiveGroups := by
    refine ⟨by decide, fun name => ?_⟩
    cases name <;> decide
  have hfile : ∀ path ∈ deceptive.file, IsPath path := by decide
  have hedits : ∀ edit ∈ deceptive.edits, IsCellText edit.1 := by decide
  exact parse_arranged deceptive deceptiveGroups hfile hedits harranged

end Args
end Gridcalc
