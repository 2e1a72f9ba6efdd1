import BrickControl.Brick.Opcode
import BrickControl.CommandLine.Invocation

/-!
# Arguments within their rules

A level has a rule for each of its arguments. While it is read, every value that counts as complete
has passed the rule of its name, so the numbers that a subcommand is given are in their ranges.
-/
namespace BrickControl.CommandLine

/-- The rule for the value of an option that has one. -/
def OptionRole.rule? : OptionRole → Option ValueRule
  | .takes rule => some rule
  | .flag => some .any
  | .showHelp | .showVersion => none

/-- The names of the arguments of a level with their rules. -/
def Level.rules (level : Level) : List (String × ValueRule) :=
  level.options.filterMap (fun spec => spec.role.rule?.map fun rule => (spec.long, rule)) ++
    level.positionals.map fun spec => (spec.name, spec.rule)

/-- Complete values have passed a rule of the level, and those that are pending will have to. -/
structure Progress.Checked (level : Level) (progress : Progress) : Prop where
  matched : ∀ argument ∈ progress.matched,
    ∃ rule, (argument.1, rule) ∈ level.rules ∧ rule.check argument.2 = .ok ()
  pending : ∀ pending, progress.pending = some pending → (pending.name, pending.rule) ∈ level.rules

theorem ok_of_bind {ε α β : Type} {first : Except ε α} {next : α → Except ε β} {b : β}
    (ended : (first >>= next) = .ok b) : ∃ a, first = .ok a ∧ next a = .ok b := by
  cases first with
  | error e => cases ended
  | ok a => exact ⟨a, rfl, ended⟩

namespace Level

variable {level : Level}

private theorem option_rules {spec : OptionSpec} {rule : ValueRule} (member : spec ∈ level.options)
    (role : spec.role.rule? = some rule) : (spec.long, rule) ∈ level.rules := by
  refine List.mem_append_left _ (List.mem_filterMap.mpr ⟨spec, member, ?_⟩)
  rw [role, Option.map_some]

private theorem positional_rules {spec : Positional} (member : spec ∈ level.positionals) :
    (spec.name, spec.rule) ∈ level.rules :=
  List.mem_append_right _ (List.mem_map.mpr ⟨spec, member, rfl⟩)

end Level

namespace Progress

variable {level : Level} {progress after : Progress}

private theorem checked_nothing (level : Level) : ({} : Progress).Checked level :=
  ⟨by simp, by simp⟩

/-- A value is complete when it has passed its rule, so nothing unchecked is added. -/
theorem Checked.add {name value : String} {rule : ValueRule} (checked : progress.Checked level)
    (governs : (name, rule) ∈ level.rules) (ended : progress.add name value rule = .ok after) :
    after.Checked level := by
  simp only [Progress.add] at ended
  -- A value that is given twice is an error, and so is one that its rule refuses.
  split at ended
  · cases ended
  · split at ended
    next passed =>
      cases ended
      refine ⟨?_, checked.pending⟩
      rw [List.forall_mem_append, List.forall_mem_singleton]
      exact ⟨checked.matched, rule, governs, passed⟩
    next => cases ended

/-- A value that was pending is checked by the rule that came with it. -/
theorem Checked.settle (checked : progress.Checked level) (ended : progress.settle = .ok after) :
    after.Checked level := by
  simp only [Progress.settle] at ended
  split at ended
  next =>
    cases ended
    exact checked
  next => cases ended
  next name rule value waiting =>
    -- The pending value is done with before it is added.
    have open' : ({ progress with pending := none } : Progress).Checked level :=
      ⟨checked.matched, by simp⟩
    exact open'.add (checked.pending _ waiting) ended

theorem Checked.await (pending : Pending) (checked : progress.Checked level)
    (governs : (pending.name, pending.rule) ∈ level.rules) (position : Nat) :
    { progress with pending := some pending, position }.Checked level :=
  ⟨checked.matched, by rintro _ ⟨⟩; exact governs⟩

theorem Checked.takeOption {spec : OptionSpec} {attached : Option String}
    (checked : progress.Checked level) (member : spec ∈ level.options)
    (ended : progress.takeOption spec attached = .ok after) : after.Checked level := by
  simp only [Progress.takeOption] at ended
  split at ended
  next rule role =>
    obtain ⟨settled, quiet, ended⟩ := ok_of_bind ended
    cases ended
    exact (checked.settle quiet).await _ (Level.option_rules member (by rw [role]; rfl)) _
  next rule value role =>
    obtain ⟨settled, quiet, ended⟩ := ok_of_bind ended
    exact (checked.settle quiet).add (Level.option_rules member (by rw [role]; rfl)) ended
  next => cases ended
  next role =>
    obtain ⟨settled, quiet, ended⟩ := ok_of_bind ended
    exact (checked.settle quiet).add (Level.option_rules member (by rw [role]; rfl)) ended
  next =>
    obtain ⟨_, _, ended⟩ := ok_of_bind ended
    cases ended
  next =>
    obtain ⟨_, _, ended⟩ := ok_of_bind ended
    cases ended

private theorem Checked.takeLong {body : List Char} (checked : progress.Checked level)
    (ended : progress.takeLong level body = .ok after) : after.Checked level := by
  simp only [Progress.takeLong] at ended
  split at ended
  next spec found => exact checked.takeOption (List.mem_of_find?_eq_some found) ended
  next => cases ended

private theorem Checked.takeShort {letters : List Char} (checked : progress.Checked level)
    (ended : takeShort level letters progress = .ok after) : after.Checked level := by
  induction letters generalizing progress with
  | nil =>
    cases ended
    exact checked
  | cons letter rest ih =>
    simp only [Progress.takeShort] at ended
    split at ended
    next => cases ended
    next spec found =>
      have member := List.mem_of_find?_eq_some found
      split at ended
      next => exact checked.takeOption member ended
      next => exact checked.takeOption member ended
      next => exact checked.takeOption member ended
      next =>
        split at ended
        next between taken => exact ih (checked.takeOption member taken) ended
        next => cases ended

private theorem Checked.takePositional {argument : String} (checked : progress.Checked level)
    (ended : progress.takePositional level argument = .ok after) : after.Checked level := by
  simp only [Progress.takePositional] at ended
  split at ended
  next spec found =>
    obtain ⟨settled, quiet, ended⟩ := ok_of_bind ended
    cases ended
    exact (checked.settle quiet).await _ (Level.positional_rules (List.mem_of_getElem? found)) _
  next =>
    split at ended
    · cases ended
    · cases ended

private theorem Checked.take {argument : String} (checked : progress.Checked level)
    (ended : progress.take level argument = .ok after) : after.Checked level := by
  simp only [Progress.take] at ended
  split at ended
  · exact checked.takePositional ended
  · split at ended
    next =>
      cases ended
      exact ⟨checked.matched, checked.pending⟩
    next => exact checked.takeLong ended
    next => exact checked.takeShort ended
    next =>
      split at ended
      next name rule waiting =>
        cases ended
        have governs : (name, rule) ∈ level.rules := checked.pending _ waiting
        exact checked.await ⟨name, rule, some argument⟩ governs _
      next => exact checked.takePositional ended

end Progress

/-- The rules hold all along a line, however far it is read. -/
private theorem Level.read_checked {level : Level} {line : List String} {progress after : Progress}
    {found : Option (String × List String)} (checked : progress.Checked level)
    (ended : level.read line progress = .ok (after, found)) : after.Checked level := by
  induction line generalizing progress with
  | nil =>
    cases ended
    exact checked
  | cons argument rest ih =>
    simp only [Level.read] at ended
    split at ended
    · cases ended
      exact checked
    · split at ended
      next between taken => exact ih (checked.take taken) ended
      next => cases ended

/-- A number whose only rule is a range lies in it, and so does one that is not given. -/
theorem Progress.Checked.number_within {level : Level} {inner : Progress}
    (checked : inner.Checked level) (outer : List (String × String)) {name : String}
    {low high otherwise : Nat}
    (only : (level.rules.filter fun rule => rule.1 = name) ⊆ [(name, .number low high)])
    (default : low ≤ otherwise ∧ otherwise ≤ high) :
    low ≤ Arguments.number ⟨outer, inner.matched⟩ name otherwise ∧
      Arguments.number ⟨outer, inner.matched⟩ name otherwise ≤ high := by
  simp only [Arguments.number]
  split
  next n given =>
    obtain ⟨value, found, parsed⟩ := Option.bind_eq_some_iff.mp given
    obtain ⟨_, _, listed, _⟩ := List.lookup_eq_some_iff.mp found
    have member : (name, value) ∈ inner.matched := by
      rw [listed]
      exact List.mem_append_right _ List.mem_cons_self
    obtain ⟨rule, governs, passed⟩ := checked.matched _ member
    -- The level has no other rule for this name, so the value passed the range.
    have own := only (List.mem_filter.mpr ⟨governs, decide_eq_true rfl⟩)
    rw [List.mem_singleton, Prod.mk.injEq] at own
    obtain ⟨_, rfl⟩ := own
    simp only [ValueRule.check, parsed] at passed
    split at passed
    · omega
    · cases passed
  next => exact default

/-- The numbers of the subcommand are in the ranges that the brick has. -/
def BrickCommand.InRange : BrickCommand → Prop
  | .sendMessage inbox _ _ => inbox ≤ Limits.lastInbox
  | .readMessage remote inbox _ => remote ≤ Limits.lastRemoteInbox ∧ inbox ≤ Limits.lastInbox
  | .input number => 1 ≤ number ∧ number ≤ 4
  | _ => True

private theorem Progress.Checked.byte_within {level : Level} {inner : Progress}
    (checked : inner.Checked level) (outer : List (String × String)) {name : String}
    {low high otherwise : Nat}
    (only : (level.rules.filter fun rule => rule.1 = name) ⊆ [(name, .number low high)])
    (default : low ≤ otherwise ∧ otherwise ≤ high) (small : high < 256) :
    UInt8.ofNat low ≤ UInt8.ofNat (Arguments.number ⟨outer, inner.matched⟩ name otherwise) ∧
      UInt8.ofNat (Arguments.number ⟨outer, inner.matched⟩ name otherwise) ≤ UInt8.ofNat high := by
  have within := checked.number_within outer only default
  simp only [UInt8.le_iff_toNat_le, UInt8.toNat_ofNat']
  omega

/-- The levels of the three subcommands that take such numbers have the ranges of the brick. -/
private theorem command_inRange {name : String} {inner : Progress} {command : BrickCommand}
    (checked : inner.Checked ((subcommandLevels.lookup name).getD (subcommandLevel [] [])))
    (outer : List (String × String))
    (named : (⟨outer, inner.matched⟩ : Arguments).command name = .brick command) :
    command.InRange := by
  by_cases sends : name = "send-message"
  · subst sends
    cases named
    exact (checked.byte_within outer (List.Subset.refl _) (by decide) (by decide)).2
  by_cases reads : name = "read-message"
  · subst reads
    cases named
    constructor
    · exact (checked.byte_within outer (List.Subset.refl _) (by decide) (by decide)).2
    · exact (checked.byte_within outer (List.Subset.refl _) (by decide) (by decide)).2
  by_cases inputs : name = "input"
  · subst inputs
    cases named
    exact checked.byte_within outer (List.Subset.refl _) (by decide) (by decide)
  -- No other subcommand has a number with a range of its own.
  simp only [Arguments.command, sends, reads, if_false] at named
  split at named
  · cases named
  iterate 7
    split at named
    · cases named
      trivial
  -- The name is then not one of those that the program knows.
  have unknown : subcommandLevels.lookup name = none := by
    rw [List.lookup_eq_none_iff]
    simp [subcommandLevels, *]
  rw [unknown] at checked
  cases named
  exact checked.byte_within outer (List.nil_subset _) (by decide) (by decide)

/-- An accepted line was read at the level of its subcommand, which left nothing pending. -/
private theorem parse_arguments {environment : Option String} {line : List String}
    {invocation : Invocation} (parsed : parse environment line = .ok invocation) :
    ∃ (name : String) (inner : Progress) (outer : List (String × String)),
      inner.Checked ((subcommandLevels.lookup name).getD (subcommandLevel [] [])) ∧
      invocation.command = (⟨outer, inner.matched⟩ : Arguments).command name := by
  obtain ⟨⟨progress, found⟩, _, parsed⟩ := ok_of_bind parsed
  cases found with
  | none =>
    obtain ⟨settled, _, parsed⟩ := ok_of_bind parsed
    split at parsed
    · cases parsed
    · cases parsed
  | some found =>
    obtain ⟨name, rest⟩ := found
    dsimp only at parsed
    split at parsed
    · cases parsed
    · obtain ⟨⟨read, _⟩, reading, parsed⟩ := ok_of_bind parsed
      obtain ⟨inner, settling, parsed⟩ := ok_of_bind parsed
      split at parsed
      · cases parsed
      · obtain ⟨outer, _, parsed⟩ := ok_of_bind parsed
        cases parsed
        have start := Level.read_checked (Progress.checked_nothing _) reading
        exact ⟨name, inner, outer.matched, start.settle settling, rfl⟩

/-- What a command line asks of a brick is within the ranges of the brick. -/
theorem parse_inRange {environment : Option String} {line : List String} {invocation : Invocation}
    {command : BrickCommand} (parsed : parse environment line = .ok invocation)
    (brick : invocation.command = .brick command) : command.InRange := by
  obtain ⟨name, inner, outer, checked, named⟩ := parse_arguments parsed
  exact command_inRange checked outer (named.symm.trans brick)

end BrickControl.CommandLine
