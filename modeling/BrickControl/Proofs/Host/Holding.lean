import BrickControl.Proofs.Act
import BrickControl.Proofs.Host.Ledger

/-!
# Holding a resource

What each call on a host does to the ledger. A program holds nothing (`Tidy`), or it holds one
resource (`Holds`), and each call leads from one of these to the other or stays where it is.
-/
namespace BrickControl

/-- A thing in hand: a socket, or a device with one of its interfaces. -/
inductive Grip where
  | socket (on : Descriptor)
  | interface (on : UsbHandle) (number : UInt8)

namespace Grip

def resource : Grip → Resource
  | .socket on => .socket on
  | .interface on _ => .device on

/-- The history of a thing in hand. -/
def Begun : Grip → List Call → Prop
  | .socket on, calls => ∃ kind uses, calls = [.socket kind (.ok on)] ++ uses ∧
      ∀ call ∈ uses, call.works
  | .interface on number, calls => ∃ vendor product uses,
      calls = [.usbOpen vendor product (some on), .claim on number 0] ++ uses ∧
      ∀ call ∈ uses, call.works

private theorem Begun.work {grip : Grip} {calls : List Call} {call : Call}
    (begun : grip.Begun calls) (works : call.works) : grip.Begun (calls ++ [call]) := by
  have more (uses : List Call) (work : ∀ call ∈ uses, call.works) :
      ∀ other ∈ uses ++ [call], other.works := by
    intro other member
    rcases List.mem_append.mp member with earlier | last
    · exact work other earlier
    · rw [List.mem_singleton.mp last]
      exact works
  cases grip with
  | socket on =>
    obtain ⟨kind, uses, rfl, work⟩ := begun
    exact ⟨kind, uses ++ [call], List.append_assoc .., more uses work⟩
  | interface on number =>
    obtain ⟨vendor, product, uses, rfl, work⟩ := begun
    exact ⟨vendor, product, uses ++ [call], List.append_assoc .., more uses work⟩

end Grip

namespace Host

/-- The host after these calls, which opened so many resources. -/
structure Added (before : Host) (calls : List Call) (opened : Nat) (after : Host) : Prop where
  calls : after.calls = before.calls ++ calls
  next : after.next = before.next + opened

/-- Two rows of calls are one row, and what they opened adds up. -/
theorem Added.trans {before between after : Host} {first second : List Call} {some more : Nat}
    (added : Added before first some between) (added' : Added between second more after) :
    Added before (first ++ second) (some + more) after where
  calls := by rw [added'.calls, added.calls, List.append_assoc]
  next := by rw [added'.next, added.next, Nat.add_assoc]

theorem added_of {before after : Host} {call : Call} {opened : Nat}
    (made : after.made = call :: before.made) (next : after.next = before.next + opened) :
    Added before [call] opened after where
  calls := by simp [calls, made]
  next := next

/-- All calls since `start` were of this sort. -/
def Since (sort : Call → Prop) (start host : Host) : Prop :=
  ∃ calls, host.calls = start.calls ++ calls ∧ ∀ call ∈ calls, sort call

section

variable {sort : Call → Prop} {start before after : Host} {more : Nat}

theorem Since.refl (sort : Call → Prop) (start : Host) : Since sort start start :=
  ⟨[], (List.append_nil _).symm, nofun⟩

theorem Since.add {added : List Call} (since : Since sort start before)
    (grows : Added before added more after) (same : ∀ call ∈ added, sort call) :
    Since sort start after := by
  obtain ⟨calls, earlier, old⟩ := since
  refine ⟨calls ++ added, by rw [grows.calls, earlier, List.append_assoc], fun call member => ?_⟩
  rcases List.mem_append.mp member with first | last
  · exact old call first
  · exact same call last

theorem Since.add_one {call : Call} (since : Since sort start before)
    (grows : Added before [call] more after) (same : sort call) : Since sort start after :=
  since.add grows (List.forall_mem_singleton.mpr same)

theorem Since.all {script : Script} (since : Since sort (ofScript script) after) :
    ∀ call ∈ after.calls, sort call := by
  obtain ⟨calls, made, same⟩ := since
  rw [made]
  exact same

end

/-- Nothing is in hand: every resource was given back, and the next one will be new. -/
structure Tidy (host : Host) : Prop where
  fresh : ∀ resource : Resource, host.next ≤ resource.number → history resource host.calls = []
  spent : ∀ resource,
    history resource host.calls = [] ∨ Spent resource (history resource host.calls)

/-- One thing is in hand, and every other resource was given back. -/
structure Holds (grip : Grip) (host : Host) : Prop where
  fresh : ∀ resource : Resource, host.next ≤ resource.number → history resource host.calls = []
  begun : grip.Begun (history grip.resource host.calls)
  spent : ∀ resource, resource ≠ grip.resource →
    history resource host.calls = [] ∨ Spent resource (history resource host.calls)

theorem tidy_ofScript (script : Script) : (ofScript script).Tidy where
  fresh _ _ := rfl
  spent _ := .inl rfl

/-- A list of calls with nothing in hand at its end is balanced. -/
theorem Tidy.balanced {host : Host} (tidy : host.Tidy) : Balanced host.calls :=
  .of_spent tidy.spent

variable {before after : Host} {added : List Call} {call : Call} {resource : Resource}
  {grip : Grip} {more : Nat}

/-- Calls on a resource are added to its history. -/
theorem Added.grown (grows : Added before added more after)
    (about : ∀ call ∈ added, call.resource? = some resource) :
    history resource after.calls = history resource before.calls ++ added := by
  rw [grows.calls, history_append, history_own about]

theorem Added.untouched (grows : Added before added more after)
    (about : ∀ call ∈ added, call.resource? ≠ some resource) :
    history resource after.calls = history resource before.calls := by
  rw [grows.calls, history_append, history_other about, List.append_nil]

theorem about_other {other : Resource} (about : ∀ call ∈ added, call.resource? = some resource)
    (differ : other ≠ resource) : ∀ call ∈ added, call.resource? ≠ some other := by
  intro call member same
  rw [about call member] at same
  exact differ (Option.some.inj same).symm

/-- A call that got nothing leaves nothing to give back. -/
theorem Tidy.idle (tidy : before.Tidy) (grows : Added before [call] 0 after)
    (nothing : call.resource? = none) : after.Tidy := by
  -- The call is in no history at all.
  have same (resource : Resource) : history resource after.calls = history resource before.calls :=
    grows.untouched (by simp [nothing])
  constructor
  · intro resource new
    rw [same]
    exact tidy.fresh resource (Nat.le_trans (Nat.le_of_eq grows.next.symm) new)
  · intro resource
    rw [same]
    exact tidy.spent resource

-- What was just opened has the next number, and no other resource is touched.

theorem Tidy.fresh_added (tidy : before.Tidy) (grows : Added before added 1 after)
    (about : ∀ call ∈ added, call.resource? = some resource)
    (number : resource.number = before.next) (other : Resource) (new : after.next ≤ other.number) :
    history other after.calls = [] := by
  have next := grows.next
  -- Its number is the one before those that are still to come.
  have differ : other ≠ resource := by
    rintro rfl
    omega
  rw [grows.untouched (about_other about differ)]
  exact tidy.fresh other (by omega)

theorem Tidy.opened (tidy : before.Tidy) (grows : Added before added 1 after)
    (about : ∀ call ∈ added, call.resource? = some grip.resource)
    (number : grip.resource.number = before.next) (begun : grip.Begun added) :
    after.Holds grip where
  fresh := tidy.fresh_added grows about number
  begun := by
    rw [grows.grown about, tidy.fresh _ (Nat.le_of_eq number.symm), List.nil_append]
    exact begun
  spent other differ := by
    rw [grows.untouched (about_other about differ)]
    exact tidy.spent other

/-- A resource that is given back at once. -/
theorem Tidy.passed (tidy : before.Tidy) (grows : Added before added 1 after)
    (about : ∀ call ∈ added, call.resource? = some resource)
    (number : resource.number = before.next) (spent : Spent resource added) : after.Tidy where
  fresh := tidy.fresh_added grows about number
  spent other := by
    by_cases same : other = resource
    · subst same
      rw [grows.grown about, tidy.fresh _ (Nat.le_of_eq number.symm), List.nil_append]
      exact .inr spent
    · rw [grows.untouched (about_other about same)]
      exact tidy.spent other

/-- What is in hand has a history, so its number is not a new one. -/
theorem Holds.number_lt (holds : before.Holds grip) : grip.resource.number < before.next := by
  -- With a new number its history would be empty, but it has been opened.
  refine Nat.lt_of_not_le fun new => ?_
  have begun := holds.begun
  rw [holds.fresh _ new] at begun
  cases grip <;> simp [Grip.Begun] at begun

theorem Holds.fresh_added (holds : before.Holds grip) (grows : Added before added 0 after)
    (about : ∀ call ∈ added, call.resource? = some grip.resource) (other : Resource)
    (new : after.next ≤ other.number) : history other after.calls = [] := by
  have old := holds.number_lt
  have next := grows.next
  have differ : other ≠ grip.resource := by
    rintro rfl
    omega
  rw [grows.untouched (about_other about differ)]
  exact holds.fresh other (by omega)

theorem Holds.works (holds : before.Holds grip) (grows : Added before [call] 0 after)
    (about : call.resource? = some grip.resource) (works : call.works) : after.Holds grip := by
  have own : ∀ other ∈ [call], other.resource? = some grip.resource := by simpa using about
  refine ⟨holds.fresh_added grows own, ?_, fun other differ => ?_⟩
  · rw [grows.grown own]
    exact holds.begun.work works
  · rw [grows.untouched (about_other own differ)]
    exact holds.spent other differ

/-- A resource whose history is completed is not in hand any more, and nothing else was. -/
theorem Holds.given (holds : before.Holds grip) (grows : Added before added 0 after)
    (about : ∀ call ∈ added, call.resource? = some grip.resource)
    (spends : ∀ front, grip.Begun front → Spent grip.resource (front ++ added)) : after.Tidy := by
  refine ⟨holds.fresh_added grows about, fun other => ?_⟩
  -- The history in hand is completed, and the others are as they were.
  by_cases same : other = grip.resource
  · subst same
    rw [grows.grown about]
    exact .inr (spends _ holds.begun)
  · rw [grows.untouched (about_other about same)]
    exact holds.spent other same

end Host
end BrickControl
