import BrickControl.Host

/-!
# What is held of a host

Sockets and USB devices have to be given back. The history of one of them is what the list of calls
says of it alone; it is `Spent` when it was opened, used and given back in order. `Balanced` says
the same of the whole list of calls, and follows as soon as every history in it is spent.
-/
namespace BrickControl

inductive Resource where
  | socket (on : Descriptor)
  | device (on : UsbHandle)
  deriving DecidableEq

def Resource.number : Resource → Nat
  | .socket on => on.number
  | .device on => on.number

namespace Call

/-- The resource that a call opens, uses or gives back. -/
def resource? : Call → Option Resource
  | .socket _ (.ok opened) => some (.socket opened)
  | .socket _ (.error _) => none
  | .bind on _ _ | .connect on _ _ | .setOption on _ _ _ _ | .adapters on _ _ | .inquiry on _ _
  | .read on _ _ | .write on _ _ | .send on _ _ | .receive on _ _ | .close on _ =>
    some (.socket on)
  | .usbOpen _ _ opened => opened.map .device
  | .claim on _ _ | .release on _ _ | .bulkOut on _ _ _ _ _ | .bulkIn on _ _ _ _ _
  | .usbClose on => some (.device on)

def opens : Call → Bool
  | .socket _ _ | .usbOpen _ _ _ => true
  | _ => false

def closes : Call → Bool
  | .close _ _ | .usbClose _ => true
  | _ => false

/-- The call neither opens nor gives back a resource or an interface of it. -/
def works : Call → Bool
  | .socket _ _ | .close _ _ | .usbOpen _ _ _ | .claim _ _ _ | .release _ _ _ | .usbClose _ => false
  | _ => true

/-- The call claims this interface, and it succeeds. -/
def claims (on : UsbHandle) (interface : UInt8) : Call → Bool
  | .claim handle number code => handle = on ∧ number = interface ∧ code = 0
  | _ => false

/-- The call gives this interface back, and it succeeds. -/
def releases (on : UsbHandle) (interface : UInt8) : Call → Bool
  | .release handle number code => handle = on ∧ number = interface ∧ code = 0
  | _ => false

end Call

/-- Everything that was opened was given back, in order and no more than once. -/
structure Balanced (calls : List Call) : Prop where
  opened : ∀ before call after resource, calls = before ++ call :: after →
    call.resource? = some resource → call.opens = false →
    ∃ earlier ∈ before, earlier.opens ∧ earlier.resource? = some resource
  closed : ∀ before call after resource, calls = before ++ call :: after →
    call.resource? = some resource → call.opens →
    after.countP (fun later => later.closes && later.resource? = some resource) = 1
  unused : ∀ before call after resource, calls = before ++ call :: after →
    call.resource? = some resource → call.closes →
    ∀ later ∈ after, later.resource? ≠ some resource
  released : ∀ before on interface after, calls = before ++ .claim on interface 0 :: after →
    ∃ between rest code, after = between ++ .usbClose on :: rest ∧
      .release on interface code ∈ between
  claimed : ∀ before on interface code after,
    calls = before ++ .release on interface code :: after → .claim on interface 0 ∈ before
  once : ∀ on interface,
    calls.countP (Call.releases on interface) ≤ calls.countP (Call.claims on interface)

/-- In a balanced list every socket that was opened is closed somewhere. -/
theorem Balanced.closes_socket {calls : List Call} (balanced : Balanced calls) {kind : SocketKind}
    {on : Descriptor} (opened : .socket kind (.ok on) ∈ calls) :
    ∃ result, .close on result ∈ calls := by
  obtain ⟨before, after, parts⟩ := List.append_of_mem opened
  have one := balanced.closed _ _ _ _ parts rfl rfl
  obtain ⟨call, member, closing⟩ := List.countP_pos_iff.mp (Nat.lt_of_lt_of_eq Nat.one_pos one.symm)
  simp only [Bool.and_eq_true, decide_eq_true_eq] at closing
  obtain ⟨closes, about⟩ := closing
  cases call with
  | close other result =>
    cases about
    exact ⟨result, by rw [parts]; exact List.mem_append_right _ (List.mem_cons_of_mem _ member)⟩
  | usbClose other => cases about
  | _ => cases closes

/-! ### The history of one resource -/

/-- The calls on one resource. -/
def history (resource : Resource) (calls : List Call) : List Call :=
  calls.filter fun call => call.resource? = some resource

theorem history_append (resource : Resource) (front behind : List Call) :
    history resource (front ++ behind) = history resource front ++ history resource behind :=
  List.filter_append ..

theorem history_cons {resource : Resource} {call : Call} (about : call.resource? = some resource)
    (behind : List Call) : history resource (call :: behind) = call :: history resource behind :=
  List.filter_cons_of_pos (by simpa using about)

theorem mem_history {resource : Resource} {calls : List Call} {call : Call} :
    call ∈ history resource calls ↔ call ∈ calls ∧ call.resource? = some resource := by
  simp [history]

theorem history_own {resource : Resource} {calls : List Call}
    (about : ∀ call ∈ calls, call.resource? = some resource) : history resource calls = calls :=
  List.filter_eq_self.mpr fun call member => by simpa using about call member

theorem history_other {resource : Resource} {calls : List Call}
    (about : ∀ call ∈ calls, call.resource? ≠ some resource) : history resource calls = [] :=
  List.filter_eq_nil_iff.mpr fun call member => by simpa using about call member

/-- An interface is given back at once, or it is refused and asked for again. -/
inductive GivesBack (on : UsbHandle) (interface : UInt8) : List Call → Prop
  | once : GivesBack on interface [.release on interface 0]
  | again {first second : Int} (refused : first ≠ 0) :
      GivesBack on interface [.release on interface first, .release on interface second]

/-- The history of a resource that was given back. -/
inductive Spent : Resource → List Call → Prop
  | socket {kind : SocketKind} {on : Descriptor} {uses : List Call} {result : Except Errno Unit}
      (work : ∀ call ∈ uses, call.works) :
      Spent (.socket on) ([.socket kind (.ok on)] ++ uses ++ [.close on result])
  | refused {vendor product : UInt16} {on : UsbHandle} {interface : UInt8} {code : Int}
      (refused : code ≠ 0) :
      Spent (.device on) ([.usbOpen vendor product (some on), .claim on interface code] ++
        [.usbClose on])
  | released {vendor product : UInt16} {on : UsbHandle} {interface : UInt8} {uses back : List Call}
      (work : ∀ call ∈ uses, call.works) (gives : GivesBack on interface back) :
      Spent (.device on) ([.usbOpen vendor product (some on), .claim on interface 0] ++ uses ++
        back ++ [.usbClose on])

theorem GivesBack.neither {on : UsbHandle} {interface : UInt8} {back : List Call}
    (gives : GivesBack on interface back) :
    ∀ call ∈ back, call.opens = false ∧ call.closes = false := by
  cases gives <;> simp [Call.opens, Call.closes]

theorem works_neither {call : Call} (works : call.works) :
    call.opens = false ∧ call.closes = false := by
  cases call <;> simp_all [Call.works, Call.opens, Call.closes]

/-- A spent history starts with its only opening and ends with its only closing. -/
theorem Spent.ends {resource : Resource} {calls : List Call} (spent : Spent resource calls) :
    ∃ first middle last, calls = first :: middle ++ [last] ∧ first.opens ∧ first.closes = false ∧
      last.closes ∧ last.opens = false ∧
      ∀ call ∈ middle, call.opens = false ∧ call.closes = false := by
  cases spent with
  | socket work => exact ⟨_, _, _, rfl, rfl, rfl, rfl, rfl, fun call member =>
      works_neither (work call member)⟩
  | refused refused =>
    exact ⟨_, [_], _, rfl, rfl, rfl, rfl, rfl, by simp [Call.opens, Call.closes]⟩
  | @released vendor product on interface uses back work gives =>
    refine ⟨.usbOpen vendor product (some on), .claim on interface 0 :: uses ++ back, .usbClose on,
      by simp, rfl, rfl, rfl, rfl, ?_⟩
    intro call member
    rcases List.mem_append.mp member with claim | given
    · rcases List.mem_cons.mp claim with rfl | used
      · exact ⟨rfl, rfl⟩
      · exact works_neither (work call used)
    · exact gives.neither call given

/-! ### From histories to the whole list -/

-- A list with only one call of a sort at its end is cut there, wherever such a call is met.

/-- Where only the first element is of a sort, a split at one of that sort is at the front. -/
theorem split_first {α : Type} {p : α → Bool} {front behind rest : List α} {a first : α}
    (parts : front ++ a :: behind = first :: rest) (found : p a) (none : ∀ b ∈ rest, p b = false) :
    front = [] ∧ behind = rest := by
  cases front with
  | nil =>
    simp only [List.nil_append, List.cons.injEq] at parts
    exact ⟨rfl, parts.2⟩
  | cons b front =>
    simp only [List.cons_append, List.cons.injEq] at parts
    have later : a ∈ rest := by
      rw [← parts.2]
      exact List.mem_append_right front List.mem_cons_self
    rw [none a later] at found
    cases found

theorem split_last {α : Type} {p : α → Bool} {front behind rest : List α} {a last : α}
    (parts : front ++ a :: behind = rest ++ [last]) (found : p a)
    (none : ∀ b ∈ rest, p b = false) : front = rest ∧ behind = [] := by
  -- Read from the end, this is the same fact about a first element.
  have mirrored := congrArg List.reverse parts
  simp only [List.reverse_append, List.reverse_cons, List.append_assoc, List.singleton_append,
    List.reverse_nil, List.nil_append] at mirrored
  obtain ⟨empty, same⟩ := split_first mirrored found (by simpa using none)
  exact ⟨List.reverse_inj.mp same, List.reverse_eq_nil_iff.mp empty⟩

section

variable {calls before after : List Call} {call : Call} {resource : Resource}
  (spent : ∀ resource, history resource calls = [] ∨ Spent resource (history resource calls))
  (parts : calls = before ++ call :: after) (about : call.resource? = some resource)

include spent parts about

/-- The history of a resource is spent around each of its calls. -/
theorem spent_around :
    Spent resource (history resource before ++ call :: history resource after) := by
  have own : history resource calls =
      history resource before ++ call :: history resource after := by
    rw [parts, history_append, history_cons about]
  -- The call itself is in this history, so it is not an empty one.
  rcases spent resource with none | whole
  · rw [own] at none
    simp at none
  · rwa [own] at whole

private theorem opened_before (later : call.opens = false) :
    ∃ earlier ∈ before, earlier.opens ∧ earlier.resource? = some resource := by
  obtain ⟨first, middle, last, shape, opens, _⟩ := (spent_around spent parts about).ends
  cases front : history resource before with
  | nil =>
    -- Then the call would be the first of its history, and that is the opening.
    rw [front] at shape
    simp only [List.nil_append, List.cons_append, List.cons.injEq] at shape
    rw [shape.1, opens] at later
    cases later
  | cons earlier rest =>
    rw [front] at shape
    simp only [List.cons_append, List.cons.injEq] at shape
    have member : earlier ∈ history resource before := by
      rw [front]
      exact List.mem_cons_self
    obtain ⟨member, same⟩ := mem_history.mp member
    exact ⟨earlier, member, by rw [shape.1]; exact opens, same⟩

private theorem closed_after (opens : call.opens) :
    after.countP (fun later => later.closes && later.resource? = some resource) = 1 := by
  obtain ⟨first, middle, last, shape, _, _, closes, opensNot, neither⟩ :=
    (spent_around spent parts about).ends
  have none : ∀ other ∈ middle ++ [last], other.opens = false := by
    intro other member
    rcases List.mem_append.mp member with inside | atEnd
    · exact (neither other inside).1
    · rw [List.mem_singleton.mp atEnd]
      exact opensNot
  -- The call is the opening, so all that is behind it is the rest of its history.
  have behind : history resource after = middle ++ [last] := (split_first shape opens none).2
  have only : (history resource after).countP Call.closes = 1 := by
    have inside : middle.countP Call.closes = 0 :=
      List.countP_eq_zero.mpr fun other member => by simp [(neither other member).2]
    rw [behind, List.countP_append, inside, List.countP_singleton, if_pos closes]
  rwa [history, List.countP_filter] at only

private theorem unused_after (closes : call.closes) :
    ∀ later ∈ after, later.resource? ≠ some resource := by
  obtain ⟨first, middle, last, shape, _, closesNot, _, _, neither⟩ :=
    (spent_around spent parts about).ends
  have none : ∀ other ∈ first :: middle, other.closes = false := by
    intro other member
    rcases List.mem_cons.mp member with rfl | inside
    · exact closesNot
    · exact (neither other inside).2
  obtain ⟨_, behind⟩ := split_last shape closes none
  intro later member same
  have listed : later ∈ history resource after := mem_history.mpr ⟨member, same⟩
  rw [behind] at listed
  cases listed

end

/-! ### Interfaces of a device -/

def Call.isClaim : Call → Bool
  | .claim _ _ _ => true
  | _ => false

/-- Giving an interface back is made of releases of it. -/
theorem GivesBack.release {on : UsbHandle} {interface : UInt8} {back : List Call}
    (gives : GivesBack on interface back) :
    (∃ code, .release on interface code ∈ back) ∧
      ∀ call ∈ back, ∃ code, call = .release on interface code := by
  cases gives with
  | once => simp
  | again refused => simp

theorem GivesBack.about {on : UsbHandle} {interface : UInt8} {back : List Call}
    (gives : GivesBack on interface back) :
    ∀ call ∈ back ++ [.usbClose on], call.resource? = some (.device on) := by
  intro call member
  rcases List.mem_append.mp member with given | last
  · obtain ⟨code, rfl⟩ := gives.release.2 call given
    rfl
  · rw [List.mem_singleton.mp last]
    rfl

private theorem GivesBack.countP_le {on : UsbHandle} {interface : UInt8} {back : List Call}
    (gives : GivesBack on interface back) (number : UInt8) :
    back.countP (Call.releases on number) ≤ if number = interface then 1 else 0 := by
  by_cases same : number = interface
  · subst same
    cases gives with
    | once => simp [Call.releases]
    | @again first second refused =>
      rw [if_pos rfl, List.countP_cons_of_neg (by simp [Call.releases, refused])]
      exact List.countP_le_length
  · rw [if_neg same]
    refine Nat.le_of_eq (List.countP_eq_zero.mpr fun call member => ?_)
    obtain ⟨code, rfl⟩ := gives.release.2 call member
    simp [Call.releases, Ne.symm same]

theorem works_not {call : Call} (works : call.works) (on : UsbHandle) (interface : UInt8) :
    call.isClaim = false ∧ call.claims on interface = false ∧ call.releases on interface = false ∧
      ∀ code, call ≠ .release on interface code := by
  cases call <;> simp_all [Call.works, Call.isClaim, Call.claims, Call.releases]

private theorem claims_about {on : UsbHandle} {interface : UInt8} {call : Call}
    (claims : call.claims on interface) : call.resource? = some (.device on) := by
  cases call with
  | claim handle number code =>
    simp only [Call.claims, decide_eq_true_eq] at claims
    rw [Call.resource?, claims.1]
  | _ => cases claims

private theorem releases_about {on : UsbHandle} {interface : UInt8} {call : Call}
    (releases : call.releases on interface) : call.resource? = some (.device on) := by
  cases call with
  | release handle number code =>
    simp only [Call.releases, decide_eq_true_eq] at releases
    rw [Call.resource?, releases.1]
  | _ => cases releases

section

variable {calls : List Call} {on : UsbHandle}

private theorem Spent.claim_next {front behind : List Call} {interface : UInt8}
    (spent : Spent (.device on) (front ++ .claim on interface 0 :: behind)) :
    ∃ uses back, behind = uses ++ back ++ [.usbClose on] ∧ (∀ call ∈ uses, call.works) ∧
      GivesBack on interface back := by
  generalize whole : front ++ .claim on interface 0 :: behind = calls at spent
  cases spent with
  | @refused _ _ _ number code refused =>
    -- The only claim of this history failed, so it is not the one that is given.
    have member : Call.claim on interface 0 ∈ front ++ .claim on interface 0 :: behind := by simp
    rw [whole] at member
    simp only [List.cons_append, List.nil_append, List.mem_cons, reduceCtorEq, Call.claim.injEq,
      List.not_mem_nil, or_false, false_or] at member
    exact absurd member.2.2.symm refused
  | @released vendor product _ number uses back work gives =>
    have later : ∀ call ∈ uses ++ back ++ [.usbClose on], call.isClaim = false := by
      intro call member
      simp only [List.append_assoc, List.mem_append, List.mem_singleton] at member
      rcases member with used | given | rfl
      · exact (works_not (work call used) on number).1
      · obtain ⟨code, rfl⟩ := gives.release.2 call given
        rfl
      · rfl
    -- Behind the opening comes the only claim.
    cases front with
    | nil => simp at whole
    | cons first front =>
      simp only [List.cons_append, List.nil_append, List.append_assoc, List.cons.injEq] at whole
      obtain ⟨empty, rest⟩ := split_first whole.2 rfl (by simpa using later)
      rw [empty, List.nil_append, List.cons.injEq, Call.claim.injEq] at whole
      obtain ⟨_, ⟨_, rfl, _⟩, _⟩ := whole
      exact ⟨uses, back, by simp [rest], work, gives⟩

private theorem Spent.claim_earlier {front behind : List Call} {interface : UInt8} {code : Int}
    (spent : Spent (.device on) (front ++ .release on interface code :: behind)) :
    .claim on interface 0 ∈ front := by
  generalize whole : front ++ .release on interface code :: behind = calls at spent
  have member : Call.release on interface code ∈ front ++ .release on interface code :: behind := by
    simp
  rw [whole] at member
  cases spent with
  | refused refused => simp at member
  | @released vendor product _ number uses back work gives =>
    -- Only the interface that was claimed is given back.
    have same : interface = number := by
      simp only [List.append_assoc, List.mem_append, List.mem_cons, List.not_mem_nil, reduceCtorEq,
        or_false, false_or] at member
      rcases member with used | given
      · exact absurd rfl ((works_not (work _ used) on interface).2.2.2 code)
      · obtain ⟨other, equal⟩ := gives.release.2 _ given
        rw [Call.release.injEq] at equal
        exact equal.2.1
    subst same
    -- The opening and the claim are in front of every release.
    rcases front with _ | ⟨first, _ | ⟨second, front⟩⟩
    · simp at whole
    · simp at whole
    · simp only [List.cons_append, List.nil_append, List.append_assoc, List.cons.injEq] at whole
      rw [whole.2.1]
      simp

/-- In a history that is spent no interface is given back more often than it was claimed. -/
private theorem Spent.countP_le (spent : Spent (.device on) calls) (interface : UInt8) :
    calls.countP (Call.releases on interface) ≤ calls.countP (Call.claims on interface) := by
  cases spent with
  | refused refused => simp [Call.releases]
  | @released vendor product _ number uses back work gives =>
    have idle : uses.countP (Call.releases on interface) = 0 :=
      List.countP_eq_zero.mpr fun call member => by
        simp [(works_not (work call member) on interface).2.2.1]
    -- Of the two attempts to give it back only the second can succeed.
    have given := gives.countP_le interface
    simp only [List.countP_append, idle, List.countP_cons, List.countP_nil, Call.releases,
      Call.claims]
    split at given
    · next same =>
      subst same
      simp
      omega
    · simp
      omega

end

/-- Where every history is spent the whole list is balanced. -/
theorem Balanced.of_spent {calls : List Call}
    (spent : ∀ resource, history resource calls = [] ∨ Spent resource (history resource calls)) :
    Balanced calls where
  opened _ _ _ _ parts about later := opened_before spent parts about later
  closed _ _ _ _ parts about opens := closed_after spent parts about opens
  unused _ _ _ _ parts about closes := unused_after spent parts about closes
  released := by
    intro before on interface after parts
    obtain ⟨uses, back, behind, work, gives⟩ := (spent_around spent parts rfl).claim_next
    -- The closing call comes after all that is given back.
    have closing : .usbClose on ∈ history (.device on) after := by
      rw [behind]
      exact List.mem_append_right _ List.mem_cons_self
    obtain ⟨between, rest, split⟩ := List.append_of_mem (mem_history.mp closing).1
    have neither : ∀ call ∈ uses ++ back, call.closes = false := by
      intro call member
      rcases List.mem_append.mp member with used | given
      · exact (works_neither (work call used)).2
      · exact (gives.neither call given).2
    rw [split, history_append, history_cons rfl] at behind
    obtain ⟨same, _⟩ := split_last behind rfl neither
    obtain ⟨code, given⟩ := gives.release.1
    have member : .release on interface code ∈ history (.device on) between := by
      rw [same]
      exact List.mem_append_right _ given
    exact ⟨between, rest, code, split, (mem_history.mp member).1⟩
  claimed _ _ _ _ _ parts := (mem_history.mp (spent_around spent parts rfl).claim_earlier).1
  once on interface := by
    -- Both counts are those of the history of this device.
    have own (p : Call → Bool) (about : ∀ call, p call → call.resource? = some (.device on)) :
        calls.countP p = (history (.device on) calls).countP p := by
      rw [history, List.countP_filter]
      refine List.countP_congr fun call _ => ?_
      simp only [Bool.and_eq_true, decide_eq_true_eq]
      exact ⟨fun holds => ⟨holds, about call holds⟩, And.left⟩
    rw [own (Call.releases on interface) fun _ => releases_about,
      own (Call.claims on interface) fun _ => claims_about]
    rcases spent (.device on) with none | whole
    · rw [none]
      exact Nat.le_refl 0
    · exact whole.countP_le interface

end BrickControl
