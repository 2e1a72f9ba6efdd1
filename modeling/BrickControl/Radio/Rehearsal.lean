import BrickControl.Radio.Discovery

/-!
# Rehearsed searches

A finder of peers that answers from a list: the search yields the addresses, and the name requests
are answered in the order of the list, whichever peer they go to.
-/
namespace BrickControl.Radio

/-- One call on a rehearsed finder. -/
inductive SearchCall where
  | scan
  | remoteName (peer : Address)

/-- A finder that answers from a list. -/
structure SearchPlan where
  /-- What the search yields. -/
  found : Except IoError (List Address)
  /-- The answers to name requests. -/
  names : List (Except IoError String)
  /-- The calls made so far, the latest one first. -/
  made : List SearchCall := []

namespace SearchPlan

/-- The plan as a finder of peers. A request beyond the list finds nobody. -/
def scanner : PeerScanner SearchPlan where
  scan := fun plan => (plan.found, { plan with made := .scan :: plan.made })
  remoteName := fun peer plan =>
    let made := .remoteName peer :: plan.made
    match plan.names with
    | [] => (.error (.bare .notFound), { plan with made })
    | first :: names => (first, { plan with names, made })

end SearchPlan
end BrickControl.Radio
