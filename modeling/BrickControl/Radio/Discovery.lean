import BrickControl.Act
import BrickControl.Duration
import BrickControl.Radio.Address

/-!
# Discovery

A name is resolved by searching for peers and asking each of them for its name, in the order of the
search, until one answers with exactly the name that was asked for. How long this takes is limited
by the settings of the radio backend.
-/
namespace BrickControl.Radio

/-- How peers are searched for and how they are connected to. -/
structure Config where
  /-- The channel on which the brick listens. -/
  channel : UInt8 := 1
  /-- The length of a search in units of 1.28 s. -/
  inquiryLength : UInt8 := 8
  /-- The most answers that a search collects. -/
  maxResponses : UInt8 := 255
  /-- How long to wait for each name. -/
  nameTimeout : Duration := Duration.ofSeconds 5

/-- The name that a brick carries from the factory. -/
def defaultDestination : String := "NXT"

/-- Something that finds peers and asks them for their names. -/
structure PeerScanner (σ : Type) where
  /-- The addresses of all peers that answered a search. -/
  scan : Act σ IoError (List Address)
  /-- The name of one peer. -/
  remoteName : Address → Act σ IoError String

namespace PeerScanner

variable {σ : Type}

/-- The first of these peers that carries the name. A peer that does not tell its name is passed
over. -/
def firstNamed (scanner : PeerScanner σ) (name : String) :
    List Address → Act σ TransportError Address
  | [] => Act.fail (.nameNotFound name)
  | peer :: others => do
    match ← (scanner.remoteName peer).attempt with
    | .ok found => if found = name then pure peer else scanner.firstNamed name others
    | .error _ => scanner.firstNamed name others

/-- The address of the first peer in reach that carries the name. -/
def resolve (scanner : PeerScanner σ) (name : String) : Act σ TransportError Address := do
  let peers ← scanner.scan.mapError .discovery
  scanner.firstNamed name peers

end PeerScanner
end BrickControl.Radio
