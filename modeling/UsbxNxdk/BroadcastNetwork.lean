import Mathlib.Data.List.FinRange
import Mathlib.Order.Bounds.Defs
import UsbxNxdk.BoundedMultiset

/-! Stations on a broadcast medium with a fixed number of places, as a transition
relation over any owners, addresses and frames. -/

namespace UsbxNxdk.BroadcastNetwork

open BoundedMultiset

structure Station (Owner Address : Type*) where
  owner : Owner
  address : Address
  groups : Multiset Address

abbrev Network (size : Nat) (Owner Address : Type*) := Fin size → Option (Station Owner Address)

/-- What is fixed for a medium: how many groups a station can be in, the
addresses that every station hears, the address that is no group, the address of
a new station, and the owners whose stations are one to a change of address. -/
structure Medium (size : Nat) (Owner Address : Type*) where
  capacity : Nat
  common : Set Address
  nobody : Address
  assigned : Fin size → Address
  related : Owner → Owner → Prop

/-- `reliable` says that no copy of the frame is lost. -/
inductive Operation (Address Frame : Type*) where
  | attach
  | remove
  | join (group : Address)
  | leave (group : Address)
  | readdress (address : Address)
  | send (destination : Address) (frame : Frame) (reliable : Prop)
  | inspect
  | unsupported

structure Request (Owner Address Frame : Type*) where
  owner : Owner
  operation : Operation Address Frame

inductive Outcome where
  | accepted
  | unplaced
  | full
  | absent
  | unsupported
  deriving DecidableEq, Repr

structure Delivery (size : Nat) (Owner Frame : Type*) where
  place : Fin size
  owner : Owner
  frame : Frame

structure Report (size : Nat) (Owner Frame : Type*) where
  outcome : Outcome
  deliveries : List (Delivery size Owner Frame)

variable {size : Nat} {Owner Address Frame : Type*} [DecidableEq Address]

/-- The groups after one more; the address that is no group takes no room. -/
def Medium.enter (medium : Medium size Owner Address) (group : Address)
    (groups : Multiset Address) : Option (Multiset Address) :=
  if group = medium.nobody then
    if groups.card < medium.capacity then some groups else none
  else add medium.capacity group groups

def Medium.quit (medium : Medium size Owner Address) (group : Address)
    (groups : Multiset Address) : Option (Multiset Address) :=
  if group = medium.nobody then
    if groups.card < medium.capacity then some groups else none
  else remove group groups

open scoped Classical in
noncomputable def Medium.copies (medium : Medium size Owner Address)
    (station : Station Owner Address) (destination : Address) : Nat :=
  if destination = station.address ∨ destination ∈ medium.common then 1
  else station.groups.count destination

noncomputable def Medium.audience (medium : Medium size Owner Address)
    (network : Network size Owner Address) (sender : Fin size) (destination : Address)
    (frame : Frame) : List (Delivery size Owner Frame) :=
  (List.finRange size).flatMap fun place =>
    match network place with
    | none => []
    | some station =>
        if place = sender then []
        else List.replicate (medium.copies station destination) ⟨place, station.owner, frame⟩

structure Home (network : Network size Owner Address) (owner : Owner) (place : Fin size)
    (station : Station Owner Address) : Prop where
  here : network place = some station
  own : station.owner = owner
  first : ∀ earlier < place, ∀ other, network earlier = some other → other.owner ≠ owner

inductive Medium.Transition (medium : Medium size Owner Address)
    (network : Network size Owner Address) :
    Request Owner Address Frame → Report size Owner Frame → Network size Owner Address → Prop where
  | attached {owner : Owner} {place : Fin size}
      (free : IsLeast {place | network place = none} place) :
      Transition medium network ⟨owner, .attach⟩ ⟨.accepted, []⟩
        (Function.update network place (some ⟨owner, medium.assigned place, 0⟩))
  | crowded {owner : Owner} (taken : ∀ place, network place ≠ none) :
      Transition medium network ⟨owner, .attach⟩ ⟨.unplaced, []⟩ network
  | unknown {owner : Owner} {operation : Operation Address Frame} (other : operation ≠ .attach)
      (unplaced : ∀ place station, ¬ Home network owner place station) :
      Transition medium network ⟨owner, operation⟩ ⟨.unplaced, []⟩ network
  | removed {owner : Owner} {place : Fin size} {station : Station Owner Address}
      (home : Home network owner place station) :
      Transition medium network ⟨owner, .remove⟩ ⟨.accepted, []⟩
        (Function.update network place none)
  | joined {owner : Owner} {place : Fin size} {station : Station Owner Address}
      {group : Address} {groups : Multiset Address} (home : Home network owner place station)
      (room : medium.enter group station.groups = some groups) :
      Transition medium network ⟨owner, .join group⟩ ⟨.accepted, []⟩
        (Function.update network place (some { station with groups := groups }))
  | full {owner : Owner} {place : Fin size} {station : Station Owner Address} {group : Address}
      (home : Home network owner place station)
      (full : medium.enter group station.groups = none) :
      Transition medium network ⟨owner, .join group⟩ ⟨.full, []⟩ network
  | left {owner : Owner} {place : Fin size} {station : Station Owner Address}
      {group : Address} {groups : Multiset Address} (home : Home network owner place station)
      (held : medium.quit group station.groups = some groups) :
      Transition medium network ⟨owner, .leave group⟩ ⟨.accepted, []⟩
        (Function.update network place (some { station with groups := groups }))
  | absent {owner : Owner} {place : Fin size} {station : Station Owner Address} {group : Address}
      (home : Home network owner place station)
      (absent : medium.quit group station.groups = none) :
      Transition medium network ⟨owner, .leave group⟩ ⟨.absent, []⟩ network
  | readdressed {owner : Owner} {place target : Fin size}
      {station changed : Station Owner Address} {address : Address}
      (home : Home network owner place station) (here : network target = some changed)
      (related : medium.related changed.owner owner)
      (first : ∀ earlier < target, ∀ other, network earlier = some other →
        ¬ medium.related other.owner owner) :
      Transition medium network ⟨owner, .readdress address⟩ ⟨.accepted, []⟩
        (Function.update network target (some { changed with address := address }))
  | sent {owner : Owner} {place : Fin size} {station : Station Owner Address}
      {destination : Address} {frame : Frame} {reliable : Prop}
      {deliveries : List (Delivery size Owner Frame)} (home : Home network owner place station)
      (heard : deliveries <+: medium.audience network place destination frame)
      (whole : reliable → deliveries = medium.audience network place destination frame) :
      Transition medium network ⟨owner, .send destination frame reliable⟩
        ⟨.accepted, deliveries⟩ network
  | inspected {owner : Owner} {place : Fin size} {station : Station Owner Address}
      (home : Home network owner place station) :
      Transition medium network ⟨owner, .inspect⟩ ⟨.accepted, []⟩ network
  | unsupported {owner : Owner} {place : Fin size} {station : Station Owner Address}
      (home : Home network owner place station) :
      Transition medium network ⟨owner, .unsupported⟩ ⟨.unsupported, []⟩ network

end UsbxNxdk.BroadcastNetwork
