import Mathlib.Data.List.DropRight
import Restripe.Proofs.FileSystem.Address
import Restripe.Proofs.Text.Lossy

/-!
# Where a path leads from any directory

A path goes up from the directory it starts from, as often as it asks for more parents than it has
named directories, and then down its own names; an absolute path starts at the root instead.  This
much of a path says where it leads from every directory, and what is shown of a path differs from
the path in the names only.
-/

namespace Restripe

/-- The way that a path takes from the directory it starts from. -/
structure Route where
  /-- Whether the way starts at the root instead. -/
  rooted : Bool
  /-- How many directories the way goes up. -/
  climbs : Nat
  /-- The names that the way then goes down. -/
  names : List Bytes

namespace Route

def stay : Route := ⟨false, 0, []⟩

def follow (route : Route) : Component → Route
  | .root => ⟨true, 0, []⟩
  | .current => route
  | .parent =>
      if route.names = [] then { route with climbs := route.climbs + 1 }
      else { route with names := route.names.dropLast }
  | .named name => { route with names := route.names ++ [name] }

/-- Where the way turns down, from a directory. -/
def turn (route : Route) (start : Address) : Address :=
  if route.rooted then [] else start.rdrop route.climbs

/-- Where the way ends, from a directory. -/
def lead (route : Route) (start : Address) : Address :=
  route.turn start ++ route.names

def shown (route : Route) : Route :=
  { route with names := route.names.map Utf8.shown }

@[simp]
theorem turn_shown (route : Route) (start : Address) : route.shown.turn start = route.turn start :=
  rfl

/-- A component takes the end of a way where it takes an address. -/
theorem lead_follow (route : Route) (component : Component) (start : Address) :
    (route.follow component).lead start = component.follow (route.lead start) := by
  cases component with
  | root => rfl
  | current => rfl
  | parent =>
      by_cases empty : route.names = []
      · have above : start.rdrop (route.climbs + 1) = (start.rdrop route.climbs).dropLast := by
          rw [List.rdrop, List.rdrop, List.dropLast_eq_take, List.take_take, List.length_take]
          congr 1
          omega
        by_cases rooted : route.rooted = true <;>
          simp [follow, lead, turn, Component.follow, empty, rooted, above]
      · simp [follow, lead, turn, Component.follow, empty, List.dropLast_append_of_ne_nil]
  | named name => exact (List.append_assoc (route.turn start) route.names [name]).symm

/-- Two ways end at one place if they turn down at one place and have the same names. -/
theorem lead_shown_eq {route : Route} {left right : Address} :
    route.shown.lead left = route.lead right ↔
      route.turn left = route.turn right ∧ ∀ name ∈ route.names, Utf8.shown name = name := by
  constructor
  · intro same
    obtain ⟨turns, names⟩ := List.append_inj' same (by simp [shown])
    exact ⟨turns, List.map_inj_left.mp (names.trans (List.map_id _).symm)⟩
  · rintro ⟨turns, names⟩
    have unchanged : route.names.map Utf8.shown = route.names :=
      (List.map_congr_left names).trans (List.map_id _)
    simp only [lead, turn_shown, turns]
    simp only [shown, unchanged]

/-- Two directories share the place where a way turns down if the way starts at the root, or if it
goes up to a directory above both. -/
theorem turn_eq_iff {route : Route} {left right : Address} :
    route.turn left = route.turn right ↔
      route.rooted = true ∨ left.rdrop route.climbs = right.rdrop route.climbs := by
  by_cases rooted : route.rooted = true <;> simp [turn, rooted]

end Route

/-! ## The way of a path -/

def Path.route (path : Path) : Route :=
  path.components.foldl Route.follow .stay

namespace FileSystem

theorem target_eq_lead (fs : FileSystem) (path : Path) :
    fs.target path = path.route.lead fs.workingDirectory := by
  have start : Route.stay.lead fs.workingDirectory = fs.workingDirectory := by
    simp [Route.stay, Route.lead, Route.turn]
  conv_lhs => rw [target, ← start]
  exact List.foldl_hom (Route.lead · fs.workingDirectory) fun route component =>
    (route.lead_follow component fs.workingDirectory).symm

end FileSystem

namespace Path

theorem rooted_foldl (components : List Component) (route : Route) :
    (components.foldl Route.follow route).rooted = true ↔
      route.rooted = true ∨ .root ∈ components := by
  induction components generalizing route with
  | nil => simp
  | cons component components ih =>
      rw [List.foldl_cons, ih]
      cases component with
      | parent => by_cases empty : route.names = [] <;> simp [Route.follow, empty]
      | _ => simp [Route.follow]

theorem root_notMem_map_component (segments : List Bytes) :
    .root ∉ segments.map component := by
  intro member
  obtain ⟨segment, -, same⟩ := List.mem_map.mp member
  unfold component at same
  split at same <;> contradiction

/-- Just the way of an absolute path starts at the root. -/
theorem rooted_route (path : Path) : path.route.rooted = path.isAbsolute := by
  rw [Bool.eq_iff_iff, route, rooted_foldl, isAbsolute_iff]
  rcases cut : segments path.bytes with ⟨first, others⟩
  rw [components_of_segments cut, List.mem_append]
  by_cases empty : first = []
  · by_cases single : others = [] <;>
      simp [Route.stay, leadingComponent, empty, single, root_notMem_map_component]
  · have single : Component.root ∉ [component first] := root_notMem_map_component [first]
    by_cases current : first = currentSegment <;>
      simp_all [Route.stay, leadingComponent, root_notMem_map_component]

/-! ## What is shown of a path -/

/-- The path that is spelled by what is shown of a path. -/
def shown (path : Path) : Path :=
  ⟨Utf8.shown path.bytes⟩

theorem ofString_display (path : Path) : ofString path.display = path.shown := by
  simp [ofString, display, shown, Utf8.shown, Bytes.ofString]

theorem bytes_ofSegments_cons (first segment : Bytes) (others : List Bytes) :
    (ofSegments first (segment :: others)).bytes =
      first ++ separator :: (ofSegments segment others).bytes := by
  simp [ofSegments]

theorem segments_shown_ofSegments {first : Bytes} {others : List Bytes}
    (plain : separator ∉ first) (othersPlain : ∀ segment ∈ others, separator ∉ segment) :
    segments (ofSegments first others).shown.bytes = (Utf8.shown first, others.map Utf8.shown) := by
  have firstPlain : separator ∉ Utf8.shown first := fun member =>
    plain (Utf8.mem_of_mem_shown (by decide) member)
  induction others generalizing first with
  | nil => simpa [ofSegments, shown] using segments_of_notMem firstPlain
  | cons segment others ih =>
      simp only [List.forall_mem_cons] at othersPlain
      have rest := ih othersPlain.1 othersPlain.2 fun member =>
        othersPlain.1 (Utf8.mem_of_mem_shown (by decide) member)
      simp only [shown] at rest ⊢
      rw [bytes_ofSegments_cons, Utf8.shown_append_ascii (by decide), segments_append, rest,
        segments_of_notMem firstPlain, List.map_cons, List.nil_append]

theorem segments_shown (path : Path) :
    segments path.shown.bytes =
      (Utf8.shown (segments path.bytes).1, (segments path.bytes).2.map Utf8.shown) := by
  obtain ⟨plain, othersPlain⟩ := notMem_segments path.bytes
  rw [← segments_shown_ofSegments plain othersPlain, ofSegments_segments]

section Segment

variable (segment : Bytes)

theorem shown_eq_nil : Utf8.shown segment = [] ↔ segment = [] :=
  @Utf8.shown_eq_encode segment [] (by decide)

theorem shown_eq_currentSegment : Utf8.shown segment = currentSegment ↔ segment = currentSegment :=
  @Utf8.shown_eq_encode segment ['.'] (by decide)

theorem shown_eq_parentSegment : Utf8.shown segment = parentSegment ↔ segment = parentSegment :=
  @Utf8.shown_eq_encode segment ['.', '.'] (by decide)

theorem isSilent_shown : isSilent (Utf8.shown segment) = isSilent segment := by
  refine Bool.eq_iff_iff.mpr ?_
  simp [isSilent, shown_eq_nil, shown_eq_currentSegment]

end Segment

end Path

def Component.shown : Component → Component
  | .named name => .named (Utf8.shown name)
  | component => component

namespace Path

theorem component_shown (segment : Bytes) :
    component (Utf8.shown segment) = (component segment).shown := by
  by_cases parent : segment = parentSegment <;>
    simp [component, shown_eq_parentSegment, parent, Component.shown]

theorem leadingComponent_shown (first : Bytes) (hasOthers : Bool) :
    leadingComponent (Utf8.shown first) hasOthers =
      (leadingComponent first hasOthers).map Component.shown := by
  by_cases empty : first = []
  · cases hasOthers <;> simp [leadingComponent, shown_eq_nil, empty, Component.shown]
  · have notEmpty : currentSegment ≠ [] := by decide
    by_cases current : first = currentSegment <;>
      simp [leadingComponent, shown_eq_nil, shown_eq_currentSegment, empty, current, notEmpty,
        component_shown, Component.shown]

/-- A path is shown with its names as they are shown, and with no other change. -/
theorem components_shown (path : Path) :
    path.shown.components = path.components.map Component.shown := by
  rw [components_of_segments (segments_shown path), components_of_segments (Prod.eta _).symm,
    leadingComponent_shown, List.map_append, List.filter_map, List.map_map, List.map_map]
  simp only [List.isEmpty_map, Function.comp_def, isSilent_shown, component_shown]

theorem route_shown (path : Path) : path.shown.route = path.route.shown := by
  rw [route, components_shown, List.foldl_map]
  have start : Route.stay.shown = Route.stay := rfl
  conv_lhs => rw [← start]
  refine List.foldl_hom Route.shown fun route component => ?_
  cases component with
  | parent => by_cases empty : route.names = [] <;> simp [Route.follow, Route.shown, empty,
      Component.shown]
  | _ => simp [Route.follow, Route.shown, Component.shown]

end Path

namespace FileSystem

/-- What is shown of a path leads from one directory where the path leads from another, if the path
turns down at one place from both and all its names are text. -/
theorem target_shown_eq_iff (here there : FileSystem) (path : Path) :
    here.target path.shown = there.target path ↔
      (path.isAbsolute = true ∨
        here.workingDirectory.rdrop path.route.climbs =
          there.workingDirectory.rdrop path.route.climbs) ∧
        ∀ name ∈ path.route.names, ∃ text, Utf8.decode? name = some text := by
  rw [target_eq_lead, target_eq_lead, Path.route_shown, Route.lead_shown_eq, Route.turn_eq_iff,
    Path.rooted_route]
  simp only [Utf8.shown_eq_self]

end FileSystem

end Restripe
