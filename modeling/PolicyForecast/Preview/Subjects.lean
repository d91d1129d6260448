import PolicyForecast.Preview.Requirements
import PolicyForecast.Rules.Modifier

/-!
# The subjects of a modifier

A modifier names a collection of the player's possessions. Of these its subjects are the ones for
which its subject requirements hold, in the order of the collection; an empty subject needs no
requirements. A modifier has no subjects at all when its owner requirements fail for the player.
-/

namespace PolicyForecast

/-- What modifiers can be applied to together. -/
inductive Collection where
  /-- The capital, or an empty subject. -/
  | capital
  | cities
  /-- The plots of all cities. -/
  | plots
  | owner
  /-- The plots of the city that the modifier was attached to. -/
  | cityPlots
  | units
  /-- Known, but without subjects. -/
  | unsupported
deriving DecidableEq, Repr

namespace Collection

/-- The collections by their types. Only cities of the player add to the player's yields, so all
cities are those of the player. -/
def named : List (String × Collection) :=
  [("COLLECTION_PLAYER_CAPITAL_CITY", .capital),
   ("COLLECTION_PLAYER_CITIES", .cities),
   ("COLLECTION_ALL_CITIES", .cities),
   ("COLLECTION_PLAYER_PLOT_YIELDS", .plots),
   ("COLLECTION_OWNER", .owner),
   ("COLLECTION_CITY_PLOT_YIELDS", .cityPlots),
   ("COLLECTION_PLAYER_UNITS", .units),
   ("COLLECTION_CITIES_FOLLOWING_OWNER_RELIGION", .unsupported),
   ("COLLECTION_PLAYER_COMBAT", .unsupported),
   ("COLLECTION_UNIT_COMBAT", .unsupported),
   ("COLLECTION_ALL_UNITS", .unsupported)]

/-- The collection of a type, if it is known. -/
def ofType? (type : Option String) : Option Collection :=
  type.bind fun t => named.lookup t

/-- The subjects that the plots of a city are. -/
def plotsOf (m : HexMap) (c : City) : List Subject :=
  (m.cityPlots c).map (.plot c)

/-- The members of a collection. -/
def members (s : Scene) (parent : Option Subject) : Collection → Evaluation (List Subject)
  | .capital =>
    match s.player.capital? with
    | some c => return [.city c]
    | none => return [.empty s!"Player {s.player.id} has no capital"]
  | .cities => return s.player.cities.map .city
  | .plots => return s.player.cities.flatMap (plotsOf s.game.map)
  | .owner => return [.player s.player]
  | .cityPlots =>
    match parent.bind Subject.city? with
    | some c => return plotsOf s.game.map c
    | none => do
      .note (.error "COLLECTION_CITY_PLOT_YIELDS requires a parent City subject")
      return []
  | .units => return s.player.units.map .unit
  | .unsupported => return []

end Collection

namespace Modifier

/-- The subjects of a modifier before its requirements are regarded. -/
def candidates (s : Scene) (m : Modifier) (parent : Option Subject) : Evaluation (List Subject) :=
  match Collection.ofType? m.collection with
  | some collection => collection.members s parent
  | none => do
    .note (.missing s!"Unhandled CollectionType: {Wording.name m.collection} ({m.id})")
    return []

/-- Whether a subject stays: it is empty, or the subject requirements hold for it. -/
def admits (s : Scene) (m : Modifier) (subject : Subject) : Evaluation Bool :=
  if subject.isEmpty then return true else m.subjectSet.holds s subject

/-- Whether the player meets the owner requirements, so far as these are regarded. -/
def ownerMeets (s : Scene) (m : Modifier) : Evaluation Bool :=
  if s.settings.evaluateOwnerRequirements then m.ownerSet.holds s (.player s.player)
  else return true

/-- The subjects of a modifier, which is attached to `parent` if anything. -/
def subjects (s : Scene) (m : Modifier) (parent : Option Subject) : Evaluation (List Subject) := do
  if ← m.ownerMeets s then selectM (m.admits s) (← m.candidates s parent) else return []

end Modifier

end PolicyForecast
