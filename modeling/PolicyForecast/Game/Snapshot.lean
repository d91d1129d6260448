import PolicyForecast.Fault
import PolicyForecast.Json.Value
import PolicyForecast.OrderedMap

/-!
# A snapshot of a running game

A preview reads the map, the players and what they own from a snapshot and never changes it. Plots
and players are found by number and listed in the order in which the snapshot gives them. Whole
numbers have any size; the maintenance of a unit may also be a double.
-/

namespace PolicyForecast

/-- A tile of the map. -/
structure Plot where
  index : Int
  x : Int
  y : Int
  terrain : Option String := none
  feature : Option String := none
  resource : Option String := none
  resourceRevealed : Bool := true
  coastalLand : Bool := false
  river : Bool := false
  naturalWonder : Bool := false
  district : Option String := none
  constructibles : List (Option String) := []

/-- A city or town. -/
structure City where
  id : Int
  name : Option String
  owner : Int
  founder : Option Int := none
  location : Option Int := none
  isCapital : Bool := false
  isTown : Bool := false
  isDistantLands : Bool := false
  population : Int := 0
  urbanPopulation : Int := 0
  ruralPopulation : Int := 0
  purchasedPlots : List Int := []
  project : Option String := none
  majorityReligion : Option String := none
  greatWorks : Int := 0
  resources : List (Option String) := []
  yieldTraces : OrderedMap String Json := ∅

/-- The inhabitants of a city who work neither in a building nor on the land. -/
def City.specialists (c : City) : Int :=
  c.population - c.urbanPopulation - c.ruralPopulation

/-- A unit of a player. -/
structure GameUnit where
  id : Int
  unitType : Option String
  owner : Int
  location : Option Int := none
  maintenance : Quantity := .real 0.0
  isCommander : Bool := false
  level : Int := 0

/-- A player: a civilization or a city-state. -/
structure Player where
  id : Int
  isMajor : Bool := true
  isAlive : Bool := true
  leader : Option String := none
  civilization : Option String := none
  cities : List City := []
  units : List GameUnit := []
  activeTraditions : List (Option String) := []
  spentAttributePoints : OrderedMap String Int := ∅
  religion : Option String := none
  resources : List (Option String) := []
  allies : List Int := []
  atWarWith : List Int := []
  suzerain : Option Int := none
  yieldTraces : OrderedMap String Json := ∅

/-- The first city of a player that is marked as capital. -/
def Player.capital? (p : Player) : Option City :=
  p.cities.find? City.isCapital

/-- A map of hexagons in rows, closed from east to west. -/
structure HexMap where
  width : Int := 0
  height : Int := 0
  plots : OrderedMap Int Plot := ∅

/-- The plot stored under a number. -/
def HexMap.plot? (m : HexMap) (index : Int) : Option Plot :=
  m.plots.get? index

/-- The plot of a location that may be missing. -/
def HexMap.plotAt? (m : HexMap) (location : Option Int) : Option Plot :=
  location.bind m.plot?

/-- Everything that a preview asks of the running game. -/
structure Snapshot where
  localPlayerId : Option Int
  players : OrderedMap Int Player := ∅
  map : HexMap := {}
  age : Option String := none

namespace Snapshot

/-- The player stored under an id. -/
def player? (g : Snapshot) (id : Option Int) : Option Player :=
  id.bind g.players.get?

/-- The player who looks at the preview. -/
def localPlayer (g : Snapshot) : Except Fault Player :=
  (g.player? g.localPlayerId).elim (.error (.unknownPlayer g.localPlayerId)) .ok

/-- The players who are still in the game, in order. -/
def alivePlayers (g : Snapshot) : List Player :=
  g.players.values.filter Player.isAlive

/-- The first city with an id, over all players in order. -/
def city? (g : Snapshot) (id : Int) : Option City :=
  (g.players.values.flatMap Player.cities).find? (·.id == id)

/-- The first unit with an id, over all players in order. -/
def unit? (g : Snapshot) (id : Int) : Option GameUnit :=
  (g.players.values.flatMap Player.units).find? (·.id == id)

end Snapshot

end PolicyForecast
