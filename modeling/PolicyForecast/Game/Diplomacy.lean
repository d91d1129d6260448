import PolicyForecast.Game.Snapshot

/-!
# Relations between players

Relations name players by id. A relation to a player who is not in the game any more, or to whom
the snapshot knows nothing, does not count.
-/

namespace PolicyForecast

/-- The city-states whose suzerain a player is. -/
def suzerainCityStates (g : Snapshot) (p : Player) : List Player :=
  g.alivePlayers.filter fun other => !other.isMajor && other.suzerain == some p.id

/-- The major players in the game among ids. -/
def majorsAmong (g : Snapshot) (ids : List Int) : List Player :=
  (ids.filterMap g.players.get?).filter fun other => other.isAlive && other.isMajor

/-- The major players that a player is allied with, once for each alliance. -/
def alliedMajors (g : Snapshot) (p : Player) : List Player :=
  (majorsAmong g p.allies).filter (·.id != p.id)

/-- Whether a player is at war with no major player. -/
def isAtPeaceWithMajors (g : Snapshot) (p : Player) : Bool :=
  (majorsAmong g p.atWarWith).isEmpty

end PolicyForecast
