import PolicyForecast.Game.Snapshot
import PolicyForecast.Settings.Basic

/-!
# What a preview reads

What a preview reads of the game and the settings. The rules are no part of it: what is needed of
them is asked for.
-/

namespace PolicyForecast

/-- Everything that a preview reads besides the rules. -/
structure Scene where
  game : Snapshot
  /-- The player for whom the preview is made. -/
  player : Player
  settings : Settings

end PolicyForecast
