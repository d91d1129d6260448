import PolicyForecast.Proofs.AlikeScenes

/-!
# The same scene under other settings

A scene looks the same whatever the settings are. So the subjects of a modifier depend on nothing
but whether owner requirements take part (`Modifier.subjects_under`), and what an effect contributes
on no setting at all (`YieldEffect.run_under`).
-/

namespace PolicyForecast

/-- A scene under other settings. -/
def Scene.under (s : Scene) (settings : Settings) : Scene :=
  { s with settings }

variable (s : Scene) (settings : Settings)

lemma Scene.alike_under : (s.under settings).Alike s :=
  ⟨rfl, rfl, fun _ => rfl, fun _ => rfl, fun _ => rfl⟩

/-- `subjects` reads only `evaluateOwnerRequirements` of the settings. -/
lemma Modifier.subjects_under (m : Modifier) (parent : Option Subject)
    (h : settings.evaluateOwnerRequirements = s.settings.evaluateOwnerRequirements) :
    m.subjects (s.under settings) parent = m.subjects s parent :=
  m.subjects_congr (s.alike_under settings) h parent

/-- `run` does not read the settings. -/
lemma YieldEffect.run_under (m : Modifier) (subject : Subject) (effect : YieldEffect) :
    effect.run (s.under settings) m subject = effect.run s m subject :=
  effect.run_congr (s.alike_under settings) m subject

end PolicyForecast
