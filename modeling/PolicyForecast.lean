import PolicyForecast.Game.Reading
import PolicyForecast.Proofs.AddedModifier
import PolicyForecast.Proofs.AdjacencyYields
import PolicyForecast.Proofs.Attachment
import PolicyForecast.Proofs.Channels
import PolicyForecast.Proofs.CityByCity
import PolicyForecast.Proofs.CityCentre
import PolicyForecast.Proofs.ConstructibleFilters
import PolicyForecast.Proofs.CoverageGaps
import PolicyForecast.Proofs.Evaluability
import PolicyForecast.Proofs.FailedTables
import PolicyForecast.Proofs.FileLoading
import PolicyForecast.Proofs.FinishedYields
import PolicyForecast.Proofs.FlagSpellings
import PolicyForecast.Proofs.FreshIds
import PolicyForecast.Proofs.HiddenFaults
import PolicyForecast.Proofs.History
import PolicyForecast.Proofs.Independence
import PolicyForecast.Proofs.InertModifiers
import PolicyForecast.Proofs.ListGaps
import PolicyForecast.Proofs.Neighbourhood
import PolicyForecast.Proofs.OtherPlayers
import PolicyForecast.Proofs.OwnSubjects
import PolicyForecast.Proofs.PreviewOutcomes
import PolicyForecast.Proofs.RelatedApplications
import PolicyForecast.Proofs.SetMeaning
import PolicyForecast.Proofs.SharedCache
import PolicyForecast.Proofs.SourceAgreement
import PolicyForecast.Proofs.StandingYields
import PolicyForecast.Proofs.Strictness
import PolicyForecast.Proofs.TableCasts
import PolicyForecast.Proofs.TableLoading
import PolicyForecast.Proofs.UnitTotals
import PolicyForecast.Proofs.UnstatedRequirements
import PolicyForecast.Proofs.UselessRequirements
import PolicyForecast.Proofs.WrittenLists
import PolicyForecast.Session
import PolicyForecast.Settings.Reading
