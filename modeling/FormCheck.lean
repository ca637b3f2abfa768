import FormCheck.Form
import FormCheck.Json.Reader
import FormCheck.Log.Logger
import FormCheck.Pattern.Lemmas
import FormCheck.Proofs.NumberedRules
import FormCheck.Proofs.RulesTexts
import FormCheck.Setup
import FormCheck.Proofs.LenientLimits
import FormCheck.Proofs.FixedLength
import FormCheck.Proofs.IdentityShape
import FormCheck.Proofs.CheckCharacter
import FormCheck.Proofs.DateParts
import FormCheck.Proofs.IdentityVerdict
import FormCheck.Proofs.WritingErrors
import FormCheck.Proofs.RulesGrammar
import FormCheck.Proofs.BuiltRules
import FormCheck.Proofs.StrictProfiles
import FormCheck.Proofs.GregorianCalendar
import FormCheck.Proofs.WrittenDates
import FormCheck.Proofs.DateRules
import FormCheck.Proofs.FieldIndependence
import FormCheck.Proofs.ExportedForms
import FormCheck.Proofs.ExportedRules
import FormCheck.Proofs.LocaleWording
import FormCheck.Proofs.RequiredFields
import FormCheck.Proofs.RequiredFlag
import FormCheck.Proofs.EnvironmentEntries
import FormCheck.Proofs.LogFrontEnds
import FormCheck.Proofs.ShownLimits
import FormCheck.Proofs.TypedRules
import FormCheck.Proofs.WrittenSettings
import FormCheck.Proofs.OversizedNumbers
import FormCheck.Proofs.LogVariables
import FormCheck.Proofs.OverlaidSettings
import FormCheck.Proofs.SmallLetters
import FormCheck.Proofs.FileNames
import FormCheck.Proofs.EmailAddresses
import FormCheck.Proofs.NumberPatterns
import FormCheck.Proofs.WebAddresses
import FormCheck.Proofs.LenientWarnings
import FormCheck.Proofs.MessageTexts
import FormCheck.Proofs.RefusalTexts
import FormCheck.Proofs.LocaleTags
import FormCheck.Proofs.DisplayWidths
import FormCheck.Proofs.ScriptClasses
import FormCheck.Proofs.CheckRecursion
import FormCheck.Proofs.SupportedLocales
import FormCheck.Proofs.SignedNumbers
import FormCheck.Proofs.ExistingDates
