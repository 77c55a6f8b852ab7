import ValueSchema.Data.OfValue
import ValueSchema.Data.Reading
import ValueSchema.Json.OfValue
import ValueSchema.Json.ToValue
import ValueSchema.Proofs.AbsentEntries
import ValueSchema.Proofs.AcceptedKeys
import ValueSchema.Proofs.BuiltPaths
import ValueSchema.Proofs.Contexts
import ValueSchema.Proofs.ConversionChecks
import ValueSchema.Proofs.ConvertedValues
import ValueSchema.Proofs.DeclaredFields
import ValueSchema.Proofs.DeclaredNames
import ValueSchema.Proofs.DecodedValues
import ValueSchema.Proofs.EmailAddresses
import ValueSchema.Proofs.EqualValues
import ValueSchema.Proofs.FilesAndDates
import ValueSchema.Proofs.HiddenPasswords
import ValueSchema.Proofs.ImageTypes
import ValueSchema.Proofs.JsonViews
import ValueSchema.Proofs.LayerStacks
import ValueSchema.Proofs.Location
import ValueSchema.Proofs.Normalization
import ValueSchema.Proofs.OpenMaps
import ValueSchema.Proofs.RecordedEvents
import ValueSchema.Proofs.Refinements
import ValueSchema.Proofs.RepeatedKeys
import ValueSchema.Proofs.SharedData
import ValueSchema.Proofs.ValueSources
import ValueSchema.Proofs.VerifiedValues
import ValueSchema.Verification
