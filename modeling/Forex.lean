import Forex.Main
import Forex.Registry.Change
import Forex.Resource.Traffic
import Forex.Store.Traffic
import Forex.Proofs.Decimal.Quotient
import Forex.Proofs.Registry.Edit
import Forex.Proofs.Registry.Step
import Forex.Proofs.Rate.Mirrored
import Forex.Proofs.Decimal.Text
import Forex.Proofs.Json.Scalar
import Forex.Proofs.Json.Document
import Forex.Proofs.Json.Record
import Forex.Proofs.Registry.Same
import Forex.Proofs.Snapshot.RoundTrip
import Forex.Proofs.Files.Overwrite
import Forex.Proofs.Command.Administration
import Forex.Proofs.Rate.Detect
import Forex.Proofs.Command.Base
import Forex.Proofs.Decimal.Division
import Forex.Proofs.Registry.Default
import Forex.Proofs.Rate.Written
import Forex.Proofs.Store.Default
import Forex.Proofs.Registry.Neutral
import Forex.Proofs.Resource.Traffic
import Forex.Proofs.Store.PairRate
import Forex.Proofs.Store.SingleFlight
import Forex.Proofs.Registry.Frame
import Forex.Proofs.Registry.Codes
import Forex.Proofs.Registry.Ends
import Forex.Proofs.Registry.Restored
import Forex.Proofs.Rate.Edited
import Forex.Proofs.Price
import Forex.Proofs.Decimal.Arithmetic
import Forex.Proofs.Markup
import Forex.Proofs.Rate.Resolution
import Forex.Proofs.Command.Convert
import Forex.Proofs.Converter
import Forex.Proofs.Rate.Inverse
import Forex.Proofs.Conversion.RoundTrip
import Forex.Proofs.Converter.Display
import Forex.Proofs.Store.Failure
import Forex.Proofs.Registry.NewDefault
import Forex.Proofs.Registry.Undone
import Forex.Proofs.Converter.Quote
import Forex.Proofs.Price.Fixed
import Forex.Proofs.Rate.Order
import Forex.Proofs.Command.Failure
