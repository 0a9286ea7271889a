import CwInjective.Decimal
import CwInjective.Parse
import CwInjective.Exchange.Types
import CwInjective.Exchange.Roundtrip
import CwInjective.Exchange.Hash
import CwInjective.Exchange.Ids
import CwInjective.Dummy.MockPythAttestation
import CwInjective.Maker.State
import CwInjective.Maker.Utils
import CwInjective.Maker.Pricing
import CwInjective.Maker.Split
import CwInjective.Maker.Derivative
import CwInjective.Maker.GetAction
import CwInjective.Maker.Contract
import CwInjective.Maker.Properties.TailPrices
import CwInjective.Maker.Properties.HeadChange
import CwInjective.Maker.Properties.Panics
import CwInjective.Maker.Properties.Gate
import CwInjective.Maker.Properties.Quotes
import CwInjective.Maker.Properties.LpToken
import CwInjective.Maker.Properties.Requote
import CwInjective.Maker.Properties.Lifecycle
