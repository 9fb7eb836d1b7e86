import EbsiDid.Model.Sample
import EbsiDid.Model.Scope
import EbsiDid.Proofs.Key.Canonical
import EbsiDid.Proofs.Ledger.Course
import EbsiDid.Proofs.Model.Identifier
import EbsiDid.Proofs.Registrar.Custody
import EbsiDid.Proofs.Registrar.Discretion
import EbsiDid.Proofs.Registrar.KeyAddition
import EbsiDid.Proofs.Registrar.Lifetime
import EbsiDid.Proofs.Registrar.Naming
import EbsiDid.Proofs.Registrar.Receipts
import EbsiDid.Proofs.Registrar.Registration
import EbsiDid.Proofs.Registry.Spelling
import EbsiDid.Proofs.Registry.Storage
import EbsiDid.Proofs.Registry.Verification
import EbsiDid.Proofs.Rpc.Sessions
import EbsiDid.Proofs.Wallet.History
import EbsiDid.Registrar.Perform
import EbsiDid.Registrar.Setup
import EbsiDid.Registry.Spec
import EbsiDid.Registry.Step
import EbsiDid.Rpc.Rehearsal
import EbsiDid.Settings.Context
import EbsiDid.Wallet.KeyManager
import EbsiDid.Proofs.Curve.Group
import EbsiDid.Proofs.Curve.Order
import EbsiDid.Proofs.Number.Hexadecimal
import EbsiDid.Proofs.Wallet.Material
import EbsiDid.Proofs.Registrar.Generation
import EbsiDid.Proofs.Registrar.Residue
import EbsiDid.Proofs.Registrar.Sender
import EbsiDid.Proofs.Ledger.Acceptance
import EbsiDid.Proofs.Registrar.Objections
import EbsiDid.Proofs.Registrar.Addressing
import EbsiDid.Proofs.Ethereum.Request
import EbsiDid.Proofs.Wallet.Signing
import EbsiDid.Proofs.Wallet.Refusal
import EbsiDid.Proofs.Model.Confinement
import EbsiDid.Proofs.Rpc.Outcomes
import EbsiDid.Proofs.Wallet.Discretion
import EbsiDid.Proofs.Model.KeyMaterial
import EbsiDid.Proofs.Key.Entitlement
import EbsiDid.Proofs.Registrar.Destination
import EbsiDid.Proofs.Registrar.Wiring
import EbsiDid.Proofs.Settings.Names
import EbsiDid.Proofs.Ethereum.Quantity
import EbsiDid.Proofs.Wallet.Recovery
import EbsiDid.Proofs.Registrar.Consumption
import EbsiDid.Proofs.Registrar.Dispatch
import EbsiDid.Proofs.Error.RollUp
import EbsiDid.Proofs.Settings.Numbers
