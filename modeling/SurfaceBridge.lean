import SurfaceBridge.Bench.Scratch
import SurfaceBridge.Bench.Script
import SurfaceBridge.Binding.Factory
import SurfaceBridge.Binding.Image
import SurfaceBridge.Binding.Image.Dynamic
import SurfaceBridge.Binding.Image.Memory
import SurfaceBridge.Binding.Library
import SurfaceBridge.Binding.Linking
import SurfaceBridge.Binding.Refusal
import SurfaceBridge.Binding.State
import SurfaceBridge.Binding.Symbol
import SurfaceBridge.Code.Result
import SurfaceBridge.Code.Structure
import SurfaceBridge.CommandLine.Command
import SurfaceBridge.CommandLine.Help
import SurfaceBridge.CommandLine.Request
import SurfaceBridge.CommandLine.Run
import SurfaceBridge.CommandLine.Settings
import SurfaceBridge.Config
import SurfaceBridge.Config.File
import SurfaceBridge.Decimal.Binary64
import SurfaceBridge.Driver.Basic
import SurfaceBridge.Driver.Call
import SurfaceBridge.EntryPoint
import SurfaceBridge.Enumeration
import SurfaceBridge.Environment
import SurfaceBridge.Error
import SurfaceBridge.Event
import SurfaceBridge.Extension
import SurfaceBridge.ExtensionList
import SurfaceBridge.Handle.Arena
import SurfaceBridge.Handle.Packed
import SurfaceBridge.Instance
import SurfaceBridge.Label
import SurfaceBridge.Main
import SurfaceBridge.Notice
import SurfaceBridge.Platform
import SurfaceBridge.Proofs.Since
import SurfaceBridge.Proofs.Text.Encoding
import SurfaceBridge.Proofs.Toml.Keys
import SurfaceBridge.Proofs.Config.Reading
import SurfaceBridge.Proofs.Handle.Packing
import SurfaceBridge.Proofs.Handle.Lookup
import SurfaceBridge.Proofs.Handle.Storage
import SurfaceBridge.Proofs.Handle.Drain
import SurfaceBridge.Proofs.Handle.Map
import SurfaceBridge.Proofs.Handle.Naturality
import SurfaceBridge.Proofs.Handle.Issue
import SurfaceBridge.Proofs.Handle.Ledger
import SurfaceBridge.Proofs.Handle.Refinement
import SurfaceBridge.Proofs.Handle.Custody
import SurfaceBridge.Proofs.Handle.Pass
import SurfaceBridge.Proofs.Handle.Evolution
import SurfaceBridge.Proofs.Handle.Economy
import SurfaceBridge.Proofs.Handle.Limit
import SurfaceBridge.Proofs.Extension.Record
import SurfaceBridge.Proofs.Binding.Once
import SurfaceBridge.Proofs.Binding.Resolution
import SurfaceBridge.Proofs.Binding.Opening
import SurfaceBridge.Proofs.Driver.Transition
import SurfaceBridge.Proofs.Driver.History
import SurfaceBridge.Proofs.Driver.SurfaceHandles
import SurfaceBridge.Proofs.Driver.Accounting
import SurfaceBridge.Proofs.Driver.Teardown
import SurfaceBridge.Proofs.Driver.Atomicity
import SurfaceBridge.Proofs.Driver.Instances
import SurfaceBridge.Proofs.Driver.Queries
import SurfaceBridge.Proofs.Driver.Diagnosis
import SurfaceBridge.Proofs.Driver.Allocators
import SurfaceBridge.Proofs.Driver.Names
import SurfaceBridge.Proofs.Surface.Routine
import SurfaceBridge.Proofs.Surface.Race
import SurfaceBridge.Proofs.Surface.Release
import SurfaceBridge.Proofs.Table.Simulation
import SurfaceBridge.Proofs.Table.Enumeration
import SurfaceBridge.Proofs.Service.History
import SurfaceBridge.Proofs.Service.Agreement
import SurfaceBridge.Proofs.Service.Acquisition
import SurfaceBridge.Proofs.Report.Prediction
import SurfaceBridge.Proofs.Report.Reader
import SurfaceBridge.Proofs.Report.Views
import SurfaceBridge.Proofs.Translation.Raw
import SurfaceBridge.Proofs.Translation.Descriptor
import SurfaceBridge.Proofs.Translation.Idempotence
import SurfaceBridge.Proofs.CommandLine.DryRun
import SurfaceBridge.Report.Check
import SurfaceBridge.Report.Json
import SurfaceBridge.Report.Listing
import SurfaceBridge.Service
import SurfaceBridge.Surface
import SurfaceBridge.Table
import SurfaceBridge.Text.Hex
import SurfaceBridge.Text.Hidden
import SurfaceBridge.Text.Quoted
import SurfaceBridge.Text.Utf8
import SurfaceBridge.Toml.Document
import SurfaceBridge.Toml.Excerpt
import SurfaceBridge.Toml.Quote
import SurfaceBridge.Toml.Scalar
import SurfaceBridge.Toml.Table
import SurfaceBridge.Toml.Value
import SurfaceBridge.Translation
import SurfaceBridge.Verification
