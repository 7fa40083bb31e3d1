import Evdevxx.Logic.Outcome
import Evdevxx.Logic.Precondition
import Evdevxx.Logic.Memory
import Evdevxx.Logic.Run
import Evdevxx.Logic.Ledger
import Evdevxx.Model.Event
import Evdevxx.Model.Platform
import Evdevxx.Model.World
import Evdevxx.Model.Device
import Evdevxx.Model.Uinput
import Evdevxx.Model.Grabber
import Evdevxx.Model.System
import Evdevxx.Device.Evaluation
import Evdevxx.Uinput.Evaluation
import Evdevxx.Grabber.Evaluation
import Evdevxx.Device.Steps
import Evdevxx.Model.Scripted
import Evdevxx.Ownership.Borrowed
import Evdevxx.Ownership.Custody
import Evdevxx.Ownership.Handles
import Evdevxx.Uinput.Steps
import Evdevxx.Grabber.Steps
import Evdevxx.Ownership.Uinputs
import Evdevxx.Device.Opening
import Evdevxx.Ownership.Descriptors
import Evdevxx.Device.Reading
import Evdevxx.Grabber.Exceptions
import Evdevxx.Grabber.Coverage
import Evdevxx.Device.Coherence
import Evdevxx.Device.Logging
import Evdevxx.Logic.Hex
import Evdevxx.Logic.Delimited
import Evdevxx.Logic.Loop
import Evdevxx.Logic.Stream
import Evdevxx.Logic.Layout
import Evdevxx.Model.Utils
import Evdevxx.Model.Names
import Evdevxx.Model.Property
import Evdevxx.Model.Sample
import Evdevxx.Names.Extraction
import Evdevxx.Device.Capabilities
import Evdevxx.Names.Parsing
import Evdevxx.Names.RoundTrip
import Evdevxx.Names.Utilities
import Evdevxx.Model.Numbers
import Evdevxx.Names.Ranges
import Evdevxx.Ownership.Recreation
import Evdevxx.Ownership.Callbacks
import Evdevxx.Grabber.Provenance
import Evdevxx.Model.Query
import Evdevxx.Tools.Wrapping
import Evdevxx.Model.Wrapper
import Evdevxx.Ownership.Wrappers
import Evdevxx.Model.Enabling
import Evdevxx.Device.Enabling
import Evdevxx.Model.Formats
import Evdevxx.Logic.Monitor
import Evdevxx.Logic.Scope
import Evdevxx.Model.Identity
import Evdevxx.Model.Reader
import Evdevxx.Tools.Reader
import Evdevxx.Device.Lifetime
import Evdevxx.Model.ReaderMain
import Evdevxx.Tools.ReaderMain
import Evdevxx.Tools.Transcript
import Evdevxx.Names.Formats
import Evdevxx.Tools.Decoding
import Evdevxx.Logic.Report
import Evdevxx.Logic.Delivery
import Evdevxx.Logic.Audit
import Evdevxx.Logic.Usage
import Evdevxx.Logic.Tables
import Evdevxx.Model.Details
import Evdevxx.Model.QueryMain
import Evdevxx.Device.Details
import Evdevxx.Tools.QueryMain
import Evdevxx.Ownership.Reporting
import Evdevxx.Ownership.Isolation
import Evdevxx.Ownership.Usage
import Evdevxx.Ownership.Values
import Evdevxx.Model.Injection
import Evdevxx.Model.Beside
import Evdevxx.Uinput.Injection
import Evdevxx.Uinput.Lifetime
import Evdevxx.Model.CircleMouse
import Evdevxx.Tools.CircleMouse
import Evdevxx.Model.Facets
import Evdevxx.Ownership.Facets
import Evdevxx.Model.Axes
import Evdevxx.Ownership.Axes
import Evdevxx.Model.Describing
import Evdevxx.Ownership.Describing
