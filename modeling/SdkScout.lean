import SdkScout.Calendar
import SdkScout.Failure
import SdkScout.Host
import SdkScout.Installation
import SdkScout.Json
import SdkScout.Label
import SdkScout.Markup.Declaration
import SdkScout.Markup.Event
import SdkScout.Markup.Syntax
import SdkScout.Number.Arithmetic
import SdkScout.Number.Binary64
import SdkScout.Number.Literal
import SdkScout.Number.Shortest
import SdkScout.Path
import SdkScout.Platform
import SdkScout.PlatformDirectory
import SdkScout.Plist
import SdkScout.Plist.Binary
import SdkScout.Plist.Encoding
import SdkScout.Plist.Fault
import SdkScout.Plist.Xml
import SdkScout.Profile
import SdkScout.Sdk
import SdkScout.Sdk.Settings
import SdkScout.Sdk.SettingsFile
import SdkScout.SdkPath
import SdkScout.Search
import SdkScout.SystemError
import SdkScout.Text.Base64
import SdkScout.Text.Blank
import SdkScout.Text.Digit
import SdkScout.Text.Printable
import SdkScout.Text.Quoted
import SdkScout.Text.Utf16
import SdkScout.Text.Utf8
import SdkScout.Value
import SdkScout.Version
import SdkScout.World
import SdkScout.Yaml.Cursor
import SdkScout.Yaml.Document
import SdkScout.Yaml.Fault
import SdkScout.Yaml.Node
import SdkScout.Yaml.Scalar
import SdkScout.Yaml.Schema
import SdkScout.Yaml.Timestamp
import SdkScout.Yaml.Token
import SdkScout.Yaml.Token.Block
import SdkScout.Yaml.Token.Lexer
import SdkScout.Yaml.Token.Plain
import SdkScout.Yaml.Token.Property
import SdkScout.Yaml.Token.Quoted
import SdkScout.Proofs.FirstOccurrence
import SdkScout.Proofs.PathText
import SdkScout.Proofs.Platform
import SdkScout.Proofs.SdkPath
import SdkScout.Proofs.Listing
import SdkScout.Proofs.Search.Schedule
import SdkScout.Proofs.Search.Distinct
import SdkScout.Proofs.Search.Enumeration
import SdkScout.Proofs.Search.PlatformFilter
import SdkScout.Proofs.Text.Blank
import SdkScout.Proofs.Text.Decimal
import SdkScout.Proofs.Text.Utf8
import SdkScout.Proofs.Number.Literal
import SdkScout.Proofs.Yaml.Line
import SdkScout.Proofs.Yaml.Entry
import SdkScout.Proofs.Yaml.Digits
import SdkScout.Proofs.Version.Reading
import SdkScout.Proofs.Version.Grammar
import SdkScout.Proofs.Sdk.Settings
import SdkScout.Proofs.Sdk.Unannounced
import SdkScout.Proofs.Absence
import SdkScout.Proofs.ActiveDirectory
import SdkScout.Proofs.Search.Locators
import SdkScout.Proofs.Applications
import SdkScout.Proofs.Search.Roots
import SdkScout.Proofs.Version.KeyOrder
import SdkScout.Proofs.Version.Comparison
import SdkScout.Proofs.Version.Canonical
import SdkScout.Proofs.Version.Sorting
import SdkScout.Proofs.Value.Keys
import SdkScout.Proofs.Value.Written
import SdkScout.Proofs.Label
import SdkScout.Proofs.Search.Bounds
import SdkScout.Proofs.Search.BoundCheck
import SdkScout.Proofs.Sdk.Refinement
import SdkScout.Proofs.Search.Refinement
import SdkScout.Proofs.Reordering
import SdkScout.Proofs.Search.Reordering
import SdkScout.Proofs.Search.Agreement
import SdkScout.Proofs.Search.Widening
import SdkScout.Proofs.Descent
import SdkScout.Proofs.Search.DefaultApplication
import SdkScout.Proofs.Search.Configuration
import SdkScout.Proofs.Profile.Chain
import SdkScout.Proofs.Profile.Refusal
import SdkScout.Proofs.Profile.Methods
import SdkScout.Proofs.Profile.Digits
import SdkScout.Proofs.PlatformDirectory
import SdkScout.Proofs.Search.Expansion
import SdkScout.Proofs.Sdk.Enumeration
import SdkScout.Proofs.Sdk.Dependence
import SdkScout.Proofs.Condition
import SdkScout.Proofs.Sdk.Document
