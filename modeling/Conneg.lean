import Conneg.Text.Ascii
import Conneg.Text.Blank
import Conneg.Text.Utf8
import Conneg.Text.Quoted
import Conneg.MediaType.Spelling
import Conneg.MediaType.Reader
import Conneg.MediaType.Basic
import Conneg.Entries
import Conneg.Json.Basic
import Conneg.Json.Description
import Conneg.Json.Printer
import Conneg.Json.Draft
import Conneg.Json.Reader
import Conneg.Event
import Conneg.Header.Accessor
import Conneg.Logged
import Conneg.Payload
import Conneg.Codec.Basic
import Conneg.Codec.Bytes
import Conneg.Codec.Chameleon
import Conneg.Codec.Counter
import Conneg.Codec.Text
import Conneg.Resolver
import Conneg.ConfigError
import Conneg.Converter.Basic
import Conneg.Converter.Composite
import Conneg.Settings.Basic
import Conneg.Settings.Reader
import Conneg.Service.Basic
import Conneg.Service.Recorder
import Conneg.Service.Session
import Conneg.Proofs.Configuration
import Conneg.Proofs.Conversion
import Conneg.Proofs.Strict
import Conneg.Proofs.Tree
import Conneg.Proofs.FirstLeaf
import Conneg.Proofs.Filling
import Conneg.Proofs.HeaderFrame
import Conneg.Proofs.HeaderModes
import Conneg.Proofs.Utf8
import Conneg.Proofs.ReadBack
import Conneg.Proofs.Acceptance
import Conneg.Proofs.RoundTrip
import Conneg.Proofs.Delivery
import Conneg.Proofs.Resolution
import Conneg.Proofs.Suffix
import Conneg.Proofs.Decision
import Conneg.Proofs.JsonText
import Conneg.Proofs.NormalForm
import Conneg.Proofs.SettingsReadBack
import Conneg.Proofs.LooseEquality
import Conneg.Proofs.Content
import Conneg.Proofs.ByteOrder
import Conneg.Proofs.Labels
import Conneg.Proofs.Ledger
import Conneg.Proofs.Storage
import Conneg.Proofs.SharedConversion
import Conneg.Proofs.Snapshots
import Conneg.Proofs.Order
import Conneg.Proofs.Presence
import Conneg.Proofs.Spellings
import Conneg.Proofs.Noninterference
import Conneg.Proofs.TextDecoding
import Conneg.Proofs.QuotedCharset
import Conneg.Proofs.SettingsGrammar
import Conneg.Proofs.SettingsText
import Conneg.Proofs.Warnings
