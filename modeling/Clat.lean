import Clat.Log.Logger
import Clat.Main
import Clat.Outcome
import Clat.Proofs.Checksum.Adjust
import Clat.Proofs.Checksum.Sum
import Clat.Proofs.Session.Run
import Clat.Proofs.Text.Split
import Clat.Proofs.Text.Lines
import Clat.Proofs.Text.Utf8
import Clat.Proofs.Number.Digits
import Clat.Proofs.Address.Parts
import Clat.Proofs.Address.Text
import Clat.Proofs.Synthesis.Neutrality
import Clat.Proofs.Synthesis.Translation
import Clat.Proofs.Format.Entries
import Clat.Proofs.Format.Conf
import Clat.Proofs.Format.Json
import Clat.Proofs.Format.Yaml.Places
import Clat.Proofs.Format.Yaml.Scan
import Clat.Proofs.Format.Yaml.Compose
import Clat.Proofs.Format.Yaml.Make
import Clat.Proofs.Files
import Clat.Proofs.Format.Stumbles
import Clat.Proofs.Load
import Clat.Proofs.Declared
import Clat.Proofs.Discovery
import Clat.Proofs.Discovery.Calls
import Clat.Proofs.Reader
import Clat.Proofs.Snapshot
import Clat.Proofs.Plat
import Clat.Proofs.Plat.Source
import Clat.Proofs.Assembly.Uplink
import Clat.Proofs.Synthesis.Local
import Clat.Proofs.Assembly.Invariant
import Clat.Proofs.Assembly.Order
import Clat.Proofs.Assembly.Saved
import Clat.Proofs.Format.Conf.Layout
import Clat.Proofs.Format.Agreement
import Clat.Proofs.Format.Sources
import Clat.Proofs.Assembly.Report
import Clat.Proofs.Synthesis.Determinacy
import Clat.Proofs.Assembly.Indifference
import Clat.Proofs.Format.Yaml.Line
import Clat.Proofs.Format.Yaml.Address
import Clat.Proofs.Format.Addresses
import Clat.Proofs.Checksum.Update
import Clat.Proofs.Number.Padding
import Clat.Proofs.Reader.Integer
import Clat.Proofs.Address.Plain
import Clat.Proofs.Address.Replace
import Clat.Proofs.Nat64
import Clat.Proofs.Declared.Refusal
import Clat.Proofs.Checksum.Concatenation
import Clat.Proofs.Checksum.Verification
import Clat.Proofs.Uplink
import Clat.Proofs.Log.Delivery
