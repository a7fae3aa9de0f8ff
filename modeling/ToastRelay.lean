import ToastRelay.Main
import ToastRelay.Session
import ToastRelay.Proofs.FileTree.Names
import ToastRelay.Proofs.Text.Utf8
import ToastRelay.Proofs.FileTree.Follow
import ToastRelay.Proofs.Registration.File
import ToastRelay.Proofs.Json.Strings
import ToastRelay.Proofs.Json.Numbers
import ToastRelay.Proofs.Json.Members
import ToastRelay.Proofs.Registration.RoundTrip
import ToastRelay.Proofs.Registry.Change
import ToastRelay.Proofs.Session.Step
import ToastRelay.Proofs.Session.Memory
import ToastRelay.Proofs.Session.Restart
import ToastRelay.Proofs.Registry.Carriers
import ToastRelay.Proofs.Session.Removal
import ToastRelay.Proofs.Session.Replacement
import ToastRelay.Proofs.Session.Answers
import ToastRelay.Proofs.Session.LastChange
import ToastRelay.Proofs.Session.Tokens
import ToastRelay.Proofs.Web.Host
import ToastRelay.Proofs.Web.Target
import ToastRelay.Proofs.Web.Plain
import ToastRelay.Proofs.Sender.Target
import ToastRelay.Proofs.Session.Delivery
import ToastRelay.Proofs.Sender.Report
import ToastRelay.Proofs.Markup.Reader
import ToastRelay.Proofs.Markup.RoundTrip
import ToastRelay.Proofs.Toast.Reading
import ToastRelay.Proofs.Toast.Characters
import ToastRelay.Proofs.Endpoint.Notification
import ToastRelay.Proofs.Session.Frame
import ToastRelay.Proofs.Settings.Environment
import ToastRelay.Proofs.Session.Credentials
import ToastRelay.Proofs.Disguise.Provider
import ToastRelay.Proofs.Disguise.Sending
import ToastRelay.Proofs.Disguise.Session
import ToastRelay.Proofs.Json.Naturals
import ToastRelay.Proofs.Registration.Schema
import ToastRelay.Proofs.Text.Order
import ToastRelay.Proofs.Json.Ascending
import ToastRelay.Proofs.Registration.Complaints
import ToastRelay.Proofs.Registration.Interruption
import ToastRelay.Proofs.Dictionary
import ToastRelay.Proofs.Registration.Reread
import ToastRelay.Proofs.Session.Conformity
import ToastRelay.Proofs.Json.Grammar
import ToastRelay.Proofs.Json.Splits
import ToastRelay.Proofs.Json.SplitStrings
import ToastRelay.Proofs.Json.SplitValues
import ToastRelay.Proofs.Json.SplitRecords
import ToastRelay.Proofs.Json.Closing
import ToastRelay.Proofs.Json.Unambiguity
import ToastRelay.Proofs.Registration.Written
import ToastRelay.Proofs.Registration.Unambiguity
import ToastRelay.Proofs.Registration.Damage
import ToastRelay.Proofs.Sender.Turns
import ToastRelay.Proofs.Sender.Batches
import ToastRelay.Proofs.Token.Failures
import ToastRelay.Proofs.Sender.Visits
import ToastRelay.Proofs.Session.Tokenless
import ToastRelay.Proofs.Session.Broadcast
import ToastRelay.Proofs.Json.Compact
import ToastRelay.Proofs.Endpoint.Description
import ToastRelay.Proofs.Session.Requested
import ToastRelay.Proofs.Session.FirstCarrier
import ToastRelay.Proofs.Registration.Resaving
import ToastRelay.Proofs.Registry.Independence
import ToastRelay.Proofs.Web.Form
import ToastRelay.Proofs.Session.TokenRequests
import ToastRelay.Proofs.Program.Startup
import ToastRelay.Proofs.Token.Lifetime
import ToastRelay.Proofs.Sender.Records
