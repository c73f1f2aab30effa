import Lookout.App.Draw
import Lookout.Client.Exchange
import Lookout.CommandLine.Read
import Lookout.Config.Load
import Lookout.LogFile
import Lookout.Main
import Lookout.Proofs.App.Commands
import Lookout.Proofs.App.Contents
import Lookout.Proofs.App.Crashes
import Lookout.Proofs.App.Modal
import Lookout.Proofs.App.Opening
import Lookout.Proofs.App.Teardown
import Lookout.Proofs.Cache.Envelope
import Lookout.Proofs.Cache.Offline
import Lookout.Proofs.Cache.Places
import Lookout.Proofs.Decode.Absent
import Lookout.Proofs.Fetch.Arrivals
import Lookout.Proofs.Fetch.Fallback
import Lookout.Proofs.Input.Highlight
import Lookout.Proofs.Input.Literal
import Lookout.Proofs.Input.Zipper
import Lookout.Proofs.Notification.Accounts
import Lookout.Proofs.Page.Columns
import Lookout.Proofs.Page.Scrolling
import Lookout.Proofs.Page.Unread
import Lookout.Proofs.Resource.Endpoints
import Lookout.Proofs.Resource.Keys
import Lookout.Proofs.Resource.Settings
import Lookout.Proofs.Resource.Threads
import Lookout.Proofs.Screen.Header
import Lookout.Proofs.Screen.Heights
import Lookout.Proofs.Screen.Overlays
import Lookout.Proofs.Screen.Toasts
import Lookout.Proofs.World.Apart
import Lookout.Proofs.World.Ledger
import Lookout.Proofs.World.Schedule
import Lookout.Proofs.World.Stamps
