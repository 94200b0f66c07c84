import MissionShell.Config
import MissionShell.Filesystem.Timeline
import MissionShell.Proofs.Config
import MissionShell.Proofs.Filesystem.Identity
import MissionShell.Proofs.Filesystem.NewDirectory
import MissionShell.Proofs.Filesystem.PointUpdate
import MissionShell.Proofs.Quest.ExactMatch
import MissionShell.Proofs.Quest.Matching
import MissionShell.Proofs.Quest.Percentage
import MissionShell.Proofs.Quest.Performance
import MissionShell.Proofs.Quest.Recovery
import MissionShell.Proofs.Quest.Restart
import MissionShell.Proofs.Quest.Transparency
import MissionShell.Proofs.Quest.Turn
import MissionShell.Proofs.Server.Accounting
import MissionShell.Proofs.Server.Sessions
import MissionShell.Proofs.Session.Log
import MissionShell.Proofs.Session.Recall
import MissionShell.Proofs.Shell.Addressing
import MissionShell.Proofs.Shell.Dispatch
import MissionShell.Proofs.Shell.Echo
import MissionShell.Proofs.Shell.Listing
import MissionShell.Proofs.Shell.NameClash
import MissionShell.Proofs.Shell.Navigation
import MissionShell.Proofs.Shell.Options
import MissionShell.Server.Service
